import Spreadsheet.Proofs.Formula.Lines
import Spreadsheet.Proofs.Formula.Succession

/-!
# Formulas that stay the same objects

When a row or column comes or goes, a formula is written anew unless the lines that its references
name all stay where they are (`Expr.afterEdit?_eq_none_iff_keeps`). In memory a formula is an object
with other objects below it, and whether it is written anew is seen from its place alone, at each
level from the places of the objects below. `Object.place_afterEdit` says that this finds the formulas
that are written anew, all others being left as the objects that they are.
-/

namespace Spreadsheet

/-! ## Lines that stay -/

namespace Expr

/-- The corners of a reference are in order. -/
def Normalised : Expr → Prop
  | .range top left bottom right _ => top ≤ bottom ∧ left ≤ right
  | .columns first last _ => first ≤ last
  | _ => True

theorem Placed.normalised {e : Expr} {nRows nCols : Int} {lowercase : Bool}
    (h : e.Placed nRows nCols lowercase) : e.Normalised := by
  cases e with
  | range top left bottom right small => exact ⟨h.1.2.1, h.2.1.2.1⟩
  | columns first last small => exact h.1.2.1
  | _ => trivial

/-- The rows or the columns that a reference names. Whole columns name no rows. -/
def namedLines : Axis → Expr → List Int
  | axis, .cell target _ => [target.line axis]
  | .row, .range top _ bottom _ _ => [top, bottom]
  | .column, .range _ left _ right _ => [left, right]
  | .column, .columns first last _ => [first, last]
  | _, _ => []

end Expr

namespace LineEdit

variable {edit : LineEdit} {first last : Int} {ref : Expr}

/-- The lines that the tree itself names are neither moved nor deleted. -/
def Keeps (edit : LineEdit) (e : Expr) : Prop :=
  ∀ line ∈ e.namedLines edit.axis, edit.line? line = some line

instance (edit : LineEdit) : DecidablePred edit.Keeps := fun e =>
  inferInstanceAs (Decidable (∀ line ∈ e.namedLines edit.axis, edit.line? line = some line))

theorem span?_eq_self_iff (hle : first ≤ last) : edit.span? first last = some (first, last) ↔
    edit.line? first = some first ∧ edit.line? last = some last := by
  cases edit with
  | insert axis index =>
    simp only [span?, line?, lineAfterInsert, Option.some.injEq, Prod.mk.injEq]
  | delete axis index =>
    rw [span?_delete_eq_some, line?_delete_eq_some, line?_delete_eq_some]
    split <;> split <;> split <;> omega

theorem adjustSpan?_eq_none_iff (hle : first ≤ last) (rebuild : Int → Int → Expr) :
    edit.adjustSpan? first last rebuild = none ↔
      edit.line? first = some first ∧ edit.line? last = some last := by
  rw [← span?_eq_self_iff hle, adjustSpan?]
  cases edit.span? first last with
  | none => simp
  | some span => simp [Prod.ext_iff]

/-- A reference is written anew unless the lines that it names stay where they are. -/
theorem reference?_eq_none_iff (href : ref.isReference) (hnormal : ref.Normalised) :
    edit.reference? ref = none ↔ edit.Keeps ref := by
  cases ref with
  | cell target small =>
    cases haxis : edit.axis with
    | row =>
      simp only [reference?, Keeps, haxis, Expr.namedLines, List.forall_mem_singleton, Coord.line]
      cases edit.line? target.row <;> simp
    | column =>
      simp only [reference?, Keeps, haxis, Expr.namedLines, List.forall_mem_singleton, Coord.line]
      cases edit.line? target.col <;> simp
  | range top left bottom right small =>
    cases haxis : edit.axis with
    | row => simp [reference?, Keeps, haxis, Expr.namedLines, adjustSpan?_eq_none_iff hnormal.1]
    | column => simp [reference?, Keeps, haxis, Expr.namedLines, adjustSpan?_eq_none_iff hnormal.2]
  | columns first last small =>
    cases haxis : edit.axis with
    | row => simp [reference?, Keeps, haxis, Expr.namedLines]
    | column => simp [reference?, Keeps, haxis, Expr.namedLines, adjustSpan?_eq_none_iff hnormal]
  | _ => cases href

theorem keeps_of_not_isReference {e : Expr} (h : e.isReference = false) : edit.Keeps e := by
  cases e with
  | cell | range | columns => cases h
  | _ => cases haxis : edit.axis <;> simp [Keeps, Expr.namedLines]

end LineEdit

namespace Expr

variable {replace : Expr → Option Expr} {e : Expr} {edit : LineEdit}

theorem mapReferences?_of_isReference (href : e.isReference) :
    e.mapReferences? replace = replace e := by
  cases e <;> first | rfl | cases href

theorem mapAllReferences?_eq_none_iff {args : List Expr} : mapAllReferences? replace args = none ↔
    ∀ arg ∈ args, arg.mapReferences? replace = none := by
  refine ⟨fun h => ?_, mapAllReferences?_eq_none⟩
  induction args with
  | nil => simp
  | cons arg args ih =>
    rw [mapAllReferences?] at h
    split at h
    · next hfirst hrest => exact List.forall_mem_cons.2 ⟨hfirst, ih hrest⟩
    · cases h

/-- A formula is written anew unless each of its references stays. -/
theorem mapReferences?_eq_none_iff_forall : e.mapReferences? replace = none ↔
    e.Throughout fun node => node.isReference → replace node = none := by
  induction e using Expr.induction with
  | number | string | deletedReference => simp [mapReferences?, Throughout, nodes, isReference]
  | reference ref href =>
    rw [mapReferences?_of_isReference href, throughout_of_isReference href]
    exact ⟨fun h _ => h, fun h => h href⟩
  | unary op operand ih =>
    rw [mapReferences?, Option.map_eq_none_iff, ih, throughout_unary]
    simp [isReference]
  | binary op left right ihLeft ihRight =>
    rw [throughout_binary, ← ihLeft, ← ihRight, mapReferences?]
    cases left.mapReferences? replace <;> cases right.mapReferences? replace <;>
      simp [isReference]
  | call name args ih =>
    rw [mapReferences?, Option.map_eq_none_iff, mapAllReferences?_eq_none_iff, throughout_call]
    refine Iff.trans ?_ (and_iff_right (by simp [isReference])).symm
    exact forall₂_congr ih

/-- A tree without parts is written anew only if it is a reference. -/
theorem mapReferences?_of_nodes_eq (hnodes : e.nodes = [e]) (href : e.isReference = false) :
    e.mapReferences? replace = none :=
  mapReferences?_eq_none_iff_forall.2 ((throughout_of_nodes hnodes).2 (by simp [href]))

/-- A formula is written anew unless the lines that its references name all stay where they
are. -/
theorem afterEdit?_eq_none_iff_keeps (he : e.Throughout Normalised) :
    e.afterEdit? edit = none ↔ e.Throughout edit.Keeps := by
  rw [afterEdit?, mapReferences?_eq_none_iff_forall]
  refine forall₂_congr fun node hnode => ?_
  cases href : node.isReference with
  | true => simp [LineEdit.reference?_eq_none_iff href (he node hnode), href]
  | false => simp [LineEdit.keeps_of_not_isReference href, href]

end Expr

/-! ## Objects -/

/-- A formula in memory: its nodes are objects, and an object is told from others by its place. -/
inductive Object where
  /-- An object with none below it. -/
  | leaf (place : Nat) (e : Expr)
  | unary (place : Nat) (op : UnaryOp) (operand : Object)
  | binary (place : Nat) (op : BinaryOp) (left right : Object)
  | call (place : Nat) (name : String) (args : List Object)

namespace Object

/-- Where the object is. -/
def place : Object → Nat
  | .leaf place _ | .unary place _ _ | .binary place _ _ _ | .call place _ _ => place

mutual

/-- The formula that the object is. -/
def formula : Object → Expr
  | .leaf _ e => e
  | .unary _ op operand => .unary op operand.formula
  | .binary _ op left right => .binary op left.formula right.formula
  | .call _ name args => .call name (formulas args)

/-- The formulas that the objects are. -/
def formulas : List Object → List Expr
  | [] => []
  | arg :: args => arg.formula :: formulas args

end

/-- Makes an object at the next free place. -/
def make (build : Nat → Object) : StateM Nat Object := fun next => (build next, next + 1)

mutual

/-- The object with its references transformed. It is the object itself if the transformed objects
below it are at the places of those that were there. -/
def mapReferences (transform : Object → StateM Nat Object) : Object → StateM Nat Object
  | .leaf place e =>
    if e.isReference then transform (.leaf place e) else return .leaf place e
  | .unary place op operand => do
    let new ← operand.mapReferences transform
    if new.place = operand.place then return .unary place op operand
    make (.unary · op new)
  | .binary place op left right => do
    let newLeft ← left.mapReferences transform
    let newRight ← right.mapReferences transform
    if newLeft.place = left.place ∧ newRight.place = right.place then
      return .binary place op left right
    make (.binary · op newLeft newRight)
  | .call place name args => do
    let new ← mapAllReferences transform args
    if new.map Object.place = args.map Object.place then return .call place name args
    make (.call · name new)

/-- The objects with their references transformed. -/
def mapAllReferences (transform : Object → StateM Nat Object) :
    List Object → StateM Nat (List Object)
  | [] => return []
  | arg :: args => do
    let new ← arg.mapReferences transform
    let others ← mapAllReferences transform args
    return new :: others

end

/-- What becomes of a reference when a row or column comes or goes: a new one, unless it stays. -/
def adjust (edit : LineEdit) (ref : Object) : StateM Nat Object :=
  match edit.reference? ref.formula with
  | none => return ref
  | some new => make (.leaf · new)

/-- The object after a row or column comes or goes. -/
def afterEdit (edit : LineEdit) (object : Object) : StateM Nat Object :=
  object.mapReferences (adjust edit)

/-- The object has been made, and so have those below it, all at places before the next free one.
A tree without parts is one object. -/
inductive Made (next : Nat) : Object → Prop
  | leaf {place : Nat} {e : Expr} (hplace : place < next) (hnodes : e.nodes = [e]) :
      Made next (.leaf place e)
  | unary {place : Nat} {op : UnaryOp} {operand : Object} (hplace : place < next)
      (hoperand : Made next operand) : Made next (.unary place op operand)
  | binary {place : Nat} {op : BinaryOp} {left right : Object} (hplace : place < next)
      (hleft : Made next left) (hright : Made next right) : Made next (.binary place op left right)
  | call {place : Nat} {name : String} {args : List Object} (hplace : place < next)
      (hargs : ∀ arg ∈ args, Made next arg) : Made next (.call place name args)

variable {object : Object} {next first : Nat} {replaced : Option Expr} {edit : LineEdit}
  {result : Object × Nat}

theorem Made.place_lt (h : object.Made next) : object.place < next := by
  cases h <;> assumption

theorem Made.mono {after : Nat} (h : object.Made next) (hle : next ≤ after) :
    object.Made after := by
  induction h with
  | leaf hplace hnodes => exact .leaf (hplace.trans_le hle) hnodes
  | unary hplace _ ih => exact .unary (hplace.trans_le hle) ih
  | binary hplace _ _ ihLeft ihRight => exact .binary (hplace.trans_le hle) ihLeft ihRight
  | call hplace _ ih => exact .call (hplace.trans_le hle) ih

theorem exists_made_all {es : List Expr}
    (h : ∀ e ∈ es, ∃ object next, Made next object ∧ object.formula = e) :
    ∃ objects next, (∀ object ∈ objects, Made next object) ∧ formulas objects = es := by
  induction es with
  | nil => exact ⟨[], 0, by simp, rfl⟩
  | cons e es ih =>
    obtain ⟨hfirst, hrest⟩ := List.forall_mem_cons.1 h
    obtain ⟨object, next, hmade, rfl⟩ := hfirst
    obtain ⟨objects, after, hmadeAll, rfl⟩ := ih hrest
    refine ⟨object :: objects, max next after, List.forall_mem_cons.2 ⟨?_, ?_⟩, rfl⟩
    · exact hmade.mono (le_max_left next after)
    · exact fun object hmem => (hmadeAll object hmem).mono (le_max_right next after)

/-- Each formula can be had in memory. -/
theorem exists_made (e : Expr) : ∃ object next, Made next object ∧ object.formula = e := by
  induction e using Expr.induction with
  | number | string | deletedReference => exact ⟨.leaf 0 _, 1, .leaf Nat.one_pos rfl, rfl⟩
  | reference ref href =>
    exact ⟨.leaf 0 ref, 1, .leaf Nat.one_pos (Expr.nodes_of_isReference href), rfl⟩
  | unary op operand ih =>
    obtain ⟨object, next, hmade, rfl⟩ := ih
    exact ⟨.unary next op object, next + 1,
      .unary next.lt_succ_self (hmade.mono next.le_succ), rfl⟩
  | binary op left right ihLeft ihRight =>
    obtain ⟨left, next, hleft, rfl⟩ := ihLeft
    obtain ⟨right, after, hright, rfl⟩ := ihRight
    have hle := Nat.le_succ (max next after)
    exact ⟨.binary (max next after) op left right, max next after + 1,
      .binary (Nat.lt_succ_self _) (hleft.mono ((le_max_left ..).trans hle))
        (hright.mono ((le_max_right ..).trans hle)), rfl⟩
  | call name args ih =>
    obtain ⟨objects, next, hmade, rfl⟩ := exists_made_all ih
    exact ⟨.call next name objects, next + 1,
      .call next.lt_succ_self fun arg hmem => (hmade arg hmem).mono next.le_succ, rfl⟩

/-! ### One object -/

/-- The step gives the object itself if nothing is replaced, and else a new one. -/
structure Replaces (next : Nat) (replaced : Option Expr) (object : Object)
    (result : Object × Nat) : Prop where
  le : next ≤ result.2
  same : replaced = none → result.1 = object
  new : ∀ e, replaced = some e → next ≤ result.1.place ∧ result.1.formula = e

namespace Replaces

theorem of_none (next : Nat) (object : Object) : Replaces next none object (object, next) :=
  ⟨le_rfl, fun _ => rfl, by simp⟩

/-- An object with others below it stays if they do, and else one is made that has the new ones. -/
theorem of_parts {stays : Prop} [Decidable stays] {new : Object} {after : Nat}
    (hle : next ≤ after) (hstays : stays ↔ replaced = none) (hplace : new.place = after)
    (hnew : ∀ e, replaced = some e → new.formula = e) :
    Replaces next replaced object (if stays then (object, after) else (new, after + 1)) := by
  split
  · next h =>
    rw [hstays] at h
    exact ⟨hle, fun _ => rfl, fun e he => absurd (h.symm.trans he) (by simp)⟩
  · next h =>
    rw [hstays] at h
    exact ⟨Nat.le_succ_of_le hle, fun hnone => absurd hnone h,
      fun e he => ⟨hle.trans hplace.ge, hnew e he⟩⟩

/-- A place tells a new object from one that was there. -/
theorem place_eq_iff (h : Replaces next replaced object result) (hmade : object.Made first)
    (hle : first ≤ next) : result.1.place = object.place ↔ replaced = none := by
  cases replaced with
  | none => simp [h.same rfl]
  | some e =>
    have hnew := (h.new e rfl).1
    have hold := hmade.place_lt
    simp only [reduceCtorEq, iff_false]
    omega

theorem formula_eq (h : Replaces next replaced object result) :
    result.1.formula = replaced.getD object.formula := by
  cases replaced with
  | none => rw [h.same rfl, Option.getD_none]
  | some e => exact (h.new e rfl).2

end Replaces

/-! ### The objects of a call -/

/-- The steps give the objects themselves if nothing is replaced, and else some at other places. -/
structure ReplacesAll (next : Nat) (replaced : Option (List Expr)) (objects : List Object)
    (result : List Object × Nat) : Prop where
  le : next ≤ result.2
  same : replaced = none → result.1 = objects
  new : ∀ es, replaced = some es →
    result.1.map place ≠ objects.map place ∧ formulas result.1 = es

namespace ReplacesAll

variable {objects : List Object} {results : List Object × Nat} {replacedAll : Option (List Expr)}

theorem places_eq_iff (h : ReplacesAll next replacedAll objects results) :
    results.1.map place = objects.map place ↔ replacedAll = none := by
  cases replacedAll with
  | none => simp [h.same rfl]
  | some es => simp [(h.new es rfl).1]

theorem formulas_eq (h : ReplacesAll next replacedAll objects results) :
    formulas results.1 = replacedAll.getD (formulas objects) := by
  cases replacedAll with
  | none => rw [h.same rfl, Option.getD_none]
  | some es => exact (h.new es rfl).2

end ReplacesAll

/-! ### The whole formula -/

section Map

variable {transform : Object → StateM Nat Object} {replace : Expr → Option Expr}
  {place : Nat} {op : UnaryOp} {bop : BinaryOp} {name : String} {operand left right : Object}
  {args : List Object}

theorem run_mapReferences_unary : (mapReferences transform (.unary place op operand)).run next =
    let new := (operand.mapReferences transform).run next
    if new.1.place = operand.place then (.unary place op operand, new.2)
    else (.unary new.2 op new.1, new.2 + 1) := by
  rw [mapReferences]
  exact apply_ite (fun step : StateM Nat Object => step.run _) _ _ _

theorem run_mapReferences_binary :
    (mapReferences transform (.binary place bop left right)).run next =
      let newLeft := (left.mapReferences transform).run next
      let newRight := (right.mapReferences transform).run newLeft.2
      if newLeft.1.place = left.place ∧ newRight.1.place = right.place then
        (.binary place bop left right, newRight.2)
      else (.binary newRight.2 bop newLeft.1 newRight.1, newRight.2 + 1) := by
  rw [mapReferences]
  exact apply_ite (fun step : StateM Nat Object => step.run _) _ _ _

theorem run_mapReferences_call : (mapReferences transform (.call place name args)).run next =
    let new := (mapAllReferences transform args).run next
    if new.1.map Object.place = args.map Object.place then (.call place name args, new.2)
    else (.call new.2 name new.1, new.2 + 1) := by
  rw [mapReferences]
  exact apply_ite (fun step : StateM Nat Object => step.run _) _ _ _

theorem run_mapAllReferences_cons {arg : Object} :
    (mapAllReferences transform (arg :: args)).run next =
      let new := (arg.mapReferences transform).run next
      let others := (mapAllReferences transform args).run new.2
      (new.1 :: others.1, others.2) := rfl

theorem mapAllReferences_replaces
    (hargs : ∀ arg ∈ args, ∀ next, first ≤ next →
      Replaces next (arg.formula.mapReferences? replace) arg
        ((arg.mapReferences transform).run next))
    (hmade : ∀ arg ∈ args, arg.Made first) (hle : first ≤ next) :
    ReplacesAll next (Expr.mapAllReferences? replace (formulas args)) args
      ((mapAllReferences transform args).run next) := by
  induction args generalizing next with
  | nil => exact ⟨le_rfl, fun _ => rfl, by simp [formulas, Expr.mapAllReferences?]⟩
  | cons arg args ih =>
    obtain ⟨hmadeFirst, hmadeRest⟩ := List.forall_mem_cons.1 hmade
    have hfirst := hargs arg List.mem_cons_self next hle
    have hrest := ih (fun arg hmem => hargs arg (List.mem_cons_of_mem _ hmem)) hmadeRest
      (hle.trans hfirst.le)
    have hplaces := hfirst.place_eq_iff hmadeFirst hle
    rw [run_mapAllReferences_cons, formulas, Expr.mapAllReferences?]
    split
    · next hnone hnoneRest =>
      exact ⟨hfirst.le.trans hrest.le,
        fun _ => congrArg₂ List.cons (hfirst.same hnone) (hrest.same hnoneRest), by simp⟩
    · next hsome =>
      refine ⟨hfirst.le.trans hrest.le, by simp, fun es hes => ?_⟩
      cases hes
      refine ⟨fun heq => ?_, congrArg₂ List.cons hfirst.formula_eq hrest.formulas_eq⟩
      obtain ⟨hplace, hplacesRest⟩ := List.cons.inj heq
      exact hsome (hplaces.1 hplace) (hrest.places_eq_iff.1 hplacesRest)

/-- If each reference is replaced as it should be, so is the whole formula: an object stays in its
place just when nothing below it is replaced. -/
theorem mapReferences_replaces
    (htransform : ∀ ref : Object, ref.formula.isReference → ∀ next,
      Replaces next (replace ref.formula) ref ((transform ref).run next))
    (hmade : object.Made first) (hle : first ≤ next) :
    Replaces next (object.formula.mapReferences? replace) object
      ((object.mapReferences transform).run next) := by
  induction hmade generalizing next with
  | @leaf place e hplace hnodes =>
    cases href : e.isReference with
    | true =>
      have hrun : (mapReferences transform (.leaf place e)).run next =
          (transform (.leaf place e)).run next := by simp only [mapReferences, href, if_true]
      rw [hrun, formula, Expr.mapReferences?_of_isReference href]
      exact htransform (.leaf place e) href next
    | false =>
      have hrun : (mapReferences transform (.leaf place e)).run next =
          (.leaf place e, next) := by
        simp only [mapReferences, href, Bool.false_eq_true, if_false]
        rfl
      rw [hrun, formula, Expr.mapReferences?_of_nodes_eq hnodes href]
      exact .of_none next _
  | unary hplace hoperand ih =>
    have hnew := ih hle
    rw [run_mapReferences_unary, formula, Expr.mapReferences?]
    refine .of_parts hnew.le ((hnew.place_eq_iff hoperand hle).trans Option.map_eq_none_iff.symm)
      rfl fun e he => ?_
    obtain ⟨operandAfter, hsome, rfl⟩ := Option.map_eq_some_iff.1 he
    rw [formula, (hnew.new operandAfter hsome).2]
  | binary hplace hleft hright ihLeft ihRight =>
    have hnewLeft := ihLeft hle
    have hnewRight := ihRight (hle.trans hnewLeft.le)
    have hplaces := and_congr (hnewLeft.place_eq_iff hleft hle)
      (hnewRight.place_eq_iff hright (hle.trans hnewLeft.le))
    rw [run_mapReferences_binary, formula, Expr.mapReferences?]
    refine .of_parts (hnewLeft.le.trans hnewRight.le) (hplaces.trans ?_) rfl fun e he => ?_
    · split
      · next hnone hnoneRight => simp [hnone, hnoneRight]
      · next hsome => simpa using hsome
    · split at he
      · cases he
      · cases he
        rw [formula, hnewLeft.formula_eq, hnewRight.formula_eq]
  | call hplace hargs ih =>
    have hnew := mapAllReferences_replaces (fun arg hmem next hle => ih arg hmem hle) hargs hle
    rw [run_mapReferences_call, formula, Expr.mapReferences?]
    refine .of_parts hnew.le (hnew.places_eq_iff.trans Option.map_eq_none_iff.symm) rfl
      fun e he => ?_
    obtain ⟨argsAfter, hsome, rfl⟩ := Option.map_eq_some_iff.1 he
    rw [formula, (hnew.new argsAfter hsome).2]

end Map

theorem adjust_replaces (edit : LineEdit) (ref : Object) (next : Nat) :
    Replaces next (edit.reference? ref.formula) ref ((adjust edit ref).run next) := by
  rw [adjust]
  cases edit.reference? ref.formula with
  | none => exact .of_none next ref
  | some new =>
    refine ⟨Nat.le_succ next, by simp, fun e he => ?_⟩
    cases he
    exact ⟨le_rfl, rfl⟩

/-- After a row or column comes or goes, an object is told from the one that was there just where
its formula is written anew. -/
theorem afterEdit_replaces (edit : LineEdit) (hmade : object.Made next) :
    Replaces next (object.formula.afterEdit? edit) object ((object.afterEdit edit).run next) :=
  mapReferences_replaces (fun ref _ next => adjust_replaces edit ref next) hmade le_rfl

/-- Places tell whether a formula is written anew, and as what. -/
theorem place_afterEdit (edit : LineEdit) (hmade : object.Made next)
    (hnormal : object.formula.Throughout Expr.Normalised) :
    let after := ((object.afterEdit edit).run next).1
    (after.place = object.place ↔ object.formula.Throughout edit.Keeps) ∧
      (after.place = object.place → after = object) ∧
      object.formula.afterEdit? edit =
        if after.place = object.place then none else some after.formula := by
  have hafter := afterEdit_replaces edit hmade
  have hplace := hafter.place_eq_iff hmade le_rfl
  refine ⟨hplace.trans (Expr.afterEdit?_eq_none_iff_keeps hnormal),
    fun h => hafter.same (hplace.1 h), ?_⟩
  split
  · next h => exact hplace.1 h
  · next h =>
    obtain ⟨e, he⟩ := Option.ne_none_iff_exists'.1 (mt hplace.2 h)
    rw [he, (hafter.new e he).2]

end Object

end Spreadsheet

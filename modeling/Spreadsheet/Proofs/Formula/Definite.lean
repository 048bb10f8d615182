import Spreadsheet.Proofs.Formula.Evaluable
import Spreadsheet.Proofs.Formula.Evaluation

/-!
# Formulas have values

A value is `Definite` if it is not the number NaN. Functions are `Lawful` if, called with as many
definite arguments as they take, they have a definite result or fail for another reason than a
missing argument. With lawful functions, every evaluable formula has a definite value wherever the
cells have definite values (`Expr.exists_eval`).
-/

namespace Spreadsheet

/-! ## Definite values -/

/-- The value is a number other than NaN, or no number. -/
def Value.Definite : Value → Prop
  | .number x => x.isNumber
  | _ => True

/-- All values of the argument are definite. -/
def Argument.Definite (arg : Argument) : Prop := ∀ value ∈ arg.values, value.Definite

theorem Binary64.isNumber_of_isFinite {x : Binary64} (h : x.isFinite) : x.isNumber := by
  cases x <;> first | rfl | cases h

theorem Binary64.isNumber_withSign {x : Binary64} (h : x.isNumber) (negative : Bool) :
    (x.withSign negative).isNumber := by
  cases x <;> first | rfl | cases h

theorem Binary64.isNumber_ofNat (n : Nat) : (ofNat n).isNumber := isNumber_ofQuotient _ _ _

theorem isNumber_of_readNumber? {s : String} {x : Binary64} (h : readNumber? s = some x) :
    x.isNumber := by
  obtain ⟨decimal, -, rfl⟩ := Option.map_eq_some_iff.1 h
  exact decimal.isNumber_toBinary64

namespace Value

variable {value left right : Value} {x : Binary64}

theorem definite_iff_ne_nan : value.Definite ↔ value ≠ .number .nan := by
  cases value with
  | number x => cases x <;> simp [Definite, Binary64.isNumber]
  | _ => simp [Definite]

theorem definite_ofLiteral (raw : String) : (ofLiteral raw).Definite := by
  unfold ofLiteral
  split
  · trivial
  · split
    · next hread => exact isNumber_of_readNumber? hread
    · trivial

theorem definite_ofResult (x : Binary64) : (ofResult x).Definite := by
  unfold ofResult
  split
  · next hfinite => exact Binary64.isNumber_of_isFinite hfinite
  · trivial

theorem definite_ofBool (b : Bool) : (ofBool b).Definite := Binary64.isNumber_ofNat _

theorem Definite.toNumber (h : value.Definite) (hnumber : value.toNumber = .ok x) : x.isNumber := by
  unfold Value.toNumber at hnumber
  split at hnumber
  · cases hnumber
    exact h
  · cases hnumber
    rfl
  · split at hnumber <;> cases hnumber
    exact isNumber_of_readNumber? ‹_›
  · cases hnumber

theorem Definite.negate (h : value.Definite) : value.negate.Definite := by
  unfold Value.negate
  split
  · next hnumber => exact Binary64.isNumber_withSign (h.toNumber hnumber) _
  · trivial

end Value

theorem Arithmetic.definite_eval (op : Arithmetic) (left right : Value) :
    (op.eval left right).Definite := by
  have happly (x y : Binary64) : (op.apply x y).Definite := by
    cases op with
    | div =>
      rw [apply]
      split
      · trivial
      · exact Value.definite_ofResult _
    | _ => exact Value.definite_ofResult _
  unfold Arithmetic.eval
  split
  · trivial
  · split <;> first | trivial | exact happly _ _

theorem Comparison.definite_eval (op : Comparison) (left right : Value) :
    (op.eval left right).Definite := by
  unfold Comparison.eval
  split
  · trivial
  · exact Value.definite_ofBool _

theorem BinaryOp.exists_eval {op : BinaryOp} (h : ∀ symbol, op ≠ .unknown symbol)
    (left right : Value) : ∃ value, op.eval left right = .ok value ∧ value.Definite := by
  cases op with
  | arithmetic op => exact ⟨_, rfl, op.definite_eval left right⟩
  | comparison op => exact ⟨_, rfl, op.definite_eval left right⟩
  | unknown symbol => exact absurd rfl (h symbol)

/-- What definite values and the values of an argument are, the argument as one value is. -/
theorem Argument.scalar_of_values {p : Value → Prop} (hdefinite : ∀ value : Value,
    value.Definite → p value) {arg : Argument} (h : ∀ value ∈ arg.values, p value) :
    p arg.scalar := by
  cases arg with
  | value value => exact h value List.mem_cons_self
  | range range =>
    have hrange : ∀ value ∈ range.values, p value := h
    rw [scalar, RangeValue.scalar]
    split
    · next hvalues => exact hrange _ (hvalues ▸ List.mem_cons_self)
    · exact hdefinite _ trivial

theorem Argument.definite_value {value : Value} :
    (Argument.value value).Definite ↔ value.Definite := List.forall_mem_singleton

theorem Argument.Definite.scalar {arg : Argument} (h : arg.Definite) : arg.scalar.Definite :=
  scalar_of_values (fun _ => id) h

/-! ## Lawful functions -/

/-- The outcome of a call is a definite value, or a failure that no missing argument has caused. -/
def Function.Proper : Except Failure Value → Prop
  | .ok value => value.Definite
  | .error failure => failure ≠ .missingArgument

theorem Function.Proper.ne_missingArgument {outcome : Except Failure Value}
    (h : Proper outcome) : outcome ≠ .error .missingArgument := by
  rintro rfl
  exact h rfl

/-- With as many definite arguments as it takes, the function has a definite result or fails for
another reason than a missing argument. -/
def Function.Lawful (function : Function) : Prop :=
  ∀ args : List Argument, function.arity.accepts args.length → (∀ arg ∈ args, arg.Definite) →
    Proper (function.apply args)

/-- All functions are lawful. -/
def Registry.Lawful (functions : Registry) : Prop :=
  ∀ name function, functions.find? name = some function → function.Lawful

/-- A call that misses no argument has a result. -/
theorem Registry.exists_call {functions : Registry} {name : String} {function : Function}
    (hfind : functions.find? name = some function) {args : List Argument}
    (h : function.apply args ≠ .error .missingArgument) :
    ∃ value, functions.call name args = .ok value ∧
      (function.apply args = .ok value ∨ value.Definite) := by
  cases hresult : function.apply args with
  | ok value => exact ⟨value, by simp only [call, hfind, hresult], .inl rfl⟩
  | error failure =>
    refine ⟨.error (.of .type failure.message), ?_, .inr trivial⟩
    cases failure with
    | missingArgument => exact absurd hresult h
    | _ => simp only [call, hfind, hresult]

theorem Registry.Lawful.exists_call {functions : Registry} (h : functions.Lawful) {name : String}
    {function : Function} (hfind : functions.find? name = some function) {args : List Argument}
    (haccepts : function.arity.accepts args.length) (hargs : ∀ arg ∈ args, arg.Definite) :
    ∃ value, functions.call name args = .ok value ∧ value.Definite := by
  have hproper := h name function hfind args haccepts hargs
  obtain ⟨value, hvalue, hresult | hdefinite⟩ :=
    Registry.exists_call hfind hproper.ne_missingArgument
  · rw [hresult] at hproper
    exact ⟨value, hvalue, hproper⟩
  · exact ⟨value, hvalue, hdefinite⟩

/-! ## Evaluation -/

/-- Neither the sign nor a function loses a property that all definite values have. -/
structure Registry.Keeps (functions : Registry) (p : Value → Prop) : Prop where
  definite : ∀ value : Value, value.Definite → p value
  negate : ∀ value, p value → p value.negate
  call : ∀ name function args, functions.find? name = some function →
    function.arity.accepts args.length → (∀ arg ∈ args, ∀ value ∈ arg.values, p value) →
    ∃ value, functions.call name args = .ok value ∧ p value

theorem Registry.Lawful.keeps {functions : Registry} (h : functions.Lawful) :
    functions.Keeps Value.Definite where
  definite _ := id
  negate _ := Value.Definite.negate
  call _ _ _ hfind haccepts hargs := h.exists_call hfind haccepts hargs

/-- In those of the cells that lie before its end, the source has values with the property. -/
def Source.Offers (source : Source) (p : Value → Prop) (cells : List Coord) : Prop :=
  ∀ cell ∈ cells, cell.row < source.nRows → cell.col < source.nCols →
    ∃ value, source.valueAt cell = .ok value ∧ p value

/-- All cells of the source have definite values. -/
def Source.Definite (source : Source) : Prop :=
  ∀ cell, ∃ value, source.valueAt cell = .ok value ∧ value.Definite

namespace Source

variable {source : Source} {p : Value → Prop} {cells : List Coord} {origin : Option Coord}

theorem Definite.offers (h : source.Definite) (cells : List Coord) :
    source.Offers Value.Definite cells := fun cell _ _ _ => h cell

theorem Offers.exists_mapM_read (h : source.Offers p cells)
    (hend : ∀ cell ∈ cells, cell.row < source.nRows ∧ cell.col < source.nCols) :
    ∃ values, cells.mapM source.read = .ok values ∧ ∀ value ∈ values, p value := by
  induction cells with
  | nil => exact ⟨[], rfl, by simp⟩
  | cons cell cells ih =>
    obtain ⟨hcell, hrest⟩ := List.forall_mem_cons.1 hend
    obtain ⟨value, hvalue, hp⟩ := h cell List.mem_cons_self hcell.1 hcell.2
    obtain ⟨values, hvalues, hall⟩ := ih (fun other hother => h other (.tail cell hother)) hrest
    refine ⟨value :: values, ?_, List.forall_mem_cons.2 ⟨hp, hall⟩⟩
    rw [List.mapM_cons, Source.read, hvalue, hvalues]
    rfl

theorem Offers.exists_readRectangle {skip : Option Coord} {top left bottom right : Int}
    (h : source.Offers p ((Coord.rectangle top left bottom right).filter (some · != skip)))
    (hbottom : bottom < source.nRows) (hright : right < source.nCols) :
    ∃ values, source.readRectangle skip top left bottom right = .ok values ∧
      ∀ value ∈ values, p value := by
  rw [readRectangle_eq]
  refine h.exists_mapM_read fun cell hcell => ?_
  obtain ⟨hrow, hcol⟩ := Coord.mem_rectangle.1 (List.mem_filter.1 hcell).1
  omega

/-- A reference covers values with the property, or is an error. -/
theorem Offers.exists_argument (hdefinite : ∀ value : Value, value.Definite → p value) {ref : Expr}
    (h : source.Offers p (ref.coveredCells source.nRows origin)) :
    ∃ arg, source.argument origin ref = .ok arg ∧ ∀ value ∈ arg.values, p value := by
  have hvalue {value : Value} (hvalue : value.Definite) :
      ∀ other ∈ (Argument.value value).values, p other :=
    List.forall_mem_singleton.2 (hdefinite _ hvalue)
  cases ref with
  | cell target lowercase =>
    rw [Source.argument, Source.cellValue]
    split
    · next hwithin =>
      obtain ⟨value, hread, hp⟩ := h target List.mem_cons_self hwithin.1.2 hwithin.2.2
      exact ⟨.range ⟨[value], 1, 1⟩, by rw [Source.read, hread]; rfl,
        List.forall_mem_singleton.2 hp⟩
    · exact ⟨.range ⟨[_], 1, 1⟩, rfl, List.forall_mem_singleton.2 (hdefinite _ trivial)⟩
  | range top left bottom right lowercase =>
    rw [Source.argument]
    split
    · exact ⟨_, rfl, hvalue trivial⟩
    · next hinside =>
      obtain ⟨hbottom, hright⟩ := not_or.1 hinside
      have hcells : source.Offers p
          ((Coord.rectangle top left bottom right).filter (some · != none)) :=
        fun cell hcell => h cell (List.mem_filter.1 hcell).1
      obtain ⟨values, hvalues, hall⟩ :=
        hcells.exists_readRectangle (Int.not_le.1 hbottom) (Int.not_le.1 hright)
      exact ⟨.range ⟨values, _, _⟩, by rw [hvalues]; rfl, hall⟩
  | columns first last lowercase =>
    rw [Source.argument]
    split
    · exact ⟨_, rfl, hvalue trivial⟩
    · next hinside =>
      obtain ⟨values, hvalues, hall⟩ := Offers.exists_readRectangle h
        (Int.sub_one_lt_of_le (Int.le_refl source.nRows)) (Int.not_le.1 hinside)
      exact ⟨.range ⟨values, _, _⟩, by rw [hvalues]; rfl, hall⟩
  | _ => exact ⟨_, rfl, hvalue trivial⟩

end Source

namespace Expr

variable {functions : Registry} {source : Source} {origin : Option Coord} {p : Value → Prop}

theorem exists_evalAll (hdefinite : ∀ value : Value, value.Definite → p value) {args : List Expr}
    (hcells : ∀ arg ∈ args, arg.isReference →
      source.Offers p (arg.coveredCells source.nRows origin))
    (hargs : ∀ arg ∈ args, ∃ value, arg.eval functions source origin = .ok value ∧ p value) :
    ∃ values, evalAll functions source origin args = .ok values ∧
      values.length = args.length ∧ ∀ arg ∈ values, ∀ value ∈ arg.values, p value := by
  induction args with
  | nil => exact ⟨[], by rw [evalAll], rfl, by simp⟩
  | cons arg args ih =>
    obtain ⟨hcell, hcells⟩ := List.forall_mem_cons.1 hcells
    obtain ⟨⟨value, hvalue, hp⟩, hargs⟩ := List.forall_mem_cons.1 hargs
    obtain ⟨rest, hrest, hlength, hall⟩ := ih hcells hargs
    rw [evalAll, hrest]
    split
    · next href =>
      obtain ⟨first, hfirst, hp⟩ := (hcell href).exists_argument hdefinite
      exact ⟨first :: rest, by rw [hfirst]; rfl, congrArg (· + 1) hlength,
        List.forall_mem_cons.2 ⟨hp, hall⟩⟩
    · exact ⟨.value value :: rest, by rw [hvalue]; rfl, congrArg (· + 1) hlength,
        List.forall_mem_cons.2 ⟨List.forall_mem_singleton.2 hp, hall⟩⟩

/-- An evaluable formula has a value, with a property that is not lost and that the values have
which its references cover. -/
theorem exists_eval_of_keeps (hkeeps : functions.Keeps p) {e : Expr} (he : e.Evaluable functions)
    (hcells : e.Throughout fun node =>
      source.Offers p (node.coveredCells source.nRows origin)) :
    ∃ value, e.eval functions source origin = .ok value ∧ p value := by
  induction e using Expr.induction with
  | number value spelling =>
    have hnumber : value.isNumber := he (.number value spelling) List.mem_cons_self
    exact ⟨.number value, by rw [eval], hkeeps.definite _ hnumber⟩
  | string text => exact ⟨.text text, by rw [eval], hkeeps.definite _ trivial⟩
  | deletedReference => exact ⟨.noReference _, by rw [eval], hkeeps.definite _ trivial⟩
  | reference ref href =>
    have hcells := (throughout_of_isReference href).1 hcells
    obtain ⟨arg, harg, hp⟩ := hcells.exists_argument hkeeps.definite
    refine ⟨arg.scalar, ?_, Argument.scalar_of_values hkeeps.definite hp⟩
    rw [eval_of_isReference href, harg]
    rfl
  | unary op operand ih =>
    obtain ⟨value, hvalue, hp⟩ := ih (evaluable_unary.1 he) (throughout_unary.1 hcells).2
    exact ⟨value.negate, by rw [eval, hvalue]; rfl, hkeeps.negate value hp⟩
  | binary op left right ihLeft ihRight =>
    obtain ⟨hop, hleft, hright⟩ := evaluable_binary.1 he
    obtain ⟨-, hleftCells, hrightCells⟩ := throughout_binary.1 hcells
    obtain ⟨x, hx, -⟩ := ihLeft hleft hleftCells
    obtain ⟨y, hy, -⟩ := ihRight hright hrightCells
    obtain ⟨value, hvalue, hdefinite⟩ := op.exists_eval hop x y
    exact ⟨value, by rw [eval, hx, hy]; exact hvalue, hkeeps.definite value hdefinite⟩
  | call name args ih =>
    obtain ⟨⟨function, hfind, haccepts⟩, hargs⟩ := evaluable_call.1 he
    obtain ⟨-, hcells⟩ := throughout_call.1 hcells
    obtain ⟨values, hvalues, hlength, hall⟩ := exists_evalAll hkeeps.definite
      (fun arg harg href => (throughout_of_isReference href).1 (hcells arg harg))
      fun arg harg => ih arg harg (hargs arg harg) (hcells arg harg)
    rw [eval, if_pos (Option.isSome_of_eq_some hfind), hvalues]
    exact hkeeps.call name function values hfind (hlength ▸ haccepts) hall

/-- An evaluable formula has a definite value. -/
theorem exists_eval (hfunctions : functions.Lawful) (hsource : source.Definite)
    (origin : Option Coord) {e : Expr} (he : e.Evaluable functions) :
    ∃ value, e.eval functions source origin = .ok value ∧ value.Definite :=
  exists_eval_of_keeps hfunctions.keeps he fun _ _ => hsource.offers _

end Expr

end Spreadsheet

import Spreadsheet.Proofs.Formula.Nodes
import Spreadsheet.Proofs.Formula.Reading

/-!
# Formulas in which everything is known

`Expr.Evaluable` asks of a formula that its operators are known, that its functions are registered
and take as many arguments as they are given, and that its numbers are not NaN. It holds of the
formulas that are read (`evaluable_of_parse`), and it is kept when rows and columns come and go
(`evaluable_of_afterEdit?`).
-/

namespace Spreadsheet

namespace Binary64

theorem isNumber_ofQuotient (negative : Bool) (num den : Nat) :
    (ofQuotient negative num den).isNumber := by
  rw [ofQuotient]
  split <;> rw [ofParts] <;> split <;> rfl

end Binary64

theorem Decimal.isNumber_toBinary64 (x : Decimal) : x.toBinary64.isNumber := by
  unfold toBinary64
  repeat' split
  all_goals first | rfl | exact Binary64.isNumber_ofQuotient _ _ _

namespace Expr

/-- The operator, the function and the number of a node are known. -/
def Known (functions : Registry) : Expr → Prop
  | .number value _ => value.isNumber
  | .binary (.unknown _) _ _ => False
  | .call name args =>
    ∃ function, functions.find? name = some function ∧ function.arity.accepts args.length
  | _ => True

/-- Everything in the formula is known. -/
def Evaluable (functions : Registry) (e : Expr) : Prop := e.Throughout (Known functions)

variable {functions : Registry}

@[simp] theorem evaluable_unary {op : UnaryOp} {operand : Expr} :
    (Expr.unary op operand).Evaluable functions ↔ operand.Evaluable functions :=
  throughout_unary.trans (and_iff_right trivial)

@[simp] theorem evaluable_binary {op : BinaryOp} {left right : Expr} :
    (Expr.binary op left right).Evaluable functions ↔
      (∀ symbol, op ≠ .unknown symbol) ∧ left.Evaluable functions ∧ right.Evaluable functions := by
  have hop : (Expr.binary op left right).Known functions ↔ ∀ symbol, op ≠ .unknown symbol := by
    cases op <;> simp [Known]
  rw [Evaluable, throughout_binary, hop]
  rfl

@[simp] theorem evaluable_call {name : String} {args : List Expr} :
    (Expr.call name args).Evaluable functions ↔
      (∃ function, functions.find? name = some function ∧ function.arity.accepts args.length) ∧
        ∀ arg ∈ args, arg.Evaluable functions :=
  throughout_call

@[simp] theorem evaluable_deletedReference : Expr.deletedReference.Evaluable functions :=
  (throughout_of_nodes rfl).2 trivial

/-- References are known. -/
theorem evaluable_of_isReference {e : Expr} (h : e.isReference) : e.Evaluable functions := by
  refine (throughout_of_isReference h).2 ?_
  cases e with
  | cell | range | columns => trivial
  | _ => cases h

end Expr

namespace Grammar

theorem isReference_of_columnReference {g : Grammar} {letters : List Char} {first : Int}
    {tokens : List Token} {case : Option Text.LetterCase} {part : Parsed Expr (tokens.length + 1)}
    (h : g.columnReference letters first tokens case = .ok part) : part.value.isReference := by
  unfold columnReference at h
  split at h
  · obtain ⟨⟨lastLetters, digits⟩, -, h⟩ := bind_eq_ok.1 h
    simp only at h
    split at h
    · cases h
    · obtain ⟨case, -, h⟩ := bind_eq_ok.1 h
      obtain ⟨other, -, h⟩ := bind_eq_ok.1 h
      cases h
      rfl
  · cases h
  · cases h
    rfl

theorem isReference_of_cellReference {g : Grammar} {letters : List Char} {first : Coord}
    {tokens : List Token} {case : Option Text.LetterCase} {part : Parsed Expr (tokens.length + 1)}
    (h : g.cellReference letters first tokens case = .ok part) : part.value.isReference := by
  unfold cellReference at h
  split at h
  · obtain ⟨⟨lastLetters, digits⟩, -, h⟩ := bind_eq_ok.1 h
    obtain ⟨case, -, h⟩ := bind_eq_ok.1 h
    simp only at h
    split at h
    · cases h
    · obtain ⟨row, -, h⟩ := bind_eq_ok.1 h
      obtain ⟨col, -, h⟩ := bind_eq_ok.1 h
      cases h
      rfl
  · split at h
    · obtain ⟨row, -, h⟩ := bind_eq_ok.1 h
      cases h
      rfl
    · cases h
  · cases h
  · cases h
    rfl

theorem isReference_of_reference {g : Grammar} {name : String} {position : Nat}
    {tokens : List Token} {case : Option Text.LetterCase} {part : Parsed Expr (tokens.length + 1)}
    (h : g.reference name position tokens case = .ok part) : part.value.isReference := by
  obtain ⟨⟨letters, digits⟩, -, h⟩ := bind_eq_ok.1 h
  obtain ⟨case, -, h⟩ := bind_eq_ok.1 h
  obtain ⟨col, -, h⟩ := bind_eq_ok.1 h
  split at h
  · exact isReference_of_columnReference h
  · obtain ⟨row, -, h⟩ := bind_eq_ok.1 h
    exact isReference_of_cellReference h

theorem ne_unknown_of_operatorAt {level : Nat} {lexeme : Lexeme} {op : BinaryOp}
    (h : operatorAt level lexeme = some op) (symbol : String) : op ≠ .unknown symbol := by
  rintro rfl
  unfold operatorAt at h
  split at h
  all_goals first | contradiction | (split at h <;> cases h)

theorem closed_evaluable (g : Grammar) : g.Closed (Expr.Evaluable g.functions) where
  number spelling := by
    have hnumber : (numberOf spelling).isNumber := by
      rw [numberOf]
      cases Numeral.read? spelling.toList with
      | none => rfl
      | some numeral => exact Decimal.isNumber_toBinary64 numeral
    exact (Expr.throughout_of_nodes rfl).2 hnumber
  string content := (Expr.throughout_of_nodes rfl).2 trivial
  deletedReference := Expr.evaluable_deletedReference
  reference h := Expr.evaluable_of_isReference (isReference_of_reference h)
  minus := Expr.evaluable_unary.2
  operation hop hleft hright :=
    Expr.evaluable_binary.2 ⟨ne_unknown_of_operatorAt hop, hleft, hright⟩
  call hfind haccepts hargs := Expr.evaluable_call.2 ⟨⟨_, hfind, haccepts⟩, hargs⟩

/-- Everything is known in a formula that is read. -/
theorem evaluable_of_parse {g : Grammar} {text : String} {e : Expr} (h : g.parse text = .ok e) :
    e.Evaluable g.functions :=
  g.closed_evaluable.of_parse h

end Grammar

/-! ## Replaced references -/

namespace Expr

variable {functions : Registry}

theorem evaluable_of_adjustSpan? {edit : LineEdit} {first last : Int} {rebuild : Int → Int → Expr}
    {new : Expr} (hrebuild : ∀ first last, (rebuild first last).isReference)
    (h : edit.adjustSpan? first last rebuild = some new) : new.Evaluable functions := by
  unfold LineEdit.adjustSpan? at h
  split at h
  · cases h
    exact evaluable_deletedReference
  · split at h <;> cases h
    exact evaluable_of_isReference (hrebuild _ _)

/-- A reference becomes another one, or that to a cell that is gone, when a row or column comes or
goes. -/
theorem evaluable_of_reference? {edit : LineEdit} {ref new : Expr}
    (h : edit.reference? ref = some new) : new.Evaluable functions := by
  unfold LineEdit.reference? at h
  split at h
  · split at h <;>
    · simp only at h
      split at h
      · cases h
        exact evaluable_deletedReference
      · split at h <;> cases h
        exact evaluable_of_isReference rfl
  · split at h <;> exact evaluable_of_adjustSpan? (fun _ _ => rfl) h
  · split at h
    · cases h
    · exact evaluable_of_adjustSpan? (fun _ _ => rfl) h
  · cases h

theorem evaluable_of_afterEdit? {edit : LineEdit} {e new : Expr} (he : e.Evaluable functions)
    (h : e.afterEdit? edit = some new) : new.Evaluable functions := by
  have hnew : e.replaceReferences edit.reference? = new := by
    rw [afterEdit?] at h
    rw [replaceReferences, h, Option.getD_some]
  rw [← hnew]
  refine he.replaceReferences (fun ref href hp => ?_) fun node node' hroot hp => ?_
  · cases hreplace : edit.reference? ref with
    | none => exact evaluable_of_isReference href
    | some moved => exact evaluable_of_reference? hreplace
  · cases hroot with
    | call name hlength =>
      rw [Known] at hp ⊢
      rwa [← hlength]
    | binary op => cases op <;> exact hp
    | _ => exact hp

end Expr

end Spreadsheet

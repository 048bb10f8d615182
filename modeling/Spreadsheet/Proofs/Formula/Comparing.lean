import Mathlib
import Spreadsheet.Proofs.Formula.Evaluation
import Spreadsheet.Proofs.Sheet.SortOrder

/-!
# Comparing values

Two values compare as numbers if both are or spell numbers, and as texts otherwise; which of the
two it is does not depend on their order. So values that are neither errors nor NaN always compare,
and the other way round the other way (`Value.exists_compare?`). Hence the six comparisons agree
with each other: each holds where its complement does not, and the mirrored comparison holds of the
operands in the other order (`Comparison.eval_coherent`).
-/

namespace Spreadsheet

/-! ## Related comparisons -/

namespace Comparison

/-- The comparison that holds where this one does not. -/
def complement : Comparison → Comparison
  | .equal => .notEqual
  | .notEqual => .equal
  | .less => .atLeast
  | .greater => .atMost
  | .atMost => .greater
  | .atLeast => .less

/-- The comparison that says the same of the operands in the other order. -/
def mirrored : Comparison → Comparison
  | .equal => .equal
  | .notEqual => .notEqual
  | .less => .greater
  | .greater => .less
  | .atMost => .atLeast
  | .atLeast => .atMost

theorem holds_complement (op : Comparison) (o : Ordering) :
    op.complement.holds (some o) = !op.holds (some o) := by
  cases op <;> cases o <;> rfl

theorem holds_mirrored (op : Comparison) (o : Ordering) :
    op.mirrored.holds (some o.swap) = op.holds (some o) := by
  cases op <;> cases o <;> rfl

/-- The comparison that holds of operands that compare like this, and no other one of the three. -/
def ofOrdering : Ordering → Comparison
  | .lt => .less
  | .eq => .equal
  | .gt => .greater

theorem holds_iff_eq_ofOrdering {op : Comparison} (h : op ∈ [less, equal, greater])
    (o : Ordering) : op.holds (some o) ↔ op = ofOrdering o := by
  have htable : ∀ op ∈ [less, equal, greater], ∀ o ∈ [Ordering.lt, .eq, .gt],
      (op.holds (some o) ↔ op = ofOrdering o) := by decide
  exact htable op h o (by cases o <;> decide)

end Comparison

/-! ## How values compare -/

namespace Value

variable {a b : Value}

theorem Definite.comparableNumber? (ha : a.Definite) {x : Binary64}
    (hx : a.comparableNumber? = some x) : x.isNumber := by
  cases a with
  | number y =>
    cases hx
    exact ha
  | text s => exact isNumber_of_readNumber? hx
  | empty =>
    cases hx
    rfl
  | error e => cases hx

/-- Two results that compare a pair and the pair the other way round are each other's swaps. -/
theorem eq_swap_of_compares {α : Type} [LinearOrder α] {x y : α} {o o' : Ordering}
    (h : o.Compares x y) (h' : o'.Compares y x) : o' = o.swap :=
  h'.inj (Ordering.compares_swap.2 h)

/-- Values other than NaN compare, and the other way round the other way. -/
theorem exists_compare? (ha : a.Definite) (hb : b.Definite) :
    ∃ o, a.compare? b = some o ∧ b.compare? a = some o.swap := by
  have htexts : ∃ o, some (Text.order a.comparableText b.comparableText) = some o ∧
      some (Text.order b.comparableText a.comparableText) = some o.swap :=
    ⟨_, rfl, congrArg some
      (eq_swap_of_compares (Text.order_compares _ _) (Text.order_compares _ _))⟩
  unfold compare?
  cases hx : a.comparableNumber? with
  | none => cases b.comparableNumber? <;> exact htexts
  | some x =>
    cases hy : b.comparableNumber? with
    | none => exact htexts
    | some y =>
      have hxNumber := ha.comparableNumber? hx
      have hyNumber := hb.comparableNumber? hy
      obtain ⟨o, ho, hcompares⟩ := Binary64.exists_compare? hxNumber hyNumber
      obtain ⟨o', ho', hcompares'⟩ := Binary64.exists_compare? hyNumber hxNumber
      exact ⟨o, ho, ho'.trans (congrArg some (eq_swap_of_compares hcompares hcompares'))⟩

theorem ofBool_eq_one_iff {holds : Bool} : ofBool holds = .number (.ofNat 1) ↔ holds := by
  have hone : ofBool true = .number (.ofNat 1) := rfl
  have hzero : ofBool false ≠ ofBool true := by decide +kernel
  cases holds with
  | true => exact iff_of_true hone rfl
  | false => exact iff_of_false (hone ▸ hzero) Bool.false_ne_true

theorem firstError?_eq_none (ha : a.isError = false) (hb : b.isError = false) :
    firstError? [a, b] = none := by
  cases a <;> cases b <;> simp_all [firstError?, isError]

end Value

/-! ## The six comparisons -/

/-- Of two values that are neither errors nor NaN, numbers, texts or empty cells: exactly one of
`<`, `=` and `>` is one. Every comparison is one or zero, and its complement the other; with the
operands in the other order, the mirrored comparison is the same. If one of the values is an error,
every comparison is the first error. -/
theorem Comparison.eval_coherent (a b : Value) :
    (a.isError = false → b.isError = false → a ≠ .number .nan → b ≠ .number .nan →
      (∃! op, op ∈ [less, equal, greater] ∧ op.eval a b = .number (.ofNat 1)) ∧
      (∀ op : Comparison, ∃ holds : Bool, op.eval a b = .ofBool holds ∧
        op.complement.eval a b = .ofBool (!holds)) ∧
      ∀ op : Comparison, op.mirrored.eval b a = op.eval a b) ∧
    ∀ e, (a = .error e ∨ a.isError = false ∧ b = .error e) →
      ∀ op : Comparison, op.eval a b = .error e := by
  refine ⟨fun ha hb haNumber hbNumber => ?_, fun e herror op => ?_⟩
  · obtain ⟨o, hab, hba⟩ := Value.exists_compare? (Value.definite_iff_ne_nan.2 haNumber)
      (Value.definite_iff_ne_nan.2 hbNumber)
    have heval (op : Comparison) : op.eval a b = .ofBool (op.holds (some o)) := by
      rw [eval, Value.firstError?_eq_none ha hb, hab]
    have hevalBack (op : Comparison) : op.eval b a = .ofBool (op.holds (some o.swap)) := by
      rw [eval, Value.firstError?_eq_none hb ha, hba]
    have hone (op : Comparison) : op.eval a b = .number (.ofNat 1) ↔ op.holds (some o) := by
      rw [heval, Value.ofBool_eq_one_iff]
    refine ⟨⟨ofOrdering o, ⟨by cases o <;> decide, ?_⟩, ?_⟩, fun op => ?_, fun op => ?_⟩
    · exact (hone _).2 ((holds_iff_eq_ofOrdering (by cases o <;> decide) o).2 rfl)
    · rintro op ⟨hop, hvalue⟩
      exact (holds_iff_eq_ofOrdering hop o).1 ((hone op).1 hvalue)
    · exact ⟨op.holds (some o), heval op, by rw [heval, holds_complement]⟩
    · rw [heval, hevalBack, holds_mirrored]
  · obtain rfl | ⟨ha, rfl⟩ := herror
    · rfl
    · have hfirst : Value.firstError? [a, .error e] = some e := by
        cases a <;> first | rfl | cases ha
      rw [eval, hfirst]

/-- An empty cell is zero beside a number and a text without characters beside `b`, and so it comes
before the one and the other; an error beside it is the result. -/
theorem Comparison.eval_coherent_empty :
    (∃! op, op ∈ [less, equal, greater] ∧
      op.eval .empty (.number (.infinity false)) = .number (.ofNat 1)) ∧
    Comparison.eval .less .empty (.text "b") = .number (.ofNat 1) ∧
    Comparison.eval .greater (.text "b") .empty = .number (.ofNat 1) ∧
    Comparison.eval .atLeast .empty (.error (.of .divideByZero "")) =
      .error (.of .divideByZero "") := by
  have hless : Comparison.eval .less .empty (.text "b") = .number (.ofNat 1) := by decide +kernel
  obtain ⟨hnumber, -⟩ := eval_coherent .empty (.number (.infinity false))
  obtain ⟨htext, -⟩ := eval_coherent .empty (.text "b")
  obtain ⟨-, herror⟩ := eval_coherent .empty (.error (.of .divideByZero ""))
  refine ⟨(hnumber rfl rfl (by simp) (by simp)).1, hless, ?_, herror _ (.inr ⟨rfl, rfl⟩) .atLeast⟩
  exact ((htext rfl rfl (by simp) (by simp)).2.2 .less).trans hless

end Spreadsheet

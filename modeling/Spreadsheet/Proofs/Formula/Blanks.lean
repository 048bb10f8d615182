import Spreadsheet.Proofs.Formula.Builtin
import Spreadsheet.Proofs.Formula.Replacement

/-!
# Blank cells make no difference to functions

The builtin functions see no more of a reference than the value that it is by itself and those of
its cells that are not empty, in order (`Argument.view`, `Registry.ignoresBlanks_builtin`). With
functions that do so, a formula keeps its value when its references are replaced by such that look
the same (`Expr.eval_replaceReferences`).
-/

namespace Spreadsheet

/-! ## What is seen of an argument -/

/-- What a function that passes over empty cells sees of an argument. -/
structure Argument.View where
  isRange : Bool
  /-- The argument as one value. -/
  scalar : Value
  /-- The values of a reference that are not empty, or the one value. -/
  values : List Value

/-- What a function that passes over empty cells sees of the argument. -/
def Argument.view : Argument → Argument.View
  | .value v => ⟨false, v, [v]⟩
  | .range r => ⟨true, r.scalar, r.values.filter (!·.isEmpty)⟩

/-- The functions see no more of their arguments than what a function sees that passes over empty
cells. -/
def Registry.IgnoresBlanks (functions : Registry) : Prop :=
  ∀ name function, functions.find? name = some function → ∀ args args' : List Argument,
    args.map Argument.view = args'.map Argument.view → function.apply args = function.apply args'

variable {arg arg' : Argument} {args args' : List Argument}

theorem Argument.scalar_view (arg : Argument) : arg.view.scalar = arg.scalar := by
  cases arg <;> rfl

theorem Argument.scalar_eq_of_view (h : arg.view = arg'.view) : arg.scalar = arg'.scalar := by
  rw [← arg.scalar_view, h, arg'.scalar_view]

theorem Argument.filter_values (arg : Argument) :
    arg.values.filter (!·.isEmpty) = arg.view.values.filter (!·.isEmpty) := by
  cases arg with
  | value v => rfl
  | range r =>
    rw [Argument.view, List.filter_filter]
    simp only [Bool.and_self]
    rfl

theorem exists_cons_of_map_view {arg : Argument} {rest args' : List Argument}
    (h : (arg :: rest).map Argument.view = args'.map Argument.view) :
    ∃ arg' rest', args' = arg' :: rest' ∧ arg.view = arg'.view ∧
      rest.map Argument.view = rest'.map Argument.view := by
  obtain ⟨arg', rest', rfl, harg, hrest⟩ := List.map_eq_cons_iff.1 h.symm
  exact ⟨arg', rest', rfl, harg.symm, hrest.symm⟩

/-! ## The builtin functions -/

namespace Function

/-- The numbers of a reference are those of its cells that are not empty. -/
theorem numbersOf_range (range : RangeValue) : numbersOf (.range range) =
    numbersOf (.range { range with values := range.values.filter (!·.isEmpty) }) := by
  simp only [numbersOf]
  induction range.values with
  | nil => rfl
  | cons value values ih =>
    cases value with
    | empty => exact ih
    | number x => exact congrArg (Except.map (x :: ·)) ih
    | text s => exact ih
    | error e => rfl

theorem numbersOf_eq_of_view (h : arg.view = arg'.view) : numbersOf arg = numbersOf arg' := by
  cases arg with
  | value value =>
    cases arg' with
    | value value' =>
      rw [show value = value' from congrArg Argument.View.scalar h]
    | range range' => cases congrArg Argument.View.isRange h
  | range range =>
    cases arg' with
    | value value' => cases congrArg Argument.View.isRange h
    | range range' =>
      have hvalues : range.values.filter (!·.isEmpty) =
          range'.values.filter (!·.isEmpty) := congrArg Argument.View.values h
      rw [numbersOf_range range, numbersOf_range range']
      simp only [numbersOf, hvalues]

theorem numbers_eq_of_view (h : args.map Argument.view = args'.map Argument.view) :
    numbers args = numbers args' := by
  induction args generalizing args' with
  | nil => rw [List.map_eq_nil_iff.1 h.symm]
  | cons arg rest ih =>
    obtain ⟨arg', rest', rfl, harg, hrest⟩ := exists_cons_of_map_view h
    rw [numbers, numbers, numbersOf_eq_of_view harg, ih hrest]

theorem ofNumbers_eq_of_view {result : List Binary64 → Except Failure Value}
    (h : args.map Argument.view = args'.map Argument.view) :
    ofNumbers result args = ofNumbers result args' := by
  rw [ofNumbers, ofNumbers, numbers_eq_of_view h]

theorem countOf_filter (values : List Value) :
    countOf (values.filter (!·.isEmpty)) = countOf values := by
  induction values with
  | nil => rfl
  | cons value values ih =>
    cases value with
    | empty => exact ih
    | error e => rfl
    | _ => exact congrArg (Except.map (· + 1)) ih

theorem countOf_eq_of_view (h : args.map Argument.view = args'.map Argument.view) :
    countOf (args.flatMap Argument.values) = countOf (args'.flatMap Argument.values) := by
  have hfilter (args : List Argument) :
      (args.flatMap Argument.values).filter (!·.isEmpty) =
        (args.map Argument.view).flatMap (·.values.filter (!·.isEmpty)) := by
    rw [List.filter_flatMap, List.flatMap_map, funext Argument.filter_values]
  rw [← countOf_filter, hfilter, h, ← hfilter, countOf_filter]

theorem ofFirstNumber_eq_of_view {result : Binary64 → List Argument → Except Failure Value}
    (hresult : ∀ x rest rest', rest.map Argument.view = rest'.map Argument.view →
      result x rest = result x rest')
    (h : args.map Argument.view = args'.map Argument.view) :
    ofFirstNumber args result = ofFirstNumber args' result := by
  cases args with
  | nil => rw [List.map_eq_nil_iff.1 h.symm]
  | cons arg rest =>
    obtain ⟨arg', rest', rfl, harg, hrest⟩ := exists_cons_of_map_view h
    rw [ofFirstNumber, ofFirstNumber, Argument.scalar_eq_of_view harg]
    split
    · exact hresult _ rest rest' hrest
    · rfl

theorem round_eq_of_view (h : args.map Argument.view = args'.map Argument.view) :
    round.apply args = round.apply args' := by
  refine ofFirstNumber_eq_of_view (fun x rest rest' hrest => ?_) h
  cases rest with
  | nil => rw [List.map_eq_nil_iff.1 hrest.symm]
  | cons places rest =>
    obtain ⟨places', rest', rfl, hplaces, -⟩ := exists_cons_of_map_view hrest
    dsimp only
    rw [Argument.scalar_eq_of_view hplaces]

theorem conditional_eq_of_view (h : args.map Argument.view = args'.map Argument.view) :
    conditional.apply args = conditional.apply args' := by
  refine ofFirstNumber_eq_of_view (fun condition rest rest' hrest => ?_) h
  cases rest with
  | nil => rw [List.map_eq_nil_iff.1 hrest.symm]
  | cons whenTrue rest =>
    obtain ⟨whenTrue', rest', rfl, hwhenTrue, hrest⟩ := exists_cons_of_map_view hrest
    cases condition.equal (.zero false) with
    | false => exact congrArg Except.ok (Argument.scalar_eq_of_view hwhenTrue)
    | true =>
      cases rest with
      | nil => rw [List.map_eq_nil_iff.1 hrest.symm]
      | cons whenFalse rest =>
        obtain ⟨whenFalse', rest', rfl, hwhenFalse, -⟩ := exists_cons_of_map_view hrest
        exact congrArg Except.ok (Argument.scalar_eq_of_view hwhenFalse)

end Function

theorem Registry.ignoresBlanks_builtin : builtin.IgnoresBlanks := by
  intro name function hfind args args' h
  rcases builtin_cases hfind with rfl | rfl | rfl | rfl | rfl | rfl | rfl | rfl
  · exact Function.ofNumbers_eq_of_view h
  · exact Function.ofNumbers_eq_of_view h
  · exact Function.ofNumbers_eq_of_view h
  · exact Function.ofNumbers_eq_of_view h
  · simp only [Function.count, Function.countOf_eq_of_view h]
  · exact Function.ofFirstNumber_eq_of_view (fun _ _ _ _ => rfl) h
  · exact Function.round_eq_of_view h
  · exact Function.conditional_eq_of_view h

theorem Registry.IgnoresBlanks.sees {functions : Registry} (h : functions.IgnoresBlanks) :
    functions.Sees Argument.view where
  scalar _ _ hview := Argument.scalar_eq_of_view hview
  call name args args' hargs := by
    rw [call, call]
    cases hfind : functions.find? name with
    | none => rfl
    | some function => simp only [h name function hfind args args' hargs]

/-! ## Formulas with other references -/

namespace Expr

variable {functions : Registry} {source source' : Source} {origin origin' : Option Coord}
  {replace : Expr → Option Expr} {e : Expr}

/-- The reference and what it is replaced by look the same to a function. -/
def LooksAlike (source source' : Source) (origin origin' : Option Coord)
    (replace : Expr → Option Expr) (ref : Expr) : Prop :=
  ref.isReference → (ref.replaceReferences replace).isReference ∧
    (source'.argument origin' (ref.replaceReferences replace)).map Argument.view =
      (source.argument origin ref).map Argument.view

/-- A formula keeps its value when its references are replaced by such that look the same. -/
theorem eval_replaceReferences (hfunctions : functions.IgnoresBlanks)
    (h : e.Throughout (LooksAlike source source' origin origin' replace)) :
    (e.replaceReferences replace).eval functions source' origin' =
      e.eval functions source origin := by
  let Alike (ref ref' : Expr) : Prop := ref'.isReference ∧
    (source'.argument origin' ref').map Argument.view =
      (source.argument origin ref).map Argument.view
  have hsame : e.SameBut Alike (e.replaceReferences replace) := sameBut_replaceReferences h
  exact hsame.eval_eq hfunctions.sees fun _ _ _ halike => halike

end Expr

end Spreadsheet

import Spreadsheet.Proofs.Formula.Extension
import Spreadsheet.Proofs.Formula.Totality
import Spreadsheet.Proofs.Sheet.Reachable

/-!
# NaN is nowhere

Numbers may be infinite, and differences, products, quotients and sums of infinite numbers come out
as NaN; but the builtin functions and the operators give no result that is NaN. So no formula that
is read has the value NaN where no cell has it, and no cell of a reachable sheet holds NaN
(`Reachable.never_nan`).
-/

namespace Spreadsheet

/-- A formula that is read has a value wherever its source has all cells, and wherever it has one
this is not NaN, if that of no cell is. No cell of a sheet that edits make of a new one holds
NaN. -/
theorem Reachable.never_nan :
    (∀ (nRows nCols : Int) (text : String) (e : Expr),
      (⟨nRows, nCols, .builtin⟩ : Grammar).parse text = .ok e →
      ∀ source : Source,
        (∀ cell value, source.valueAt cell = .ok value → value ≠ .number .nan) →
        ∀ origin,
          (∀ value, e.eval .builtin source origin = .ok value → value ≠ .number .nan) ∧
          (source.Complete → ∃ value, e.eval .builtin source origin = .ok value)) ∧
    ∀ s, Reachable .builtin s → ∀ row ∈ s.rows, ∀ c ∈ row, c.value ≠ .number .nan := by
  refine ⟨fun nRows nCols text e hparse source hsource origin => ⟨fun value hvalue => ?_, ?_⟩,
    fun s h row hrow c hc => ?_⟩
  · have hdefinite := Expr.definite_of_eval Registry.lawful_builtin
      (Grammar.evaluable_of_parse hparse)
      (fun cell value hcell => Value.definite_iff_ne_nan.2 (hsource cell value hcell)) hvalue
    exact Value.definite_iff_ne_nan.1 hdefinite
  · exact fun hcomplete =>
      Grammar.exists_eval_of_parse hparse Registry.keeps_builtin hcomplete origin
  · have hcells := (h.consistent Registry.lawful_builtin).1.sound.cells
    have hdefinite := (Sheet.forall_cellAt (p := fun c => c.value.Definite) trivial).1
      (fun cell => (hcells cell).definite) row hrow c hc
    exact Value.definite_iff_ne_nan.1 hdefinite

/-- An infinite number less itself, as a value of a formula and in a cell. -/
theorem Reachable.never_nan_infinity :
    (∃ e value, (⟨1, 1, .builtin⟩ : Grammar).parse "A1-A1" = .ok e ∧
      e.eval .builtin ⟨1, 1, fun _ => .ok (.number (.infinity false))⟩ none = .ok value ∧
      value ≠ .number .nan) ∧
    ∀ row ∈ Sheet.sample.rows, ∀ c ∈ row, c.value ≠ .number .nan := by
  obtain ⟨hformulas, hsheets⟩ := never_nan
  have hparse : (⟨1, 1, .builtin⟩ : Grammar).parse "A1-A1" =
      .ok (.binary (.arithmetic .sub) (.cell ⟨0, 0⟩ false) (.cell ⟨0, 0⟩ false)) := by
    cbv
  have hsource : ∀ cell value, (⟨1, 1, fun _ => .ok (.number (.infinity false))⟩ : Source).valueAt
      cell = .ok value → value ≠ .number .nan := by
    rintro cell value ⟨⟩
    simp
  obtain ⟨hnan, htotal⟩ := hformulas 1 1 _ _ hparse _ hsource none
  obtain ⟨value, hvalue⟩ := htotal fun cell _ => ⟨_, rfl⟩
  exact ⟨⟨_, value, hparse, hvalue, hnan value hvalue⟩, hsheets _ Sheet.reachable_sample⟩

end Spreadsheet

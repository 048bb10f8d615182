import Mathlib
import Spreadsheet.Proofs.Formula.Identity
import Spreadsheet.Proofs.Sheet.Succession

/-!
# Texts that stay

When a row or column comes or goes, a formula none of whose references moves keeps its text as it
was typed, and any other has the text of the formula that it is then (`Reachable.rewording_spec`).
A cell without a formula, one whose text is no formula among them, keeps its text anyway.
-/

namespace Spreadsheet

open Sheet

variable {s : Sheet} {functions : Registry} {edit : Edit} {line : LineEdit} {cell cell' : Coord}

/-- The text and the formula of a cell that is left when a line comes or goes. -/
theorem Edit.adjusted_of_run (hs : s.Rectangular) (hline : edit.lineEdit? = some line)
    (hedit : edit.Grows s ∨ edit.Deletes s) :
    ∃ t r, edit.run s = .ok (t, some r) ∧ ∀ {cell cell'}, line.place? cell = some cell' →
      (t.cellAt cell').raw = (s.adjustCell line (s.cellAt cell)).raw ∧
      (t.cellAt cell').formula = (s.adjustCell line (s.cellAt cell)).formula := by
  obtain ⟨hfits, hrun⟩ := Edit.run_eq_follow hline hedit
  have hrelined := relined_relined hfits (edit.newColumn s.options)
  obtain ⟨links, -, hrevalued⟩ := revalued_rebuild (hs.follow hfits (edit.newColumn s.options))
  refine ⟨_, _, hrun, fun {cell cell'} hplace => ?_⟩
  have hcell : (s.follow line (edit.newColumn s.options)).cellAt cell' =
      s.adjustCell line (s.cellAt cell) := by
    rw [Sheet.follow, hrelined.cellAt_adjustFormulas hplace, adjustCell_congr hrelined.options]
  rw [← hcell]
  exact ⟨hrevalued.raw cell', hrevalued.formula cell'⟩

/-- A formula that is written anew after a line has come or gone can be written. -/
theorem Sheet.InStep.printFault?_afterEdit {formula e : Expr} (hs : s.InStep)
    (hformula : (s.cellAt cell).formula = some formula)
    (hfits : line.Fits (s.grammar.lines line.axis)) (hnew : formula.afterEdit? line = some e) :
    e.printFault? = none := by
  obtain ⟨body, -, hparse⟩ := hs.cells cell formula hformula
  obtain ⟨lowercase, hprintable⟩ := Grammar.exists_printable_of_parse hparse
  have hafter := Expr.printable_afterEdit (relined_relined hfits ⟨none, 0⟩).allows hprintable
  rw [hnew] at hafter
  exact Expr.printFault?_eq_none hafter

/-- When a row or column comes or goes, at whatever place, a formula in memory is left as the object
that it is just where none of the lines that its references name moves or goes, and is a new object
otherwise. So on a reachable sheet each cell that is left keeps the text that it has, unless it has
a formula of which a reference moves or goes: that is written anew, and its text is the marker and
the text of the new formula. -/
theorem Reachable.rewording_spec :
    (∀ e : Expr, ∃ object next, Object.Made next object ∧ object.formula = e) ∧
    (∀ (edit : LineEdit) (object : Object) (next : Nat), object.Made next →
      object.formula.Throughout Expr.Normalised →
      let after := ((object.afterEdit edit).run next).1
      (after.place = object.place ↔ object.formula.Throughout edit.Keeps) ∧
        (after.place = object.place → after = object) ∧
        object.formula.afterEdit? edit =
          if after.place = object.place then none else some after.formula) ∧
    ∀ (functions : Registry) (s : Sheet) (edit : Edit) (line : LineEdit), Reachable functions s →
      edit.lineEdit? = some line → edit.Grows s ∨ edit.Deletes s →
      ∃ t r, edit.run s = .ok (t, some r) ∧
        ∀ cell cell' : Coord, line.place? cell = some cell' →
          ((s.cellAt cell).formula = none →
            (t.cellAt cell').formula = none ∧ (t.cellAt cell').raw = (s.cellAt cell).raw) ∧
          ∀ formula, (s.cellAt cell).formula = some formula →
            formula.Throughout Expr.Normalised ∧
            (formula.Throughout line.Keeps → (t.cellAt cell').formula = some formula ∧
              (t.cellAt cell').raw = (s.cellAt cell).raw) ∧
            (¬ formula.Throughout line.Keeps → ∃ e, formula.afterEdit? line = some e ∧
              (t.cellAt cell').formula = some e ∧ e.printFault? = none ∧
              (t.cellAt cell').raw = s.options.formulaText e.print) := by
  refine ⟨Object.exists_made, fun edit object next => Object.place_afterEdit edit,
    fun functions s edit line h hline hedit => ?_⟩
  have hs := h.inStep.1
  obtain ⟨t, r, hrun, hcells⟩ := Edit.adjusted_of_run hs.rectangular hline hedit
  refine ⟨t, r, hrun, fun cell cell' hplace => ?_⟩
  obtain ⟨hraw, hformula'⟩ := hcells hplace
  rw [hraw, hformula']
  refine ⟨fun hnone => ?_, fun formula hformula => ?_⟩
  · rw [adjustCell_of_none hnone]
    exact ⟨hnone, rfl⟩
  obtain ⟨lowercase, hplaced⟩ := hs.exists_placed hformula
  have hnormal := hplaced.mono fun node hnode => hnode.normalised
  have hkeeps : formula.afterEdit? line = none ↔ formula.Throughout line.Keeps :=
    Expr.afterEdit?_eq_none_iff_keeps hnormal
  refine ⟨hnormal, fun hkept => ?_, fun hmoved => ?_⟩
  · rw [adjustCell, hformula, Option.bind_some, hkeeps.2 hkept]
    exact ⟨hformula, rfl⟩
  · obtain ⟨e, he⟩ := Option.ne_none_iff_exists'.1 (mt hkeeps.1 hmoved)
    have hfits := (Edit.run_eq_follow hline hedit).1
    rw [adjustCell, hformula, Option.bind_some, he]
    exact ⟨e, rfl, rfl, hs.printFault?_afterEdit hformula hfits he, rfl⟩

theorem cells_rangeSample : rangeSample.options = .standard ∧
    (rangeSample.cellAt ⟨0, 1⟩).formula = some (.cell ⟨0, 0⟩ false) ∧
    (rangeSample.cellAt ⟨0, 1⟩).raw = "=A1" ∧
    (rangeSample.cellAt ⟨1, 1⟩).formula = some (.range 0 0 1 0 false) ∧
    (rangeSample.cellAt ⟨1, 0⟩).formula = none ∧ (rangeSample.cellAt ⟨1, 0⟩).raw = "y" := by
  cbv
  exact ⟨rfl, rfl, trivial⟩

/-- A row before the second one changes the text of `B2`, not that of `B1` nor that of `A2`, and
makes the negated range of `A1` and `A2` a new object. -/
theorem rewording_spec_sample :
    (((Object.unary 1 .minus (.leaf 0 (.range 0 0 1 0 false))).afterEdit
      (.insert .row 1)).run 2).1.place ≠ 1 ∧
    ∃ t r, (Edit.insertRow 1).run rangeSample = .ok (t, some r) ∧
      (t.cellAt ⟨0, 1⟩).raw = "=A1" ∧ (t.cellAt ⟨2, 1⟩).raw = "=A1:A3" ∧
      (t.cellAt ⟨2, 0⟩).raw = "y" := by
  obtain ⟨-, hobjects, hsheets⟩ := Reachable.rewording_spec
  have hkept : (Expr.cell ⟨0, 0⟩ false).Throughout (LineEdit.insert .row 1).Keeps :=
    (Expr.throughout_of_isReference rfl).2 (by decide)
  have hmoved : ¬ (Expr.range 0 0 1 0 false).Throughout (LineEdit.insert .row 1).Keeps :=
    fun h => absurd ((Expr.throughout_of_isReference rfl).1 h 1 (by decide)) (by decide)
  refine ⟨fun hplace => ?_, ?_⟩
  · have hmade : (Object.unary 1 .minus (.leaf 0 (.range 0 0 1 0 false))).Made 2 :=
      .unary (by decide) (.leaf (by decide) rfl)
    have hnormal : (Expr.unary .minus (.range 0 0 1 0 false)).Throughout Expr.Normalised :=
      Expr.throughout_unary.2 ⟨trivial, (Expr.throughout_of_isReference rfl).2 ⟨by decide, le_rfl⟩⟩
    have hall := (hobjects (.insert .row 1) _ 2 hmade hnormal).1.1 hplace
    exact hmoved (Expr.throughout_unary.1 hall).2
  · have hedit : (Edit.insertRow 1).Grows rangeSample := by
      rw [Edit.Grows, size_rangeSample.1]
      decide
    obtain ⟨t, r, hrun, hcells⟩ := hsheets .builtin rangeSample (.insertRow 1) _
      reachable_rangeSample rfl (.inl hedit)
    obtain ⟨hoptions, hfirst, hfirstRaw, hsecond, htext, htextRaw⟩ := cells_rangeSample
    have hkeeps := ((hcells ⟨0, 1⟩ ⟨0, 1⟩ rfl).2 _ hfirst).2.1 hkept
    obtain ⟨e, he, -, -, hraw⟩ := ((hcells ⟨1, 1⟩ ⟨2, 1⟩ rfl).2 _ hsecond).2.2 hmoved
    have hlabel := (hcells ⟨1, 0⟩ ⟨2, 0⟩ rfl).1 htext
    cases he
    refine ⟨t, r, hrun, hkeeps.2.trans hfirstRaw, hraw.trans ?_, hlabel.2.trans htextRaw⟩
    rw [hoptions]
    cbv

end Spreadsheet

import Spreadsheet.Proofs.Sheet.Reachable

/-!
# The values of reachable sheets

What the cells of a reachable sheet hold (`Reachable.cell_spec`), what they hold after an edit that
computes all formulas (`Reachable.computesAll_spec`), and what computing all formulas changes
(`Reachable.recalculate_spec`): nothing but formulas that depend on a cycle without being on it.
These are not errors as long as neither they nor the cells that they read are entered again.
-/

namespace Spreadsheet

/-- A definite value is the same as itself. -/
theorem Value.Definite.same_self {value : Value} (h : value.Definite) : value.same value := by
  cases value with
  | number x =>
    have hequal : x.compare? x = some .eq := by
      cases x with
      | finite x => exact congrArg some (Std.ReflCmp.compare_self)
      | infinity negative => simp [Binary64.compare?]
      | nan => cases h
    exact beq_iff_eq.2 hequal
  | text s => simp [same]
  | error e => simp [same]
  | empty => rfl

namespace Sheet

variable {s t : Sheet} {cell : Coord} {formula : Expr}

/-! ## What the cells hold -/

/-- A formula that is not below a cycle evaluates to the value of its cell. -/
theorem Consistent.eval_eq_ok (h : s.Consistent) (hformula : (s.cellAt cell).formula = some formula)
    (hnot : ¬ s.links.BelowCycle cell) :
    formula.eval s.functions s.source (some cell) = .ok (s.valueAt cell) := by
  rw [(h.sound.eval_eq_ok hformula).1, h.upToDate.evaluated cell formula hformula hnot]

end Sheet

open Sheet

variable {s : Sheet}

/-- A cell of a reachable sheet holds what its text says: a text that is no formula its literal
value, a formula that cannot be read an error, a formula on a cycle the circular error, and one that
is neither on a cycle nor dependent on one the value to which it evaluates on the sheet. -/
theorem Reachable.cell_spec (h : Reachable .builtin s) (cell : Coord) :
    (s.options.isFormula (s.cellAt cell).raw = false →
      (s.cellAt cell).formula = none ∧ s.valueAt cell = .ofLiteral (s.cellAt cell).raw) ∧
    (s.options.isFormula (s.cellAt cell).raw = true → (s.cellAt cell).formula = none →
      ∃ e : CellError, e.kind = .parse ∧ s.valueAt cell = .error e) ∧
    (∀ formula, (s.cellAt cell).formula = some formula → s.links.Circular cell →
      s.valueAt cell = circularValue) ∧
    (∀ formula, (s.cellAt cell).formula = some formula → ¬ s.links.BelowCycle cell →
      formula.eval .builtin s.source (some cell) = .ok (s.valueAt cell)) := by
  obtain ⟨hs, hfunctions⟩ := h.consistent Registry.lawful_builtin
  have hsound := hs.sound.cells cell
  refine ⟨fun hliteral => hsound.literal ?_, hsound.unreadable,
    fun _ _ hcycle => hs.upToDate.circular cell hcycle, fun formula hformula hnot => ?_⟩
  · exact Option.not_isSome_iff_eq_none.1 (Bool.eq_false_iff.1 hliteral)
  · exact hfunctions ▸ hs.eval_eq_ok hformula hnot

theorem cell_spec_sample :
    sample.valueAt ⟨1, 0⟩ = .ofLiteral "x" ∧ sample.valueAt ⟨0, 0⟩ = circularValue ∧
      Expr.eval .builtin sample.source (some ⟨1, 1⟩) (.cell ⟨1, 0⟩ false) =
        .ok (sample.valueAt ⟨1, 1⟩) := by
  have hraw : (sample.cellAt ⟨1, 0⟩).raw = "x" := by
    rw [cellAt, rows_sample]
    rfl
  have hliteral : sample.options.isFormula (sample.cellAt ⟨1, 0⟩).raw = false := by
    rw [hraw, options_sample]
    decide
  obtain ⟨hcircular, -, hformula⟩ := formula_sample
  refine ⟨?_, ?_, ?_⟩
  · rw [((reachable_sample.cell_spec ⟨1, 0⟩).1 hliteral).2, hraw]
  · exact (reachable_sample.cell_spec ⟨0, 0⟩).2.2.1 _ hcircular circular_sample
  · exact (reachable_sample.cell_spec ⟨1, 1⟩).2.2.2 _ hformula not_belowCycle_sample

/-! ## All formulas computed -/

/-- After an edit that computes all formulas, those below a cycle are errors and all others have
their values; the report lists the former as circular and each formula once as computed. The values
depend on nothing but the formulas and the other values: another such edit, of any sheet that is
sound and linked whatever values its formulas held, leaves the same values if it leaves the same
formulas and the same other values. -/
theorem Reachable.computesAll_spec (h : Reachable .builtin s) {t : Sheet} {edit : Edit}
    {report : Option Recalc} (hall : edit.computesAll) (hrun : edit.run s = .ok (t, report)) :
    ∃ r, report = some r ∧
    (∀ cell formula, (t.cellAt cell).formula = some formula →
      (t.links.BelowCycle cell → t.valueAt cell = circularValue) ∧
      (¬ t.links.BelowCycle cell →
        formula.eval .builtin t.source (some cell) = .ok (t.valueAt cell))) ∧
    (∀ cell, cell ∈ r.circular ↔ t.links.BelowCycle cell) ∧
    r.recomputed.Nodup ∧ (∀ cell, cell ∈ r.recomputed ↔ (t.cellAt cell).formula.isSome) ∧
    (∀ (s' t' : Sheet) (edit' : Edit) (report' : Option Recalc), s'.Sound → s'.Linked →
      s'.functions = .builtin → edit'.computesAll → edit'.run s' = .ok (t', report') →
      t'.nRows = t.nRows → t'.nCols = t.nCols →
      (∀ cell, (t'.cellAt cell).formula = (t.cellAt cell).formula) →
      (∀ cell, (t.cellAt cell).formula = none → t'.valueAt cell = t.valueAt cell) →
      ∀ cell, t'.valueAt cell = t.valueAt cell) := by
  obtain ⟨hs, hfunctions⟩ := h.consistent Registry.lawful_builtin
  obtain ⟨r, hreport, hrecomputed⟩ := Edit.recomputed hs.sound hs.linked hall hrun
  have ht := hrecomputed.consistent
  have htFunctions : t.functions = .builtin := hrecomputed.functions_eq.trans hfunctions
  refine ⟨r, hreport, fun cell formula hformula => ⟨hrecomputed.computed.circular cell, ?_⟩,
    fun _ => hrecomputed.mem_circular, hrecomputed.nodup_recomputed,
    fun _ => hrecomputed.mem_recomputed, ?_⟩
  · exact fun hnot => htFunctions ▸ ht.eval_eq_ok hformula hnot
  · intro s' t' edit' report' hsound' hlinked' hfunctions' hall' hrun' hrows hcols hformulas hvalues
    obtain ⟨r', -, hrecomputed'⟩ := Edit.recomputed hsound' hlinked' hall' hrun'
    have hsize : t.SameSize t' :=
      ⟨hrows, hcols, (hrecomputed'.functions_eq.trans hfunctions').trans htFunctions.symm⟩
    exact hrecomputed.valueAt_eq hrecomputed' ⟨hsize, hformulas, hvalues⟩

theorem computesAll_spec_sample :
    sample.recalculate.1.valueAt ⟨0, 1⟩ = circularValue ∧
      (⟨0, 1⟩ ∈ sample.recalculate.2.circular ∧ ⟨1, 1⟩ ∉ sample.recalculate.2.circular) ∧
      (sample.recalculate.1.setValue ⟨1, 1⟩ .empty).recalculate.1.valueAt ⟨1, 1⟩ =
        sample.recalculate.1.valueAt ⟨1, 1⟩ := by
  have hrun (s : Sheet) :
      Edit.recalculate.run s = .ok (s.recalculate.1, some s.recalculate.2) := rfl
  obtain ⟨r, hr, hvalues, hcircular, -, -, hsame⟩ :=
    reachable_sample.computesAll_spec rfl (hrun sample)
  obtain rfl : sample.recalculate.2 = r := Option.some.inj hr
  obtain ⟨hs, hfunctions⟩ := reachable_sample.consistent Registry.lawful_builtin
  obtain ⟨ht, htFunctions⟩ := hs.run (hrun sample)
  have hrevalued := revalued_recalculate hs.linked
  obtain ⟨-, hrange, htext⟩ := formula_sample
  rw [← hrevalued.formula] at hrange htext
  have hbelow := belowCycle_sample
  have hnot := not_belowCycle_sample
  rw [← hrevalued.links] at hbelow hnot
  refine ⟨(hvalues _ _ hrange).1 hbelow, ⟨(hcircular _).2 hbelow, (hcircular _).not.2 hnot⟩, ?_⟩
  have hstale := revalued_setValue htext .empty
  have hsound : (sample.recalculate.1.setValue ⟨1, 1⟩ .empty).Sound :=
    ht.sound.setValue htext trivial
  have hlinked := hstale.linked ht.linked
  have hinputs := (hstale.trans (revalued_recalculate hlinked)).sameInputs
  exact hsame _ _ .recalculate _ hsound hlinked (htFunctions.trans hfunctions) rfl (hrun _)
    hinputs.nRows hinputs.nCols hinputs.formula hinputs.value ⟨1, 1⟩

/-! ## What computing all formulas changes -/

theorem Sheet.mem_changesOf {cells : List Coord} {before after : Sheet} {change : Change} :
    change ∈ changesOf cells before after ↔
      change.cell ∈ cells ∧ change.before = before.valueAt change.cell ∧
        change.after = after.valueAt change.cell ∧ ¬ change.before.same change.after := by
  rw [changesOf, List.mem_filterMap]
  constructor
  · rintro ⟨cell, hcell, hchange⟩
    split at hchange <;> cases hchange
    exact ⟨hcell, rfl, rfl, ‹_›⟩
  · rintro ⟨hcell, hbefore, hafter, hne⟩
    rw [hbefore, hafter] at hne
    exact ⟨change.cell, hcell, by rw [if_neg hne, ← hbefore, ← hafter]⟩

namespace Sheet.Consistent

theorem valueAt_recalculate_of_belowCycle (h : s.Consistent) {cell : Coord}
    (hbelow : s.links.BelowCycle cell) : s.recalculate.1.valueAt cell = circularValue := by
  rw [← (revalued_recalculate h.linked).links] at hbelow
  exact (computed_recalculate h.linked h.sound.rectangular).circular cell hbelow

/-- A cell that is on a cycle or not below one keeps its value when all formulas are computed. -/
theorem valueAt_recalculate (h : s.Consistent) {cell : Coord}
    (hcell : ¬ (s.links.BelowCycle cell ∧ ¬ s.links.Circular cell)) :
    s.recalculate.1.valueAt cell = s.valueAt cell := by
  have hrevalued := revalued_recalculate h.linked
  have hcomputed := computed_recalculate h.linked h.sound.rectangular
  by_cases hbelow : s.links.BelowCycle cell
  · have hcircular : s.links.Circular cell := not_not.1 fun hnot => hcell ⟨hbelow, hnot⟩
    rw [h.upToDate.circular cell hcircular, h.valueAt_recalculate_of_belowCycle hbelow]
  · exact hrevalued.sameInputs.valueAt_eq h.linked (hrevalued.linked h.linked) h.upToDate
      hcomputed.upToDate hbelow

/-- The changes reported when all formulas are computed. -/
theorem mem_changes_recalculate (h : s.Consistent) {change : Change} :
    change ∈ s.recalculate.2.changes ↔
      (s.links.BelowCycle change.cell ∧ ¬ s.links.Circular change.cell) ∧
        change.before = s.valueAt change.cell ∧ change.after = circularValue ∧
        ¬ change.before.same circularValue := by
  have hmem : change ∈ s.recalculate.2.changes ↔ change.cell ∈ s.recalculate.2.recomputed ∧
      change.before = s.valueAt change.cell ∧
      change.after = s.recalculate.1.valueAt change.cell ∧
      ¬ change.before.same change.after := mem_changesOf
  rw [hmem]
  constructor
  · rintro ⟨-, hbefore, hafter, hne⟩
    -- A cell that keeps its value is not reported, for the value is the same as itself.
    have hcell : s.links.BelowCycle change.cell ∧ ¬ s.links.Circular change.cell := by
      by_contra hcell
      rw [hafter, h.valueAt_recalculate hcell, hbefore] at hne
      exact hne (h.sound.cells change.cell).definite.same_self
    rw [h.valueAt_recalculate_of_belowCycle hcell.1] at hafter
    exact ⟨hcell, hbefore, hafter, hafter ▸ hne⟩
  · rintro ⟨hcell, hbefore, hafter, hne⟩
    obtain ⟨formula, hformula⟩ := h.linked.exists_formula_of_belowCycle hcell.1
    refine ⟨Links.mem_cells_schedule.2 ?_, hbefore, ?_, hafter ▸ hne⟩
    · exact h.sound.rectangular.mem_formulaCells.2 (hformula ▸ rfl)
    · rw [hafter, h.valueAt_recalculate_of_belowCycle hcell.1]

end Sheet.Consistent

/-- Computing all formulas of a reachable sheet changes no other cells than those below a cycle but
not on one, and makes these errors; it reports a change exactly of those that were no such error
before, and none on a sheet without cycles. -/
theorem Reachable.recalculate_spec (h : Reachable .builtin s) :
    (∀ cell, ¬ (s.links.BelowCycle cell ∧ ¬ s.links.Circular cell) →
      s.recalculate.1.valueAt cell = s.valueAt cell) ∧
    (∀ cell, s.links.BelowCycle cell → s.recalculate.1.valueAt cell = circularValue) ∧
    (∀ change, change ∈ s.recalculate.2.changes ↔
      (s.links.BelowCycle change.cell ∧ ¬ s.links.Circular change.cell) ∧
        change.before = s.valueAt change.cell ∧ change.after = circularValue ∧
        ¬ change.before.same circularValue) ∧
    (s.links.Acyclic → s.recalculate.2.changes = []) := by
  obtain ⟨hs, -⟩ := h.consistent Registry.lawful_builtin
  refine ⟨fun _ => hs.valueAt_recalculate, fun _ => hs.valueAt_recalculate_of_belowCycle,
    fun _ => hs.mem_changes_recalculate, fun hacyclic => ?_⟩
  refine List.eq_nil_iff_forall_not_mem.2 fun change hchange => ?_
  exact hacyclic.not_belowCycle _ (hs.mem_changes_recalculate.1 hchange).1.1

theorem recalculate_spec_sample :
    sample.recalculate.1.valueAt ⟨1, 1⟩ = sample.valueAt ⟨1, 1⟩ ∧
      sample.recalculate.1.valueAt ⟨0, 1⟩ = circularValue := by
  obtain ⟨hkept, hcircular, -⟩ := reachable_sample.recalculate_spec
  exact ⟨hkept _ fun h => not_belowCycle_sample h.1, hcircular _ belowCycle_sample⟩

/-- The formula in `B1` keeps its value as long as it is not entered again. -/
theorem changes_recalculate_sample :
    Reachable .builtin sample ∧
      sample.recalculate.2.changes = [⟨⟨0, 1⟩,
        .error (.of .type "range used where a single value is expected"), circularValue⟩] :=
  ⟨reachable_sample, by cbv⟩

end Spreadsheet

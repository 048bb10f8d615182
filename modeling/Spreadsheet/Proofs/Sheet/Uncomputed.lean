import Spreadsheet.Proofs.Sheet.EntryOrder
import Spreadsheet.Proofs.Sheet.InStep

/-!
# What computing starts from

Linking a sheet anew and computing it looks neither at the values that formulas have nor at what is
recorded of their reads: it makes the same of the sheet without these (`rebuild_uncomputed`), and
takes nothing else away (`uncomputed_rebuild`). So of two edits that compute all formulas, one after
the other, the first need not have computed any. A sheet that is linked and computed stays as it is
(`rebuild_eq_self`); the reachable sheets without cycles are such (`Reachable.computed`), whatever
the functions.
-/

namespace Spreadsheet

/-- The cell without the value that its formula has. -/
def Cell.uncomputed (c : Cell) : Cell :=
  match c.formula with
  | some _ => { c with value := .empty }
  | none => c

@[simp] theorem Cell.raw_uncomputed (c : Cell) : c.uncomputed.raw = c.raw := by
  unfold uncomputed
  split <;> rfl

@[simp] theorem Cell.formula_uncomputed (c : Cell) : c.uncomputed.formula = c.formula := by
  unfold uncomputed
  split <;> rfl

theorem Cell.value_uncomputed {c : Cell} (h : c.formula = none) : c.uncomputed.value = c.value := by
  rw [uncomputed, h]

/-- Cells that differ in no more than the value of a formula have the same rest. -/
theorem Cell.uncomputed_eq {c c' : Cell} (hraw : c'.raw = c.raw) (hformula : c'.formula = c.formula)
    (hvalue : c.formula = none → c'.value = c.value) : c'.uncomputed = c.uncomputed := by
  refine Cell.ext (by simp [hraw]) (by simp [hformula]) ?_
  cases h : c.formula with
  | none => rw [value_uncomputed h, value_uncomputed (hformula.trans h), hvalue h]
  | some formula => rw [uncomputed, uncomputed, h, hformula, h]

namespace Sheet

variable {start s t : Sheet}

/-! ## Computed sheets -/

/-- The sheet is linked and computed, as `rebuild` leaves sheets. -/
structure Rebuilt (s : Sheet) : Prop where
  rectangular : s.Rectangular
  linked : s.Linked
  computed : s.Computed

theorem rebuilt_rebuild (h : s.Rectangular) : s.rebuild.1.Rebuilt := by
  obtain ⟨links, hlinks, hlinked⟩ := relink_spec h
  have hcomputed := computed_recalculate hlinked h
  have hrevalued := revalued_recalculate hlinked
  rw [rebuild, hlinks]
  exact ⟨hrevalued.rectangular h, hrevalued.linked hlinked, hcomputed⟩

/-- Rebuilt sheets of one frame with the same texts, the same formulas and the same values of other
cells are equal. -/
theorem Rebuilt.eq_of_cells (hs : s.Rebuilt) (ht : t.Rebuilt) (hframe : s.SameFrame t)
    (hraw : ∀ cell, (t.cellAt cell).raw = (s.cellAt cell).raw)
    (hformula : ∀ cell, (t.cellAt cell).formula = (s.cellAt cell).formula)
    (hvalue : ∀ cell, (s.cellAt cell).formula = none → t.valueAt cell = s.valueAt cell) :
    t = s := by
  have hinputs : s.SameInputs t := ⟨hframe.sameSize, hformula, hvalue⟩
  have hlinks := hinputs.links_eq hs.linked ht.linked
  refine (SameFrame.refl s).eq_of_cellAt hframe hs.rectangular hlinks fun cell => ?_
  exact Cell.ext (hraw cell) (hformula cell)
    (hinputs.valueAt_eq_of_computed hs.linked ht.linked hs.computed ht.computed cell)

/-- Linking a sheet anew and computing it changes no texts, no formulas and no values of other
cells. -/
theorem rebuild_spec (h : s.Rectangular) : s.SameFrame s.rebuild.1 ∧
    (∀ cell, (s.rebuild.1.cellAt cell).raw = (s.cellAt cell).raw) ∧
    (∀ cell, (s.rebuild.1.cellAt cell).formula = (s.cellAt cell).formula) ∧
    ∀ cell, (s.cellAt cell).formula = none → s.rebuild.1.valueAt cell = s.valueAt cell := by
  obtain ⟨links, -, hrevalued⟩ := revalued_rebuild h
  have hlinks : s.SameFrame { s with links } := ⟨rfl, rfl⟩
  exact ⟨hlinks.trans hrevalued.toSameFrame, hrevalued.raw, hrevalued.formula, hrevalued.value⟩

/-- A rebuilt sheet stays as it is. -/
theorem Rebuilt.rebuild_eq_self (h : s.Rebuilt) : s.rebuild.1 = s := by
  obtain ⟨hframe, hraw, hformula, hvalue⟩ := rebuild_spec h.rectangular
  exact h.eq_of_cells (rebuilt_rebuild h.rectangular) hframe hraw hformula hvalue

/-! ## Values taken away -/

/-- The sheet without the values of formulas and without the record of their reads. -/
def uncomputed (s : Sheet) : Sheet :=
  { s with rows := s.rows.map (·.map Cell.uncomputed), links := .empty }

theorem sameFrame_uncomputed (s : Sheet) : s.SameFrame s.uncomputed := by
  refine ⟨rfl, ?_⟩
  rw [uncomputed, List.map_map]
  exact List.map_congr_left fun _ _ => List.length_map _

theorem cellAt_uncomputed (s : Sheet) (cell : Coord) :
    s.uncomputed.cellAt cell = (s.cellAt cell).uncomputed := by
  rw [cellAt, cellAt, uncomputed, Table.get?_map]
  cases s.rows.get? cell <;> rfl

theorem uncomputed_rebuild (h : s.Rectangular) : s.rebuild.1.uncomputed = s.uncomputed := by
  obtain ⟨hframe, hraw, hformula, hvalue⟩ := rebuild_spec h
  refine s.sameFrame_uncomputed.eq_of_cellAt (hframe.trans (sameFrame_uncomputed _)) h rfl
    fun cell => ?_
  rw [cellAt_uncomputed, cellAt_uncomputed]
  exact Cell.uncomputed_eq (hraw cell) (hformula cell) (hvalue cell)

theorem rebuild_uncomputed (h : s.Rectangular) : s.uncomputed.rebuild.1 = s.rebuild.1 := by
  have hframe := s.sameFrame_uncomputed
  have hrect := hframe.rectangular h
  obtain ⟨hframe', hraw', hformula', hvalue'⟩ := rebuild_spec hrect
  obtain ⟨hsame, hraw, hformula, hvalue⟩ := rebuild_spec h
  have hback : s.rebuild.1.SameFrame s := by
    refine ⟨?_, hsame.lengths.symm⟩
    conv => rhs; rw [hsame.eq_with]
  refine (rebuilt_rebuild h).eq_of_cells (rebuilt_rebuild hrect)
    ((hback.trans hframe).trans hframe') (fun cell => ?_) (fun cell => ?_) fun cell hnone => ?_
  · rw [hraw', cellAt_uncomputed, Cell.raw_uncomputed, hraw]
  · rw [hformula', cellAt_uncomputed, Cell.formula_uncomputed, hformula]
  · rw [hformula] at hnone
    have hnone' : (s.uncomputed.cellAt cell).formula = none := by
      rw [cellAt_uncomputed, Cell.formula_uncomputed, hnone]
    rw [hvalue' cell hnone', hvalue cell hnone, valueAt, cellAt_uncomputed,
      Cell.value_uncomputed hnone, valueAt]

/-- What computing makes of two sheets that differ in no more than what it starts without. -/
theorem rebuild_eq_of_uncomputed (hs : s.Rectangular) (ht : t.Rectangular)
    (h : t.uncomputed = s.uncomputed) : t.rebuild.1 = s.rebuild.1 := by
  rw [← rebuild_uncomputed ht, h, rebuild_uncomputed hs]

/-! ## Reachable sheets -/

/-- Names and widths of columns and fixed rows do not matter. -/
theorem UpToDate.relabel (h : s.UpToDate) {columns : List Column} (fixedRows : Nat)
    (hcolumns : columns.length = s.columns.length) : UpToDate { s with columns, fixedRows } := by
  have hsize : s.SameSize { s with columns, fixedRows } := ⟨rfl, hcolumns, rfl⟩
  refine ⟨h.circular, fun cell formula hformula hnot => ?_⟩
  exact (hsize.evaluate_eq fun _ _ => rfl).trans (h.evaluated cell formula hformula hnot)

/-- An edit keeps a sheet up to date. -/
theorem UpToDate.run (h : s.UpToDate) (hs : s.InStep) {edit : Edit} {report : Option Recalc}
    (hrun : edit.run s = .ok (t, report)) : t.UpToDate := by
  by_cases htexts : edit.entersTexts
  · obtain ⟨cell, raw, r, -, -, htext⟩ | ⟨entries, r, hentries, -, hload⟩ :=
      Edit.texts_of_run htexts hrun
    · obtain rfl := congrArg Prod.fst htext
      exact h.setTextAt hs.linked cell raw
    · obtain rfl := congrArg Prod.fst hload
      have hall := hs.installAll hentries
      exact (computed_recalculate hall.linked hall.rectangular).upToDate
  by_cases hrestructures : edit.restructures
  · obtain ⟨base, r, -, hbase, hrebuild⟩ :=
      Edit.restructured_of_run hs.rectangular hrestructures hrun
    obtain rfl := congrArg Prod.fst hrebuild
    exact (rebuilt_rebuild (hs.restructured hbase).1).computed.upToDate
  obtain ⟨-, columns, fixedRows, hcolumns, rfl⟩ := Edit.relabelled_of_run
    (Bool.eq_false_iff.2 htexts) (Bool.eq_false_iff.2 hrestructures) hrun
  exact h.relabel fixedRows hcolumns

theorem upToDate_blank (nRows nCols : Nat) (options : Options) (functions : Registry) :
    (blank nRows nCols options functions).UpToDate where
  circular cell hcycle := by
    obtain ⟨ref, hread, -⟩ := hcycle.exists_reads
    cases hread
  evaluated cell formula hformula := by
    rw [cellAt_blank] at hformula
    cases hformula

end Sheet

open Sheet

variable {functions : Registry} {s : Sheet}

/-- All reachable sheets are up to date. -/
theorem Reachable.upToDate (h : Reachable functions s) : s.UpToDate := by
  refine (h.of_make_of_run (p := fun s => s.InStep ∧ s.UpToDate) (fun hmake => ?_)
    fun hs hrun => ⟨(hs.1.run hrun).1, hs.2.run hs.1 hrun⟩).2
  refine ⟨(inStep_of_make hmake).1, ?_⟩
  obtain ⟨columns, hcolumns, rfl⟩ := make_eq_ok hmake
  exact (upToDate_blank ..).relabel 0 (hcolumns.trans List.length_replicate.symm)

/-- A reachable sheet on which no formula is on a cycle is computed. -/
theorem Reachable.rebuilt (h : Reachable functions s) (hacyclic : s.links.Acyclic) : s.Rebuilt where
  rectangular := h.inStep.1.rectangular
  linked := h.inStep.1.linked
  computed :=
    ⟨fun cell hbelow => absurd hbelow (hacyclic.not_belowCycle cell), h.upToDate.evaluated⟩

end Spreadsheet

import Mathlib
import Spreadsheet.Proofs.Dependency.Restriction
import Spreadsheet.Proofs.Sheet.InStep
import Spreadsheet.Proofs.Sheet.Values

/-!
# What entering a text touches and reports

Entering a text in a cell computes that cell and those that depend on it, and reports exactly what
this changes (`Reachable.setText_spec`). Of the other cells it changes nothing, and of all but the
entered cell nothing but values.
-/

namespace Spreadsheet

open Relation

namespace Sheet

variable {s t : Sheet} {cell other : Coord} {cells : List Coord} {raw : String}

/-! ## Reports of changes -/

theorem map_cell_changesOf (cells : List Coord) (before after : Sheet) :
    (changesOf cells before after).map Change.cell =
      cells.filter fun cell => !(before.valueAt cell).same (after.valueAt cell) := by
  rw [changesOf, List.map_filterMap, ← List.filterMap_eq_filter]
  refine List.filterMap_congr fun cell _ => ?_
  cases hsame : (before.valueAt cell).same (after.valueAt cell) <;> simp [Option.guard, hsame]

/-- Where the other cells keep their values and these are definite, the changes of some cells are
all that there are. -/
theorem exists_mem_changesOf (hkept : other ∉ cells → t.valueAt other = s.valueAt other)
    (hdefinite : (s.valueAt other).Definite) :
    (∃ change ∈ changesOf cells s t, change.cell = other) ↔
      ¬ (s.valueAt other).same (t.valueAt other) := by
  rw [← List.mem_map, map_cell_changesOf, List.mem_filter, Bool.not_eq_true', ← Bool.not_eq_true]
  refine and_iff_right_of_imp fun hne => ?_
  by_contra hmem
  exact hne (hkept hmem ▸ hdefinite.same_self)

/-! ## What is computed -/

theorem links_setTextAt (h : s.Linked) (cell : Coord) (raw : String) :
    (s.setTextAt cell raw).1.links = (s.install cell raw).links :=
  (h.revalued_setTextAt cell raw).links

/-- The cells that depend on the entered one are computed. -/
theorem mem_recomputed_setTextAt (h : s.Linked) :
    other ∈ (s.setTextAt cell raw).2.recomputed ↔
      ReflTransGen (s.setTextAt cell raw).1.links.Reads other cell := by
  have hordered := (h.install cell raw).ordered
  rw [links_setTextAt h]
  exact (Links.mem_cells_scheduleFrom hordered).trans (by simp)

/-- The cells that are not computed keep their values. -/
theorem valueAt_setTextAt_of_not_mem
    (hother : other ∉ (s.setTextAt cell raw).2.recomputed) :
    (s.setTextAt cell raw).1.valueAt other = s.valueAt other := by
  have hne : other ≠ cell := by
    rintro rfl
    refine hother (Links.mem_cells_schedule.2 ?_)
    exact List.mem_append_left _ List.mem_cons_self
  have hsettled : (s.setTextAt cell raw).1.valueAt other = (s.install cell raw).valueAt other :=
    valueAt_settled_of_not_mem hother
  rw [hsettled, valueAt, cellAt_install_of_ne hne, valueAt]

/-- Of the cells that are not entered nothing changes but values. -/
theorem setTextAt_of_ne (h : s.Linked) (hne : other ≠ cell) :
    ((s.setTextAt cell raw).1.cellAt other).raw = (s.cellAt other).raw ∧
      ((s.setTextAt cell raw).1.cellAt other).formula = (s.cellAt other).formula ∧
      (s.setTextAt cell raw).1.links.reads other = s.links.reads other := by
  have hrevalued := h.revalued_setTextAt cell raw
  rw [hrevalued.raw, hrevalued.formula, hrevalued.links, cellAt_install_of_ne hne,
    reads_install_of_ne hne]
  exact ⟨rfl, rfl, rfl⟩

end Sheet

open Sheet

variable {functions : Registry} {s t : Sheet} {cell : Coord} {raw : String} {r : Recalc}

/-- Entering a text in a cell of a reachable sheet computes the cells that depend on it, each once:
first those that can be placed, each after what it reads of the computed cells, then in ascending
order those on or below a cycle of computed cells, which are reported as circular. The changes are
those of the computed cells that differ, in the order in which they are computed, with their values
before and after; a cell that is not computed keeps its value, so that with lawful functions the
changes are those of the whole sheet. All other cells keep their texts, formulas and reads, and the
columns, the size and the number of fixed rows stay. -/
theorem Reachable.setText_spec (h : Reachable functions s)
    (hrun : s.setText cell raw = .ok (t, r)) :
    (r.recomputed.Nodup ∧
      ∀ other, other ∈ r.recomputed ↔ ReflTransGen t.links.Reads other cell) ∧
    (∃ order, r.recomputed = order ++ r.circular ∧ Coord.Ascends r.circular ∧
      ∀ before placed after, order = before ++ placed :: after →
        ∀ ref ∈ r.recomputed, t.links.Reads placed ref → ref ∈ before) ∧
    (∀ other, other ∈ r.circular ↔ (t.links.restrict r.recomputed).BelowCycle other) ∧
    (r.changes.map Change.cell =
        r.recomputed.filter (fun other => !(s.valueAt other).same (t.valueAt other)) ∧
      ∀ change ∈ r.changes,
        change.before = s.valueAt change.cell ∧ change.after = t.valueAt change.cell) ∧
    (∀ other, other ∉ r.recomputed → t.valueAt other = s.valueAt other) ∧
    (functions.Lawful → ∀ other, (∃ change ∈ r.changes, change.cell = other) ↔
      ¬ (s.valueAt other).same (t.valueAt other)) ∧
    (∀ other, other ≠ cell → (t.cellAt other).raw = (s.cellAt other).raw ∧
      (t.cellAt other).formula = (s.cellAt other).formula ∧
      t.links.reads other = s.links.reads other) ∧
    t.columns = s.columns ∧ t.fixedRows = s.fixedRows ∧ t.nRows = s.nRows ∧
      t.options = s.options ∧ t.functions = s.functions := by
  obtain ⟨hs, -⟩ := h.inStep
  obtain ⟨-, hset⟩ := setText_eq_ok hrun
  obtain rfl := congrArg Prod.fst hset
  obtain rfl := congrArg Prod.snd hset
  have hlinks := links_setTextAt hs.linked cell raw
  have hplaces := (s.install cell raw).links.places_schedule
    ([cell] ++ (s.install cell raw).links.downstream [cell])
  have hframe := s.sameFrame_setTextAt cell raw
  have hkept (other : Coord) (hother : other ∉ (s.setTextAt cell raw).2.recomputed) :=
    valueAt_setTextAt_of_not_mem hother
  refine ⟨⟨Links.nodup_schedule _ _, fun other => mem_recomputed_setTextAt hs.linked⟩,
    ⟨_, rfl, Links.ascends_stuck_schedule _ _, fun before placed after horder ref href hread => ?_⟩,
    fun other => ?_, ⟨map_cell_changesOf _ _ _, fun change hchange => ?_⟩, hkept,
    fun hlawful other => ?_, fun other => setTextAt_of_ne hs.linked, hframe.columns,
    hframe.fixedRows, hframe.sameSize.nRows, hframe.options, hframe.functions⟩
  · rw [hlinks] at hread
    exact hplaces.mem_before_of_reads horder hread href
  · rw [hlinks]
    exact hplaces.mem_stuck_iff
  · obtain ⟨-, hbefore, hafter, -⟩ := mem_changesOf.1 hchange
    exact ⟨hbefore, hafter⟩
  · obtain ⟨hconsistent, -⟩ := h.consistent hlawful
    exact exists_mem_changesOf (hkept other) (hconsistent.sound.cells other).definite

theorem report_setTextAt_sample :
    (sample.setTextAt ⟨1, 0⟩ "y").2.recomputed = [⟨1, 0⟩, ⟨0, 1⟩, ⟨1, 1⟩] ∧
      (sample.valueAt ⟨1, 1⟩).same ((sample.setTextAt ⟨1, 0⟩ "y").1.valueAt ⟨1, 1⟩) = false := by
  cbv

theorem setText_spec_sample :
    (∃ change ∈ (sample.setTextAt ⟨1, 0⟩ "y").2.changes, change.cell = ⟨1, 1⟩) ∧
      (sample.setTextAt ⟨1, 0⟩ "y").1.valueAt ⟨0, 0⟩ = sample.valueAt ⟨0, 0⟩ := by
  have hcell : Coord.Within ⟨1, 0⟩ sample.nRows sample.nCols :=
    reachable_sample.inStep.1.rectangular.within_iff.2 ⟨_, by rw [rows_sample]; rfl⟩
  have hrun : sample.setText ⟨1, 0⟩ "y" =
      .ok ((sample.setTextAt ⟨1, 0⟩ "y").1, (sample.setTextAt ⟨1, 0⟩ "y").2) :=
    setText_of_within hcell "y"
  obtain ⟨-, -, -, -, hkept, hchanges, -⟩ := reachable_sample.setText_spec hrun
  obtain ⟨hrecomputed, hsame⟩ := report_setTextAt_sample
  refine ⟨(hchanges Registry.lawful_builtin _).2 (Bool.eq_false_iff.1 hsame), hkept _ ?_⟩
  rw [hrecomputed]
  decide

end Spreadsheet

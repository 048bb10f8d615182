import Spreadsheet.Proofs.Dependency.Order
import Spreadsheet.Proofs.Formula.Evaluation
import Spreadsheet.Proofs.Sheet.Cells

/-!
# What settling does

Settling a schedule changes only values, and only those of cells with a formula
(`revalued_settled`). Afterwards

* a cell that is not on the schedule has its value of before (`valueAt_settled_of_not_mem`);
* a stuck cell has the value of a circular formula (`valueAt_settled_of_mem_stuck`);
* a placed cell has the value of its formula on the settled sheet (`evaluate_settled`): the cells
  that it reads are computed before it and stay as they are.
-/

namespace Spreadsheet

theorem Table.map_length_modify {α : Type} (table : Table α) (cell : Coord) (change : α → α) :
    (table.modify cell change).map List.length = table.map List.length := by
  unfold modify
  split
  · refine List.ext_getElem? fun row => ?_
    rw [List.getElem?_map, List.getElem?_map, List.getElem?_modify]
    cases table[row]? with
    | none => rfl
    | some cells => by_cases h : cell.row.toNat = row <;> simp [h]
  · rfl

namespace Sheet

variable {s t u : Sheet} {cell : Coord} {formula : Expr} {schedule : Schedule}

/-! ## Sheets of one size -/

/-- The sheets look the same to a formula, their values apart. -/
structure SameSize (s t : Sheet) : Prop where
  nRows : t.nRows = s.nRows
  nCols : t.nCols = s.nCols
  functions : t.functions = s.functions

namespace SameSize

theorem grammar (h : s.SameSize t) : t.grammar = s.grammar := by
  rw [Sheet.grammar, Sheet.grammar, h.nRows, h.nCols, h.functions]

theorem within_iff (h : s.SameSize t) :
    cell.Within t.nRows t.nCols ↔ cell.Within s.nRows s.nCols := by
  rw [h.nRows, h.nCols]

/-- A formula has the same result on sheets of one size where the cells that it reads have the same
values. -/
theorem eval_eq (h : s.SameSize t)
    (hvalues : ∀ ref ∈ formula.reads s.nRows (some cell), t.valueAt ref = s.valueAt ref) :
    formula.eval t.functions t.source (some cell) =
      formula.eval s.functions s.source (some cell) := by
  rw [h.functions]
  refine (Expr.eval_congr ⟨?_, ?_, fun ref href => ?_⟩).symm
  · exact congrArg Int.ofNat h.nRows.symm
  · exact congrArg Int.ofNat h.nCols.symm
  · exact congrArg Except.ok (hvalues ref href).symm

theorem evaluate_eq (h : s.SameSize t)
    (hvalues : ∀ ref ∈ formula.reads s.nRows (some cell), t.valueAt ref = s.valueAt ref) :
    t.evaluate cell formula = s.evaluate cell formula := by
  rw [evaluate, evaluate, h.eval_eq hvalues]

end SameSize

/-- The sheets differ in no more than their cells and what these read. -/
structure SameFrame (s t : Sheet) : Prop where
  frame : { t with rows := s.rows, links := s.links } = s
  lengths : t.rows.map List.length = s.rows.map List.length

namespace SameFrame

theorem refl (s : Sheet) : s.SameFrame s := ⟨rfl, rfl⟩

theorem trans (h : s.SameFrame t) (h' : t.SameFrame u) : s.SameFrame u where
  frame := by rw [← h.frame, ← h'.frame]
  lengths := h'.lengths.trans h.lengths

theorem columns (h : s.SameFrame t) : t.columns = s.columns := h.frame ▸ rfl

theorem fixedRows (h : s.SameFrame t) : t.fixedRows = s.fixedRows := h.frame ▸ rfl

theorem options (h : s.SameFrame t) : t.options = s.options := h.frame ▸ rfl

theorem functions (h : s.SameFrame t) : t.functions = s.functions := h.frame ▸ rfl

theorem sameSize (h : s.SameFrame t) : s.SameSize t where
  nRows := by
    rw [Sheet.nRows, Sheet.nRows, ← List.length_map List.length, h.lengths, List.length_map]
  nCols := congrArg List.length h.columns
  functions := h.functions

theorem rectangular (h : s.SameFrame t) (hs : s.Rectangular) : t.Rectangular := by
  have hlengths : ∀ length ∈ s.rows.map List.length, length = t.nCols := by
    rw [h.sameSize.nCols]
    exact List.forall_mem_map.2 hs
  rw [← h.lengths] at hlengths
  exact List.forall_mem_map.1 hlengths

end SameFrame

theorem sameFrame_modifyCell (s : Sheet) (cell : Coord) (change : Cell → Cell) :
    s.SameFrame (s.modifyCell cell change) :=
  ⟨rfl, Table.map_length_modify ..⟩

/-! ## New values -/

/-- The sheets differ in no more than the values of cells with a formula. -/
structure Revalued (s t : Sheet) : Prop extends SameFrame s t where
  links : t.links = s.links
  raw : ∀ cell, (t.cellAt cell).raw = (s.cellAt cell).raw
  formula : ∀ cell, (t.cellAt cell).formula = (s.cellAt cell).formula
  value : ∀ cell, (s.cellAt cell).formula = none → t.valueAt cell = s.valueAt cell

namespace Revalued

theorem refl (s : Sheet) : s.Revalued s where
  toSameFrame := .refl s
  links := rfl
  raw _ := rfl
  formula _ := rfl
  value _ _ := rfl

theorem trans (h : s.Revalued t) (h' : t.Revalued u) : s.Revalued u where
  toSameFrame := h.toSameFrame.trans h'.toSameFrame
  links := h'.links.trans h.links
  raw cell := (h'.raw cell).trans (h.raw cell)
  formula cell := (h'.formula cell).trans (h.formula cell)
  value cell hformula :=
    (h'.value cell ((h.formula cell).trans hformula)).trans (h.value cell hformula)

theorem readsAt (h : s.Revalued t) (cell : Coord) : t.readsAt cell = s.readsAt cell := by
  rw [Sheet.readsAt, Sheet.readsAt, h.formula, h.sameSize.nRows]

theorem linked (h : s.Revalued t) (hs : s.Linked) : t.Linked where
  ordered := h.links ▸ hs.ordered
  reads cell := by rw [h.links, hs.reads, h.readsAt]

end Revalued

/-! ## One cell -/

theorem valueAt_setValue_of_ne {other : Coord} (h : other ≠ cell) (value : Value) :
    (s.setValue cell value).valueAt other = s.valueAt other := by
  rw [valueAt, setValue, cellAt_modifyCell_of_ne h, valueAt]

theorem cellAt_setValue (hformula : (s.cellAt cell).formula = some formula) (value : Value) :
    (s.setValue cell value).cellAt cell = { s.cellAt cell with value } := by
  obtain ⟨old, hold⟩ := exists_get?_of_formula hformula
  exact cellAt_modifyCell hold _

theorem revalued_setValue (hformula : (s.cellAt cell).formula = some formula) (value : Value) :
    s.Revalued (s.setValue cell value) where
  toSameFrame := sameFrame_modifyCell ..
  links := rfl
  raw other := by
    by_cases h : other = cell
    · rw [h, cellAt_setValue hformula]
    · rw [setValue, cellAt_modifyCell_of_ne h]
  formula other := by
    by_cases h : other = cell
    · rw [h, cellAt_setValue hformula]
    · rw [setValue, cellAt_modifyCell_of_ne h]
  value other hnone := by
    refine valueAt_setValue_of_ne (fun h => ?_) value
    rw [h, hformula] at hnone
    contradiction

theorem revalued_evaluateCell (s : Sheet) (cell : Coord) : s.Revalued (s.evaluateCell cell) := by
  unfold evaluateCell
  split
  · next hformula => exact revalued_setValue hformula _
  · exact .refl s

theorem valueAt_evaluateCell_of_ne {other : Coord} (h : other ≠ cell) :
    (s.evaluateCell cell).valueAt other = s.valueAt other := by
  unfold evaluateCell
  split
  · exact valueAt_setValue_of_ne h _
  · rfl

theorem valueAt_evaluateCell (hformula : (s.cellAt cell).formula = some formula) :
    (s.evaluateCell cell).valueAt cell = s.evaluate cell formula := by
  unfold evaluateCell
  rw [hformula]
  exact congrArg Cell.value (cellAt_setValue hformula _)

/-! ## A schedule -/

theorem settled_cons (s : Sheet) (cell : Coord) (order stuck : List Coord) :
    s.settled ⟨cell :: order, stuck⟩ = (s.evaluateCell cell).settled ⟨order, stuck⟩ := rfl

theorem settled_nil_cons (s : Sheet) (cell : Coord) (stuck : List Coord) :
    s.settled ⟨[], cell :: stuck⟩ = (s.setValue cell circularValue).settled ⟨[], stuck⟩ := rfl

theorem sameFrame_settled (s : Sheet) (schedule : Schedule) : s.SameFrame (s.settled schedule) := by
  obtain ⟨order, stuck⟩ := schedule
  induction order generalizing s with
  | nil =>
    induction stuck generalizing s with
    | nil => exact .refl s
    | cons first stuck ih => exact (s.sameFrame_modifyCell first _).trans (ih _)
  | cons first order ih => exact (s.revalued_evaluateCell first).toSameFrame.trans (ih _)

theorem valueAt_settled_of_not_mem (h : cell ∉ schedule.cells) :
    (s.settled schedule).valueAt cell = s.valueAt cell := by
  obtain ⟨order, stuck⟩ := schedule
  induction order generalizing s with
  | nil =>
    induction stuck generalizing s with
    | nil => rfl
    | cons first stuck ih =>
      obtain ⟨hne, hrest⟩ := not_or.1 (List.mem_cons.not.1 h)
      rw [settled_nil_cons, ih hrest, valueAt_setValue_of_ne hne]
  | cons first order ih =>
    obtain ⟨hne, hrest⟩ := not_or.1 (List.mem_cons.not.1 h)
    rw [settled_cons, ih hrest, valueAt_evaluateCell_of_ne hne]

/-- All stuck cells of the schedule have a formula. -/
def StuckFormulas (s : Sheet) (schedule : Schedule) : Prop :=
  ∀ cell ∈ schedule.stuck, ∃ formula, (s.cellAt cell).formula = some formula

theorem Revalued.stuckFormulas (h : s.Revalued t) (hstuck : s.StuckFormulas schedule) :
    t.StuckFormulas schedule := fun cell hcell => by
  rw [h.formula]
  exact hstuck cell hcell

theorem revalued_settled (hstuck : s.StuckFormulas schedule) : s.Revalued (s.settled schedule) := by
  obtain ⟨order, stuck⟩ := schedule
  induction order generalizing s with
  | nil =>
    induction stuck generalizing s with
    | nil => exact .refl s
    | cons first stuck ih =>
      obtain ⟨formula, hformula⟩ := hstuck first List.mem_cons_self
      have hfirst := revalued_setValue hformula circularValue
      exact hfirst.trans <| ih <| hfirst.stuckFormulas fun cell hcell =>
        hstuck cell (List.mem_cons_of_mem _ hcell)
  | cons first order ih =>
    have hfirst := s.revalued_evaluateCell first
    exact hfirst.trans (ih (hfirst.stuckFormulas hstuck))

theorem valueAt_settled_of_mem_stuck (hstuck : s.StuckFormulas schedule)
    (hcell : cell ∈ schedule.stuck) : (s.settled schedule).valueAt cell = circularValue := by
  obtain ⟨order, stuck⟩ := schedule
  induction order generalizing s with
  | nil =>
    induction stuck generalizing s with
    | nil => cases hcell
    | cons first stuck ih =>
      obtain ⟨formula, hformula⟩ := hstuck first List.mem_cons_self
      have hrest : (s.setValue first circularValue).StuckFormulas ⟨[], stuck⟩ :=
        (revalued_setValue hformula circularValue).stuckFormulas fun cell hcell =>
          hstuck cell (List.mem_cons_of_mem _ hcell)
      rw [settled_nil_cons]
      by_cases hmem : cell ∈ stuck
      · exact ih hrest hmem
      · obtain rfl := (List.mem_cons.1 hcell).resolve_right hmem
        rw [valueAt_settled_of_not_mem hmem, valueAt, cellAt_setValue hformula]
  | cons first order ih =>
    exact ih ((s.revalued_evaluateCell first).stuckFormulas hstuck) hcell

/-- A placed cell has the value of its formula on the settled sheet. -/
theorem evaluate_settled (hlinked : s.Linked) (hstuck : s.StuckFormulas schedule)
    (hnodup : schedule.cells.Nodup) (horder : s.links.InOrder schedule.stuck schedule.order)
    (hcell : cell ∈ schedule.order) (hformula : (s.cellAt cell).formula = some formula) :
    (s.settled schedule).evaluate cell formula = (s.settled schedule).valueAt cell := by
  obtain ⟨order, stuck⟩ := schedule
  induction order generalizing s with
  | nil => cases hcell
  | cons first order ih =>
    obtain ⟨hreads, horder⟩ := horder
    obtain ⟨hnew, hnodup⟩ := List.nodup_cons.1 hnodup
    have hfirst := s.revalued_evaluateCell first
    rcases List.mem_cons.1 hcell with rfl | hcell
    · have hvalue : (s.settled ⟨cell :: order, stuck⟩).valueAt cell = s.evaluate cell formula := by
        rw [settled_cons, valueAt_settled_of_not_mem hnew, valueAt_evaluateCell hformula]
      rw [hvalue]
      refine (revalued_settled hstuck).sameSize.evaluate_eq fun ref href => ?_
      obtain ⟨hlater, hlast⟩ := hreads ref ((hlinked.reads_iff hformula).2 href)
      exact valueAt_settled_of_not_mem fun hmem =>
        (List.mem_append.1 hmem).elim hlater hlast
    · rw [← hfirst.links] at horder
      exact ih (hfirst.linked hlinked) ((hfirst.formula cell).trans hformula)
        (hfirst.stuckFormulas hstuck) hnodup horder hcell

end Sheet

end Spreadsheet

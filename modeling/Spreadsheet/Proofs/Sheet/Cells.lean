import Spreadsheet.Proofs.Dependency.Path
import Spreadsheet.Proofs.Dependency.Record
import Spreadsheet.Sheet.Entry

/-!
# The cells of a sheet

On a rectangular sheet the places on the sheet are those with a cell (`Rectangular.within_iff`), and
what holds of the cell at every place holds of the members of all rows (`forall_cellAt`).

A sheet is `Linked` if its record of reads says of each cell what its formula reads.
-/

namespace Spreadsheet

namespace Table

variable {α : Type} {table : Table α} {cell : Coord} {a : α}

/-- What is found at the places of a table are the members of its rows. -/
theorem exists_get?_eq_some : (∃ cell, table.get? cell = some a) ↔ ∃ row ∈ table, a ∈ row := by
  constructor
  · rintro ⟨cell, h⟩
    rw [get?] at h
    split at h
    · obtain ⟨row, hrow, ha⟩ := Option.bind_eq_some_iff.1 h
      exact ⟨row, List.mem_of_getElem? hrow, List.mem_of_getElem? ha⟩
    · contradiction
  · rintro ⟨row, hrow, ha⟩
    obtain ⟨r, hr⟩ := List.mem_iff_getElem?.1 hrow
    obtain ⟨c, hc⟩ := List.mem_iff_getElem?.1 ha
    exact ⟨⟨r, c⟩, by simp [get?, hr, hc]⟩

theorem get?_map {β : Type} (f : α → β) (table : Table α) (cell : Coord) :
    get? (table.map (·.map f)) cell = (table.get? cell).map f := by
  rw [get?, get?]
  split
  · rw [List.getElem?_map, Option.bind_map, Option.map_bind]
    exact congrArg _ (funext fun row => List.getElem?_map)
  · rfl

/-- The places of a table whose rows have one length. -/
theorem within_iff {width : Nat} (hrows : ∀ row ∈ table, row.length = width) :
    cell.Within table.length width ↔ ∃ a, table.get? cell = some a := by
  rw [get?, Coord.Within]
  constructor
  · rintro ⟨⟨hr, hrow⟩, hc, hcol⟩
    have hrow : cell.row.toNat < table.length := by omega
    have hlength := hrows _ (List.getElem_mem hrow)
    have hcol : cell.col.toNat < table[cell.row.toNat].length := by omega
    exact ⟨_, by rw [if_pos ⟨hr, hc⟩, List.getElem?_eq_getElem hrow, Option.bind_some,
      List.getElem?_eq_getElem hcol]⟩
  · rintro ⟨a, h⟩
    split at h
    · obtain ⟨row, hrow, ha⟩ := Option.bind_eq_some_iff.1 h
      have hlength := hrows _ (List.mem_of_getElem? hrow)
      have hr := (List.getElem?_eq_some_iff.1 hrow).1
      have hc := (List.getElem?_eq_some_iff.1 ha).1
      omega
    · contradiction

end Table

namespace Sheet

variable {s : Sheet} {cell : Coord} {formula : Expr}

/-- Every row has a cell in each column. -/
def Rectangular (s : Sheet) : Prop := ∀ row ∈ s.rows, row.length = s.nCols

theorem Rectangular.within_iff (h : s.Rectangular) :
    cell.Within s.nRows s.nCols ↔ ∃ c, s.rows.get? cell = some c :=
  Table.within_iff h

theorem cellAt_of_get? {c : Cell} (h : s.rows.get? cell = some c) : s.cellAt cell = c := by
  rw [cellAt, h, Option.getD_some]

theorem Rectangular.get?_eq (h : s.Rectangular) (cell : Coord) : s.rows.get? cell =
    if cell.Within s.nRows s.nCols then some (s.cellAt cell) else none := by
  split
  · next hcell =>
    obtain ⟨c, hc⟩ := h.within_iff.1 hcell
    rw [hc, cellAt_of_get? hc]
  · next hcell =>
    exact Option.eq_none_iff_forall_ne_some.2 fun c hc => hcell (h.within_iff.2 ⟨c, hc⟩)

theorem Rectangular.cellAt_eq_blank (h : s.Rectangular) (hcell : ¬ cell.Within s.nRows s.nCols) :
    s.cellAt cell = .blank := by
  rw [cellAt, h.get?_eq, if_neg hcell, Option.getD_none]

/-- There is a cell at a place with a formula. -/
theorem exists_get?_of_formula (h : (s.cellAt cell).formula = some formula) :
    ∃ c, s.rows.get? cell = some c := by
  rw [cellAt] at h
  cases hget : s.rows.get? cell with
  | none => simp [hget, Cell.blank] at h
  | some c => exact ⟨c, rfl⟩

/-- What holds of the blank cell holds at every place if it holds of all members of rows. -/
theorem forall_cellAt {p : Cell → Prop} (hblank : p .blank) :
    (∀ cell, p (s.cellAt cell)) ↔ ∀ row ∈ s.rows, ∀ c ∈ row, p c := by
  constructor
  · intro h row hrow c hc
    obtain ⟨cell, hcell⟩ := Table.exists_get?_eq_some.2 ⟨row, hrow, hc⟩
    exact cellAt_of_get? hcell ▸ h cell
  · intro h cell
    cases hget : s.rows.get? cell with
    | none => rwa [cellAt, hget]
    | some c =>
      obtain ⟨row, hrow, hc⟩ := Table.exists_get?_eq_some.1 ⟨cell, hget⟩
      exact cellAt_of_get? hget ▸ h row hrow c hc

theorem Rectangular.mem_formulaCells (h : s.Rectangular) :
    cell ∈ s.formulaCells ↔ (s.cellAt cell).formula.isSome := by
  rw [formulaCells, List.mem_filter, cells, Coord.mem_block_zero, h.within_iff]
  refine and_iff_right_of_imp fun hformula => ?_
  obtain ⟨formula, hformula⟩ := Option.isSome_iff_exists.1 hformula
  exact exists_get?_of_formula hformula

/-! ## What the cells read -/

/-- The cells that the formula at a place reads. -/
def readsAt (s : Sheet) (cell : Coord) : List Coord :=
  match (s.cellAt cell).formula with
  | some formula => formula.reads s.nRows (some cell)
  | none => []

theorem link_eq (s : Sheet) (cell : Coord) :
    s.link cell = { s with links := s.links.set cell (s.readsAt cell) } := rfl

theorem readsAt_of_formula (h : (s.cellAt cell).formula = some formula) :
    s.readsAt cell = formula.reads s.nRows (some cell) := by
  rw [readsAt, h]

theorem ascending_readsAt (s : Sheet) (cell : Coord) :
    Coord.ascending (s.readsAt cell) = s.readsAt cell := by
  unfold readsAt
  split
  · exact Coord.ascending_of_ascends (Coord.ascends_ascending _)
  · rfl

/-- The record of reads says what the formula of each cell reads. -/
structure Linked (s : Sheet) : Prop where
  ordered : s.links.Ordered
  reads : ∀ cell, s.links.reads cell = s.readsAt cell

/-- Only cells with a formula read something. -/
theorem Linked.exists_formula (h : s.Linked) {ref : Coord} (hread : s.links.Reads cell ref) :
    ∃ formula, (s.cellAt cell).formula = some formula := by
  rw [Links.Reads, h.reads, readsAt] at hread
  cases hformula : (s.cellAt cell).formula with
  | none => simp [hformula] at hread
  | some formula => exact ⟨formula, rfl⟩

theorem Linked.reads_iff (h : s.Linked) (hformula : (s.cellAt cell).formula = some formula)
    {ref : Coord} : s.links.Reads cell ref ↔ ref ∈ formula.reads s.nRows (some cell) := by
  rw [Links.Reads, h.reads, readsAt_of_formula hformula]

/-- A cell below a cycle has a formula. -/
theorem Linked.exists_formula_of_belowCycle (h : s.Linked) (hcell : s.links.BelowCycle cell) :
    ∃ formula, (s.cellAt cell).formula = some formula := by
  obtain ⟨ref, hread, -⟩ := hcell.exists_reads
  exact h.exists_formula hread

/-- Linked sheets with cells that read the same have the same record. -/
theorem Linked.links_eq {t : Sheet} (h : s.Linked) (ht : t.Linked)
    (hreads : ∀ cell, s.readsAt cell = t.readsAt cell) : s.links = t.links :=
  h.ordered.ext ht.ordered fun cell => by rw [h.reads, ht.reads, hreads]

end Sheet

end Spreadsheet

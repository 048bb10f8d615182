import Spreadsheet.Proofs.Sheet.Naming
import Spreadsheet.Workbook.Export
import Spreadsheet.Workbook.Import

/-!
# The extent of a worksheet

A worksheet is as large as the block of cells up to the last one kept, so a rectangle of cells of
which the last one is kept is the whole worksheet (`Worksheet.Filled.grid_eq`). For that the last
cell of the worksheet of a sheet has a format if it has no content (`exists_keepRows_eq`). So it is
not taken for an untouched one, of which the only cell has neither (`Worksheet.Filled.textRows_eq`).
-/

namespace Spreadsheet.Workbook

namespace Worksheet

/-- The cells of the worksheet are a rectangle of which the last one is kept. -/
structure Filled (w : Worksheet) (width : Nat) (corner : StyledCell) : Prop where
  rectangular : ∀ row ∈ w.cells, row.length = width
  kept : ∃ rows row, w.cells = rows ++ [row ++ [some corner]]

variable {w : Worksheet} {width : Nat} {corner : StyledCell} {options : Options}

/-- Nothing is dropped from the end of a list if its last member stays. -/
theorem length_dropWhile_reverse {α : Type} {p : α → Bool} (xs : List α) {x : α}
    (hx : p x = false) : ((xs ++ [x]).reverse.dropWhile p).length = xs.length + 1 := by
  rw [List.reverse_append, List.reverse_singleton, List.singleton_append, List.dropWhile_cons, hx,
    if_neg Bool.false_ne_true, List.length_cons, List.length_reverse]

theorem rowLength_le (row : List (Option StyledCell)) : rowLength row ≤ row.length :=
  (List.dropWhile_sublist _).length_le.trans_eq List.length_reverse

theorem rowLength_append (row : List (Option StyledCell)) (cell : StyledCell) :
    rowLength (row ++ [some cell]) = row.length + 1 := length_dropWhile_reverse row rfl

namespace Filled

theorem nRows_eq (h : w.Filled width corner) : w.nRows = w.cells.length := by
  obtain ⟨rows, row, hcells⟩ := h.kept
  have hkept : (row ++ [some corner]).all Option.isNone = false := by simp
  rw [nRows, hcells, length_dropWhile_reverse rows hkept, List.length_append, List.length_singleton]
  omega

theorem nCols_eq (h : w.Filled width corner) : w.nCols = width := by
  obtain ⟨rows, row, hcells⟩ := h.kept
  have hlast : row ++ [some corner] ∈ w.cells := by simp [hcells]
  have hlength : row.length + 1 = width := by simpa using h.rectangular _ hlast
  have hmax := Sheet.foldl_max_le_iff.1 (le_refl w.nCols)
  apply le_antisymm
  · refine Sheet.foldl_max_le_iff.2 ⟨by omega, List.forall_mem_map.2 fun row hrow => ?_⟩
    exact (rowLength_le row).trans_eq (h.rectangular row hrow)
  · have hle := hmax.2 _ (List.mem_map_of_mem hlast)
    rwa [rowLength_append, hlength] at hle

theorem map_range_getElem? {α β : Type} (xs : List α) (f : Option α → β) :
    ((List.range xs.length).map fun i => f xs[i]?) = xs.map fun x => f (some x) :=
  List.ext_getElem (by simp) fun i _ hi => by
    rw [List.length_map] at hi
    simp [hi]

/-- The contents of a worksheet are those of its cells. -/
theorem grid_eq (h : w.Filled width corner) :
    w.grid = w.cells.map (·.map fun cell => (cell.getD ⟨.blank, false⟩).content) := by
  let contentOf (cell : Option (Option StyledCell)) := (cell.join.getD ⟨.blank, false⟩).content
  have hgrid := map_range_getElem? w.cells fun row =>
    (List.range width).map fun col => contentOf (row.bind (·[col]?))
  rw [grid, h.nRows_eq, h.nCols_eq]
  refine hgrid.trans (List.map_congr_left fun row hrow => ?_)
  rw [← h.rectangular row hrow]
  exact map_range_getElem? row contentOf

/-- All the rows of the worksheet are read, unless a cell without text or format is all there is. -/
theorem textRows_eq (h : w.Filled width corner)
    (hcorner : contentText options corner.content = "" → corner.styled = true) :
    textRows w options = w.grid.map (·.map (contentText options)) := by
  refine if_neg fun huntouched => ?_
  obtain ⟨htexts, hplain⟩ := Bool.and_eq_true_iff.1 huntouched
  obtain ⟨rows, row, hcells⟩ := h.kept
  have htexts := eq_of_beq htexts
  rw [h.grid_eq, hcells] at htexts
  obtain ⟨hrows, hrow, htext⟩ : rows = [] ∧ row = [] ∧ contentText options corner.content = "" := by
    simpa [List.append_eq_singleton_iff] using htexts
  have hcell : w.cellAt 0 0 = corner := by simp [cellAt, hcells, hrows, hrow]
  rw [hcell, hcorner htext] at hplain
  contradiction

end Filled

end Worksheet

/-! ## The last cell -/

/-- The last cell gets a format if it has no content. -/
theorem styleCorner_append (rows : Table StyledCell) (row : List StyledCell) (cell : StyledCell) :
    styleCorner (rows ++ [row ++ [cell]]) = rows ++ [row ++ [styleBlank cell]] := by
  have hrow := Sheet.modify_length_append row cell [] styleBlank
  rw [styleCorner, List.length_append, List.length_singleton, Nat.add_sub_cancel,
    Sheet.modify_length_append, List.length_append, List.length_singleton, Nat.add_sub_cancel, hrow]

/-- A cell that has a format if it has no content is kept. -/
theorem exists_keepCell?_styleBlank (storage : Storage) (cell : StyledCell) : ∃ kept,
    storage.keepCell? (styleBlank cell) = some kept ∧ kept.content = storage.keep cell.content ∧
      (cell.content = .blank → kept.styled = true) := by
  obtain ⟨content, styled⟩ := cell
  by_cases hblank : content = .blank
  · subst hblank
    exact ⟨⟨storage.keep .blank, true⟩, rfl, rfl, fun _ => rfl⟩
  · refine ⟨⟨storage.keep content, styled⟩, ?_, rfl, fun h => absurd h hblank⟩
    cases content <;> first | rfl | exact absurd rfl hblank

/-- What is kept of a content in a cell without format. -/
def Storage.keepContent? (storage : Storage) (content : Content) : Option StyledCell :=
  storage.keepCell? ⟨content, false⟩

/-- What is kept of the cells of a worksheet with some contents. -/
def Storage.keepRows (storage : Storage) (rows : Table Content) : Table (Option StyledCell) :=
  (styleCorner (rows.map (·.map fun content => ⟨content, false⟩))).map (·.map storage.keepCell?)

/-- The last content is kept in any case, the others unless they are blank. -/
theorem exists_keepRows_eq (storage : Storage) (rows : Table Content) (row : List Content)
    (content : Content) : ∃ corner,
    storage.keepRows (rows ++ [row ++ [content]]) =
      rows.map (·.map storage.keepContent?) ++ [row.map storage.keepContent? ++ [some corner]] ∧
      corner.content = storage.keep content ∧ (content = .blank → corner.styled = true) := by
  obtain ⟨corner, hcorner, hcontent⟩ := exists_keepCell?_styleBlank storage ⟨content, false⟩
  refine ⟨corner, ?_, hcontent⟩
  have hplain : (storage.keepCell? ∘ fun content => ⟨content, false⟩) = storage.keepContent? := rfl
  simp only [Storage.keepRows, List.map_append, List.map_singleton, styleCorner_append, hcorner,
    List.map_map, hplain, Function.comp_def]

end Spreadsheet.Workbook

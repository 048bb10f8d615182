import Mathlib.Data.List.InsertIdx
import Spreadsheet.Proofs.Formula.Lines
import Spreadsheet.Proofs.Sheet.Cells
import Spreadsheet.Sheet.Structure

/-!
# Rows and columns of sheets

When a row or column comes or goes, the sheet is `Relined` before its formulas follow: it has the
cells that it had, where `LineEdit.place?` says, and blank ones (`Carried`). When the sheet grows at
its end, they stay where they are.
-/

namespace Spreadsheet

/-! ## Lists of lines -/

namespace LineEdit

variable {α : Type} {edit : LineEdit} {line moved : Int} {new : α} {xs : List α}

/-- A list in which a member comes or goes as a line does. -/
def edited (edit : LineEdit) (new : α) (xs : List α) : List α :=
  match edit with
  | .insert _ index => xs.insertIdx index.toNat new
  | .delete _ index => xs.eraseIdx index.toNat

theorem mem_edited {x : α} (h : x ∈ edit.edited new xs) : x = new ∨ x ∈ xs := by
  cases edit with
  | insert axis index => exact List.eq_or_mem_of_mem_insertIdx h
  | delete axis index => exact .inr (List.mem_of_mem_eraseIdx h)

theorem length_edited (new : α) (h : edit.Fits xs.length) :
    ((edit.edited new xs).length : Int) = edit.count xs.length := by
  cases edit with
  | insert axis index =>
    rw [edited, List.length_insertIdx_of_le_length (Int.toNat_le.2 h.2)]
    rfl
  | delete axis index =>
    have hlt : index.toNat < xs.length := (Int.toNat_lt h.1).2 h.2
    rw [edited, List.length_eraseIdx_of_lt hlt, count]
    omega

theorem nonneg_line?_iff {lines : Int} (h : edit.Fits lines)
    (hline : edit.line? line = some moved) : 0 ≤ moved ↔ 0 ≤ line := by
  cases edit with
  | insert axis index =>
    cases hline
    rw [lineAfterInsert]
    obtain ⟨hfirst, -⟩ := h
    split <;> omega
  | delete axis index =>
    obtain ⟨hne, rfl⟩ := line?_delete_eq_some.1 hline
    obtain ⟨hfirst, -⟩ := h
    split <;> omega

/-- A member is found where its line has moved. -/
theorem getElem?_edited {lines : Int} (h : edit.Fits lines) (hline : edit.line? line = some moved)
    (hnonneg : 0 ≤ line) : (edit.edited new xs)[moved.toNat]? = xs[line.toNat]? := by
  cases edit with
  | insert axis index =>
    cases hline
    obtain ⟨hfirst, -⟩ := h
    rw [edited, List.getElem?_insertIdx, lineAfterInsert]
    split
    · rw [if_neg (by omega), if_neg (by omega)]
      congr 1
      omega
    · rw [if_pos (by omega)]
  | delete axis index =>
    obtain ⟨hne, rfl⟩ := line?_delete_eq_some.1 hline
    obtain ⟨hfirst, -⟩ := h
    rw [edited, List.getElem?_eraseIdx]
    split
    · rw [if_neg (by omega)]
      congr 1
      omega
    · rw [if_pos (by omega)]

theorem eq_of_getElem?_edited (axis : Axis) {index : Int} {x : α}
    (h : ((insert axis index).edited new xs)[index.toNat]? = some x) : x = new := by
  rw [edited, List.getElem?_insertIdx_self] at h
  split at h <;> cases h
  rfl

/-- Each line is one that was there before, or a new one. -/
theorem exists_line?_or (edit : LineEdit) (moved : Int) :
    (∃ line, edit.line? line = some moved) ∨ edit = .insert edit.axis moved := by
  cases edit with
  | insert axis index =>
    rcases Int.lt_trichotomy moved index with hlt | rfl | hlt
    · exact .inl ⟨moved, congrArg some (if_neg (by omega))⟩
    · exact .inr rfl
    · exact .inl ⟨moved - 1, congrArg some ((if_pos (by omega)).trans (by omega))⟩
  | delete axis index =>
    by_cases hlt : moved < index
    · exact .inl ⟨moved, line?_delete_eq_some.2 ⟨by omega, (if_neg (by omega)).symm⟩⟩
    · refine .inl ⟨moved + 1, line?_delete_eq_some.2 ⟨by omega, ?_⟩⟩
      rw [if_pos (by omega)]
      omega

end LineEdit

theorem getD_getElem?_append_replicate {α : Type} (xs : List α) (count i : Nat) (x : α) :
    ((xs ++ List.replicate count x)[i]?).getD x = (xs[i]?).getD x := by
  rw [List.getElem?_append]
  split
  · rfl
  · next hi =>
    rw [List.getElem?_eq_none (Nat.le_of_not_lt hi), List.getElem?_replicate]
    split <;> rfl

/-! ## Tables -/

namespace Table

variable {α : Type} {table : Table α} {edit : LineEdit} {entry : α} {width : Nat}
  {cell cell' : Coord}

/-- A table in which a row or column comes or goes; a row that comes has `width` entries. -/
def edited (edit : LineEdit) (entry : α) (width : Nat) (table : Table α) : Table α :=
  match edit.axis with
  | .row => edit.edited (List.replicate width entry) table
  | .column => table.map (edit.edited entry)

/-- An entry is found where its cell has moved. -/
theorem get?_edited {lines : Int} (h : edit.Fits lines) (hplace : edit.place? cell = some cell') :
    (table.edited edit entry width).get? cell' = table.get? cell := by
  obtain ⟨hline, hother⟩ := LineEdit.place?_eq_some.1 hplace
  rw [edited, get?, get?]
  cases haxis : edit.axis with
  | row =>
    rw [haxis] at hline hother
    have hrow : edit.line? cell.row = some cell'.row := hline
    have hcol : cell'.col = cell.col := hother
    have hnonneg := LineEdit.nonneg_line?_iff h hrow
    by_cases hcell : 0 ≤ cell.row ∧ 0 ≤ cell.col
    · rw [hcol, if_pos ⟨hnonneg.2 hcell.1, hcell.2⟩, if_pos hcell,
        LineEdit.getElem?_edited h hrow hcell.1]
    · rw [hcol, if_neg (mt (And.imp_left hnonneg.1) hcell), if_neg hcell]
  | column =>
    rw [haxis] at hline hother
    have hcol : edit.line? cell.col = some cell'.col := hline
    have hrow : cell'.row = cell.row := hother
    have hnonneg := LineEdit.nonneg_line?_iff h hcol
    by_cases hcell : 0 ≤ cell.row ∧ 0 ≤ cell.col
    · rw [hrow, if_pos ⟨hcell.1, hnonneg.2 hcell.2⟩, if_pos hcell, List.getElem?_map,
        Option.bind_map]
      exact congrArg _ (funext fun row => LineEdit.getElem?_edited h hcol hcell.2)
    · rw [hrow, if_neg (mt (And.imp_right hnonneg.1) hcell), if_neg hcell]

/-- The entries of a new row or column are all the same. -/
theorem eq_of_get?_edited {a : α} (hnew : ∀ cell, edit.place? cell ≠ some cell')
    (h : (table.edited edit entry width).get? cell' = some a) : a = entry := by
  obtain ⟨line, hline⟩ | hinsert := edit.exists_line?_or (cell'.line edit.axis)
  · exact absurd (LineEdit.place?_eq_some.2 ⟨by simpa using hline, by simp⟩)
      (hnew (cell'.withLine line edit.axis))
  rw [get?] at h
  split at h
  · obtain ⟨row, hrow, ha⟩ := Option.bind_eq_some_iff.1 h
    cases haxis : edit.axis with
    | row =>
      rw [haxis] at hinsert
      rw [hinsert] at hrow
      rw [LineEdit.eq_of_getElem?_edited .row hrow] at ha
      exact List.eq_of_mem_replicate (List.mem_of_getElem? ha)
    | column =>
      rw [haxis] at hinsert
      rw [hinsert] at hrow
      obtain ⟨old, -, rfl⟩ := List.mem_map.1 (List.mem_of_getElem? hrow)
      exact LineEdit.eq_of_getElem?_edited .column ha
  · cases h

theorem eq_or_mem_of_mem_edited {row : List α} {a : α}
    (hrow : row ∈ table.edited edit entry width) (ha : a ∈ row) :
    a = entry ∨ ∃ old ∈ table, a ∈ old := by
  rw [edited] at hrow
  split at hrow
  · obtain rfl | hold := LineEdit.mem_edited hrow
    · exact .inl (List.eq_of_mem_replicate ha)
    · exact .inr ⟨row, hold, ha⟩
  · obtain ⟨old, hold, rfl⟩ := List.mem_map.1 hrow
    exact (LineEdit.mem_edited ha).imp_right fun ha => ⟨old, hold, ha⟩

/-- A table with more entries at the end of each row, and more rows of `width` entries. -/
def extended (entry : α) (moreCols moreRows width : Nat) (table : Table α) : Table α :=
  table.map (· ++ List.replicate moreCols entry) ++
    List.replicate moreRows (List.replicate width entry)

theorem exists_of_mem_extended {row : List α} {moreCols moreRows : Nat}
    (hrow : row ∈ table.extended entry moreCols moreRows width) :
    (∃ old ∈ table, row = old ++ List.replicate moreCols entry) ∨
      row = List.replicate width entry := by
  obtain hrow | hrow := List.mem_append.1 hrow
  · obtain ⟨old, hold, rfl⟩ := List.mem_map.1 hrow
    exact .inl ⟨old, hold, rfl⟩
  · exact .inr (List.eq_of_mem_replicate hrow)

/-- The entries stay where they are. -/
theorem getD_get?_extended (entry : α) (moreCols moreRows width : Nat) (table : Table α)
    (cell : Coord) : ((table.extended entry moreCols moreRows width).get? cell).getD entry =
      (table.get? cell).getD entry := by
  rw [extended, get?, get?]
  split
  · rcases Nat.lt_or_ge cell.row.toNat table.length with hrow | hrow
    · rw [List.getElem?_append_left (by rwa [List.length_map]), List.getElem?_map,
        List.getElem?_eq_getElem hrow]
      exact getD_getElem?_append_replicate ..
    · rw [List.getElem?_append_right (by rwa [List.length_map]), List.getElem?_replicate,
        List.getElem?_eq_none hrow]
      split
      · exact getD_getElem?_append_replicate [] ..
      · rfl
  · rfl

end Table

/-! ## Sheets -/

namespace Sheet

variable {s grown : Sheet} {edit : LineEdit} {cell cell' : Coord}

/-- The rows of the second sheet have its width, and their cells are of the first one or blank. -/
structure Regrown (s base : Sheet) : Prop where
  options : base.options = s.options
  functions : base.functions = s.functions
  rectangular : base.Rectangular
  cells : ∀ row ∈ base.rows, ∀ c ∈ row, c = .blank ∨ ∃ old ∈ s.rows, c ∈ old

theorem Regrown.blank_of_mem {count : Nat} {c : Cell} (hc : c ∈ List.replicate count Cell.blank) :
    c = .blank ∨ ∃ old ∈ s.rows, c ∈ old :=
  .inl (List.eq_of_mem_replicate hc)

/-- The cells of the first sheet are on the second one, where `place?` says, and all others on it
are blank. -/
structure Carried (s grown : Sheet) (place? : Coord → Option Coord) : Prop where
  cellAt : ∀ {cell cell'}, place? cell = some cell' → grown.cellAt cell' = s.cellAt cell
  blank : ∀ {cell'}, (∀ cell, place? cell ≠ some cell') → grown.cellAt cell' = .blank

/-- A row or column of the first sheet comes or goes, and no formula follows yet. -/
structure Relined (s grown : Sheet) (edit : LineEdit) : Prop where
  fits : edit.Fits (s.grammar.lines edit.axis)
  options : grown.options = s.options
  functions : grown.functions = s.functions
  rows : grown.rows = s.rows.edited edit .blank s.nCols
  nCols : (grown.nCols : Int) = (s.grammar.after edit).nCols

theorem Carried.cellAt_eq_blank {place? : Coord → Option Coord} (h : s.Carried grown place?)
    (hs : s.Rectangular)
    (hnew : ∀ cell : Coord, cell.Within s.nRows s.nCols → place? cell ≠ some cell') :
    grown.cellAt cell' = .blank := by
  by_cases hold : ∃ cell, place? cell = some cell'
  · obtain ⟨cell, hplace⟩ := hold
    rw [h.cellAt hplace, hs.cellAt_eq_blank fun hcell => hnew cell hcell hplace]
  · exact h.blank fun cell hplace => hold ⟨cell, hplace⟩

/-! ## Formulas that follow -/

theorem formula_adjustCell (s : Sheet) (edit : LineEdit) (c : Cell) :
    (s.adjustCell edit c).formula = c.formula.map (Expr.replaceReferences edit.reference?) := by
  unfold adjustCell
  cases hformula : c.formula with
  | none => exact hformula
  | some formula =>
    rw [Option.bind_some, Option.map_some, Expr.replaceReferences, ← Expr.afterEdit?]
    cases formula.afterEdit? edit with
    | none => exact hformula
    | some new => rfl

theorem value_adjustCell (s : Sheet) (edit : LineEdit) (c : Cell) :
    (s.adjustCell edit c).value = c.value := by
  unfold adjustCell
  split <;> rfl

theorem cellAt_adjustFormulas (s : Sheet) (edit : LineEdit) (cell : Coord) :
    (s.adjustFormulas edit).cellAt cell = s.adjustCell edit (s.cellAt cell) := by
  rw [cellAt, cellAt, adjustFormulas, Table.get?_map]
  cases s.rows.get? cell <;> rfl

theorem Rectangular.adjustFormulas (h : s.Rectangular) (edit : LineEdit) :
    (s.adjustFormulas edit).Rectangular := by
  intro row hrow
  obtain ⟨old, hold, rfl⟩ := List.mem_map.1 hrow
  exact (List.length_map _).trans (h old hold)

theorem grammar_adjustFormulas (s : Sheet) (edit : LineEdit) :
    (s.adjustFormulas edit).grammar = s.grammar := by
  rw [grammar, nRows, adjustFormulas, List.length_map]
  rfl

/-! ## A row or column comes or goes -/

namespace Relined

theorem allows (h : s.Relined grown edit) : s.grammar.Allows edit :=
  LineEdit.allows_iff.2 h.fits.within

theorem carried (h : s.Relined grown edit) : s.Carried grown edit.place? where
  cellAt hplace := by
    rw [Sheet.cellAt, Sheet.cellAt, h.rows, Table.get?_edited h.fits hplace]
  blank {cell'} hnew := by
    rw [Sheet.cellAt, h.rows]
    cases hget : (s.rows.edited edit .blank s.nCols).get? cell' with
    | none => rfl
    | some c => exact Table.eq_of_get?_edited hnew hget

theorem rectangular (h : s.Relined grown edit) (hs : s.Rectangular) : grown.Rectangular := by
  intro row hrow
  have hfits := h.fits
  have hcols := h.nCols
  rw [h.rows, Table.edited] at hrow
  rw [Grammar.after] at hcols
  cases haxis : edit.axis with
  | row =>
    rw [haxis] at hrow hcols
    have hwidth : grown.nCols = s.nCols := Int.ofNat.inj hcols
    obtain rfl | hold := LineEdit.mem_edited hrow
    · exact List.length_replicate.trans hwidth.symm
    · exact (hs row hold).trans hwidth.symm
  | column =>
    rw [haxis] at hfits hrow hcols
    obtain ⟨old, hold, rfl⟩ := List.mem_map.1 hrow
    have hlength : s.grammar.lines .column = (old.length : Int) :=
      congrArg Nat.cast (hs old hold).symm
    rw [hlength] at hfits
    refine Int.ofNat.inj ((LineEdit.length_edited _ hfits).trans ?_)
    rw [← hlength]
    exact hcols.symm

theorem regrown (h : s.Relined grown edit) (hs : s.Rectangular) : s.Regrown grown := by
  refine ⟨h.options, h.functions, h.rectangular hs, fun row hrow c hc => ?_⟩
  rw [h.rows] at hrow
  exact Table.eq_or_mem_of_mem_edited hrow hc

theorem grammar (h : s.Relined grown edit) : grown.grammar = s.grammar.after edit := by
  have hrows : (grown.nRows : Int) = (s.grammar.after edit).nRows := by
    have hfits := h.fits
    rw [nRows, h.rows, Table.edited, Grammar.after]
    cases haxis : edit.axis with
    | row =>
      rw [haxis] at hfits
      exact LineEdit.length_edited _ hfits
    | column => exact congrArg Nat.cast (List.length_map _)
  have hfunctions : grown.functions = (s.grammar.after edit).functions := by
    rw [h.functions, Grammar.functions_after]
    rfl
  rw [Sheet.grammar, hrows, h.nCols, hfunctions]

end Relined

/-! ## The operations -/

theorem insertRow_spec {index : Int} (hindex : 0 ≤ index ∧ index ≤ s.nRows) :
    ∃ grown, s.Relined grown (.insert .row index) ∧
      s.insertRow index = .ok (grown.adjustFormulas (.insert .row index)).rebuild := by
  obtain ⟨row, rfl⟩ := Int.eq_ofNat_of_zero_le hindex.1
  rw [insertRow, if_pos hindex]
  refine ⟨_, ?_, rfl⟩
  exact ⟨hindex, rfl, rfl, rfl, rfl⟩

theorem deleteRow_spec {index : Int} (hindex : 0 ≤ index ∧ index < s.nRows) :
    ∃ grown, s.Relined grown (.delete .row index) ∧
      s.deleteRow index = .ok (grown.adjustFormulas (.delete .row index)).rebuild := by
  obtain ⟨row, rfl⟩ := Int.eq_ofNat_of_zero_le hindex.1
  rw [deleteRow, if_pos hindex]
  refine ⟨_, ?_, rfl⟩
  exact ⟨hindex, rfl, rfl, rfl, rfl⟩

theorem insertColumn_spec {index : Int} {name : Option String}
    (hindex : 0 ≤ index ∧ index ≤ s.nCols) (hname : ∀ n ∈ name, s.checkName n none = .ok ()) :
    ∃ grown, s.Relined grown (.insert .column index) ∧
      s.insertColumn index name = .ok (grown.adjustFormulas (.insert .column index)).rebuild := by
  obtain ⟨col, rfl⟩ := Int.eq_ofNat_of_zero_le hindex.1
  have hfits : (LineEdit.insert .column col).Fits s.columns.length := hindex
  have hrelined (column : Column) : s.Relined { s with
      columns := s.columns.insertIdx col column
      rows := s.rows.map (·.insertIdx col Cell.blank) } (.insert .column col) :=
    ⟨hindex, rfl, rfl, rfl, LineEdit.length_edited column hfits⟩
  rw [insertColumn, if_pos hindex]
  refine ⟨_, hrelined ⟨name, s.options.columnWidth⟩, ?_⟩
  cases name with
  | none => rfl
  | some n =>
    simp only [hname n rfl]
    rfl

theorem deleteColumn_spec {index : Int} (hindex : 0 ≤ index ∧ index < s.nCols) :
    ∃ grown, s.Relined grown (.delete .column index) ∧
      s.deleteColumn index = .ok (grown.adjustFormulas (.delete .column index)).rebuild := by
  obtain ⟨col, rfl⟩ := Int.eq_ofNat_of_zero_le hindex.1
  have hfits : (LineEdit.delete .column col).Fits s.columns.length := hindex
  rw [deleteColumn, if_pos hindex]
  refine ⟨_, ?_, rfl⟩
  exact ⟨hindex, rfl, rfl, rfl, LineEdit.length_edited ⟨none, 0⟩ hfits⟩

/-- The sheet with more columns and rows at its end, blank ones. -/
def extended (s : Sheet) (newCols newRows : Int) : Sheet :=
  { s with
    columns := s.columns ++
      List.replicate (newCols.toNat - s.nCols) ⟨none, s.options.columnWidth⟩
    rows := s.rows.extended .blank (newCols.toNat - s.nCols) (newRows.toNat - s.nRows)
      newCols.toNat }

/-- A sheet that grows at its end keeps its cells where they are. -/
theorem extended_spec (hs : s.Rectangular) {newCols newRows : Int}
    (hsize : s.nCols ≤ newCols ∧ s.nRows ≤ newRows) :
    s.Regrown (s.extended newCols newRows) ∧ s.Carried (s.extended newCols newRows) some ∧
      (s.extended newCols newRows).nCols = newCols ∧
      (s.extended newCols newRows).nRows = newRows := by
  have hnCols : s.columns.length = s.nCols := rfl
  have hnRows : s.rows.length = s.nRows := rfl
  have hmem {row : List Cell} (hrow : row ∈ (s.extended newCols newRows).rows) :
      row.length = newCols.toNat ∧ ∀ c ∈ row, c = .blank ∨ ∃ old ∈ s.rows, c ∈ old := by
    obtain ⟨old, hold, rfl⟩ | rfl := Table.exists_of_mem_extended hrow
    · refine ⟨?_, fun c hc => ?_⟩
      · rw [List.length_append, List.length_replicate, hs old hold]
        omega
      · exact (List.mem_append.1 hc).elim (fun hc => .inr ⟨old, hold, hc⟩) Regrown.blank_of_mem
    · exact ⟨List.length_replicate, fun _ => Regrown.blank_of_mem⟩
  have hcols : (s.extended newCols newRows).nCols = newCols.toNat := by
    rw [nCols, extended, List.length_append, List.length_replicate]
    omega
  refine ⟨?_, ?_, ?_, ?_⟩
  · exact ⟨rfl, rfl, fun row hrow => (hmem hrow).1.trans hcols.symm,
      fun row hrow => (hmem hrow).2⟩
  · refine ⟨?_, fun hnew => absurd rfl (hnew _)⟩
    rintro cell _ ⟨⟩
    exact Table.getD_get?_extended ..
  · rw [hcols]
    omega
  · rw [nRows, extended, Table.extended, List.length_append, List.length_map,
      List.length_replicate]
    omega

theorem resize_spec {newCols newRows : Int} (hsize : s.nCols ≤ newCols ∧ s.nRows ≤ newRows) :
    s.resize newCols newRows = .ok (s.extended newCols newRows).rebuild := by
  rw [resize, if_neg (by omega)]
  rfl

end Sheet

end Spreadsheet

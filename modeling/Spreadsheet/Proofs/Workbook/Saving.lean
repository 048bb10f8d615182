import Mathlib.Data.List.Forall2
import Spreadsheet.Proofs.Workbook.Contents
import Spreadsheet.Proofs.Workbook.Extent

/-!
# The worksheet of a sheet

A storage `Keeps` a sheet if what is put into its worksheet comes back: the contents of the cells,
the widths of the columns and the frozen rows. Then the sheet has a worksheet with any title that
the storage `Admits`, and that worksheet `Holds` it: there is a content for each cell, also where
the last rows or columns are empty (`Storage.Keeps.exists_worksheetOf`).
-/

namespace Spreadsheet

open Binary64

namespace Table

variable {α β : Type} {R : α → β → Prop}

/-- Tables of the same shape with related entries. -/
def Related (R : α → β → Prop) : Table α → Table β → Prop := List.Forall₂ (List.Forall₂ R)

theorem rel_getElem? {xs : List α} {ys : List β} (h : List.Forall₂ R xs ys) (i : Nat) :
    Option.Rel R xs[i]? ys[i]? := by
  induction h generalizing i with
  | nil => exact .none
  | cons hxy _ ih =>
    cases i with
    | zero => exact .some hxy
    | succ i =>
      rw [List.getElem?_cons_succ, List.getElem?_cons_succ]
      exact ih i

/-- The entries of related tables at a place are related. -/
theorem Related.get? {a : Table α} {b : Table β} (h : Related R a b) (cell : Coord) :
    Option.Rel R (a.get? cell) (b.get? cell) := by
  rw [Table.get?, Table.get?]
  split
  · have hrow := rel_getElem? h cell.row.toNat
    generalize a[cell.row.toNat]? = x at hrow ⊢
    generalize b[cell.row.toNat]? = y at hrow ⊢
    cases hrow with
    | none => exact .none
    | some hrow => exact rel_getElem? hrow _
  · exact .none

/-- A table is related to itself if all its entries are. -/
theorem related_same {R : α → α → Prop} {a : Table α} (h : ∀ row ∈ a, ∀ x ∈ row, R x x) :
    Related R a a :=
  List.forall₂_same.2 fun row hrow => List.forall₂_same.2 (h row hrow)

/-- Rows of related tables are as long as each other. -/
theorem Related.length_eq_of_mem {a : Table α} {b : Table β} (h : Related R a b) {width : Nat}
    (hwidth : ∀ row ∈ a, row.length = width) : ∀ row ∈ b, row.length = width := by
  induction h with
  | nil => exact fun _ h => absurd h List.not_mem_nil
  | cons hrow _ ih =>
    obtain ⟨hfirst, hrest⟩ := List.forall_mem_cons.1 hwidth
    exact List.forall_mem_cons.2 ⟨hrow.length_eq.symm.trans hfirst, ih hrest⟩

theorem Related.map_right {γ : Type} {f : γ → β} {a : Table α} {b : Table γ}
    (h : Related (fun x z => R x (f z)) a b) : Related R a (b.map (·.map f)) :=
  List.forall₂_map_right_iff.2 (h.imp fun _ _ hrow => List.forall₂_map_right_iff.2 hrow)

/-- Related tables stay related with one more row each, of which the last entry is shown apart. -/
theorem Related.append_corner {a : Table α} {b : Table β} (h : Related R a b) {xs : List α}
    {ys : List β} (hrow : List.Forall₂ R xs ys) {x : α} {y : β} (hxy : R x y) :
    Related R (a ++ [xs ++ [x]]) (b ++ [ys ++ [y]]) :=
  List.rel_append h (.cons (List.rel_append hrow (.cons hxy .nil)) .nil)

end Table

namespace Workbook

/-! ## Storage -/

/-- A worksheet that is to have the title gets one, that or another. -/
def Storage.Admits (storage : Storage) (title : String) : Prop :=
  ∃ kept, storage.retitle title = .ok kept

/-- What is put into the worksheet of a sheet comes back. -/
structure Storage.Keeps (storage : Storage) (s : Sheet) (header : Bool) : Prop where
  contents : ∀ row ∈ contentRows s header, ∀ content ∈ row,
    storage.enter content = .ok content ∧ content.ReturnsAs (storage.keep content)
  accepted : storage.checkWidths (sheetWidths s) = .ok ()
  readable : ∀ width ∈ storage.keepWidths (sheetWidths s),
    width.isPlaced = true ∧ width.width.isFinite = true
  widths : ∀ (col width : Nat), s.columnWidths[col]? = some width →
    ∃ x : Finite, widthOf? (storage.keepWidths (sheetWidths s)) col = some (.finite x) ∧
      x.units = width * one
  freeze : storage.keepFreeze (freezeName? (frozenCount s header)) =
    freezeName? (frozenCount s header)

/-- The contents, widths and frozen rows of the worksheet are those of a sheet. -/
structure Worksheet.Holds (w : Worksheet) (s : Sheet) (header : Bool) : Prop where
  contents : Table.Related Content.ReturnsAs (contentRows s header) w.grid
  texts : textRows w s.options = w.grid.map (·.map (contentText s.options))
  readable : ∀ width ∈ w.widths, width.isPlaced = true ∧ width.width.isFinite = true
  widths : ∀ (col width : Nat), s.columnWidths[col]? = some width →
    ∃ x : Finite, w.width? col = some (.finite x) ∧ x.units = width * one
  freeze : w.freeze = freezeName? (frozenCount s header)

variable {storage : Storage} {s : Sheet} {header : Bool}

theorem mapM_eq_ok {α β ε : Type} {f : α → Except ε β} {g : α → β} {xs : List α}
    (h : ∀ x ∈ xs, f x = .ok (g x)) : xs.mapM f = .ok (xs.map g) := by
  induction xs with
  | nil => rfl
  | cons x xs ih =>
    obtain ⟨hx, hxs⟩ := List.forall_mem_cons.1 h
    rw [List.mapM_cons, hx, ih hxs]
    rfl

theorem enterRows_eq {rows : Table Content}
    (h : ∀ row ∈ rows, ∀ content ∈ row, storage.enter content = .ok content) :
    enterRows storage rows = .ok (rows.map (·.map fun content => ⟨content, false⟩)) := by
  refine mapM_eq_ok fun row hrow => mapM_eq_ok fun content hcontent => ?_
  rw [h row hrow content hcontent]
  rfl

section Related

variable {R : Content → Content → Prop}

/-- What comes back of a cell without format is what comes back of its content. -/
theorem rel_keepContent? (hblank : R .blank .blank) {content : Content}
    (h : R content (storage.keep content)) :
    R content ((storage.keepContent? content).getD ⟨.blank, false⟩).content := by
  cases content with
  | blank => exact hblank
  | _ => exact h

/-- What is kept of contents is read back in their places, and the last of it is kept in any
case. -/
theorem exists_related_keepRows (hblank : R .blank .blank) {rows : Table Content}
    {row : List Content} {content : Content}
    (h : ∀ cells ∈ rows ++ [row ++ [content]], ∀ content ∈ cells,
      R content (storage.keep content)) :
    ∃ front last corner,
      storage.keepRows (rows ++ [row ++ [content]]) = front ++ [last ++ [some corner]] ∧
      Table.Related (fun content cell => R content (cell.getD ⟨.blank, false⟩).content)
        (rows ++ [row ++ [content]]) (storage.keepRows (rows ++ [row ++ [content]])) ∧
      R content corner.content ∧ (content = .blank → corner.styled = true) := by
  obtain ⟨corner, hkept, hcorner, hstyled⟩ := exists_keepRows_eq storage rows row content
  obtain ⟨hrows, hlast⟩ := List.forall_mem_append.1 h
  obtain ⟨hrow, hcontent⟩ := List.forall_mem_append.1 (hlast _ List.mem_cons_self)
  have hreturn : R content corner.content := hcorner ▸ hcontent _ List.mem_cons_self
  refine ⟨_, _, corner, hkept, ?_, hreturn, hstyled⟩
  rw [hkept]
  refine .append_corner (.map_right ?_) ?_ hreturn
  · exact Table.related_same fun cells hcells content hcontent =>
      rel_keepContent? hblank (hrows cells hcells content hcontent)
  · exact List.forall₂_map_right_iff.2 (List.forall₂_same.2 fun content hcontent =>
      rel_keepContent? hblank (hrow content hcontent))

end Related

/-! ## Sheets -/

/-- The contents of a sheet end in that of its last cell. -/
theorem exists_contentRows_eq (hs : s.Rectangular) (hrows : 0 < s.nRows) (hcols : 0 < s.nCols)
    (header : Bool) : ∃ contents row place,
      contentRows s header = contents ++ [row ++ [cellContent s.options (s.cellAt place)]] := by
  obtain ⟨rows, last, hrows⟩ := (List.eq_nil_or_concat' s.rows).resolve_left
    (List.length_pos_iff.1 hrows)
  have hlast : last ∈ s.rows := by simp [hrows]
  obtain ⟨row, cell, rfl⟩ := (List.eq_nil_or_concat' last).resolve_left
    (List.length_pos_iff.1 (hs last hlast ▸ hcols))
  obtain ⟨place, hplace⟩ := Table.exists_get?_eq_some.2
    ⟨row ++ [cell], hlast, List.mem_append_right row List.mem_cons_self⟩
  rw [← Sheet.cellAt_of_get? hplace] at hrows
  refine ⟨(if header then [s.columnNames.map Content.text] else []) ++
    rows.map (·.map (cellContent s.options)), row.map (cellContent s.options), place, ?_⟩
  rw [contentRows, hrows, List.map_append, ← List.append_assoc, List.map_singleton, List.map_append,
    List.map_singleton]

/-- All rows of contents are as long as there are columns. -/
theorem length_of_mem_contentRows (hs : s.Rectangular) {row : List Content}
    (hrow : row ∈ contentRows s header) : row.length = s.nCols := by
  rcases List.mem_append.1 hrow with hrow | hrow
  · cases header with
    | true =>
      rw [List.mem_singleton.1 hrow, List.length_map]
      exact List.length_mapIdx
    | false => cases hrow
  · obtain ⟨cells, hcells, rfl⟩ := List.mem_map.1 hrow
    rw [List.length_map, hs cells hcells]

/-- A sheet of which the contents and widths are accepted has a worksheet. In the place of each
content is what is kept of it, and the last cell is kept in any case. -/
theorem exists_worksheetOf {R : Content → Content → Prop} (hblank : R .blank .blank)
    (hs : s.Rectangular) (hrows : 0 < s.nRows) (hcols : 0 < s.nCols)
    (hcontents : ∀ row ∈ contentRows s header, ∀ content ∈ row,
      storage.enter content = .ok content ∧ R content (storage.keep content))
    (haccepted : storage.checkWidths (sheetWidths s) = .ok ()) {title : String}
    (htitle : storage.Admits title) :
    ∃ w corner place, worksheetOf storage s header title = .ok w ∧ w.Filled s.nCols corner ∧
      Table.Related R (contentRows s header) w.grid ∧
      R (cellContent s.options (s.cellAt place)) corner.content ∧
      (cellContent s.options (s.cellAt place) = .blank → corner.styled = true) ∧
      w.widths = storage.keepWidths (sheetWidths s) ∧
      w.freeze = storage.keepFreeze (freezeName? (frozenCount s header)) := by
  obtain ⟨kept, htitle⟩ := htitle
  obtain ⟨contents, row, place, hrow⟩ := exists_contentRows_eq hs hrows hcols header
  have hentered : enterRows storage (contentRows s header) =
      .ok ((contentRows s header).map (·.map fun content => ⟨content, false⟩)) :=
    enterRows_eq fun row hrow content hcontent => (hcontents row hrow content hcontent).1
  have hreturns : ∀ row ∈ contentRows s header, ∀ content ∈ row,
      R content (storage.keep content) :=
    fun row hrow content hcontent => (hcontents row hrow content hcontent).2
  obtain ⟨front, last, corner, hkept, hrelated, hreturn, hstyled⟩ :=
    exists_related_keepRows hblank (hrow ▸ hreturns)
  rw [← hrow] at hkept hrelated
  let w : Worksheet := ⟨kept, storage.keepRows (contentRows s header),
    storage.keepWidths (sheetWidths s), storage.keepFreeze (freezeName? (frozenCount s header))⟩
  have hfilled : w.Filled s.nCols corner :=
    ⟨hrelated.length_eq_of_mem fun _ => length_of_mem_contentRows hs, front, last, hkept⟩
  refine ⟨w, corner, place, ?_, hfilled, ?_, hreturn, hstyled, rfl, rfl⟩
  · have hnonempty : s.rows.isEmpty = false :=
      List.isEmpty_eq_false_iff.2 (List.length_pos_iff.1 hrows)
    simp only [worksheetOf, htitle, hentered, haccepted, Except.mapError, hnonempty,
      Worksheet.make]
    rfl
  · rw [hfilled.grid_eq]
    exact hrelated.map_right

/-- A sheet that is kept has a worksheet that holds it. -/
theorem Storage.Keeps.exists_worksheetOf (h : storage.Keeps s header) (hs : s.Sound)
    (hrows : 0 < s.nRows) (hcols : 0 < s.nCols)
    (hfinite : ∀ cell negative, s.options.formulaBody? (s.cellAt cell).raw = none →
      s.valueAt cell ≠ .number (.infinity negative))
    {title : String} (htitle : storage.Admits title) :
    ∃ w, worksheetOf storage s header title = .ok w ∧ w.Holds s header := by
  obtain ⟨w, corner, place, hw, hfilled, hrelated, hreturn, hstyled, hwidths, hfreeze⟩ :=
    Workbook.exists_worksheetOf (.inl rfl) hs.rectangular hrows hcols h.contents h.accepted htitle
  refine ⟨w, hw, hrelated, ?_, hwidths ▸ h.readable, ?_, hfreeze.trans h.freeze⟩
  · refine hfilled.textRows_eq fun hempty => hstyled ?_
    exact cellContent_eq_blank (hs.cells place) (hfinite place) hreturn hempty
  · simp only [Worksheet.width?, hwidths]
    exact h.widths

end Workbook

end Spreadsheet

import Mathlib
import Spreadsheet.Proofs.Sheet.Naming
import Spreadsheet.Proofs.Workbook.Saving

/-!
# Workbooks read back

A worksheet that holds a sheet is read as a sheet again: its first row as the names of the columns
if there is a header (`Worksheet.Holds.exists_splitHeader`), the others as its texts, the widths as
those of the columns (`columnWidths_applyWidths`) and the frozen rows as the fixed ones
(`frozenRows_eq`). So a sheet whose formulas the equals sign marks is loaded as it was saved, if the
storage keeps what is put into its worksheet (`Visited.load_workbook`).
-/

namespace Spreadsheet

open Binary64

namespace Workbook

variable {w : Worksheet} {s t : Sheet} {header : Bool} {options : Options} {others : Registry}
  {names : List (Option String)} {rows : Table String} {frozen fixed : Nat}

/-! ## Frozen rows and widths -/

/-- The name of the first cell that is not frozen says how many rows are. -/
theorem frozenRows_eq (h : w.freeze = freezeName? frozen) : frozenRows w = .ok frozen := by
  rw [frozenRows, h, freezeName?]
  by_cases hfrozen : frozen = 0
  · rw [if_pos hfrozen, hfrozen]
  · have hname : readCellName (freezeName frozen) = .ok ⟨frozen, 0⟩ :=
      readCellName_name (Int.natCast_nonneg frozen) le_rfl false
    rw [if_neg hfrozen]
    simp only [hname]
    rfl

/-- A width that is a whole number is read as this number. -/
theorem wholeWidth_eq {x : Finite} {width : Nat} (hpos : 1 ≤ width) (h : x.units = width * one) :
    wholeWidth (.finite x) = width := by
  have hunits : (0 : Int) < width * one := by
    have hpositive := Nat.mul_pos hpos Decimal.one_pos
    exact_mod_cast hpositive
  cases hsign : x.negative with
  | true =>
    rw [Finite.units, if_pos hsign] at h
    omega
  | false =>
    rw [Finite.units, hsign, if_neg Bool.false_ne_true] at h
    have hmagnitude : x.magnitude = width * one := by exact_mod_cast h
    rw [wholeWidth, hsign, if_neg Bool.false_ne_true, hmagnitude,
      roundHalfEven_mul_self Decimal.one_pos]
    exact max_eq_right hpos

theorem columnNames_applyWidths (w : Worksheet) (t : Sheet) :
    (applyWidths w t).columnNames = t.columnNames := by
  apply List.ext_getElem?
  intro col
  rw [Sheet.getElem?_columnNames, Sheet.getElem?_columnNames, applyWidths, List.getElem?_mapIdx,
    Option.map_map]
  refine congrArg (Option.map · _) (funext fun column => ?_)
  rw [Function.comp_apply]
  split <;> rfl

/-- The columns have the widths of the worksheet. -/
theorem columnWidths_applyWidths (h : ∀ (col width : Nat), s.columnWidths[col]? = some width →
      ∃ x : Finite, w.width? col = some (.finite x) ∧ x.units = width * one)
    (hcols : t.nCols = s.nCols) (hpos : ∀ width ∈ s.columnWidths, 1 ≤ width) :
    (applyWidths w t).columnWidths = s.columnWidths := by
  have hlength : (applyWidths w t).columnWidths.length = s.columnWidths.length := by
    rw [Sheet.columnWidths, Sheet.columnWidths, List.length_map, List.length_map, applyWidths,
      List.length_mapIdx]
    exact hcols
  refine List.ext_getElem hlength fun col _ hcol => ?_
  obtain ⟨x, hx, hunits⟩ := h col _ (List.getElem?_eq_getElem hcol)
  have hwidth := wholeWidth_eq (hpos _ (List.getElem_mem hcol)) hunits
  simp only [Sheet.columnWidths, applyWidths, List.getElem_map, List.getElem_mapIdx, hx]
  exact hwidth.trans (List.getElem_map Column.width)

/-! ## Rows -/

/-- Without a header the rows of a worksheet are the texts of the sheet that it holds. With one the
names of the columns come first. -/
theorem Worksheet.Holds.exists_splitHeader (h : w.Holds s header)
    (hmarker : s.options.marker = '=')
    (hblank : ∀ name ∈ s.columnNames, Text.allBlank name.toList = false) :
    ∃ body : Table Content,
      Table.Related Content.ReturnsAs (s.rows.map (·.map (cellContent s.options))) body ∧
      splitHeader header (textRows w s.options) (frozenCount s header) =
        (if header then s.columnNames.map some else [], body.map (·.map (contentText s.options)),
          s.fixedRows) := by
  have hcontents := h.contents
  rw [contentRows] at hcontents
  cases header with
  | false =>
    rw [h.texts]
    exact ⟨w.grid, hcontents, rfl⟩
  | true =>
    rw [if_pos rfl, List.singleton_append] at hcontents
    obtain ⟨first, body, hfirst, hbody, hgrid⟩ := List.forall₂_cons_left_iff.1 hcontents
    have hnames : first.map (contentText s.options) = s.columnNames := by
      have hsame : List.Forall₂ Eq s.columnNames (first.map (contentText s.options)) := by
        refine List.forall₂_map_right_iff.2 ?_
        refine (List.forall₂_map_left_iff.1 hfirst).imp fun name kept hkept => ?_
        rw [hkept.eq_of_number? rfl, Content.contentText_text hmarker]
      rw [List.forall₂_eq_eq_eq] at hsame
      exact hsame.symm
    have hheader : s.columnNames.map headerName? = s.columnNames.map some := by
      refine List.map_congr_left fun name hname => if_neg fun hempty => ?_
      rw [String.isEmpty_iff.1 hempty] at hname
      exact absurd (hblank _ hname) (by decide)
    refine ⟨body, hbody, ?_⟩
    rw [h.texts, hgrid, List.map_cons, hnames, splitHeader, hheader]
    rfl

/-- Rows of the width of a sheet, under the names of its columns or no names, make a sheet of the
same width with these names. -/
theorem exists_ofRows (options : Options) (others : Registry)
    (hblank : ∀ name ∈ s.columnNames, Text.allBlank name.toList = false)
    (hnames : header = true → s.columnNames.Nodup) (hne : rows ≠ [])
    (hwidth : ∀ row ∈ rows, row.length = s.nCols) : ∃ t,
    Sheet.ofRows rows (if header then s.columnNames.map some else []) options others = .ok t ∧
      t.options = options ∧ t.nRows = rows.length ∧ t.nCols = s.nCols ∧
      (header = true → t.columnNames = s.columnNames) ∧
      ∀ cell, (t.cellAt cell).raw = (rows.get? cell).getD "" := by
  have hlength : s.columnNames.length = s.nCols := List.length_mapIdx
  cases header with
  | true =>
    obtain ⟨-, t, ht, hframe, htexts⟩ := (Sheet.ofRows_named options others hblank
      fun row hrow => ((hwidth row hrow).trans hlength.symm).le).resolve_right
        fun h => h.1 (hnames rfl)
    refine ⟨t, ht, hframe.options, ?_, ?_, fun _ => ?_, htexts⟩
    · rw [hframe.sameSize.nRows, Sheet.nRows_labelled]
    · rw [hframe.sameSize.nCols, Sheet.nCols_labelled le_rfl, hlength]
    · rw [Sheet.columnNames, hframe.columns]
      exact Sheet.columnNames_labelled rfl
  | false =>
    obtain ⟨t, ht, hframe, htexts⟩ :=
      Sheet.ofRows_spec (Sheet.make_unnamed rows.length _ options others)
    have hwidest : (rows.map List.length).foldl max ([] : List (Option String)).length = s.nCols :=
      Sheet.foldl_max_of_forall (List.forall_mem_map.2 hwidth) (mt List.map_eq_nil_iff.1 hne)
    refine ⟨t, ht, hframe.options, ?_, ?_, fun h => absurd h Bool.false_ne_true, htexts⟩
    · rw [hframe.sameSize.nRows]
      exact List.length_replicate
    · rw [hframe.sameSize.nCols, ← hwidest]
      exact List.length_replicate

theorem sheetOf_eq_ok (hfrozen : frozenRows w = .ok frozen)
    (hsplit : splitHeader header (textRows w options) frozen = (names, rows, fixed))
    (ht : Sheet.ofRows rows names options others = .ok t) :
    sheetOf w header options others =
      .ok { applyWidths w t with fixedRows := min fixed t.nRows } := by
  rw [sheetOf]
  refine bind_eq_ok.2 ⟨frozen, by rw [hfrozen]; rfl, ?_⟩
  rw [hsplit]
  exact bind_eq_ok.2 ⟨t, by rw [ht]; rfl, rfl⟩

/-! ## Sheets -/

/-- What comes back of the content of a cell is the text of the cell in its place. -/
theorem exists_returnsAs {body : Table Content}
    (h : Table.Related Content.ReturnsAs (s.rows.map (·.map (cellContent s.options))) body)
    (cell : Coord) : ∃ kept, (cellContent s.options (s.cellAt cell)).ReturnsAs kept ∧
      (Table.get? (body.map (·.map (contentText options))) cell).getD "" =
        contentText options kept := by
  have hcell := h.get? cell
  rw [Table.get?_map] at hcell ⊢
  cases hsaved : s.rows.get? cell with
  | some c =>
    rw [hsaved, Option.map_some] at hcell
    rw [Sheet.cellAt_of_get? hsaved]
    generalize body.get? cell = kept at hcell ⊢
    cases hcell with
    | some hkept => exact ⟨_, hkept, rfl⟩
  | none =>
    rw [hsaved, Option.map_none] at hcell
    generalize body.get? cell = kept at hcell ⊢
    cases hcell
    exact ⟨.blank, .inl (by rw [Sheet.cellAt, hsaved]; rfl), rfl⟩

/-- A worksheet that holds a sheet is read as this sheet. -/
theorem Worksheet.Holds.exists_sheetOf (h : w.Holds s header) (hs : s.Sound) (hshape : s.WellShaped)
    (hothers : others.Lawful) (hmarker : s.options.marker = '=') (hrows : 0 < s.nRows)
    (hfinite : ∀ cell negative, s.options.formulaBody? (s.cellAt cell).raw = none →
      s.valueAt cell ≠ .number (.infinity negative))
    (hnames : header = true → s.columnNames.Nodup) :
    ∃ t, sheetOf w header s.options others = .ok t ∧ t.nRows = s.nRows ∧ t.nCols = s.nCols ∧
      t.columnWidths = s.columnWidths ∧ t.fixedRows = s.fixedRows ∧
      (header = true → t.columnNames = s.columnNames) ∧
      ∀ cell, Restores s.options (s.cellAt cell) (t.cellAt cell) := by
  have hblank (name) (hname : name ∈ s.columnNames) := hshape.allBlank_columnNames hname
  obtain ⟨body, hbody, hsplit⟩ := h.exists_splitHeader hmarker hblank
  have hheight : (body.map (·.map (contentText s.options))).length = s.nRows := by
    rw [List.length_map, ← hbody.length_eq]
    exact List.length_map ..
  have hne : body.map (·.map (contentText s.options)) ≠ [] :=
    List.length_pos_iff.1 (hheight.symm ▸ hrows)
  have hwidth : ∀ row ∈ body.map (·.map (contentText s.options)), row.length = s.nCols := by
    refine List.forall_mem_map.2 fun row hrow => ?_
    rw [List.length_map]
    refine hbody.length_eq_of_mem (List.forall_mem_map.2 fun cells hcells => ?_) row hrow
    rw [List.length_map, hs.rectangular cells hcells]
  obtain ⟨t, ht, htOptions, htRows, htCols, htNames, htexts⟩ :=
    exists_ofRows s.options others hblank hnames hne hwidth
  have htSound : t.Sound := ((Reachable.ofRows ht).consistent hothers).1.sound
  refine ⟨_, sheetOf_eq_ok (frozenRows_eq h.freeze) hsplit ht, htRows.trans hheight, ?_, ?_, ?_,
    fun hheader => ?_, fun cell => ?_⟩
  · exact List.length_mapIdx.trans htCols
  · refine columnWidths_applyWidths h.widths htCols fun width hwidth => ?_
    obtain ⟨column, hcolumn, rfl⟩ := List.mem_map.1 hwidth
    exact (hshape.formed column hcolumn).1
  · rw [htRows, hheight]
    exact min_eq_left hshape.fixedRows_le
  · exact (columnNames_applyWidths w t).trans (htNames hheader)
  · obtain ⟨kept, hkept, htext⟩ := exists_returnsAs hbody cell
    exact restores_of_returnsAs hmarker (hs.cells cell) (htOptions ▸ htSound.cells cell)
      (hfinite cell) hkept ((htexts cell).trans htext)

/-- A worksheet can be read if its widths can. -/
theorem readFault?_eq_none
    (h : ∀ width ∈ w.widths, width.isPlaced = true ∧ width.width.isFinite = true) :
    w.readFault? = none := by
  have hplaced : w.widths.find? (!·.isPlaced) = none :=
    List.find?_eq_none.2 fun width hwidth => by simp [(h width hwidth).1]
  rw [Worksheet.readFault?, hplaced]
  exact if_pos (List.all_eq_true.2 fun width hwidth => (h width hwidth).2)

end Workbook

open Workbook Sheet

/-- A sheet whose formulas the equals sign marks becomes a workbook, if the storage admits the title
of its worksheet and keeps what is put into that. It is loaded from there with its size, the widths
of its columns and its fixed rows, with the names of its columns if they come first, and with a cell
in place of each of its cells that is the same formula, the same text, an equal number or empty. -/
theorem Visited.load_workbook {functions others : Registry} {st : Marked}
    (h : Visited functions st) (hlawful : functions.Lawful) (hothers : others.Lawful)
    (hmarker : st.sheet.options.marker = '=') (hrows : 0 < st.sheet.nRows)
    (hcols : 0 < st.sheet.nCols)
    (hfinite : ∀ cell negative, st.sheet.options.isFormula (st.sheet.cellAt cell).raw = false →
      st.sheet.valueAt cell ≠ .number (.infinity negative))
    {header : Bool} (hnames : header = true → st.sheet.columnNames.Nodup) {storage : Storage}
    {title : String} (htitle : storage.Admits title) (hkeeps : storage.Keeps st.sheet header) :
    ∃ workbook w t, ofSheet storage st.sheet header title = .ok workbook ∧
      workbook.readFault? = none ∧ workbook.activeSheet? = some w ∧
      sheetOf w header st.sheet.options others = .ok t ∧
      t.nRows = st.sheet.nRows ∧ t.nCols = st.sheet.nCols ∧
      t.columnWidths = st.sheet.columnWidths ∧ t.fixedRows = st.sheet.fixedRows ∧
      (header = true → t.columnNames = st.sheet.columnNames) ∧
      ∀ cell, Restores st.sheet.options (st.sheet.cellAt cell) (t.cellAt cell) := by
  have hsound : st.sheet.Sound := ((h.reachable hlawful).1.consistent hlawful).1.sound
  have hfinite (cell : Coord) (negative : Bool)
      (hliteral : st.sheet.options.formulaBody? (st.sheet.cellAt cell).raw = none) :
      st.sheet.valueAt cell ≠ .number (.infinity negative) :=
    hfinite cell negative (by rw [Options.isFormula, hliteral]; rfl)
  obtain ⟨w, hw, hholds⟩ := hkeeps.exists_worksheetOf hsound hrows hcols hfinite htitle
  obtain ⟨t, ht, hloaded⟩ :=
    hholds.exists_sheetOf hsound h.wellShaped hothers hmarker hrows hfinite hnames
  refine ⟨⟨[w], 0⟩, w, t, bind_eq_ok.2 ⟨w, hw, rfl⟩, ?_, rfl, ht, hloaded⟩
  rw [Workbook.readFault?, List.findSome?_singleton]
  exact readFault?_eq_none hholds.readable

namespace Sheet

/-- A number, a formula and a text, the first row of them fixed, and an empty cell. -/
def mixedSample : Sheet :=
  let first := ((blank 2 2 .standard .builtin).setTextAt ⟨0, 0⟩ "0").1
  let second := (first.setTextAt ⟨0, 1⟩ "=A1").1
  { (second.setTextAt ⟨1, 0⟩ "x").1 with fixedRows := 1 }

theorem visited_mixedSample : Visited .builtin ⟨mixedSample, []⟩ := by
  have hstart := Visited.blank 2 2 .builtin
  have hfirst := hstart.setTextAt Registry.lawful_builtin ⟨0, 0⟩ (by decide) "0"
  have hsecond := hfirst.setTextAt Registry.lawful_builtin ⟨0, 1⟩
    (by simp only [nRows_setTextAt, nCols_setTextAt]; decide) "=A1"
  have hthird := hsecond.setTextAt Registry.lawful_builtin ⟨1, 0⟩
    (by simp only [nRows_setTextAt, nCols_setTextAt]; decide) "x"
  refine @Visited.run .builtin _ mixedSample none Registry.lawful_builtin hthird (.fixRows 1) ?_
  rw [Edit.run, fixRows, if_pos (by simp only [nRows_setTextAt]; decide)]
  rfl

theorem rows_mixedSample : mixedSample.rows =
    [[⟨"0", none, .number (.zero false)⟩,
        ⟨"=A1", some (.cell ⟨0, 0⟩ false), .number (.zero false)⟩],
      [⟨"x", none, .text "x"⟩, .blank]] := by
  cbv

theorem frame_mixedSample : mixedSample.options = .standard ∧
    mixedSample.columns = [⟨none, 10⟩, ⟨none, 10⟩] ∧ mixedSample.fixedRows = 1 := by
  have hframe : (blank 2 2 .standard .builtin).SameFrame
      (((blank 2 2 .standard .builtin).setTextAt ⟨0, 0⟩ "0").1.setTextAt ⟨0, 1⟩ "=A1").1 :=
    (sameFrame_setTextAt ..).trans (sameFrame_setTextAt ..)
  have hframe := hframe.trans (sameFrame_setTextAt _ ⟨1, 0⟩ "x")
  exact ⟨hframe.options, hframe.columns, rfl⟩

end Sheet

namespace Workbook

theorem contentRows_mixedSample : contentRows mixedSample true =
    [[.text "A", .text "B"], [.whole 0, .text "=A1"], [.text "x", .blank]] := by
  obtain ⟨hoptions, hcolumns, -⟩ := frame_mixedSample
  rw [contentRows, columnNames, rows_mixedSample, hoptions, hcolumns]
  decide +kernel

/-- The number ten. -/
def ten : Finite := ⟨false, 10 * Nat.pow 2 49, 1025, by decide +kernel⟩

theorem ofNat_ten : ofNat 10 = .finite ten ∧ ten.units = (10 : Nat) * one := by
  decide +kernel

/-- Two columns of a width of ten. -/
def tenWidths : List ColumnWidth := [⟨1, 1, .ofNat 10⟩, ⟨2, 2, .ofNat 10⟩]

theorem widths_mixedSample : mixedSample.columnWidths = [10, 10] ∧
    sheetWidths mixedSample = tenWidths := by
  obtain ⟨-, hcolumns, -⟩ := frame_mixedSample
  rw [sheetWidths, columnWidths, hcolumns]
  exact ⟨rfl, rfl⟩

theorem keepWidths_mixedSample :
    Storage.standard.keepWidths (sheetWidths mixedSample) = tenWidths := by
  have hkept : (tenWidths.filter fun w => !w.width.equal (.zero false)) = tenWidths := by
    decide +kernel
  have hsorted : (tenWidths.mergeSort fun v w => v.first ≤ w.first) = tenWidths :=
    List.mergeSort_of_pairwise (by decide +kernel)
  rw [widths_mixedSample.2, Storage.standard]
  simp only [keptWidths, hkept, hsorted]
  decide +kernel

theorem keeps_mixedSample : Storage.standard.Keeps mixedSample true where
  contents := by
    have hkept : ∀ row ∈ [[Content.text "A", .text "B"], [.whole 0, .text "=A1"],
        [.text "x", .blank]], ∀ content ∈ row,
          Storage.standard.enter content = .ok content ∧
            Storage.standard.keep content = content := by decide +kernel
    rw [contentRows_mixedSample]
    exact fun row hrow content hcontent => (hkept row hrow content hcontent).imp_right .inl
  accepted := by
    rw [widths_mixedSample.2]
    decide +kernel
  readable := by
    rw [keepWidths_mixedSample]
    decide +kernel
  widths col width hwidth := by
    have hcols : ∀ col < 2, widthOf? tenWidths col = some (.ofNat 10) := by decide +kernel
    rw [widths_mixedSample.1] at hwidth
    obtain rfl : width = 10 := List.eq_of_mem_replicate (n := 2) (List.mem_of_getElem? hwidth)
    obtain ⟨hcol, -⟩ := List.getElem?_eq_some_iff.1 hwidth
    rw [keepWidths_mixedSample, hcols col hcol, ofNat_ten.1]
    exact ⟨ten, rfl, ofNat_ten.2⟩
  freeze := by
    rw [frozenCount, frame_mixedSample.2.2]
    decide +kernel

end Workbook

theorem load_workbook_sample : ∃ workbook w t,
    ofSheet .standard mixedSample true "Sheet1" = .ok workbook ∧ workbook.readFault? = none ∧
      workbook.activeSheet? = some w ∧ sheetOf w true mixedSample.options .builtin = .ok t ∧
      t.columnWidths = [10, 10] ∧ t.fixedRows = 1 ∧ t.columnNames = ["A", "B"] ∧
      ∀ cell, Restores mixedSample.options (mixedSample.cellAt cell) (t.cellAt cell) := by
  obtain ⟨hoptions, hcolumns, hfixed⟩ := frame_mixedSample
  have hrows : 0 < mixedSample.nRows := by
    rw [nRows, rows_mixedSample]
    decide
  have hcols : 0 < mixedSample.nCols := by
    rw [nCols, hcolumns]
    decide
  have hnames : mixedSample.columnNames = ["A", "B"] := by
    rw [columnNames, hcolumns]
    decide +kernel
  have htitle : Storage.standard.Admits "Sheet1" := ⟨"Sheet1", by decide +kernel⟩
  have hfinite (cell : Coord) (negative : Bool) :
      mixedSample.valueAt cell ≠ .number (.infinity negative) := by
    have hblank : Cell.blank.value ≠ .number (.infinity negative) := by simp [Cell.blank]
    refine (forall_cellAt (p := fun c => c.value ≠ .number (.infinity negative)) hblank).2 ?_ cell
    rw [rows_mixedSample]
    simp [Cell.blank, zero]
  obtain ⟨workbook, w, t, hworkbook, hread, hactive, hsheet, -, -, hwidths, htFixed, htNames,
      hcells⟩ :=
    visited_mixedSample.load_workbook Registry.lawful_builtin Registry.lawful_builtin
      (by rw [hoptions]; rfl) hrows hcols (fun cell negative _ => hfinite cell negative)
      (fun _ => by rw [hnames]; decide) htitle keeps_mixedSample
  exact ⟨workbook, w, t, hworkbook, hread, hactive, hsheet, hwidths.trans widths_mixedSample.1,
    htFixed.trans hfixed, (htNames rfl).trans hnames, hcells⟩

end Spreadsheet

import Mathlib
import Spreadsheet.Proofs.Workbook.RoundTrip

/-!
# Formulas under other markers

In a worksheet formulas start with an equals sign, whatever their marker on the sheet, and so may
texts. What is read back of a cell is the text of what was kept of it
(`Storage.KeepsTexts.exists_reloaded`). A formula comes back as it was, but so may a formula come
back of a cell that had none (`Strays`): a text that starts with an equals sign does not come back
as it was, but with the marker in its place, and the text of a number may start with the marker.
No other cell becomes a formula (`Reachable.reloaded_spec`).
-/

namespace Spreadsheet

namespace Workbook

/-- Texts and blanks come back of what is put into the worksheet of a sheet without header, and it
can be read. -/
structure Storage.KeepsTexts (storage : Storage) (s : Sheet) : Prop where
  entered : ∀ row ∈ contentRows s false, ∀ content ∈ row, storage.enter content = .ok content
  texts : ∀ row ∈ contentRows s false, ∀ text, .text text ∈ row →
    storage.keep (.text text) = .text text
  blank : storage.keep .blank = .blank
  accepted : storage.checkWidths (sheetWidths s) = .ok ()
  readable : ∀ width ∈ storage.keepWidths (sheetWidths s),
    width.isPlaced = true ∧ width.width.isFinite = true
  freeze : storage.keepFreeze (freezeName? (frozenCount s false)) =
    freezeName? (frozenCount s false)

/-- The text that is read back of a cell. -/
def reloadedText (storage : Storage) (options : Options) (cell : Cell) : String :=
  contentText options (storage.keep (cellContent options cell))

/-- The cell has no formula, but one is read back of it: it is a text that starts with an equals
sign, or a number of which the text starts with the marker. -/
def Strays (storage : Storage) (options : Options) (cell : Cell) : Prop :=
  options.isFormula cell.raw = false ∧
    ((∃ text, cell.value = .text text) ∧ cell.raw.toList.head? = some '=' ∨
      ∃ x, cell.value = .number x ∧
        options.isFormula (contentText options (storage.keep (numberContent x))) = true)

variable {storage : Storage} {s : Sheet} {w : Worksheet} {options : Options} {cell : Cell}
  {functions others : Registry}

/-! ## Worksheets -/

/-- It does not matter for its texts whether a worksheet counts as untouched. -/
theorem getD_textRows (w : Worksheet) (options : Options) (cell : Coord) :
    (Table.get? (textRows w options) cell).getD "" =
      ((w.grid.get? cell).map (contentText options)).getD "" := by
  rw [← Table.get?_map, textRows]
  split
  · next huntouched =>
    have htexts := eq_of_beq (Bool.and_eq_true_iff.1 huntouched).1
    have hempty : Table.get? ([] : Table String) cell = none := by simp [Table.get?]
    rw [htexts, hempty]
    cases htext : Table.get? [[""]] cell with
    | none => rfl
    | some text =>
      obtain ⟨row, hrow, hmem⟩ := Table.exists_get?_eq_some.1 ⟨cell, htext⟩
      rw [List.mem_singleton.1 hrow] at hmem
      exact (List.mem_singleton.1 hmem).symm
  · rfl

/-- A worksheet with what is kept of the contents of a sheet is read as a sheet with their texts. -/
theorem exists_sheetOf_of_kept (hblank : storage.keep .blank = .blank)
    (hgrid : Table.Related (fun content kept => kept = storage.keep content)
      (contentRows s false) w.grid)
    (hfreeze : w.freeze = freezeName? (frozenCount s false)) (others : Registry) :
    ∃ t, sheetOf w false s.options others = .ok t ∧
      ∀ cell, (t.cellAt cell).raw = reloadedText storage s.options (s.cellAt cell) := by
  obtain ⟨t, ht, -, htexts⟩ := Sheet.ofRows_spec
    (Sheet.make_unnamed (textRows w s.options).length _ s.options others)
  refine ⟨_, sheetOf_eq_ok (frozenRows_eq hfreeze) rfl ht, fun cell => ?_⟩
  have hcell := hgrid.get? cell
  have hcontent : (contentRows s false).get? cell =
      (s.rows.get? cell).map (cellContent s.options) := Table.get?_map ..
  rw [hcontent] at hcell
  refine (htexts cell).trans ?_
  rw [getD_textRows, reloadedText]
  generalize w.grid.get? cell = kept at hcell ⊢
  cases hsaved : s.rows.get? cell with
  | some c =>
    rw [hsaved, Option.map_some] at hcell
    rw [Sheet.cellAt_of_get? hsaved]
    cases hcell with
    | some hkept =>
      rw [hkept]
      rfl
  | none =>
    rw [hsaved, Option.map_none] at hcell
    have hoff : s.cellAt cell = .blank := by rw [Sheet.cellAt, hsaved]; rfl
    have hnothing : cellContent s.options .blank = .blank := rfl
    rw [hoff, hnothing, hblank]
    cases hcell
    rfl

/-- A sheet of which texts are kept is saved and loaded. What is read back of each cell is the text
of what was kept of it. -/
theorem Storage.KeepsTexts.exists_reloaded (h : storage.KeepsTexts s) (hs : s.Rectangular)
    (hrows : 0 < s.nRows) (hcols : 0 < s.nCols) {title : String} (htitle : storage.Admits title)
    (others : Registry) :
    ∃ workbook w t, ofSheet storage s false title = .ok workbook ∧
      workbook.readFault? = none ∧ workbook.activeSheet? = some w ∧
      sheetOf w false s.options others = .ok t ∧
      ∀ cell, (t.cellAt cell).raw = reloadedText storage s.options (s.cellAt cell) := by
  obtain ⟨w, -, -, hw, -, hgrid, -, -, hwidths, hfreeze⟩ :=
    exists_worksheetOf (R := fun content kept => kept = storage.keep content) h.blank.symm hs
      hrows hcols (fun row hrow content hcontent => ⟨h.entered row hrow content hcontent, rfl⟩)
      h.accepted htitle
  obtain ⟨t, ht, hcells⟩ :=
    exists_sheetOf_of_kept h.blank hgrid (hfreeze.trans h.freeze) others
  have hread : w.readFault? = none := readFault?_eq_none (hwidths ▸ h.readable)
  refine ⟨⟨[w], 0⟩, w, t, bind_eq_ok.2 ⟨w, hw, rfl⟩, ?_, rfl, ht, hcells⟩
  rw [Workbook.readFault?, List.findSome?_singleton]
  exact hread

/-- The text that a cell becomes is kept. -/
theorem Storage.KeepsTexts.keep_text (h : storage.KeepsTexts s) {cell : Coord} {text : String}
    (hcontent : cellContent s.options (s.cellAt cell) = .text text) :
    storage.keep (.text text) = .text text := by
  cases hsaved : s.rows.get? cell with
  | some c =>
    rw [Sheet.cellAt_of_get? hsaved] at hcontent
    obtain ⟨row, hrow, hmem⟩ := Table.exists_get?_eq_some.1 ⟨cell, hsaved⟩
    have hcontents : row.map (cellContent s.options) ∈ contentRows s false :=
      List.mem_map_of_mem hrow
    exact h.texts _ hcontents text (hcontent ▸ List.mem_map_of_mem hmem)
  | none =>
    have hoff : s.cellAt cell = .blank := by rw [Sheet.cellAt, hsaved]; rfl
    rw [hoff] at hcontent
    cases hcontent

/-! ## Cells -/

/-- A text that starts with an equals sign comes back with the marker in its place. -/
theorem contentText_text_eq_iff {raw : String} (hliteral : options.formulaBody? raw = none) :
    (contentText options (.text raw) = raw ↔ raw.toList.head? ≠ some '=') ∧
      (options.isFormula (contentText options (.text raw)) = true ↔
        raw.toList.head? = some '=') := by
  rw [contentText]
  split
  · next body hraw =>
    have hformula : options.formulaBody? (options.formulaText (String.ofList body)) =
        some (String.ofList body) := Options.formulaBody?_eq_some_iff.2 rfl
    have hne : options.formulaText (String.ofList body) ≠ raw := fun heq => by
      rw [heq, hliteral] at hformula
      cases hformula
    simp [hne, hraw, Options.isFormula, hformula]
  · next hplain =>
    have hhead : raw.toList.head? ≠ some '=' := fun hhead => by
      obtain ⟨body, hbody⟩ := List.head?_eq_some_iff.1 hhead
      exact hplain body hbody
    simp [hhead, Options.isFormula, hliteral]

section Cells

variable (h : cell.Sound options functions) (hblank : storage.keep .blank = .blank)
  (htexts : ∀ text, cellContent options cell = .text text → storage.keep (.text text) = .text text)

include htexts in
/-- A formula comes back as it was. -/
theorem reloadedText_of_isFormula (hformula : options.isFormula cell.raw = true) :
    reloadedText storage options cell = cell.raw := by
  obtain ⟨body, hbody⟩ := Option.isSome_iff_exists.1 hformula
  have hcontent : cellContent options cell = .text ("=" ++ body) := by rw [cellContent, hbody]
  refine contentText_of_formula hbody (.inl ?_)
  rw [hcontent]
  exact htexts _ hcontent

include htexts in
theorem reloadedText_of_text {text : String} (hliteral : options.formulaBody? cell.raw = none)
    (hvalue : cell.value = .text text) :
    reloadedText storage options cell = contentText options (.text cell.raw) := by
  have hcontent : cellContent options cell = .text cell.raw := by
    rw [cellContent, hliteral, hvalue]
  refine contentText_of_text hliteral hvalue (.inl ?_)
  rw [hcontent]
  exact htexts _ hcontent

include h hblank htexts in
/-- A formula is read back of a cell that has one, and of the cells that stray. -/
theorem isFormula_reloadedText_iff :
    options.isFormula (reloadedText storage options cell) = true ↔
      options.isFormula cell.raw = true ∨ Strays storage options cell := by
  cases hformula : options.isFormula cell.raw with
  | true => simp [reloadedText_of_isFormula htexts hformula, hformula]
  | false =>
    have hliteral : options.formulaBody? cell.raw = none := by
      simpa [Options.isFormula] using hformula
    rw [Strays, hformula]
    rcases value_cases h hliteral with hvalue | ⟨x, hvalue⟩ | ⟨hvalue, -⟩
    · have htext : reloadedText storage options cell = "" := by
        rw [reloadedText, cellContent_of_empty hliteral hvalue, hblank]
        rfl
      have hnone : options.isFormula "" = false := rfl
      simp [htext, hvalue, hnone]
    · rw [reloadedText, cellContent_of_number hliteral hvalue]
      simp [hvalue]
    · rw [reloadedText_of_text htexts hliteral hvalue, (contentText_text_eq_iff hliteral).2]
      simp [hvalue]

end Cells

end Workbook

open Workbook

/-- A sheet, whatever the marker of its formulas, becomes a workbook, if the storage admits the
title and keeps texts, and is loaded from that. A cell of the loaded sheet is a formula exactly if
that of the saved one was or strays; formulas come back as they were, and of the texts those do that
do not start with an equals sign. -/
theorem Reachable.reloaded_spec {functions : Registry} {s : Sheet} (h : Reachable functions s)
    (hlawful : functions.Lawful) (hrows : 0 < s.nRows) (hcols : 0 < s.nCols) {storage : Storage}
    {title : String} (htitle : storage.Admits title) (hkeeps : storage.KeepsTexts s)
    (others : Registry) :
    ∃ workbook w t, ofSheet storage s false title = .ok workbook ∧
      workbook.readFault? = none ∧ workbook.activeSheet? = some w ∧
      sheetOf w false s.options others = .ok t ∧ ∀ cell,
        (s.options.isFormula (t.cellAt cell).raw = true ↔
          s.options.isFormula (s.cellAt cell).raw = true ∨
            Strays storage s.options (s.cellAt cell)) ∧
        (s.options.isFormula (s.cellAt cell).raw = true →
          (t.cellAt cell).raw = (s.cellAt cell).raw) ∧
        ∀ text, s.options.isFormula (s.cellAt cell).raw = false → s.valueAt cell = .text text →
          ((t.cellAt cell).raw = (s.cellAt cell).raw ↔
            (s.cellAt cell).raw.toList.head? ≠ some '=') := by
  have hsound : s.Sound := (h.consistent hlawful).1.sound
  obtain ⟨workbook, w, t, hworkbook, hread, hactive, ht, hcells⟩ :=
    hkeeps.exists_reloaded hsound.rectangular hrows hcols htitle others
  refine ⟨workbook, w, t, hworkbook, hread, hactive, ht, fun cell => ?_⟩
  have htexts (text : String) (hcontent : cellContent s.options (s.cellAt cell) = .text text) :
      storage.keep (.text text) = .text text := hkeeps.keep_text hcontent
  rw [hcells cell]
  refine ⟨isFormula_reloadedText_iff (hsound.cells cell) hkeeps.blank htexts,
    reloadedText_of_isFormula htexts, fun text hliteral hvalue => ?_⟩
  have hbody : s.options.formulaBody? (s.cellAt cell).raw = none := by
    simpa [Options.isFormula] using hliteral
  rw [reloadedText_of_text htexts hbody hvalue]
  exact (contentText_text_eq_iff hbody).1

namespace Sheet

/-- A text that starts with an equals sign, where a plus sign marks formulas. -/
def plusSample : Sheet := ((blank 1 1 ⟨'+', 2, 10⟩ .builtin).setTextAt ⟨0, 0⟩ "=x").1

theorem reachable_plusSample : Reachable .builtin plusSample := by
  have hstart : Reachable .builtin (blank 1 1 ⟨'+', 2, 10⟩ .builtin) :=
    @Reachable.make .builtin 1 1 [] ⟨'+', 2, 10⟩ _ rfl
  exact hstart.setTextAt ⟨0, 0⟩ (by decide) "=x"

theorem rows_plusSample : plusSample.rows = [[⟨"=x", none, .text "=x"⟩]] := by
  cbv

theorem frame_plusSample : plusSample.options = ⟨'+', 2, 10⟩ ∧
    plusSample.columns = [⟨none, 10⟩] ∧ plusSample.fixedRows = 0 := by
  have hframe : (blank 1 1 ⟨'+', 2, 10⟩ .builtin).SameFrame plusSample := sameFrame_setTextAt ..
  exact ⟨hframe.options, hframe.columns, hframe.fixedRows⟩

theorem cellAt_plusSample : plusSample.cellAt ⟨0, 0⟩ = ⟨"=x", none, .text "=x"⟩ := by
  rw [cellAt, rows_plusSample]
  rfl

end Sheet

open Sheet

theorem keepsTexts_plusSample : Storage.standard.KeepsTexts plusSample := by
  obtain ⟨hoptions, hcolumns, hfixed⟩ := frame_plusSample
  have hcontents : contentRows plusSample false = [[.text "=x"]] := by
    rw [contentRows, rows_plusSample, hoptions]
    decide +kernel
  have hwidths : sheetWidths plusSample = [⟨1, 1, .ofNat 10⟩] := by
    rw [sheetWidths, columnWidths, hcolumns]
    rfl
  have hkept : Storage.standard.keepWidths [⟨1, 1, .ofNat 10⟩] = [⟨1, 1, .ofNat 10⟩] := by
    have hwide : [ColumnWidth.mk 1 1 (.ofNat 10)].filter (fun w => !w.width.equal (.zero false)) =
        [⟨1, 1, .ofNat 10⟩] := by decide +kernel
    simp only [Storage.standard, keptWidths, hwide, List.mergeSort_singleton]
    decide +kernel
  refine ⟨?_, ?_, rfl, ?_, ?_, ?_⟩
  · rw [hcontents]
    decide +kernel
  · rw [hcontents]
    intro row hrow text htext
    rw [List.mem_singleton.1 hrow] at htext
    cases List.mem_singleton.1 htext
    decide +kernel
  · rw [hwidths]
    decide +kernel
  · rw [hwidths, hkept]
    decide +kernel
  · rw [frozenCount, hfixed]
    rfl

theorem title_plusSample : Storage.standard.Admits "Sheet1" := ⟨"Sheet1", by decide +kernel⟩

theorem size_plusSample : 0 < plusSample.nRows ∧ 0 < plusSample.nCols := by
  rw [nRows, nCols, rows_plusSample, frame_plusSample.2.1]
  decide

theorem literal_plusSample : plusSample.options.isFormula (plusSample.cellAt ⟨0, 0⟩).raw = false ∧
    plusSample.valueAt ⟨0, 0⟩ = .text "=x" := by
  rw [valueAt, cellAt_plusSample, frame_plusSample.1]
  decide +kernel

theorem reloaded_spec_sample : ∃ workbook w t,
    ofSheet .standard plusSample false "Sheet1" = .ok workbook ∧ workbook.readFault? = none ∧
      workbook.activeSheet? = some w ∧ sheetOf w false plusSample.options .builtin = .ok t ∧
      plusSample.options.isFormula (t.cellAt ⟨0, 0⟩).raw = true ∧
      (t.cellAt ⟨0, 0⟩).raw ≠ (plusSample.cellAt ⟨0, 0⟩).raw := by
  obtain ⟨hliteral, hvalue⟩ := literal_plusSample
  have hhead : (plusSample.cellAt ⟨0, 0⟩).raw.toList.head? = some '=' := by
    rw [cellAt_plusSample]
    decide +kernel
  obtain ⟨workbook, w, t, hworkbook, hread, hactive, ht, hcells⟩ :=
    reachable_plusSample.reloaded_spec Registry.lawful_builtin size_plusSample.1 size_plusSample.2
      title_plusSample keepsTexts_plusSample .builtin
  obtain ⟨hformula, -, htext⟩ := hcells ⟨0, 0⟩
  exact ⟨workbook, w, t, hworkbook, hread, hactive, ht,
    hformula.2 (.inr ⟨hliteral, .inl ⟨⟨_, hvalue⟩, hhead⟩⟩),
    fun hsame => (htext _ hliteral hvalue).1 hsame hhead⟩

/-- The text becomes a formula. -/
theorem reloaded_plusSample : ∃ workbook w t,
    ofSheet .standard plusSample false "Sheet1" = .ok workbook ∧
      workbook.activeSheet? = some w ∧ sheetOf w false plusSample.options .builtin = .ok t ∧
      plusSample.options.isFormula (plusSample.cellAt ⟨0, 0⟩).raw = false ∧
      plusSample.valueAt ⟨0, 0⟩ = .text "=x" ∧ (t.cellAt ⟨0, 0⟩).raw = "+x" ∧
      plusSample.options.isFormula (t.cellAt ⟨0, 0⟩).raw = true := by
  have hsound : plusSample.Sound :=
    (reachable_plusSample.consistent Registry.lawful_builtin).1.sound
  obtain ⟨workbook, w, t, hworkbook, -, hactive, ht, hcells⟩ :=
    keepsTexts_plusSample.exists_reloaded hsound.rectangular size_plusSample.1 size_plusSample.2
      title_plusSample .builtin
  have hraw : (t.cellAt ⟨0, 0⟩).raw = "+x" := by
    rw [hcells, cellAt_plusSample, frame_plusSample.1]
    decide +kernel
  refine ⟨workbook, w, t, hworkbook, hactive, ht, literal_plusSample.1, literal_plusSample.2, hraw,
    ?_⟩
  rw [hraw, frame_plusSample.1]
  decide

end Spreadsheet

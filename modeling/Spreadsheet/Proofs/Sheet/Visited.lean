import Spreadsheet.Proofs.Sheet.Dirty

/-!
# Visited sheets

A sheet is `Visited` if it is a new one, or what an edit leaves of a visited one, whether the edit
was made or failed at one of its steps. All visited sheets are well-shaped (`Visited.wellShaped`).
With lawful functions an edit that fails leaves the sheet as it was, so that the visited sheets are
the reachable ones, and none of their cells is dirty (`Visited.reachable`).
-/

namespace Spreadsheet

open Sheet Procedure Tracked

/-- The sheets, with their dirty cells, that edits leave of new ones, where an edit may also fail. A
sheet of given texts is a new one into which they are loaded. -/
inductive Visited (functions : Registry) : Marked → Prop
  | make {marker : String} {decimals columnWidth : Int} {options : Options} {nRows nCols : Int}
      {names : List (Option String)} {s : Sheet}
      (hoptions : Options.make marker decimals columnWidth = .ok options)
      (h : Sheet.make nRows nCols names options functions = .ok s) : Visited functions ⟨s, []⟩
  | edit {st : Marked} (edit : Edit) (h : Visited functions st) :
      Visited functions (stateAfter edit.tracked st)

namespace Tracked

variable {α : Type} {q : Tracked α} {p : Procedure α} {st : Marked}

theorem Tracks.sheet_stateAfter (h : Tracks q p) (st : Marked) :
    (stateAfter q st).sheet = stateAfter p st.sheet := by
  obtain ⟨dirty, hrun, -⟩ := h st
  rw [stateAfter, stateAfter, hrun]
  cases p.run st.sheet <;> rfl

theorem Tracks.dirty_stateAfter (h : Tracks q p) (hclean : st.dirty = [])
    (hlacks : ¬ p.LacksValue st.sheet) : (stateAfter q st).dirty = [] := by
  obtain ⟨dirty, hrun, hdirty⟩ := h st
  have hafter : (stateAfter q st).dirty = dirty := by
    rw [stateAfter, hrun]
    cases p.run st.sheet <;> rfl
  exact hafter.trans ((hdirty hclean).resolve_right hlacks)

end Tracked

/-- Steps that do what a result says do not lack a value. -/
theorem Procedure.Does.not_lacksValue {α : Type} {p : Procedure α} {s : Sheet}
    {result : Except EditFault (Sheet × α)} (h : p.Does s result) : ¬ p.LacksValue s := by
  rintro ⟨fault, t, hrun⟩
  obtain ⟨-, refusal, hrefused, -⟩ := h.error_iff.1 hrun
  cases hrefused

namespace Visited

variable {functions : Registry} {st : Marked}

theorem blank (nRows nCols : Nat) (functions : Registry) :
    Visited functions ⟨blank nRows nCols .standard functions, []⟩ := by
  have hoptions : Options.make "=" 2 10 = .ok .standard := rfl
  exact .make hoptions (make_unnamed nRows nCols .standard functions)

theorem wellShaped (h : Visited functions st) : st.sheet.WellShaped := by
  induction h with
  | make hoptions h => exact wellShaped_of_make (Options.columnWidth_pos hoptions) h
  | edit edit _ ih =>
    rw [edit.tracks.sheet_stateAfter]
    exact edit.keepsShape _ ih

/-- With lawful functions no cell of a visited sheet is dirty, and edits that do not fail make the
same sheet. -/
theorem reachable (hlawful : functions.Lawful) (h : Visited functions st) :
    Reachable functions st.sheet ∧ st.dirty = [] := by
  induction h with
  | make _ h => exact ⟨.make h, rfl⟩
  | @edit st edit _ ih =>
    obtain ⟨hreachable, hclean⟩ := ih
    have hdoes := edit.does (hreachable.consistent hlawful).1.sound hreachable.inStep.1
    refine ⟨?_, edit.tracks.dirty_stateAfter hclean hdoes.not_lacksValue⟩
    rw [edit.tracks.sheet_stateAfter]
    cases hrun : edit.procedure.run st.sheet with
    | ok report t =>
      rw [stateAfter_of_ok hrun]
      exact .edit edit hreachable (hdoes.ok_iff.1 hrun)
    | error e t =>
      rw [stateAfter_of_error hrun, (hdoes.error_iff.1 hrun).1]
      exact hreachable

/-- An edit that makes a sheet leaves that one. -/
theorem sheet_stateAfter {t : Sheet} {report : Option Recalc} (hlawful : functions.Lawful)
    (h : Visited functions st) {edit : Edit} (hrun : edit.run st.sheet = .ok (t, report)) :
    (stateAfter edit.tracked st).sheet = t := by
  have hreachable := (h.reachable hlawful).1
  have hdoes := edit.does (hreachable.consistent hlawful).1.sound hreachable.inStep.1
  rw [edit.tracks.sheet_stateAfter]
  exact stateAfter_of_ok (hdoes.ok_iff.2 hrun)

/-- The sheet that an edit makes is visited. -/
theorem run {s t : Sheet} {report : Option Recalc} (hlawful : functions.Lawful)
    (h : Visited functions ⟨s, []⟩) (edit : Edit) (hrun : edit.run s = .ok (t, report)) :
    Visited functions ⟨t, []⟩ := by
  have hafter := h.edit edit
  have hsheet := h.sheet_stateAfter hlawful hrun
  have hclean := (hafter.reachable hlawful).2
  cases hstate : stateAfter edit.tracked ⟨s, []⟩ with
  | mk u dirty =>
    rw [hstate] at hafter hsheet hclean
    obtain rfl : u = t := hsheet
    obtain rfl : dirty = [] := hclean
    exact hafter

theorem setTextAt {s : Sheet} (hlawful : functions.Lawful) (h : Visited functions ⟨s, []⟩)
    (cell : Coord) (hcell : cell.Within s.nRows s.nCols) (raw : String) :
    Visited functions ⟨(s.setTextAt cell raw).1, []⟩ :=
  h.run hlawful _ (Edit.run_setText hcell raw)

/-- Whatever edits were made of a new sheet, and wherever some of them failed: all rows are as long
as there are columns, no more rows are fixed than there are, all columns have a width of one at
least, the names that columns were given are not blank and differ from each other, and no cell is
dirty, if functions give their faults as values. -/
theorem shape_spec (h : Visited functions st) :
    (∀ row ∈ st.sheet.rows, row.length = st.sheet.nCols) ∧
    st.sheet.fixedRows ≤ st.sheet.nRows ∧
    (∀ width ∈ st.sheet.columnWidths, 1 ≤ width) ∧
    (∀ name ∈ st.sheet.columns.filterMap Column.name, Text.allBlank name.toList = false) ∧
    (st.sheet.columns.filterMap Column.name).Nodup ∧
    (functions.Lawful → st.dirty = []) := by
  have hshape := h.wellShaped
  refine ⟨hshape.rectangular, hshape.fixedRows_le, fun width hwidth => ?_, fun name hname => ?_, ?_,
    fun hlawful => (h.reachable hlawful).2⟩
  · obtain ⟨column, hcolumn, rfl⟩ := List.mem_map.1 hwidth
    exact (hshape.formed column hcolumn).1
  · obtain ⟨column, hcolumn, hname⟩ := List.mem_filterMap.1 hname
    exact (hshape.formed column hcolumn).2 name hname
  · refine List.pairwise_filterMap.2 (hshape.apart.imp fun hapart name hname name' hname' => ?_)
    rintro rfl
    exact hapart name hname hname'

end Visited

/-- An edit of a new sheet fails, and a cell that reads itself is computed after it. -/
theorem shape_spec_sample :
    let start : Marked := ⟨blank 1 2 .standard .builtin, []⟩
    let st := stateAfter (Edit.setText ⟨0, 0⟩ "=A1").tracked
      (stateAfter (Edit.deleteRow 3).tracked start)
    (Edit.deleteRow 3).tracked.run start = .error (.refused (.deleteRow 3)) start ∧
      (∀ row ∈ st.sheet.rows, row.length = st.sheet.nCols) ∧
      (st.sheet.columns.filterMap Column.name).Nodup ∧ st.dirty = [] := by
  intro start st
  have hst : Visited .builtin st := .edit _ (.edit _ (.blank 1 2 .builtin))
  obtain ⟨hrows, -, -, -, hnames, hclean⟩ := hst.shape_spec
  exact ⟨rfl, hrows, hnames, hclean Registry.lawful_builtin⟩

end Spreadsheet

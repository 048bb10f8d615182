import Spreadsheet.Proofs.Sheet.Follow
import Spreadsheet.Proofs.Sheet.Growth

/-!
# Edits one after the other

A row or column that is deleted where it was inserted leaves a sheet without cycles as it was, but
for the texts of the formulas that moved in between (`Reachable.delete_insert_spec`). A row that
comes or goes and a column that does so may change places (`Reachable.row_column_comm`).
-/

namespace Spreadsheet

namespace Sheet

variable {s t : Sheet} {edit : LineEdit} {index : Int} {column : Column}

/-! ## New texts -/

theorem formula_rewordCell (s : Sheet) (edit : LineEdit) (c : Cell) :
    (s.rewordCell edit c).formula = c.formula := by
  unfold rewordCell
  split
  · next formula hformula =>
    split
    · exact hformula.symm
    · rfl
  · rfl

theorem value_rewordCell (s : Sheet) (edit : LineEdit) (c : Cell) :
    (s.rewordCell edit c).value = c.value := by
  unfold rewordCell
  split
  · split <;> rfl
  · rfl

theorem cellAt_reworded (s : Sheet) (edit : LineEdit) (cell : Coord) :
    (s.reworded edit).cellAt cell = s.rewordCell edit (s.cellAt cell) := by
  rw [cellAt, cellAt, reworded, Table.get?_map]
  cases s.rows.get? cell <;> rfl

/-- A rebuilt sheet remains such with other texts of its formulas. -/
theorem Rebuilt.reworded (h : s.Rebuilt) (edit : LineEdit) : (s.reworded edit).Rebuilt := by
  have hformula (cell : Coord) :
      ((s.reworded edit).cellAt cell).formula = (s.cellAt cell).formula := by
    rw [cellAt_reworded, formula_rewordCell]
  have hvalue (cell : Coord) : (s.reworded edit).valueAt cell = s.valueAt cell := by
    rw [valueAt, cellAt_reworded, value_rewordCell, valueAt]
  have hsize : s.SameSize (s.reworded edit) := ⟨List.length_map _, rfl, rfl⟩
  refine ⟨fun row hrow => ?_, ⟨h.linked.ordered, fun cell => ?_⟩, ⟨fun cell hbelow => ?_, ?_⟩⟩
  · obtain ⟨old, hold, rfl⟩ := List.mem_map.1 hrow
    exact (List.length_map _).trans (h.rectangular old hold)
  · rw [readsAt, hformula, hsize.nRows]
    exact h.linked.reads cell
  · rw [hvalue]
    exact h.computed.circular cell hbelow
  · intro cell formula hformula' hnot
    rw [hformula] at hformula'
    rw [hvalue, ← h.computed.evaluated cell formula hformula' hnot]
    exact hsize.evaluate_eq fun ref _ => hvalue ref

/-! ## The operations -/

theorem insertRow_eq_follow (hindex : 0 ≤ index ∧ index ≤ s.nRows) (column : Column) :
    s.insertRow index = .ok (s.follow (.insert .row index) column).rebuild := by
  obtain ⟨row, rfl⟩ := Int.eq_ofNat_of_zero_le hindex.1
  rw [insertRow, if_pos hindex]
  rfl

theorem deleteRow_eq_follow (hindex : 0 ≤ index ∧ index < s.nRows) (column : Column) :
    s.deleteRow index = .ok (s.follow (.delete .row index) column).rebuild := by
  obtain ⟨row, rfl⟩ := Int.eq_ofNat_of_zero_le hindex.1
  rw [deleteRow, if_pos hindex]
  rfl

theorem insertColumn_eq_follow {name : Option String} (hindex : 0 ≤ index ∧ index ≤ s.nCols)
    (hname : ∀ n ∈ name, s.checkName n none = .ok ()) : s.insertColumn index name =
      .ok (s.follow (.insert .column index) ⟨name, s.options.columnWidth⟩).rebuild := by
  obtain ⟨col, rfl⟩ := Int.eq_ofNat_of_zero_le hindex.1
  rw [insertColumn, if_pos hindex]
  cases name with
  | none => rfl
  | some n =>
    simp only [hname n rfl]
    rfl

theorem deleteColumn_eq_follow (hindex : 0 ≤ index ∧ index < s.nCols) (column : Column) :
    s.deleteColumn index = .ok (s.follow (.delete .column index) column).rebuild := by
  obtain ⟨col, rfl⟩ := Int.eq_ofNat_of_zero_le hindex.1
  rw [deleteColumn, if_pos hindex]
  rfl

theorem insertColumn_eq_ok {name : Option String} {r : Recalc}
    (h : s.insertColumn index name = .ok (t, r)) :
    (0 ≤ index ∧ index ≤ s.nCols) ∧ ∀ n ∈ name, s.checkName n none = .ok () := by
  by_cases hindex : 0 ≤ index ∧ index ≤ s.nCols
  · refine ⟨hindex, ?_⟩
    rintro n ⟨⟩
    rw [insertColumn, if_pos hindex] at h
    obtain ⟨_, hcheck, -⟩ := bind_eq_ok.1 h
    exact hcheck
  · rw [insertColumn, if_neg hindex] at h
    cases h

/-! ## Deleting what was inserted -/

theorem grammar_rebuild_follow (h : s.Rectangular)
    (hfits : edit.Fits (s.grammar.lines edit.axis)) (column : Column) :
    (s.follow edit column).rebuild.1.grammar = s.grammar.after edit := by
  rw [(rebuild_spec (h.follow hfits column)).1.sameSize.grammar, grammar_follow hfits]

/-- A line that was inserted into a rebuilt sheet can be deleted, and that leaves no more than new
texts. -/
theorem Rebuilt.follow_delete_insert (h : s.Rebuilt) {axis : Axis}
    (hfits : (LineEdit.insert axis index).Fits (s.grammar.lines axis)) (column column' : Column) :
    (LineEdit.delete axis index).Fits
        ((s.follow (.insert axis index) column).rebuild.1.grammar.lines axis) ∧
      ((s.follow (.insert axis index) column).rebuild.1.follow (.delete axis index)
        column').rebuild.1 = s.reworded (.insert axis index) := by
  have hlines : (s.grammar.after (.insert axis index)).lines axis = s.grammar.lines axis + 1 :=
    (LineEdit.lines_after s.grammar (.insert axis index)).1
  have hdelete : (LineEdit.delete axis index).Fits
      ((s.grammar.after (.insert axis index)).lines axis) := by
    rw [hlines]
    exact ⟨hfits.1, Int.lt_add_one_of_le hfits.2⟩
  have hdelete' : (LineEdit.delete axis index).Fits
      ((s.follow (.insert axis index) column).grammar.lines axis) := by
    rwa [grammar_follow hfits]
  refine ⟨?_, ?_⟩
  · rwa [grammar_rebuild_follow h.rectangular hfits]
  · rw [rebuild_follow_rebuild (h.rectangular.follow hfits column) hdelete',
      Sheet.follow_delete_insert, (h.reworded _).rebuild_eq_self]

theorem exists_report {result : Sheet × Recalc} (h : result.1 = t) :
    ∃ r, (.ok result : Except EditFault (Sheet × Recalc)) = .ok (t, r) :=
  ⟨result.2, congrArg Except.ok (Prod.ext h rfl)⟩

end Sheet

open Sheet

variable {functions : Registry} {s : Sheet}

/-- A row or column that is inserted into a reachable sheet on which no formula is on a cycle and
deleted again leaves the sheet as it was, but for the text of each formula of which a reference
moved in between: that is the text of the formula then. -/
theorem Reachable.delete_insert_spec (h : Reachable functions s) (hacyclic : s.links.Acyclic)
    (index : Int) :
    (0 ≤ index ∧ index ≤ s.nRows → ∃ u r r', s.insertRow index = .ok (u, r) ∧
      u.deleteRow index = .ok (s.reworded (.insert .row index), r')) ∧
    ∀ name u r, s.insertColumn index name = .ok (u, r) →
      ∃ r', u.deleteColumn index = .ok (s.reworded (.insert .column index), r') := by
  have hs := h.rebuilt hacyclic
  refine ⟨fun hindex => ?_, fun name u r hrun => ?_⟩
  · have hfits : (LineEdit.insert .row index).Fits s.nRows := hindex
    obtain ⟨hdelete, hback⟩ := hs.follow_delete_insert hfits ⟨none, 0⟩ ⟨none, 0⟩
    obtain ⟨r', hreport⟩ := exists_report hback
    exact ⟨_, _, r', insertRow_eq_follow hindex ⟨none, 0⟩,
      (deleteRow_eq_follow hdelete ⟨none, 0⟩).trans hreport⟩
  · obtain ⟨hindex, hname⟩ := insertColumn_eq_ok hrun
    have hfits : (LineEdit.insert .column index).Fits s.nCols := hindex
    rw [insertColumn_eq_follow hindex hname] at hrun
    obtain rfl := congrArg Prod.fst (Except.ok.inj hrun)
    obtain ⟨hdelete, hback⟩ := hs.follow_delete_insert hfits ⟨name, s.options.columnWidth⟩ ⟨none, 0⟩
    obtain ⟨r', hreport⟩ := exists_report hback
    exact ⟨r', (deleteColumn_eq_follow hdelete ⟨none, 0⟩).trans hreport⟩

/-- Inserting a row before the second one and deleting it writes the text of `B2` anew. -/
theorem delete_insert_spec_sample :
    ∃ u r r', rangeSample.insertRow 1 = .ok (u, r) ∧
      u.deleteRow 1 = .ok (rangeSample.reworded (.insert .row 1), r') := by
  have hindex : (0 : Int) ≤ 1 ∧ (1 : Int) ≤ rangeSample.nRows := by
    rw [size_rangeSample.1]
    decide
  exact (reachable_rangeSample.delete_insert_spec acyclic_rangeSample 1).1 hindex

/-! ## A row and a column -/

namespace Edit

variable {t : Sheet} {edit row column : Edit} {line : LineEdit}

/-- Whether a row or a column comes or goes. -/
def axis? (edit : Edit) : Option Axis := edit.lineEdit?.map LineEdit.axis

/-- The column that comes. -/
def newColumn (options : Options) : Edit → Column
  | .insertColumn _ name => ⟨name, options.columnWidth⟩
  | _ => ⟨none, options.columnWidth⟩

/-- An edit by which a line comes or goes computes the sheet that follows it. -/
theorem run_eq_follow (hline : edit.lineEdit? = some line) (hedit : edit.Grows s ∨ edit.Deletes s) :
    line.Fits (s.grammar.lines line.axis) ∧ edit.run s =
      .ok ((s.follow line (edit.newColumn s.options)).rebuild.map id some) := by
  cases edit with
  | insertRow index =>
    cases hline
    have hindex := hedit.resolve_right id
    exact ⟨hindex, congrArg (Except.map _) (insertRow_eq_follow hindex _)⟩
  | deleteRow index =>
    cases hline
    have hindex := hedit.resolve_left id
    exact ⟨hindex, congrArg (Except.map _) (deleteRow_eq_follow hindex _)⟩
  | insertColumn index name =>
    cases hline
    obtain ⟨hindex, hname⟩ := hedit.resolve_right id
    exact ⟨hindex, congrArg (Except.map _) (insertColumn_eq_follow hindex hname)⟩
  | deleteColumn index =>
    cases hline
    have hindex := hedit.resolve_left id
    exact ⟨hindex, congrArg (Except.map _) (deleteColumn_eq_follow hindex _)⟩
  | _ => cases hline

/-- Where a row may come or go depends on the number of rows. -/
theorem valid_of_nRows (haxis : row.axis? = some .row) (hrows : t.nRows = s.nRows)
    (h : row.Grows s ∨ row.Deletes s) : row.Grows t ∨ row.Deletes t := by
  cases row with
  | insertRow | deleteRow => simpa only [Grows, Deletes, hrows] using h
  | _ => cases haxis

/-- Where a column may come or go, and under which name, depends on the columns. -/
theorem valid_of_columns (haxis : column.axis? = some .column) (hcolumns : t.columns = s.columns)
    (h : column.Grows s ∨ column.Deletes s) : column.Grows t ∨ column.Deletes t := by
  have hcols : t.nCols = s.nCols := congrArg List.length hcolumns
  cases column with
  | insertColumn index name => simpa only [Grows, Deletes, hcols, checkName, hcolumns] using h
  | deleteColumn => simpa only [Grows, Deletes, hcols] using h
  | _ => cases haxis

/-- Two edits by which lines come or go, one after the other, compute the sheet that follows both.
-/
theorem exists_run_run {first second : Edit} {line' : LineEdit} (hs : s.Rectangular)
    (hline : first.lineEdit? = some line) (hline' : second.lineEdit? = some line')
    (hfirst : first.Grows s ∨ first.Deletes s)
    (hsecond : ∀ t : Sheet, (s.follow line (first.newColumn s.options)).SameFrame t →
      second.Grows t ∨ second.Deletes t) :
    ∃ u t r r', first.run s = .ok (u, some r) ∧ second.run u = .ok (t, some r') ∧
      t = ((s.follow line (first.newColumn s.options)).follow line'
        (second.newColumn s.options)).rebuild.1 := by
  obtain ⟨hfits, hrun⟩ := run_eq_follow hline hfirst
  have hfollow := hs.follow hfits (first.newColumn s.options)
  obtain ⟨hframe, -⟩ := rebuild_spec hfollow
  obtain ⟨hfits', hrun'⟩ := run_eq_follow hline' (hsecond _ hframe)
  rw [hframe.sameSize.grammar] at hfits'
  refine ⟨_, _, _, _, hrun, hrun', ?_⟩
  rw [hframe.options]
  exact rebuild_follow_rebuild hfollow hfits' _

end Edit

/-- On a reachable sheet, whatever the functions and be there formulas on cycles or not, a row that
comes or goes and a column that comes or goes, under a name or not, leave the same sheet in either
order. -/
theorem Reachable.row_column_comm (h : Reachable functions s) {row column : Edit}
    (hrow : row.axis? = some .row) (hcolumn : column.axis? = some .column)
    (hrowValid : row.Grows s ∨ row.Deletes s) (hcolumnValid : column.Grows s ∨ column.Deletes s) :
    ∃ u v t ru rv rt rt', row.run s = .ok (u, some ru) ∧ column.run u = .ok (t, some rt) ∧
      column.run s = .ok (v, some rv) ∧ row.run v = .ok (t, some rt') := by
  have hs := h.inStep.1.rectangular
  obtain ⟨line, hline, hlineAxis⟩ := Option.map_eq_some_iff.1 hrow
  obtain ⟨line', hline', hlineAxis'⟩ := Option.map_eq_some_iff.1 hcolumn
  obtain ⟨u, t, ru, rt, hru, hrt, ht⟩ := Edit.exists_run_run hs hline hline' hrowValid
    fun _ hframe => Edit.valid_of_columns hcolumn
      (hframe.columns.trans (by rw [columns_follow, LineEdit.columns, hlineAxis])) hcolumnValid
  obtain ⟨v, t', rv, rt', hrv, hrt', ht'⟩ := Edit.exists_run_run hs hline' hline hcolumnValid
    fun _ hframe => Edit.valid_of_nRows hrow
      (hframe.sameSize.nRows.trans (nRows_follow_column hlineAxis' s _)) hrowValid
  rw [← follow_comm hlineAxis hlineAxis', ← ht] at ht'
  subst ht'
  exact ⟨u, _, _, ru, rv, rt, rt', hru, hrt, hrv, hrt'⟩

/-- The second row of a sheet with a cycle is deleted, and a column comes before the first one. -/
theorem row_column_comm_sample :
    ∃ u v t ru rv rt rt', (Edit.deleteRow 1).run sample = .ok (u, some ru) ∧
      (Edit.insertColumn 0 (some "x")).run u = .ok (t, some rt) ∧
      (Edit.insertColumn 0 (some "x")).run sample = .ok (v, some rv) ∧
      (Edit.deleteRow 1).run v = .ok (t, some rt') := by
  have hsize : sample.nRows = 2 ∧ sample.nCols = 2 := by
    simp only [sample, nRows_setTextAt, nCols_setTextAt]
    exact ⟨rfl, rfl⟩
  have hrow : (Edit.deleteRow 1).Deletes sample := by
    rw [Edit.Deletes, hsize.1]
    decide
  have hcolumn : (Edit.insertColumn 0 (some "x")).Grows sample := by
    refine ⟨by rw [hsize.2]; decide, ?_⟩
    rintro n ⟨⟩
    cbv
  exact reachable_sample.row_column_comm rfl rfl (.inr hrow) (.inl hcolumn)

end Spreadsheet

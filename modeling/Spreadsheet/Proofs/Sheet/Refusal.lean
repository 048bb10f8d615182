import Mathlib
import Spreadsheet.Proofs.Sheet.Execution
import Spreadsheet.Proofs.Text.Integer

/-!
# Edits that fail

An edit of a reachable sheet fails only before it has changed anything, and exactly if its cells,
sizes or names are refused (`Edit.Refused`), or if it copies a text that looks like a whole number
and spells none (`Edit.Misreads`): `Reachable.failure_spec`.
-/

namespace Spreadsheet

/-! ## Computations that fail -/

section Fails

variable {ε α β : Type}

theorem exists_map_eq_error {x : Except ε α} {f : α → β} :
    (∃ e, f <$> x = .error e) ↔ ∃ e, x = .error e := by
  cases x <;> simp

/-- A check fails unless it passes. -/
theorem exists_eq_error_iff {x : Except ε Unit} : (∃ e, x = .error e) ↔ ¬ x = .ok () := by
  cases x <;> simp

/-- A computation with a check before it fails if the check or the computation does. -/
theorem exists_bind_eq_error {x : Except ε Unit} {f : Unit → Except ε β} :
    (∃ e, x >>= f = .error e) ↔ (∃ e, x = .error e) ∨ ∃ e, f () = .error e := by
  cases x <;> simp [bind, Except.bind]

/-- A list is gone through without success if one of its members has no result. -/
theorem exists_mapM_eq_error {f : α → Except ε β} {xs : List α} :
    (∃ e, xs.mapM f = .error e) ↔ ∃ x ∈ xs, ∃ e, f x = .error e := by
  induction xs with
  | nil => simp [pure, Except.pure]
  | cons x xs ih =>
    rw [List.mapM_cons, List.exists_mem_cons_iff, ← ih]
    cases f x <;> cases xs.mapM f <;> simp [bind, Except.bind, pure, Except.pure]

end Fails

/-! ## What is refused -/

/-- The cell is copied as a whole number, but a separator in its text makes that none. -/
def Cell.Misread (options : Options) (c : Cell) : Prop :=
  c.formula = none ∧ options.isFormula c.raw = false ∧ Text.isPlainInteger c.raw.toList ∧
    ∃ char ∈ c.raw.toList, Text.isSeparator char

/-- No column but `skip` may be given the name: it is blank or the name of another one. -/
def Sheet.RejectsName (s : Sheet) (name : String) (skip : Option Nat) : Prop :=
  Text.allBlank name.toList ∨ ∃ (index : Nat) (column : Column),
    s.columns[index]? = some column ∧ some index ≠ skip ∧ column.name = some name

/-- The checks of cells, sizes and names refuse the edit. -/
def Edit.Refused (s : Sheet) : Edit → Prop
  | .setText cell _ | .clear cell => ¬ cell.Within s.nRows s.nCols
  | .fill origin target => ¬ origin.Within s.nRows s.nCols ∨ ¬ target.Within s.nRows s.nCols
  | .load entries => ∃ entry ∈ entries, ¬ entry.1.Within s.nRows s.nCols
  | .recalculate => False
  | .insertRow index => ¬ (0 ≤ index ∧ index ≤ s.nRows)
  | .deleteRow index => ¬ (0 ≤ index ∧ index < s.nRows)
  | .insertColumn index name =>
    ¬ (0 ≤ index ∧ index ≤ s.nCols) ∨ ∃ n ∈ name, s.RejectsName n none
  | .deleteColumn index => ¬ (0 ≤ index ∧ index < s.nCols)
  | .resize newCols newRows => newCols < s.nCols ∨ newRows < s.nRows
  | .sort col _ => ¬ (0 ≤ col ∧ col < s.nCols)
  | .setColumnName col name =>
    ¬ (0 ≤ col ∧ col < s.nCols) ∨ s.RejectsName name (some col.toNat)
  | .setColumnWidth col width => ¬ (0 ≤ col ∧ col < s.nCols) ∨ width < 1
  | .fitColumnWidth col => ¬ (0 ≤ col ∧ col < s.nCols) ∨
    ∃ row : Nat, row < s.nRows ∧ ∃ fault, s.display? ⟨row, col⟩ = .error fault
  | .fixRows count => ¬ (0 ≤ count ∧ count ≤ s.nRows)

/-- The edit copies a cell as a whole number, but a separator in its text makes that none. -/
def Edit.Misreads (s : Sheet) : Edit → Prop
  | .fill origin target => origin.Within s.nRows s.nCols ∧ target.Within s.nRows s.nCols ∧
    (s.cellAt origin).Misread s.options
  | _ => False

namespace Sheet

variable {s : Sheet} {cell origin target : Coord} {name : String} {skip : Option Nat}
  {entries : List (Coord × String)} {index : Int}

/-! ## Checks -/

theorem checkCell_eq_error :
    (∃ fault, s.checkCell cell = .error fault) ↔ ¬ cell.Within s.nRows s.nCols := by
  rw [exists_eq_error_iff, checkCell_eq_ok]

theorem checkName_eq_error :
    (∃ fault, s.checkName name skip = .error fault) ↔ s.RejectsName name skip := by
  unfold checkName
  split
  · next hblank => exact iff_of_true ⟨_, rfl⟩ (.inl hblank)
  · next hblank =>
    split
    · next hused =>
      obtain ⟨⟨column, index⟩, hmem, hfound⟩ := List.any_eq_true.1 hused
      refine iff_of_true ⟨_, rfl⟩ (.inr ⟨index, column, List.mem_zipIdx_iff_getElem?.1 hmem, ?_⟩)
      simpa using hfound
    · next hfree =>
      refine iff_of_false (by simp) ?_
      rintro (hblank' | ⟨index, column, hcolumn, hskip, hname⟩)
      · exact hblank hblank'
      · refine hfree (List.any_eq_true.2
          ⟨(column, index), List.mem_zipIdx_iff_getElem?.2 hcolumn, ?_⟩)
        simp [hname, hskip]

/-- An operation on a column fails if there is no such column, or if it does on that one. -/
theorem locateColumn_bind_eq_error {α : Type} {f : Nat → Except EditFault α} :
    (∃ fault, s.locateColumn index >>= f = .error fault) ↔
      ¬ (0 ≤ index ∧ index < s.nCols) ∨ ∃ fault, f index.toNat = .error fault := by
  unfold locateColumn
  split
  · next hindex => exact (or_iff_right (not_not.2 hindex)).symm
  · next hindex => exact iff_of_true ⟨_, rfl⟩ (.inl hindex)

/-- A result that a condition guards is missing without it. -/
theorem ite_eq_error {α : Type} {p : Prop} [Decidable p] {x : Except EditFault α}
    {fault : EditFault} : (∃ e, (if p then x else .error fault) = .error e) ↔
      ¬ p ∨ ∃ e, x = .error e := by
  split
  · next hp => exact (or_iff_right (not_not.2 hp)).symm
  · next hp => exact iff_of_true ⟨_, rfl⟩ (.inl hp)

/-! ## Entering texts -/

theorem setText_eq_error {raw : String} :
    (∃ fault, s.setText cell raw = .error fault) ↔ ¬ cell.Within s.nRows s.nCols := by
  rw [setText, exists_bind_eq_error, checkCell_eq_error]
  simp [pure, Except.pure]

theorem filledText_eq_error {c : Cell} {rows cols : Int} :
    (∃ fault, s.filledText c rows cols = .error fault) ↔ c.Misread s.options := by
  unfold filledText Cell.Misread
  cases hformula : c.formula with
  | some formula => simp
  | none =>
    dsimp only
    split
    · next hinteger =>
      obtain ⟨hnot, hplain⟩ := Bool.and_eq_true_iff.1 hinteger
      rw [← Text.integer?_eq_none_iff hplain]
      cases Text.integer? c.raw.toList <;> simp_all
    · next hinteger =>
      refine iff_of_false (by simp) ?_
      rintro ⟨-, hnot, hplain, -⟩
      exact hinteger (Bool.and_eq_true_iff.2 ⟨by rw [hnot, Bool.not_false], hplain⟩)

theorem fill_eq_error : (∃ fault, s.fill origin target = .error fault) ↔
    (Edit.fill origin target).Refused s ∨ (Edit.fill origin target).Misreads s := by
  rw [fill, exists_bind_eq_error, exists_bind_eq_error, bind_pure_comp, exists_map_eq_error,
    checkCell_eq_error, checkCell_eq_error, filledText_eq_error, Edit.Refused, Edit.Misreads]
  tauto

theorem load_eq_error : (∃ fault, s.load entries = .error fault) ↔
    ∃ entry ∈ entries, ¬ entry.1.Within s.nRows s.nCols := by
  rw [load, exists_bind_eq_error, exists_eq_error_iff, forM_checkCell_eq_ok]
  simp [pure, Except.pure]

/-! ## Rows and columns -/

theorem insertRow_eq_error : (∃ fault, s.insertRow index = .error fault) ↔
    ¬ (0 ≤ index ∧ index ≤ s.nRows) :=
  ite_eq_error.trans (or_iff_left (by simp))

theorem deleteRow_eq_error : (∃ fault, s.deleteRow index = .error fault) ↔
    ¬ (0 ≤ index ∧ index < s.nRows) :=
  ite_eq_error.trans (or_iff_left (by simp))

theorem insertColumn_eq_error {name : Option String} :
    (∃ fault, s.insertColumn index name = .error fault) ↔
      (Edit.insertColumn index name).Refused s := by
  rw [insertColumn, ite_eq_error, Edit.Refused]
  refine or_congr_right ?_
  cases name with
  | none => simp [pure, Except.pure]
  | some name =>
    rw [exists_bind_eq_error, checkName_eq_error]
    simp [pure, Except.pure]

theorem deleteColumn_eq_error : (∃ fault, s.deleteColumn index = .error fault) ↔
    ¬ (0 ≤ index ∧ index < s.nCols) :=
  ite_eq_error.trans (or_iff_left (by simp))

theorem resize_eq_error {newCols newRows : Int} :
    (∃ fault, s.resize newCols newRows = .error fault) ↔ newCols < s.nCols ∨ newRows < s.nRows := by
  unfold resize
  split
  · next hsize => exact iff_of_true ⟨_, rfl⟩ hsize
  · next hsize => exact iff_of_false (by simp) hsize

theorem sort_eq_error {descending : Bool} : (∃ fault, s.sort index descending = .error fault) ↔
    ¬ (0 ≤ index ∧ index < s.nCols) :=
  locateColumn_bind_eq_error.trans (or_iff_left (by simp [pure, Except.pure]))

/-! ## Columns and fixed rows -/

theorem setColumnName_eq_error : (∃ fault, s.setColumnName index name = .error fault) ↔
    (Edit.setColumnName index name).Refused s := by
  rw [setColumnName, locateColumn_bind_eq_error, exists_bind_eq_error, checkName_eq_error,
    Edit.Refused]
  simp [pure, Except.pure]

theorem setColumnWidth_eq_error {width : Int} :
    (∃ fault, s.setColumnWidth index width = .error fault) ↔
      (Edit.setColumnWidth index width).Refused s := by
  rw [setColumnWidth, locateColumn_bind_eq_error, Edit.Refused]
  refine or_congr_right ?_
  split
  · next hwidth => exact iff_of_true ⟨_, rfl⟩ hwidth
  · next hwidth => exact iff_of_false (by simp [pure, Except.pure]) hwidth

theorem widestDisplay_eq_error {col : Nat} : (∃ fault, s.widestDisplay col = .error fault) ↔
    ∃ row : Nat, row < s.nRows ∧ ∃ fault, s.display? ⟨row, col⟩ = .error fault := by
  rw [widestDisplay, bind_pure_comp, exists_map_eq_error, exists_mapM_eq_error]
  simp only [List.mem_range]

theorem fitColumnWidth_eq_error : (∃ fault, s.fitColumnWidth index = .error fault) ↔
    (Edit.fitColumnWidth index).Refused s := by
  rw [fitColumnWidth, locateColumn_bind_eq_error, Edit.Refused]
  refine or_congr_right' fun hindex => ?_
  obtain ⟨col, rfl⟩ := Int.eq_ofNat_of_zero_le (not_not.1 hindex).1
  rw [Int.toNat_natCast, ← widestDisplay_eq_error]
  cases s.widestDisplay col with
  | error fault => exact iff_of_true ⟨_, rfl⟩ ⟨_, rfl⟩
  | ok widest =>
    refine iff_of_false ?_ (by simp)
    have hwidth : ¬ (Edit.setColumnWidth col (widest + 1 : Nat)).Refused s := by
      rintro (hcol | hpositive)
      · exact hindex hcol
      · omega
    rw [← setColumnWidth_eq_error] at hwidth
    rintro ⟨fault, hfault⟩
    exact hwidth (exists_map_eq_error.1 ⟨fault, hfault⟩)

theorem fixRows_eq_error : (∃ fault, s.fixRows index = .error fault) ↔
    ¬ (0 ≤ index ∧ index ≤ s.nRows) :=
  ite_eq_error.trans (or_iff_left (by simp))

end Sheet

open Sheet

/-- An edit fails if it is refused or misreads a text, and not otherwise. -/
theorem Edit.run_eq_error {s : Sheet} (edit : Edit) :
    (∃ fault, edit.run s = .error fault) ↔ edit.Refused s ∨ edit.Misreads s := by
  have honly {p : Prop} : p ↔ p ∨ False := (or_iff_left id).symm
  cases edit with
  | setText => exact (exists_map_eq_error.trans setText_eq_error).trans honly
  | clear => exact (exists_map_eq_error.trans setText_eq_error).trans honly
  | fill => exact exists_map_eq_error.trans fill_eq_error
  | load => exact (exists_map_eq_error.trans load_eq_error).trans honly
  | recalculate => exact (iff_of_false (by simp [run]) id).trans honly
  | insertRow => exact (exists_map_eq_error.trans insertRow_eq_error).trans honly
  | deleteRow => exact (exists_map_eq_error.trans deleteRow_eq_error).trans honly
  | insertColumn => exact (exists_map_eq_error.trans insertColumn_eq_error).trans honly
  | deleteColumn => exact (exists_map_eq_error.trans deleteColumn_eq_error).trans honly
  | resize => exact (exists_map_eq_error.trans resize_eq_error).trans honly
  | sort => exact (exists_map_eq_error.trans sort_eq_error).trans honly
  | setColumnName => exact (exists_map_eq_error.trans setColumnName_eq_error).trans honly
  | setColumnWidth => exact (exists_map_eq_error.trans setColumnWidth_eq_error).trans honly
  | fitColumnWidth => exact (exists_map_eq_error.trans fitColumnWidth_eq_error).trans honly
  | fixRows => exact (exists_map_eq_error.trans fixRows_eq_error).trans honly

theorem Sheet.find_eq_error {s : Sheet} {text : String} {start : Coord} :
    (∃ fault, s.find? text start = .error fault) ↔
      s.cells ≠ [] ∧ ¬ start.Within s.nRows s.nCols := by
  unfold find?
  split
  · next hempty => simp [List.isEmpty_iff.1 hempty]
  · next hcells =>
    rw [List.isEmpty_iff] at hcells
    rw [exists_bind_eq_error, checkCell_eq_error]
    simp [hcells, pure, Except.pure]

/-- On a reachable sheet an edit, step by step, either makes the sheet and the report that its
operation says or fails and leaves the sheet as it was: no step after its first write fails. It
fails exactly if its cells, sizes or names are refused, but for a copy of a text that looks like a
whole number and has a separator in it. Finding a text changes nothing, and fails exactly if there
are cells and the start is none. -/
theorem Reachable.failure_spec {s : Sheet} (h : Reachable .builtin s) :
    (∀ edit : Edit,
      (∀ t report, edit.procedure.run s = .ok report t ↔ edit.run s = .ok (t, report)) ∧
      (∀ fault t, edit.procedure.run s = .error fault t ↔
        t = s ∧ ∃ refusal, fault = .refused refusal ∧ edit.run s = .error refusal) ∧
      ((∃ fault t, edit.procedure.run s = .error fault t) ↔ edit.Refused s ∨ edit.Misreads s)) ∧
    ∀ text start,
      (∀ t found, (Procedure.find text start).run s = .ok found t ↔
        t = s ∧ s.find? text start = .ok found) ∧
      (∀ fault t, (Procedure.find text start).run s = .error fault t ↔
        t = s ∧ ∃ refusal, fault = .refused refusal ∧ s.find? text start = .error refusal) ∧
      ((∃ fault t, (Procedure.find text start).run s = .error fault t) ↔
        s.cells ≠ [] ∧ ¬ start.Within s.nRows s.nCols) := by
  obtain ⟨hs, -⟩ := h.consistent Registry.lawful_builtin
  obtain ⟨hstep, -⟩ := h.inStep
  refine ⟨fun edit => ?_, fun text start => ?_⟩
  · have hdoes := edit.does hs.sound hstep
    exact ⟨fun _ _ => hdoes.ok_iff, fun _ _ => hdoes.error_iff,
      hdoes.exists_error_iff.trans edit.run_eq_error⟩
  · have hdoes := Procedure.does_find hstep.rectangular text start
    refine ⟨fun t found => hdoes.ok_iff.trans ?_, fun fault t => hdoes.error_iff.trans ?_,
      hdoes.exists_error_iff.trans (exists_map_eq_error.trans find_eq_error)⟩
    · cases s.find? text start <;> simp [eq_comm]
    · cases s.find? text start <;> simp

/-- Of two texts one goes to a place below the sheet, and the other one is not entered either. -/
theorem failure_spec_sample : ∃ fault,
    (Edit.load [(⟨0, 0⟩, "1"), (⟨2, 0⟩, "2")]).procedure.run sample = .error fault sample := by
  have hrefused : (Edit.load [(⟨0, 0⟩, "1"), (⟨2, 0⟩, "2")]).Refused sample := by
    refine ⟨_, List.mem_cons_of_mem _ List.mem_cons_self, ?_⟩
    rw [reachable_sample.inStep.1.rectangular.within_iff, rows_sample]
    rintro ⟨c, hc⟩
    cases hc
  obtain ⟨hedit, -⟩ := reachable_sample.failure_spec
  obtain ⟨-, herror, hfails⟩ := hedit (.load [(⟨0, 0⟩, "1"), (⟨2, 0⟩, "2")])
  obtain ⟨fault, t, hrun⟩ := hfails.2 (.inl hrefused)
  obtain ⟨rfl, -⟩ := (herror fault t).1 hrun
  exact ⟨fault, hrun⟩

namespace Sheet

/-- A sheet of two cells: `A1` has a five after an information separator, and `B1` is blank. -/
def separatorSample : Sheet := ((blank 1 2 .standard .builtin).setTextAt ⟨0, 0⟩ "\x1c5").1

theorem reachable_separatorSample : Reachable .builtin separatorSample :=
  (@Reachable.make .builtin 1 2 [] .standard _ rfl).setTextAt ⟨0, 0⟩ (by decide) "\x1c5"

theorem options_separatorSample : separatorSample.options = .standard :=
  (sameFrame_setTextAt ..).options

theorem cellAt_separatorSample : (separatorSample.cellAt ⟨0, 0⟩).raw = "\x1c5" ∧
    (separatorSample.cellAt ⟨0, 0⟩).formula = none := by
  let start := blank 1 2 .standard .builtin
  have hlinked : start.Linked := (consistent_blank 1 2 .standard Registry.lawful_builtin).linked
  have hrevalued := hlinked.revalued_setTextAt ⟨0, 0⟩ "\x1c5"
  have hcell : (start.install ⟨0, 0⟩ "\x1c5").cellAt ⟨0, 0⟩ = start.enter "\x1c5" .blank :=
    cellAt_install ⟨.blank, rfl⟩
  rw [separatorSample, hrevalued.raw, hrevalued.formula, hcell]
  exact ⟨rfl, rfl⟩

end Sheet

/-- A five after an information separator looks like a whole number and cannot be copied, although
both cells are on the sheet. -/
theorem fill_separatorSample : Reachable .builtin separatorSample ∧
    ¬ (Edit.fill ⟨0, 0⟩ ⟨0, 1⟩).Refused separatorSample ∧
    (Edit.fill ⟨0, 0⟩ ⟨0, 1⟩).procedure.run separatorSample =
      .error (.refused (.integer "\x1c5")) separatorSample := by
  have h := reachable_separatorSample
  obtain ⟨hs, -⟩ := h.consistent Registry.lawful_builtin
  obtain ⟨hraw, hformula⟩ := cellAt_separatorSample
  have hsize : separatorSample.nRows = 1 ∧ separatorSample.nCols = 2 := by
    rw [separatorSample, nRows_setTextAt, nCols_setTextAt]
    exact ⟨rfl, rfl⟩
  have hcells : Coord.Within ⟨0, 0⟩ separatorSample.nRows separatorSample.nCols ∧
      Coord.Within ⟨0, 1⟩ separatorSample.nRows separatorSample.nCols := by
    rw [hsize.1, hsize.2]
    decide
  have hfilled (rows cols : Int) : separatorSample.filledText (separatorSample.cellAt ⟨0, 0⟩)
      rows cols = .error (.integer "\x1c5") := by
    rw [filledText, hformula, hraw, options_separatorSample]
    rfl
  have hrun : (Edit.fill ⟨0, 0⟩ ⟨0, 1⟩).run separatorSample = .error (.integer "\x1c5") := by
    rw [Edit.run, fill, checkCell_eq_ok.2 hcells.1, checkCell_eq_ok.2 hcells.2, hfilled]
    rfl
  refine ⟨h, ?_, (Edit.does hs.sound h.inStep.1 _).error_iff.2 ⟨rfl, _, rfl, hrun⟩⟩
  rintro (hout | hout)
  · exact hout hcells.1
  · exact hout hcells.2

end Spreadsheet

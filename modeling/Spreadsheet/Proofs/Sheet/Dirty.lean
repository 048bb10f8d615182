import Spreadsheet.Proofs.Dependency.Restriction
import Spreadsheet.Proofs.Sheet.Shape

/-!
# Dirty cells

While a sheet is computed, some of its cells are dirty: from the start those that are to be
computed, and each until it has its value. Those that are left when all others have theirs are the
ones on a cycle or below one. `Edit.tracked` carries an edit out on a sheet with its dirty cells
(`Marked`), which move along when rows and columns come, go or change places. It does to the sheet
what `Edit.procedure` does, and leaves no cell dirty unless a cell or a value is missing when it
computes (`Edit.tracks`).
-/

namespace Spreadsheet

open Procedure

/-- A sheet with its dirty cells. -/
structure Marked where
  sheet : Sheet
  dirty : List Coord

/-- Steps that read a sheet with its dirty cells and write to it. -/
abbrev Tracked := EStateM StepFault Marked

/-- The outcome on a sheet, with the cells that are dirty then. -/
def withDirty {α : Type} (dirty : List Coord) :
    EStateM.Result StepFault Sheet α → EStateM.Result StepFault Marked α
  | .ok a t => .ok a ⟨t, dirty⟩
  | .error e t => .error e ⟨t, dirty⟩

namespace Sheet

variable {s : Sheet} {col : Nat} {descending : Bool}

/-- The rows that are not fixed, with their numbers, in the order of their values in a column. -/
def sortNumbered (s : Sheet) (col : Nat) (descending : Bool) : List (List Cell × Nat) :=
  let rows := (s.rows.drop s.fixedRows).zipIdx s.fixedRows
  let filled := rows.filter fun entry => !(rowValue col entry.1).isEmpty
  let empty := rows.filter fun entry => (rowValue col entry.1).isEmpty
  filled.mergeSort (fun a b => rowAtMost col descending a.1 b.1) ++ empty

/-- The place of a cell after its row has found its place among the sorted ones. -/
def placeSorted (s : Sheet) (col : Nat) (descending : Bool) (cell : Coord) : Option Coord :=
  if cell.row < s.fixedRows then some cell
  else
    let order := (s.sortNumbered col descending).map Prod.snd
    some { cell with row := s.fixedRows + order.idxOf cell.row.toNat }

/-- The numbered rows come in the order in which the rows are sorted. -/
theorem map_fst_sortNumbered (s : Sheet) (col : Nat) (descending : Bool) :
    (s.sortNumbered col descending).map Prod.fst =
      sortRows col descending (s.rows.drop s.fixedRows) := by
  have hrows := List.zipIdx_map_fst s.fixedRows (s.rows.drop s.fixedRows)
  rw [sortNumbered, sortRows, List.map_append,
    List.map_mergeSort (s := rowAtMost col descending) fun _ _ _ _ => rfl]
  conv_rhs => rw [← hrows]
  rw [List.filter_map, List.filter_map]
  rfl

end Sheet

namespace Tracked

variable {α β : Type}

/-! ## Steps -/

/-- Steps that make no cell dirty or clean. -/
def onSheet (p : Procedure α) : Tracked α := fun st => withDirty st.dirty (p.run st.sheet)

/-- Changes the sheet, and moves the dirty cells to their places on the new one. -/
def move (change : Sheet → Sheet) (place? : Sheet → Coord → Option Coord) : Tracked Unit :=
  modify fun st => ⟨change st.sheet, st.dirty.filterMap (place? st.sheet)⟩

/-- Makes a cell dirty. -/
def markDirty (cell : Coord) : Tracked Unit := modify fun st => { st with dirty := cell :: st.dirty }

/-- Makes a cell clean. -/
def markClean (cell : Coord) : Tracked Unit :=
  modify fun st => { st with dirty := st.dirty.filter (· != cell) }

/-- Computes cells one after the other. Each is clean when it has its value. -/
def computeAll (change : Sheet → Coord → Except EvalFault Sheet) (cells : List Coord) :
    Tracked Unit :=
  cells.forM fun cell => do
    onSheet (compute (change · cell))
    markClean cell

/-- Computes the cells of a schedule, after a look at the values that they have. Those that are
still dirty when the ones with a place in the order are computed are circular. -/
def settle (schedule : Schedule) (before : Sheet) (depth : Nat) : Tracked Recalc := do
  onSheet (schedule.cells.forM fun cell => discard (lookUp cell))
  schedule.cells.forM markDirty
  computeAll Sheet.evaluateCell? schedule.order
  let st ← get
  let circular := Coord.ascending (schedule.cells.filter st.dirty.contains)
  computeAll Sheet.markCircular? circular
  let after ← onSheet get
  let recomputed := schedule.order ++ circular
  return { recomputed, changes := Sheet.changesOf recomputed before after, circular, depth }

/-- Computes all formulas. -/
def recalculate : Tracked Recalc := do
  let s ← onSheet get
  settle (s.links.schedule s.formulaCells) s 0

/-- Computes the edited cells and those that depend on them. -/
def recalculateFrom (edited : List Coord) (before : Sheet) : Tracked Recalc := do
  let s ← onSheet get
  settle (s.links.scheduleFrom edited) before (s.links.depth edited)

/-- Finds out anew what formulas read, cell by cell, and computes all of them. -/
def rebuild : Tracked Recalc := do
  onSheet (write ({ · with links := .empty }))
  let s ← onSheet get
  onSheet (s.formulaCells.forM fun cell => do
    discard (lookUp cell)
    write (·.link cell))
  recalculate

/-! ## Entering texts -/

/-- Enters a text in a cell and computes what depends on it. -/
def setText (cell : Coord) (raw : String) : Tracked Recalc := do
  onSheet (check (·.checkCell cell))
  let before ← onSheet get
  onSheet (install cell raw)
  recalculateFrom [cell] before

/-- Copies a cell to another place and computes what depends on that. -/
def fill (origin target : Coord) : Tracked Recalc := do
  onSheet (check (·.checkCell origin))
  onSheet (check (·.checkCell target))
  let c ← onSheet (lookUp origin)
  let s ← onSheet get
  let rows := target.row - origin.row
  let cols := target.col - origin.col
  if let some formula := c.formula then
    onSheet (checkText ((formula.shifted? rows cols s.nRows s.nCols).getD formula))
  let raw ← onSheet (check (·.filledText c rows cols))
  setText target raw

/-- Enters texts row by row and computes all formulas. -/
def load (entries : List (Coord × String)) : Tracked Recalc := do
  let entries := entries.mergeSort Sheet.entryAtMost
  onSheet (entries.forM fun entry => check (·.checkCell entry.1))
  onSheet (entries.forM fun entry => install entry.1 entry.2)
  recalculate

/-! ## Rows and columns -/

/-- Inserts an empty row before a row, or after the last one. -/
def insertRow (index : Int) : Tracked Recalc := do
  onSheet (check fun s =>
    if 0 ≤ index ∧ index ≤ s.nRows then .ok () else .error (.insertRow index))
  let edit := LineEdit.insert .row index
  move (fun s => { s with
    rows := s.rows.insertIdx index.toNat (List.replicate s.nCols Cell.blank) }) fun _ => edit.place?
  onSheet (write fun s => { s with fixedRows := edit.fixedRows s.fixedRows })
  onSheet (adjustFormulas edit)
  rebuild

/-- Deletes a row. -/
def deleteRow (index : Int) : Tracked Recalc := do
  onSheet (check fun s =>
    if 0 ≤ index ∧ index < s.nRows then .ok () else .error (.deleteRow index))
  let edit := LineEdit.delete .row index
  move (fun s => { s with rows := s.rows.eraseIdx index.toNat }) fun _ => edit.place?
  onSheet (write fun s => { s with fixedRows := edit.fixedRows s.fixedRows })
  onSheet (adjustFormulas edit)
  rebuild

/-- Puts an empty column before a column, or after the last one. -/
def placeColumn (index : Int) (name : Option String) : Tracked Recalc := do
  onSheet (write fun s => { s with
    columns := s.columns.insertIdx index.toNat ⟨name, s.options.columnWidth⟩ })
  let edit := LineEdit.insert .column index
  move (fun s => { s with rows := s.rows.map (·.insertIdx index.toNat Cell.blank) })
    fun _ => edit.place?
  onSheet (adjustFormulas edit)
  rebuild

/-- Inserts an empty column before a column, or after the last one, with a name if one is given. -/
def insertColumn (index : Int) (name : Option String) : Tracked Recalc := do
  onSheet (check fun s =>
    if 0 ≤ index ∧ index ≤ s.nCols then .ok () else .error (.insertColumn index))
  if let some name := name then onSheet (check (·.checkName name none))
  placeColumn index name

/-- Deletes a cell from each of the rows `rest`, which come after the rows `done`. -/
def eraseCells (col : Nat) : List (List Cell) → List (List Cell) → Tracked Unit
  | _, [] => return ()
  | done, row :: rest => do
    onSheet (checkColumn col row)
    move ({ · with rows := done ++ row.eraseIdx col :: rest }) fun _ cell =>
      if cell.row = done.length then (LineEdit.delete .column col).place? cell else some cell
    eraseCells col (done ++ [row.eraseIdx col]) rest

/-- Deletes a column, row by row. -/
def deleteColumn (index : Int) : Tracked Recalc := do
  onSheet (check fun s =>
    if 0 ≤ index ∧ index < s.nCols then .ok () else .error (.deleteColumn index))
  onSheet (write fun s => { s with columns := s.columns.eraseIdx index.toNat })
  let s ← onSheet get
  eraseCells index.toNat [] s.rows
  onSheet (adjustFormulas (.delete .column index))
  rebuild

/-- Grows the sheet at the right and at the bottom. -/
def resize (newCols newRows : Int) : Tracked Recalc := do
  onSheet (check fun s =>
    if newCols < s.nCols ∨ newRows < s.nRows then
      .error (.shrink s.nCols s.nRows newCols newRows)
    else .ok ())
  onSheet (write fun s => { s with
    columns := s.columns ++
      List.replicate (newCols.toNat - s.nCols) ⟨none, s.options.columnWidth⟩
    rows := s.rows.map (· ++ List.replicate (newCols.toNat - s.nCols) Cell.blank) })
  onSheet (write fun s => { s with
    rows := s.rows ++
      List.replicate (newRows.toNat - s.nRows) (List.replicate newCols.toNat Cell.blank) })
  rebuild

/-- Sorts the rows that are not fixed by their values in a column, which each of them must have. -/
def sort (col : Int) (descending : Bool) : Tracked Recalc := do
  let index ← onSheet (check (·.locateColumn col))
  let s ← onSheet get
  onSheet ((s.rows.drop s.fixedRows).forM (checkColumn index))
  move (·.sorted index descending) (·.placeSorted index descending)
  rebuild

end Tracked

/-- The edit, step by step, on a sheet with its dirty cells. -/
def Edit.tracked : Edit → Tracked (Option Recalc)
  | .setText cell raw => some <$> Tracked.setText cell raw
  | .clear cell => some <$> Tracked.setText cell ""
  | .fill origin target => some <$> Tracked.fill origin target
  | .load entries => some <$> Tracked.load entries
  | .recalculate => some <$> Tracked.recalculate
  | .insertRow index => some <$> Tracked.insertRow index
  | .deleteRow index => some <$> Tracked.deleteRow index
  | .insertColumn index name => some <$> Tracked.insertColumn index name
  | .deleteColumn index => some <$> Tracked.deleteColumn index
  | .resize newCols newRows => some <$> Tracked.resize newCols newRows
  | .sort col descending => some <$> Tracked.sort col descending
  | .setColumnName col name => Tracked.onSheet (Edit.setColumnName col name).procedure
  | .setColumnWidth col width => Tracked.onSheet (Edit.setColumnWidth col width).procedure
  | .fitColumnWidth col => Tracked.onSheet (Edit.fitColumnWidth col).procedure
  | .fixRows count => Tracked.onSheet (Edit.fixRows count).procedure

namespace Procedure

variable {α β : Type} {p : Procedure α} {s t : Sheet} {a : α}

/-- The steps fail because a cell or a value is missing. -/
def LacksValue (p : Procedure α) (s : Sheet) : Prop :=
  ∃ fault t, p.run s = .error (.value fault) t

theorem LacksValue.bind (h : p.LacksValue s) (k : α → Procedure β) : (p >>= k).LacksValue s := by
  obtain ⟨fault, t, hrun⟩ := h
  exact ⟨fault, t, run_bind_of_error hrun⟩

theorem lacksValue_bind {k : α → Procedure β} (h : p.run s = .ok a t) :
    (p >>= k).LacksValue s ↔ (k a).LacksValue t := by
  rw [LacksValue, LacksValue, run_bind h]

/-- Computing fails in no other way. -/
theorem lacksValue_forM_compute {change : Sheet → Coord → Except EvalFault Sheet}
    {cells : List Coord} {e : StepFault}
    (h : (cells.forM fun cell => compute (change · cell)).run s = .error e t) :
    (cells.forM fun cell => compute (change · cell)).LacksValue s := by
  induction cells generalizing s with
  | nil => cases h
  | cons cell cells ih =>
    cases hchange : change s cell with
    | ok u =>
      have hrun : (compute (change · cell)).run s = .ok () u := run_compute hchange
      exact (lacksValue_bind hrun).2 (ih ((run_bind hrun).symm.trans h))
    | error fault =>
      exact LacksValue.bind ⟨fault, s, run_compute_of_error hchange⟩ _

end Procedure

namespace Tracked

variable {α β : Type} {p : Procedure α} {k : α → Procedure β} {q : Tracked α} {l : α → Tracked β}

/-- The steps do the same to the sheet as those without dirty cells. If there were no dirty cells
there are none afterwards, unless a cell or a value is missing. -/
def Tracks (q : Tracked α) (p : Procedure α) : Prop :=
  ∀ st : Marked, ∃ dirty, q.run st = withDirty dirty (p.run st.sheet) ∧
    (st.dirty = [] → dirty = [] ∨ p.LacksValue st.sheet)

theorem Tracks.bind (h : Tracks q p) (hk : ∀ a, Tracks (l a) (k a)) :
    Tracks (q >>= l) (p >>= k) := by
  intro st
  obtain ⟨dirty, hq, hclean⟩ := h st
  cases hp : p.run st.sheet with
  | ok a t =>
    rw [hp] at hq
    obtain ⟨dirty', hl, hclean'⟩ := hk a ⟨t, dirty⟩
    refine ⟨dirty', ?_, fun hst => ?_⟩
    · rw [run_bind hp, run_bind hq, hl]
    · rcases hclean hst with hdirty | ⟨fault, u, hfault⟩
      · rw [lacksValue_bind hp]
        exact hclean' hdirty
      · cases hp.symm.trans hfault
  | error e t =>
    rw [hp] at hq
    refine ⟨dirty, ?_, fun hst => (hclean hst).imp_right fun hlacks => hlacks.bind k⟩
    rw [run_bind_of_error hp, run_bind_of_error hq]
    rfl

theorem Tracks.map (h : Tracks q p) (f : α → β) : Tracks (f <$> q) (f <$> p) := by
  rw [map_eq_pure_bind, map_eq_pure_bind]
  exact h.bind fun _ st => ⟨st.dirty, rfl, .inl⟩

theorem tracks_onSheet (p : Procedure α) : Tracks (onSheet p) p :=
  fun st => ⟨st.dirty, rfl, .inl⟩

theorem tracks_move (change : Sheet → Sheet) (place? : Sheet → Coord → Option Coord) :
    Tracks (move change place?) (write change) :=
  fun st => ⟨_, rfl, fun hst => .inl (by rw [hst, List.filterMap_nil])⟩

/-! ## Computing -/

theorem run_markDirty (cells : List Coord) (st : Marked) :
    (cells.forM markDirty).run st = .ok () { st with dirty := cells.reverse ++ st.dirty } := by
  induction cells generalizing st with
  | nil => rfl
  | cons cell cells ih =>
    rw [List.reverse_cons, List.append_assoc]
    exact ih _

/-- Cells that are computed are clean afterwards, and the others are as they were. -/
theorem run_computeAll (change : Sheet → Coord → Except EvalFault Sheet) (cells : List Coord)
    (st : Marked) : ∃ dirty, (computeAll change cells).run st =
        withDirty dirty ((cells.forM fun cell => compute (change · cell)).run st.sheet) ∧
      ∀ t, (cells.forM fun cell => compute (change · cell)).run st.sheet = .ok () t →
        ∀ cell, cell ∈ dirty ↔ cell ∈ st.dirty ∧ cell ∉ cells := by
  induction cells generalizing st with
  | nil => exact ⟨st.dirty, rfl, by simp⟩
  | cons first cells ih =>
    cases hchange : change st.sheet first with
    | ok u =>
      have hrun : (compute (change · first)).run st.sheet = .ok () u := run_compute hchange
      have hfirst : (onSheet (compute (change · first))).run st = .ok () ⟨u, st.dirty⟩ :=
        congrArg (withDirty st.dirty) hrun
      have hmark : (do onSheet (compute (change · first)); markClean first : Tracked Unit).run st =
          .ok () ⟨u, st.dirty.filter (· != first)⟩ := run_bind hfirst
      have hall : ((first :: cells).forM fun cell => compute (change · cell)).run st.sheet =
          (cells.forM fun cell => compute (change · cell)).run u := run_bind hrun
      obtain ⟨dirty, hrest, hdirty⟩ := ih ⟨u, st.dirty.filter (· != first)⟩
      rw [hall]
      refine ⟨dirty, (run_bind hmark).trans hrest, fun t ht cell => ?_⟩
      rw [hdirty t ht, List.mem_filter, List.mem_cons, not_or, bne_iff_ne, and_assoc]
    | error fault =>
      have hrun : (compute (change · first)).run st.sheet = .error (.value fault) st.sheet :=
        run_compute_of_error hchange
      have hfirst : (onSheet (compute (change · first))).run st = .error (.value fault) st :=
        congrArg (withDirty st.dirty) hrun
      have hall : ((first :: cells).forM fun cell => compute (change · cell)).run st.sheet =
          .error (.value fault) st.sheet := run_bind_of_error hrun
      refine ⟨st.dirty, ?_, fun t ht => ?_⟩
      · rw [hall]
        exact run_bind_of_error (run_bind_of_error hfirst)
      · cases hall.symm.trans ht

/-- The cells that are still dirty when those with a place in the order are computed are the stuck
ones. -/
theorem ascending_filter_dirty (links : Links) (cells dirty : List Coord)
    (hdirty : ∀ cell, cell ∈ (links.schedule cells).cells →
      (cell ∈ dirty ↔ cell ∉ (links.schedule cells).order)) :
    Coord.ascending ((links.schedule cells).cells.filter dirty.contains) =
      (links.schedule cells).stuck := by
  refine (Coord.ascends_ascending _).ext (links.ascends_stuck_schedule cells) fun cell => ?_
  have hdisjoint := (List.nodup_append.1 (links.nodup_schedule cells)).2.2
  rw [Coord.mem_ascending, List.mem_filter, List.contains_iff_mem]
  constructor
  · rintro ⟨hcell, hmem⟩
    exact (List.mem_append.1 hcell).resolve_left ((hdirty cell hcell).1 hmem)
  · intro hstuck
    have hcell := List.mem_append_right (links.schedule cells).order hstuck
    exact ⟨hcell, (hdirty cell hcell).2 fun horder => hdisjoint cell horder cell hstuck rfl⟩

theorem tracks_settle (links : Links) (cells : List Coord) (before : Sheet) (depth : Nat) :
    Tracks (settle (links.schedule cells) before depth)
      (Procedure.settle (links.schedule cells) before depth) := by
  refine (tracks_onSheet _).bind fun _ st => ?_
  have hmark := run_markDirty (links.schedule cells).cells st
  obtain ⟨dirty, hq, hdirty⟩ := run_computeAll Sheet.evaluateCell? (links.schedule cells).order
    { st with dirty := (links.schedule cells).cells.reverse ++ st.dirty }
  cases hp : ((links.schedule cells).order.forM fun cell =>
      compute (·.evaluateCell? cell)).run st.sheet with
  | error e t =>
    refine ⟨dirty, ?_, fun _ => .inr ((lacksValue_forM_compute hp).bind _)⟩
    rw [hp] at hq
    rw [run_bind hmark, run_bind_of_error hp, run_bind_of_error hq]
    rfl
  | ok _ t =>
    rw [hp] at hq
    have hmem := hdirty t hp
    have hstuck := ascending_filter_dirty links cells dirty fun cell hcell => by
      simp [hmem, hcell]
    obtain ⟨dirty', hq', hdirty'⟩ := run_computeAll Sheet.markCircular?
      (links.schedule cells).stuck ⟨t, dirty⟩
    refine ⟨dirty', ?_, fun hst => ?_⟩
    · rw [run_bind hmark, run_bind hq, run_get, run_bind hp]
      simp only [hstuck]
      cases hp' : ((links.schedule cells).stuck.forM fun cell =>
          compute (·.markCircular? cell)).run t with
      | error e u =>
        rw [hp'] at hq'
        rw [run_bind_of_error hp', run_bind_of_error hq']
        rfl
      | ok _ u =>
        rw [hp'] at hq'
        rw [run_bind hp', run_bind hq']
        rfl
    · rw [lacksValue_bind hp]
      cases hp' : ((links.schedule cells).stuck.forM fun cell =>
          compute (·.markCircular? cell)).run t with
      | error e u => exact .inr ((lacksValue_forM_compute hp').bind _)
      | ok _ u =>
        refine .inl (List.eq_nil_iff_forall_not_mem.2 fun cell hcell => ?_)
        obtain ⟨hdirt, hnot⟩ := (hdirty' u hp' cell).1 hcell
        rw [hmem, hst, List.append_nil, List.mem_reverse] at hdirt
        exact (List.mem_append.1 hdirt.1).elim hdirt.2 hnot

theorem tracks_recalculate : Tracks recalculate Procedure.recalculate :=
  (tracks_onSheet get).bind fun s => tracks_settle s.links s.formulaCells s 0

theorem tracks_recalculateFrom (edited : List Coord) (before : Sheet) :
    Tracks (recalculateFrom edited before) (Procedure.recalculateFrom edited before) :=
  (tracks_onSheet get).bind fun s => tracks_settle s.links _ before _

theorem tracks_rebuild : Tracks rebuild Procedure.rebuild :=
  (tracks_onSheet _).bind fun _ => (tracks_onSheet get).bind fun _ => (tracks_onSheet _).bind fun _ =>
    tracks_recalculate

/-! ## Edits -/

theorem tracks_setText (cell : Coord) (raw : String) :
    Tracks (setText cell raw) (Procedure.setText cell raw) :=
  (tracks_onSheet _).bind fun _ => (tracks_onSheet get).bind fun before =>
    (tracks_onSheet _).bind fun _ => tracks_recalculateFrom [cell] before

theorem tracks_fill (origin target : Coord) :
    Tracks (fill origin target) (Procedure.fill origin target) := by
  refine (tracks_onSheet _).bind fun _ => (tracks_onSheet _).bind fun _ =>
    (tracks_onSheet _).bind fun c => (tracks_onSheet get).bind fun s => ?_
  have hrest (rows cols : Int) :
      Tracks (onSheet (check (·.filledText c rows cols)) >>= setText target)
        (check (·.filledText c rows cols) >>= Procedure.setText target) :=
    (tracks_onSheet _).bind fun raw => tracks_setText target raw
  cases c.formula with
  | none => exact hrest _ _
  | some formula => exact (tracks_onSheet _).bind fun _ => hrest _ _

theorem tracks_load (entries : List (Coord × String)) :
    Tracks (load entries) (Procedure.load entries) :=
  (tracks_onSheet _).bind fun _ => (tracks_onSheet _).bind fun _ => tracks_recalculate

/-- After a row or column has come or gone, the formulas follow and are computed. -/
theorem tracks_follow (edit : LineEdit) :
    Tracks (do onSheet (adjustFormulas edit); rebuild : Tracked Recalc)
      (do adjustFormulas edit; Procedure.rebuild : Procedure Recalc) :=
  (tracks_onSheet _).bind fun _ => tracks_rebuild

theorem tracks_insertRow (index : Int) :
    Tracks (insertRow index) (Procedure.insertRow index) :=
  (tracks_onSheet _).bind fun _ => (tracks_move _ _).bind fun _ => (tracks_onSheet _).bind fun _ =>
    tracks_follow (.insert .row index)

theorem tracks_deleteRow (index : Int) :
    Tracks (deleteRow index) (Procedure.deleteRow index) :=
  (tracks_onSheet _).bind fun _ => (tracks_move _ _).bind fun _ => (tracks_onSheet _).bind fun _ =>
    tracks_follow (.delete .row index)

theorem tracks_placeColumn (index : Int) (name : Option String) :
    Tracks (placeColumn index name) (Procedure.placeColumn index name) :=
  (tracks_onSheet _).bind fun _ => (tracks_move _ _).bind fun _ =>
    tracks_follow (.insert .column index)

theorem tracks_insertColumn (index : Int) (name : Option String) :
    Tracks (insertColumn index name) (Procedure.insertColumn index name) := by
  refine (tracks_onSheet _).bind fun _ => ?_
  cases name with
  | none => exact tracks_placeColumn index none
  | some name => exact (tracks_onSheet _).bind fun _ => tracks_placeColumn index (some name)

theorem tracks_eraseCells (col : Nat) (done rest : List (List Cell)) :
    Tracks (eraseCells col done rest) (Procedure.eraseCells col done rest) := by
  induction rest generalizing done with
  | nil => exact fun st => ⟨st.dirty, rfl, .inl⟩
  | cons row rest ih =>
    exact (tracks_onSheet _).bind fun _ => (tracks_move _ _).bind fun _ =>
      ih (done ++ [row.eraseIdx col])

theorem tracks_deleteColumn (index : Int) :
    Tracks (deleteColumn index) (Procedure.deleteColumn index) :=
  (tracks_onSheet _).bind fun _ => (tracks_onSheet _).bind fun _ => (tracks_onSheet get).bind fun s =>
    (tracks_eraseCells index.toNat [] s.rows).bind fun _ => tracks_follow (.delete .column index)

theorem tracks_resize (newCols newRows : Int) :
    Tracks (resize newCols newRows) (Procedure.resize newCols newRows) :=
  (tracks_onSheet _).bind fun _ => (tracks_onSheet _).bind fun _ => (tracks_onSheet _).bind fun _ =>
    tracks_rebuild

theorem tracks_sort (col : Int) (descending : Bool) :
    Tracks (sort col descending) (Procedure.sort col descending) :=
  (tracks_onSheet _).bind fun _ => (tracks_onSheet get).bind fun _ => (tracks_onSheet _).bind fun _ =>
    (tracks_move _ _).bind fun _ => tracks_rebuild

end Tracked

open Tracked

/-- An edit on a sheet with its dirty cells does what it does to the sheet alone, also where one of
its steps fails. Where no cell was dirty none is dirty afterwards, unless the edit fails because a
cell or a value is missing. -/
theorem Edit.tracks (edit : Edit) : Tracks edit.tracked edit.procedure := by
  cases edit with
  | setText cell raw => exact (tracks_setText cell raw).map some
  | clear cell => exact (tracks_setText cell "").map some
  | fill origin target => exact (tracks_fill origin target).map some
  | load entries => exact (tracks_load entries).map some
  | recalculate => exact tracks_recalculate.map some
  | insertRow index => exact (tracks_insertRow index).map some
  | deleteRow index => exact (tracks_deleteRow index).map some
  | insertColumn index name => exact (tracks_insertColumn index name).map some
  | deleteColumn index => exact (tracks_deleteColumn index).map some
  | resize newCols newRows => exact (tracks_resize newCols newRows).map some
  | sort col descending => exact (tracks_sort col descending).map some
  | setColumnName | setColumnWidth | fitColumnWidth | fixRows => exact tracks_onSheet _

end Spreadsheet

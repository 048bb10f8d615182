import Mathlib
import Spreadsheet.Proofs.Sheet.Checked
import Spreadsheet.Proofs.Sheet.Follow
import Spreadsheet.Sheet.Find

/-!
# Edits step by step

`Edit.run` makes another sheet of a sheet, or refuses. `Edit.procedure` carries an edit out on a
sheet that it writes to, step by step: checks, reads and writes in the order in which they are made.
A step that fails leaves the sheet as it was written up to then. After the first write there still
are steps that can fail: one that looks a cell up, one that converts a word of a formula to a
number, one that evaluates a formula, and one that writes a formula that has no text.
-/

namespace Spreadsheet

/-- Why a step of an edit fails. -/
inductive StepFault where
  /-- A check refuses the edit. -/
  | refused (fault : EditFault)
  /-- There is no cell, or its formula has no value. -/
  | value (fault : EvalFault)
  /-- A formula has no text. -/
  | text (fault : PrintFault)
  /-- A word of a formula is taken for a number and spells none. -/
  | number (spelling : String)
  deriving DecidableEq

/-- Steps that read a sheet and write to it. Where one fails, what was written before it stays. -/
abbrev Procedure := EStateM StepFault Sheet

namespace Procedure

variable {α β : Type}

/-! ## Single steps -/

/-- Goes on with what a check of the sheet gives, unless it refuses. -/
def check (result : Sheet → Except EditFault α) : Procedure α := do
  match result (← get) with
  | .ok a => return a
  | .error fault => throw (.refused fault)

/-- Changes the sheet. -/
def write (change : Sheet → Sheet) : Procedure Unit := modify change

/-- Changes the sheet, if what is to be computed has a value. -/
def compute (change : Sheet → Except EvalFault Sheet) : Procedure Unit := do
  match change (← get) with
  | .ok t => set t
  | .error fault => throw (.value fault)

/-- Looks a cell up. -/
def lookUp (cell : Coord) : Procedure Cell := do
  match (← get).rows.get? cell with
  | some c => return c
  | none => throw (.value (.missingCell .outside))

/-- Makes sure that a formula has a text. -/
def checkText (formula : Expr) : Procedure Unit :=
  match formula.printFault? with
  | some fault => throw (.text fault)
  | none => return ()

/-! ## Steps one after the other -/

variable {p : Procedure α} {k : α → Procedure β} {s t : Sheet} {a : α} {cell : Coord} {c : Cell}

section Bind

variable {ε σ : Type} {p : EStateM ε σ α} {k : α → EStateM ε σ β} {s t : σ}

theorem run_bind (h : p.run s = .ok a t) : (p >>= k).run s = (k a).run t := by
  simp only [EStateM.run, bind, EStateM.bind] at h ⊢
  rw [h]

theorem run_bind_of_error {e : ε} (h : p.run s = .error e t) : (p >>= k).run s = .error e t := by
  simp only [EStateM.run, bind, EStateM.bind] at h ⊢
  rw [h]

theorem run_map (f : α → β) (h : p.run s = .ok a t) : (f <$> p).run s = .ok (f a) t := by
  simp only [EStateM.run, Functor.map, EStateM.map] at h ⊢
  rw [h]

theorem run_get (k : σ → EStateM ε σ β) : (get >>= k).run s = (k s).run s := rfl

end Bind

theorem run_check {result : Sheet → Except EditFault α} (h : result s = .ok a) :
    (check result).run s = .ok a s := by
  simp only [check, EStateM.run, bind, EStateM.bind, get, getThe, MonadStateOf.get, EStateM.get, h]
  rfl

theorem run_write (change : Sheet → Sheet) : (write change).run s = .ok () (change s) := rfl

theorem run_compute {change : Sheet → Except EvalFault Sheet} (h : change s = .ok t) :
    (compute change).run s = .ok () t := by
  simp only [compute, EStateM.run, bind, EStateM.bind, get, getThe, MonadStateOf.get, EStateM.get,
    h]
  rfl

theorem run_lookUp (h : s.rows.get? cell = some c) : (lookUp cell).run s = .ok c s := by
  simp only [lookUp, EStateM.run, bind, EStateM.bind, get, getThe, MonadStateOf.get, EStateM.get, h]
  rfl

theorem run_checkText {formula : Expr} (h : formula.printFault? = none) :
    (checkText formula).run s = .ok () s := by
  rw [checkText, h]
  rfl

theorem run_forM_compute {f : Sheet → α → Except EvalFault Sheet} {xs : List α}
    (h : xs.foldlM f s = .ok t) : (xs.forM fun x => compute (f · x)).run s = .ok () t := by
  induction xs generalizing s with
  | nil =>
    cases h
    rfl
  | cons x xs ih =>
    obtain ⟨u, hfirst, hrest⟩ := bind_eq_ok.1 h
    exact (run_bind (run_compute hfirst)).trans (ih hrest)

/-- A loop that only reads leaves the sheet as it is. -/
theorem run_forM_of_read {loop : α → Procedure Unit} {xs : List α}
    (h : ∀ x ∈ xs, (loop x).run s = .ok () s) : (xs.forM loop).run s = .ok () s := by
  induction xs with
  | nil => rfl
  | cons x xs ih =>
    obtain ⟨hfirst, hrest⟩ := List.forall_mem_cons.1 h
    exact (run_bind hfirst).trans (ih hrest)

/-- The steps do what the result says: they make the sheet and give the result, or they are refused
and leave the sheet as it is. -/
def Does (p : Procedure α) (s : Sheet) (result : Except EditFault (Sheet × α)) : Prop :=
  p.run s =
    match result with
    | .ok (t, a) => .ok a t
    | .error fault => .error (.refused fault) s

theorem does_of_refused {result : Sheet → Except EditFault α} {k : α → Procedure β}
    {fault : EditFault} (h : result s = .error fault) :
    (check result >>= k).Does s (.error fault) := by
  simp only [Does, check, EStateM.run, bind, EStateM.bind, get, getThe, MonadStateOf.get,
    EStateM.get, h]
  rfl

theorem does_bind {result : Except EditFault (Sheet × β)} (h : p.run s = .ok a s)
    (hrest : (k a).Does s result) : (p >>= k).Does s result :=
  (run_bind h).trans hrest

theorem does_map (f : α → β) {result : Except EditFault (Sheet × α)} (h : p.Does s result) :
    (f <$> p).Does s (result.map (·.map id f)) := by
  cases result with
  | ok made => exact run_map f h
  | error fault =>
    simp only [Does, EStateM.run] at h
    simp only [Does, EStateM.run, Functor.map, EStateM.map, h]
    rfl

/-- A check before the other steps. -/
theorem does_check {result : Sheet → Except EditFault α} {k : α → Procedure β}
    {rest : α → Except EditFault (Sheet × β)} (h : ∀ a, result s = .ok a → (k a).Does s (rest a)) :
    (check result >>= k).Does s (result s >>= rest) := by
  cases hresult : result s with
  | ok a => exact (run_bind (run_check hresult)).trans (h a hresult)
  | error fault => exact does_of_refused hresult

namespace Does

variable {result : Except EditFault (Sheet × α)}

/-- Steps that are refused leave the sheet as it was. -/
theorem error_iff (h : p.Does s result) {fault : StepFault} :
    p.run s = .error fault t ↔
      t = s ∧ ∃ refusal, fault = .refused refusal ∧ result = .error refusal := by
  rw [h]
  cases result with
  | ok made => simp
  | error refusal => simp [eq_comm, and_comm]

theorem ok_iff (h : p.Does s result) : p.run s = .ok a t ↔ result = .ok (t, a) := by
  rw [h]
  cases result with
  | ok made => simp [Prod.ext_iff, and_comm]
  | error refusal => simp

/-- Steps fail if they are refused, and not otherwise. -/
theorem exists_error_iff (h : p.Does s result) :
    (∃ fault t, p.run s = .error fault t) ↔ ∃ refusal, result = .error refusal := by
  constructor
  · rintro ⟨fault, t, hrun⟩
    obtain ⟨-, refusal, -, hresult⟩ := h.error_iff.1 hrun
    exact ⟨refusal, hresult⟩
  · rintro ⟨refusal, hresult⟩
    exact ⟨_, s, h.error_iff.2 ⟨rfl, refusal, rfl, hresult⟩⟩

end Does

/-! ## Computing -/

/-- Computes the cells of a schedule, after a look at the values that they have. -/
def settle (schedule : Schedule) (before : Sheet) (depth : Nat) : Procedure Recalc := do
  schedule.cells.forM fun cell => discard (lookUp cell)
  schedule.order.forM fun cell => compute (·.evaluateCell? cell)
  schedule.stuck.forM fun cell => compute (·.markCircular? cell)
  let after ← get
  return {
    recomputed := schedule.cells
    changes := Sheet.changesOf schedule.cells before after
    circular := schedule.stuck
    depth }

/-- Computes all formulas. -/
def recalculate : Procedure Recalc := do
  let s ← get
  settle (s.links.schedule s.formulaCells) s 0

/-- Computes the edited cells and those that depend on them. -/
def recalculateFrom (edited : List Coord) (before : Sheet) : Procedure Recalc := do
  let s ← get
  settle (s.links.scheduleFrom edited) before (s.links.depth edited)

/-- Finds out anew what formulas read, cell by cell, and computes all of them. -/
def rebuild : Procedure Recalc := do
  write ({ · with links := .empty })
  (← get).formulaCells.forM fun cell => do
    discard (lookUp cell)
    write (·.link cell)
  recalculate

/-! ## Entering texts -/

/-- Makes sure that a word which is taken for a number spells one, and a whole one if it has nothing
but digits. -/
def checkNumber (spelling : String) : Procedure Unit :=
  if (Numeral.read? spelling.toList).isSome ∧
      (Text.allDigits spelling.toList → ∀ c ∈ spelling.toList, Text.isDecimal c) then return ()
  else throw (.number spelling)

/-- Converts the words of a formula that are taken for numbers. -/
def checkWords (body : String) : Procedure Unit :=
  match tokenize body with
  | .ok tokens => tokens.forM fun token =>
    match token.lexeme with
    | .number spelling => checkNumber spelling
    | _ => return ()
  | .error _ => return ()

/-- Enters a text in a cell, which has no formula until the text is read as one. -/
def install (cell : Coord) (raw : String) : Procedure Unit := do
  discard (lookUp cell)
  write (·.modifyCell cell ({ · with raw, formula := none }))
  if let some body := (← get).options.formulaBody? raw then checkWords body
  write (·.install cell raw)

/-- Enters a text in a cell and computes what depends on it. -/
def setText (cell : Coord) (raw : String) : Procedure Recalc := do
  check (·.checkCell cell)
  let before ← get
  install cell raw
  recalculateFrom [cell] before

/-- Copies a cell to another place and computes what depends on that. -/
def fill (origin target : Coord) : Procedure Recalc := do
  check (·.checkCell origin)
  check (·.checkCell target)
  let c ← lookUp origin
  let s ← get
  let rows := target.row - origin.row
  let cols := target.col - origin.col
  if let some formula := c.formula then
    checkText ((formula.shifted? rows cols s.nRows s.nCols).getD formula)
  let raw ← check (·.filledText c rows cols)
  setText target raw

/-- Enters texts row by row and computes all formulas. -/
def load (entries : List (Coord × String)) : Procedure Recalc := do
  let entries := entries.mergeSort Sheet.entryAtMost
  entries.forM fun entry => check (·.checkCell entry.1)
  entries.forM fun entry => install entry.1 entry.2
  recalculate

/-! ## Rows and columns -/

/-- Writes the formula of a cell after a row or column comes or goes, and its text, if a reference
moves. -/
def adjustCell (edit : LineEdit) (cell : Coord) : Procedure Unit := do
  let c ← lookUp cell
  if let some formula := c.formula.bind (·.afterEdit? edit) then
    write (·.modifyCell cell ({ · with formula := some formula }))
    checkText formula
    write fun s => s.modifyCell cell ({ · with raw := s.options.formulaText formula.print })

/-- Writes all formulas after a row or column comes or goes, cell by cell. -/
def adjustFormulas (edit : LineEdit) : Procedure Unit := do
  (← get).cells.forM (adjustCell edit)

/-- Makes sure that a row has a cell in a column. -/
def checkColumn (col : Nat) (row : List Cell) : Procedure Unit :=
  if col < row.length then return () else throw (.value (.missingCell .outside))

/-- Deletes a cell from each of the rows `rest`, which come after the rows `done`. -/
def eraseCells (col : Nat) : List (List Cell) → List (List Cell) → Procedure Unit
  | _, [] => return ()
  | done, row :: rest => do
    checkColumn col row
    write ({ · with rows := done ++ row.eraseIdx col :: rest })
    eraseCells col (done ++ [row.eraseIdx col]) rest

/-- Inserts an empty row before a row, or after the last one. -/
def insertRow (index : Int) : Procedure Recalc := do
  check fun s => if 0 ≤ index ∧ index ≤ s.nRows then .ok () else .error (.insertRow index)
  let edit := LineEdit.insert .row index
  write fun s => { s with rows := s.rows.insertIdx index.toNat (List.replicate s.nCols Cell.blank) }
  write fun s => { s with fixedRows := edit.fixedRows s.fixedRows }
  adjustFormulas edit
  rebuild

/-- Deletes a row. -/
def deleteRow (index : Int) : Procedure Recalc := do
  check fun s => if 0 ≤ index ∧ index < s.nRows then .ok () else .error (.deleteRow index)
  let edit := LineEdit.delete .row index
  write fun s => { s with rows := s.rows.eraseIdx index.toNat }
  write fun s => { s with fixedRows := edit.fixedRows s.fixedRows }
  adjustFormulas edit
  rebuild

/-- Puts an empty column before a column, or after the last one. -/
def placeColumn (index : Int) (name : Option String) : Procedure Recalc := do
  write fun s => { s with
    columns := s.columns.insertIdx index.toNat ⟨name, s.options.columnWidth⟩ }
  write fun s => { s with rows := s.rows.map (·.insertIdx index.toNat Cell.blank) }
  adjustFormulas (.insert .column index)
  rebuild

/-- Inserts an empty column before a column, or after the last one, with a name if one is given. -/
def insertColumn (index : Int) (name : Option String) : Procedure Recalc := do
  check fun s => if 0 ≤ index ∧ index ≤ s.nCols then .ok () else .error (.insertColumn index)
  if let some name := name then check (·.checkName name none)
  placeColumn index name

/-- Deletes a column, row by row. -/
def deleteColumn (index : Int) : Procedure Recalc := do
  check fun s => if 0 ≤ index ∧ index < s.nCols then .ok () else .error (.deleteColumn index)
  write fun s => { s with columns := s.columns.eraseIdx index.toNat }
  eraseCells index.toNat [] (← get).rows
  adjustFormulas (.delete .column index)
  rebuild

/-- Grows the sheet at the right and at the bottom. -/
def resize (newCols newRows : Int) : Procedure Recalc := do
  check fun s =>
    if newCols < s.nCols ∨ newRows < s.nRows then
      .error (.shrink s.nCols s.nRows newCols newRows)
    else .ok ()
  write fun s => { s with
    columns := s.columns ++
      List.replicate (newCols.toNat - s.nCols) ⟨none, s.options.columnWidth⟩
    rows := s.rows.map (· ++ List.replicate (newCols.toNat - s.nCols) Cell.blank) }
  write fun s => { s with
    rows := s.rows ++
      List.replicate (newRows.toNat - s.nRows) (List.replicate newCols.toNat Cell.blank) }
  rebuild

/-- Sorts the rows that are not fixed by their values in a column, which each of them must have. -/
def sort (col : Int) (descending : Bool) : Procedure Recalc := do
  let index ← check (·.locateColumn col)
  let s ← get
  (s.rows.drop s.fixedRows).forM (checkColumn index)
  write (·.sorted index descending)
  rebuild

/-! ## Columns and fixed rows -/

/-- Gives a column a name. -/
def setColumnName (col : Int) (name : String) : Procedure Unit := do
  let index ← check (·.locateColumn col)
  check (·.checkName name (some index))
  write fun s => { s with
    columns := s.columns.modify index fun column => { column with name := some name } }

/-- Gives a column a width. -/
def setColumnWidth (col width : Int) : Procedure Unit := do
  let index ← check (·.locateColumn col)
  check fun _ => if width < 1 then .error (.columnWidth width) else .ok ()
  write fun s => { s with
    columns := s.columns.modify index fun column => { column with width := width.toNat } }

/-- Gives a column the width of its longest text shown and one more. -/
def fitColumnWidth (col : Int) : Procedure Nat := do
  let index ← check (·.locateColumn col)
  let widest ← check fun s => (s.widestDisplay index).mapError .places
  let width := widest + 1
  setColumnWidth col width
  return width

/-- Fixes a number of rows at the top. -/
def fixRows (count : Int) : Procedure Unit := do
  check fun s =>
    if 0 ≤ count ∧ count ≤ s.nRows then .ok () else .error (.fixRows count s.nRows)
  write ({ · with fixedRows := count.toNat })

/-! ## Finding a text -/

/-- The first of some cells that shows a text with the given one in it. -/
def findAmong (text : String) : List Coord → Procedure (Option Coord)
  | [] => return none
  | cell :: cells => do
    discard (lookUp cell)
    if (← get).showsText text cell then return some cell
    findAmong text cells

/-- The next cell after the start that shows a text with the given one in it. -/
def find (text : String) (start : Coord) : Procedure (Option Coord) := do
  let s ← get
  if s.cells.isEmpty then return none
  check (·.checkCell start)
  let (upTo, after) := s.cells.partition fun cell => !start.before cell
  findAmong text (after ++ upTo)

end Procedure

/-- The edit, step by step. -/
def Edit.procedure : Edit → Procedure (Option Recalc)
  | .setText cell raw => some <$> Procedure.setText cell raw
  | .clear cell => some <$> Procedure.setText cell ""
  | .fill origin target => some <$> Procedure.fill origin target
  | .load entries => some <$> Procedure.load entries
  | .recalculate => some <$> Procedure.recalculate
  | .insertRow index => some <$> Procedure.insertRow index
  | .deleteRow index => some <$> Procedure.deleteRow index
  | .insertColumn index name => some <$> Procedure.insertColumn index name
  | .deleteColumn index => some <$> Procedure.deleteColumn index
  | .resize newCols newRows => some <$> Procedure.resize newCols newRows
  | .sort col descending => some <$> Procedure.sort col descending
  | .setColumnName col name => (fun _ => none) <$> Procedure.setColumnName col name
  | .setColumnWidth col width => (fun _ => none) <$> Procedure.setColumnWidth col width
  | .fitColumnWidth col => (fun _ => none) <$> Procedure.fitColumnWidth col
  | .fixRows count => (fun _ => none) <$> Procedure.fixRows count

end Spreadsheet

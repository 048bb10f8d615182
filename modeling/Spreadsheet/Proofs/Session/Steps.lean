import Mathlib
import Spreadsheet.Proofs.Sheet.Execution
import Spreadsheet.Session

/-!
# Sessions step by step

`Session.run` gives another session or refuses a line. `Session.Steps.ofLine` carries the line out
on a session that it writes to, step by step: the sheet as its operations write to it, then the
cursor, the path and the report. A step that fails leaves the session as it was written up to then.
As long as the cursor is on the sheet, the steps do what `Session.run` says, and a line that fails
has not written anything to the session (`Session.Steps.does_ofLine`). This is so on any medium:
what saving does to the files and how it can fail does not matter.
-/

namespace Spreadsheet

/-- Why a line is not carried out to its end. -/
inductive LineFault (ε : Type) where
  | command (fault : CommandFault)
  | sheet (fault : StepFault)
  | save (fault : SaveFault ε)
  /-- There are no letters for a column before the first one. -/
  | column (col : Int)

/-- The fault of a line that is refused. -/
def SessionFault.lineFault {ε : Type} : SessionFault ε → LineFault ε
  | .command fault => .command fault
  | .edit fault => .sheet (.refused fault)
  | .save fault => .save fault

namespace Session

/-- Steps that write to a session and to files. Where one fails, what was written before it
stays. -/
abbrev Steps (F ε : Type) := EStateM (LineFault ε) (Session × F)

namespace Steps

variable {α F ε : Type}

/-- Steps that write to the sheet of the session. -/
def onSheet (p : Procedure α) : Steps F ε α := fun state =>
  match p.run state.1.sheet with
  | .ok a sheet => .ok a ({ state.1 with sheet }, state.2)
  | .error fault sheet => .error (.sheet fault) ({ state.1 with sheet }, state.2)

/-- Changes the session. -/
def write (change : Session → Session) : Steps F ε Unit :=
  modify fun state => (change state.1, state.2)

/-- The letters of a column. -/
def columnText (col : Int) : Steps F ε String :=
  if 0 ≤ col then return ColumnName.text col.toNat else throw (.column col)

/-- Leaves the files that were written, also where writing them has failed. -/
def writeFiles (written : Medium.SaveResult F ε) : Steps F ε Unit := fun state =>
  match written.2 with
  | .ok () => .ok () (state.1, written.1)
  | .error fault => .error (.save fault) (state.1, written.1)

/-- The steps do what the result says: they make the session and give the report, or they are
refused and leave the session as it is. -/
def Does (steps : Steps F ε String) (s : Session) (files : F)
    (result : F × Except (SessionFault ε) Reported) : Prop :=
  steps.run (s, files) =
    match result.2 with
    | .ok (t, report) => .ok report (t, result.1)
    | .error fault => .error fault.lineFault (s, result.1)

variable {s : Session} {files : F} {p : Procedure α} {result : Except EditFault (Sheet × α)}
  {state : Session × F} {steps : Steps F ε String} {made : F × Except (SessionFault ε) Reported}

/-- Steps that end with a report make the session that the result has. -/
theorem Does.eq_of_ok (h : steps.Does s files made) {report : String}
    (hrun : steps.run (s, files) = .ok report state) :
    made = (state.2, .ok (state.1, report)) := by
  obtain ⟨files', step⟩ := made
  have h := hrun.symm.trans h
  cases step with
  | ok => cases h; rfl
  | error => cases h

/-- Steps that fail leave the session as it was. -/
theorem Does.eq_of_error (h : steps.Does s files made) {fault : LineFault ε}
    (hrun : steps.run (s, files) = .error fault state) : state.1 = s := by
  have h := hrun.symm.trans h
  cases hmade : made.2 with
  | ok => rw [hmade] at h; cases h
  | error => rw [hmade] at h; cases h; rfl

/-! ## Steps on the sheet -/

theorem run_columnText {col : Int} (h : 0 ≤ col) :
    (columnText col : Steps F ε String).run state = .ok (ColumnName.text col.toNat) state := by
  rw [columnText, if_pos h]
  rfl

theorem mapError_map_bind {ε ε' α β γ : Type} {f : α → β} {g : ε → ε'} {x : Except ε α}
    {k : β → Except ε' γ} :
    (f <$> x).mapError g >>= k = x.mapError g >>= fun a => k (f a) := by
  cases x <;> rfl

theorem run_onSheet_of_ok {a : α} {sheet : Sheet} (h : p.run s.sheet = .ok a sheet) :
    (onSheet p : Steps F ε α).run (s, files) = .ok a ({ s with sheet }, files) := by
  rw [EStateM.run, onSheet, h]

theorem run_onSheet_of_error {fault : StepFault} (h : p.run s.sheet = .error fault s.sheet) :
    (onSheet p : Steps F ε α).run (s, files) = .error (.sheet fault) (s, files) := by
  rw [EStateM.run, onSheet, h]

/-- Steps on the sheet come first; the others write down what they made and do not fail. -/
theorem does_onSheet (h : p.Does s.sheet result) {k : α → Steps F ε String}
    (outcome : Sheet × α → Session × String)
    (hk : ∀ t a, result = .ok (t, a) → (k a).run ({ s with sheet := t }, files) =
      .ok (outcome (t, a)).2 ((outcome (t, a)).1, files)) :
    (onSheet p >>= k).Does s files
      (files, (result.mapError .edit) >>= fun made => .ok (outcome made)) := by
  cases result with
  | ok made => exact (Procedure.run_bind (run_onSheet_of_ok h)).trans (hk made.1 made.2 rfl)
  | error fault => exact Procedure.run_bind_of_error (run_onSheet_of_error h)

theorem does_onSheet_map {β : Type} {x : Except EditFault β} {pack : β → Sheet × α}
    (h : p.Does s.sheet (pack <$> x)) {k : α → Steps F ε String}
    (outcome : Sheet × α → Session × String)
    (hk : ∀ b, x = .ok b → (k (pack b).2).run ({ s with sheet := (pack b).1 }, files) =
      .ok (outcome (pack b)).2 ((outcome (pack b)).1, files)) :
    (onSheet p >>= k).Does s files
      (files, (x.mapError .edit) >>= fun b => .ok (outcome (pack b))) := by
  have hdoes := does_onSheet h outcome fun t a hmade => by
    obtain ⟨b, hb, heq⟩ := map_eq_ok.1 hmade
    have hrun := hk b hb
    rwa [heq] at hrun
  rwa [mapError_map_bind] at hdoes

/-! ## Commands -/

variable [Medium F ε]

/-- Writes the sheet to a file. -/
def saveSheet (path : Path) : Steps F ε Unit := do
  let state ← get
  writeFiles (Medium.saveSheet state.2 state.1.sheet path.text .standard)

/-- The steps of a command. -/
def ofCommand : Command → Steps F ε String
  | .help => return Command.helpText
  | .new => do
    write fun s => { s with sheet := .blank 5 5 s.sheet.options .builtin }
    write ({ · with cursor := ⟨0, 0⟩ })
    write ({ · with path := none })
    return "New sheet"
  | .setColumnWidth width => do
    let s := (← get).1
    onSheet (Procedure.setColumnWidth s.cursor.col width)
    let column ← columnText s.cursor.col
    return s!"Column {column} width set to {Command.countText width}"
  | .save path => do
    saveSheet path
    write ({ · with path := some path })
    return s!"Saved to {path.text}"
  | .find text => do
    let s := (← get).1
    match ← onSheet (Procedure.find text s.cursor) with
    | some cell =>
      write ({ · with cursor := cell })
      discard (columnText cell.col)
      return s!"Found at {cell.name false}"
    | none => return s!"Not found: {text}"
  | .sort column => do
    let _ ← onSheet (Procedure.sort column false)
    return s!"Sorted by column {ColumnName.text column}"
  | .fit column => do
    let width ← onSheet (Procedure.fitColumnWidth column)
    return widthReport column width
  | .fix rows => do
    onSheet (Procedure.fixRows rows)
    return s!"Fix {Command.rowsText rows}"
  | .resize columns rows => do
    let _ ← onSheet (Procedure.resize columns rows)
    return s!"Resized to {Command.countText columns}x{Command.countText rows}"

/-- The steps of a line: it is read, and its command is carried out, if it has one. -/
def ofLine (line : String) : Steps F ε String :=
  match Command.parse? line with
  | .ok (some command) => ofCommand command
  | .ok none => return ""
  | .error fault => throw (.command fault)

theorem does_help : (ofCommand .help).Does s files (s.execute files .help) := rfl

theorem does_new : (ofCommand .new).Does s files (s.execute files .new) := rfl

theorem does_setColumnWidth (hcursor : 0 ≤ s.cursor.col) (width : Nat) :
    (ofCommand (.setColumnWidth width)).Does s files (s.execute files (.setColumnWidth width)) := by
  refine (Procedure.run_get _).trans ?_
  exact does_onSheet_map (Procedure.does_setColumnWidth s.sheet s.cursor.col width)
    (fun made => ({ s with sheet := made.1 }, widthReport s.cursor.col.toNat width))
    fun _ _ => Procedure.run_bind (run_columnText hcursor)

theorem does_save (path : Path) :
    (ofCommand (.save path)).Does s files (s.execute files (.save path)) := by
  rw [execute, save]
  cases hsave : Medium.saveSheet files s.sheet path.text .standard with
  | mk files' result =>
    have hrun : (saveSheet path).run (s, files) = (writeFiles (files', result)).run (s, files) := by
      rw [← hsave]
      exact Procedure.run_get _
    cases result with
    | ok => exact Procedure.run_bind hrun
    | error fault => exact Procedure.run_bind_of_error hrun

/-- A cell that is found is on the sheet. -/
theorem within_of_find? {sheet : Sheet} {text : String} {start cell : Coord}
    (h : sheet.find? text start = .ok (some cell)) : cell.Within sheet.nRows sheet.nCols := by
  rw [Sheet.find?] at h
  split at h
  · cases h
  · obtain ⟨-, -, hfind⟩ := bind_eq_ok.1 h
    simp only [List.partition_eq_filter_filter] at hfind
    have hmem := List.mem_of_find?_eq_some (Except.ok.inj hfind)
    rw [List.mem_append, List.mem_filter, List.mem_filter] at hmem
    exact Coord.mem_block_zero.1 (hmem.elim And.left And.left)

theorem does_find (hs : s.sheet.Rectangular) (text : String) :
    (ofCommand (.find text)).Does s files (s.execute files (.find text)) := by
  refine (Procedure.run_get _).trans ((does_onSheet_map (Procedure.does_find hs text s.cursor)
    (fun made => made.2.elim (s, s!"Not found: {text}") fun cell =>
      ({ s with cursor := cell }, s!"Found at {cell.name false}")) fun found hfound => ?_).trans ?_)
  · cases found with
    | none => rfl
    | some cell =>
      have hcol : 0 ≤ cell.col := (within_of_find? hfound).2.1
      exact (Procedure.run_bind rfl).trans
        (Procedure.run_bind (Procedure.run_map (fun _ => ()) (run_columnText hcol)))
  · rw [execute, find]
    cases s.sheet.find? text s.cursor with
    | error fault => rfl
    | ok found => cases found <;> rfl

theorem does_sort (hs : s.sheet.Sound) (h : s.sheet.InStep) (column : Nat) :
    (ofCommand (.sort column)).Does s files (s.execute files (.sort column)) := by
  exact does_onSheet (Procedure.does_sort hs h column false)
    (fun made => ({ s with sheet := made.1 }, s!"Sorted by column {ColumnName.text column}"))
    fun _ _ _ => rfl

theorem does_fit (column : Nat) :
    (ofCommand (.fit column)).Does s files (s.execute files (.fit column)) := by
  exact does_onSheet (Procedure.does_fitColumnWidth s.sheet column)
    (fun made => ({ s with sheet := made.1 }, widthReport column made.2)) fun _ _ _ => rfl

theorem does_fix (rows : Nat) :
    (ofCommand (.fix rows)).Does s files (s.execute files (.fix rows)) := by
  exact does_onSheet_map (Procedure.does_fixRows s.sheet rows)
    (fun made => ({ s with sheet := made.1 }, s!"Fix {Command.rowsText rows}")) fun _ _ => rfl

theorem does_resize (hs : s.sheet.Sound) (h : s.sheet.InStep) (columns rows : Nat) :
    (ofCommand (.resize columns rows)).Does s files (s.execute files (.resize columns rows)) := by
  exact does_onSheet (Procedure.does_resize hs h columns rows)
    (fun made => ({ s with sheet := made.1 },
      s!"Resized to {Command.countText columns}x{Command.countText rows}")) fun _ _ _ => rfl

/-! ## Lines -/

/-- With the cursor on a sheet that is sound and in step, a line does step by step what the session
says. -/
theorem does_ofLine (hs : s.sheet.Sound) (h : s.sheet.InStep) (hcursor : 0 ≤ s.cursor.col)
    (files : F) (line : String) : (ofLine line).Does s files (s.run files line) := by
  rw [ofLine, Session.run]
  cases Command.parse? line with
  | error fault => rfl
  | ok command? =>
    cases command? with
    | none => rfl
    | some command =>
      cases command with
      | help => exact does_help
      | new => exact does_new
      | setColumnWidth width => exact does_setColumnWidth hcursor width
      | save path => exact does_save path
      | find text => exact does_find h.rectangular text
      | sort column => exact does_sort hs h column
      | fit column => exact does_fit column
      | fix rows => exact does_fix rows
      | resize columns rows => exact does_resize hs h columns rows

end Steps

end Session

end Spreadsheet

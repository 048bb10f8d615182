import Spreadsheet.Command.Parser
import Spreadsheet.Files.Save
import Spreadsheet.Sheet.Build
import Spreadsheet.Sheet.Find
import Spreadsheet.Sheet.Sort

/-!
# Sessions

A session is an open sheet with a cursor and the path it was last saved to. `Session.run` reads a
line as a command and carries it out; it gives the files and the session afterwards, with a short
report. A session that fails to carry out a command stays as it is. The files are those of any
medium.
-/

namespace Spreadsheet

/-- An open sheet. -/
structure Session where
  sheet : Sheet
  /-- A cell that may be outside the sheet, once the sheet has shrunk. -/
  cursor : Coord
  /-- Where the sheet was saved last. -/
  path : Option Path

/-- Why a command is not carried out. -/
inductive SessionFault (ε : Type := Empty) where
  | command (fault : CommandFault)
  | edit (fault : EditFault)
  | save (fault : SaveFault ε)
  deriving DecidableEq

/-- The wording of a fault. -/
def SessionFault.message {ε : Type} [ToString ε] : SessionFault ε → String
  | .command fault => fault.message
  | .edit fault => fault.message
  | .save fault => fault.message

namespace Session

/-- The session with an empty sheet of five rows and five columns. -/
def start (options : Options) : Session := ⟨.blank 5 5 options .builtin, ⟨0, 0⟩, none⟩

/-- The session with another sheet, the cursor on its first cell. -/
def opened (s : Session) (sheet : Sheet) : Session := { s with sheet, cursor := ⟨0, 0⟩ }

/-- The report of a column's width. -/
def widthReport (column width : Nat) : String :=
  s!"Column {ColumnName.text column} width set to {Command.countText width}"

/-- The session after a command that was carried out, and the report of it. -/
abbrev Reported := Session × String

variable {F ε : Type}

/-- Sets the width of the column with the cursor. -/
def setColumnWidth (s : Session) (width : Nat) : Except (SessionFault ε) Reported := do
  let sheet ← (s.sheet.setColumnWidth s.cursor.col width).mapError .edit
  return ({ s with sheet }, widthReport s.cursor.col.toNat width)

/-- Moves the cursor to the next cell whose text holds the given one. -/
def find (s : Session) (text : String) : Except (SessionFault ε) Reported := do
  match ← (s.sheet.find? text s.cursor).mapError .edit with
  | some cell => return ({ s with cursor := cell }, s!"Found at {cell.name false}")
  | none => return (s, s!"Not found: {text}")

/-- Sorts the rows by a column. -/
def sort (s : Session) (column : Nat) : Except (SessionFault ε) Reported := do
  let (sheet, _) ← (s.sheet.sort column false).mapError .edit
  return ({ s with sheet }, s!"Sorted by column {ColumnName.text column}")

/-- Makes a column as wide as its contents. -/
def fit (s : Session) (column : Nat) : Except (SessionFault ε) Reported := do
  let (sheet, width) ← (s.sheet.fitColumnWidth column).mapError .edit
  return ({ s with sheet }, widthReport column width)

/-- Fixes rows at the top. -/
def fix (s : Session) (rows : Nat) : Except (SessionFault ε) Reported := do
  let sheet ← (s.sheet.fixRows rows).mapError .edit
  return ({ s with sheet }, s!"Fix {Command.rowsText rows}")

/-- Grows the sheet. -/
def resize (s : Session) (columns rows : Nat) : Except (SessionFault ε) Reported := do
  let (sheet, _) ← (s.sheet.resize columns rows).mapError .edit
  return ({ s with sheet }, s!"Resized to {Command.countText columns}x{Command.countText rows}")

variable [Medium F ε]

/-- Saves the sheet in the format that the path names. -/
def save (s : Session) (files : F) (path : Path) : F × Except (SessionFault ε) Reported :=
  let (files, result) := Medium.saveSheet files s.sheet path.text .standard
  (files, match result with
    | .ok () => .ok ({ s with path := some path }, s!"Saved to {path.text}")
    | .error fault => .error (.save fault))

/-- Carries out a command. -/
def execute (s : Session) (files : F) : Command → F × Except (SessionFault ε) Reported
  | .help => (files, .ok (s, Command.helpText))
  | .new => (files, .ok (start s.sheet.options, "New sheet"))
  | .setColumnWidth width => (files, s.setColumnWidth width)
  | .save path => s.save files path
  | .find text => (files, s.find text)
  | .sort column => (files, s.sort column)
  | .fit column => (files, s.fit column)
  | .fix rows => (files, s.fix rows)
  | .resize columns rows => (files, s.resize columns rows)

/-- Reads a line and carries out its command, if it has one. -/
def run (s : Session) (files : F) (line : String) : F × Except (SessionFault ε) Reported :=
  match Command.parse? line with
  | .ok (some command) => s.execute files command
  | .ok none => (files, .ok (s, ""))
  | .error fault => (files, .error (.command fault))

end Session

end Spreadsheet

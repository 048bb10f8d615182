import Spreadsheet.Coord.Basic
import Spreadsheet.Reference.Cell
import Spreadsheet.Value

/-!
# Refused edits

Why an edit of a sheet is refused, with the row and column at fault where there are such
(`EditFault.place`) and the wording (`EditFault.message`).
-/

namespace Spreadsheet

/-- Why an edit is refused. -/
inductive EditFault where
  | cellOutside (cell : Coord)
  | columnOutside (col : Int)
  | insertRow (index : Int)
  | deleteRow (index : Int)
  | insertColumn (index : Int)
  | deleteColumn (index : Int)
  | fixRows (count : Int) (nRows : Nat)
  | blankName
  | duplicateName (name : String)
  | columnWidth (width : Int)
  | shrink (nCols nRows : Nat) (newCols newRows : Int)
  /-- The text of a cell looks like a whole number and spells none. -/
  | integer (text : String)
  /-- A number cannot be shown with so many digits. -/
  | places (fault : PlacesFault)
  deriving DecidableEq

namespace EditFault

/-- The wording of a fault. -/
def message : EditFault → String
  | .cellOutside cell => s!"Cell ({cell.row}, {cell.col}) is outside the sheet"
  | .columnOutside col => s!"Column {col} is outside the sheet"
  | .insertRow index => s!"Cannot insert row at {index}"
  | .deleteRow index => s!"Cannot delete row {index}"
  | .insertColumn index => s!"Cannot insert column at {index}"
  | .deleteColumn index => s!"Cannot delete column {index}"
  | .fixRows count nRows => s!"Cannot fix {count} rows of {nRows}"
  | .blankName => "Column names must be non-empty"
  | .duplicateName name => s!"Column name {Text.quoted name} is already used"
  | .columnWidth width => s!"Column width must be >= 1, got {width}"
  | .shrink nCols nRows newCols newRows =>
    s!"Cannot shrink sheet from {nCols}x{nRows} to {newCols}x{newRows}"
  | .integer text => integerMessage text
  | .places fault => fault.message

/-- The row and the column at fault, of a fault about a place. -/
def place : EditFault → Option Int × Option Int
  | .cellOutside cell => (some cell.row, some cell.col)
  | .columnOutside col | .insertColumn col | .deleteColumn col => (none, some col)
  | .insertRow row | .deleteRow row => (some row, none)
  | _ => (none, none)

end EditFault

/-- Why a sheet cannot be made. -/
inductive BuildFault where
  | negativeSize
  | tooManyNames (names nCols : Nat)
  | edit (fault : EditFault)
  deriving DecidableEq

/-- The wording of a fault. -/
def BuildFault.message : BuildFault → String
  | .negativeSize => "Sheet dimensions must be >= 0"
  | .tooManyNames names nCols => s!"{names} column names for {nCols} columns"
  | .edit fault => fault.message

end Spreadsheet

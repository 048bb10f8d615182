import Spreadsheet.Sheet.Build
import Spreadsheet.Workbook.Basic

/-!
# Sheets of worksheets

A worksheet as a sheet (`Workbook.sheetOf`). A text that starts with an equals sign becomes a
formula, whatever its marker on the sheet. The first row may give the names of the columns, and the
frozen rows are fixed.
-/

namespace Spreadsheet.Workbook

/-- The text of a cell. -/
def contentText (options : Options) : Content → String
  | .blank => ""
  | .flag value => if value then "1" else "0"
  | .text value =>
    match value.toList with
    | '=' :: body => options.formulaText (String.ofList body)
    | _ => value
  | .whole n => (Value.number (.ofInt n)).serialize
  | .number x => (Value.number x).serialize
  | .date day => day.text
  | .moment day time => momentText day time
  | .time time => time.text

/-- The worksheet has no row but a single cell that is empty and has no format, as in a new
workbook. -/
def isUntouched (w : Worksheet) (texts : List (List String)) : Bool :=
  texts == [[""]] && !(w.cellAt 0 0).styled

/-- The texts of a worksheet, row by row. -/
def textRows (w : Worksheet) (options : Options) : List (List String) :=
  let texts := w.grid.map (·.map (contentText options))
  if isUntouched w texts then [] else texts

/-- The name that the text of a cell gives to its column. -/
def headerName? (text : String) : Option String := if text.isEmpty then none else some text

/-- A width as a whole number of at least one, a half going to the even neighbour. -/
def wholeWidth : Binary64 → Nat
  | .finite x => if x.negative then 1 else max 1 (roundHalfEven x.magnitude Binary64.one)
  | _ => 1

/-- Gives the columns of a sheet the widths of a worksheet. -/
def applyWidths (w : Worksheet) (s : Sheet) : Sheet :=
  { s with
    columns := s.columns.mapIdx fun col column =>
      match w.width? col with
      | some width => { column with width := wholeWidth width }
      | none => column }

/-- The number of frozen rows. -/
def frozenRows (w : Worksheet) : Except NameFault Nat :=
  match w.freeze with
  | some name => do return (← readCellName name).row.toNat
  | none => .ok 0

/-- Why a worksheet has no sheet. -/
inductive ImportFault where
  | freeze (fault : NameFault)
  | header (fault : BuildFault)
  deriving DecidableEq

/-- The wording of a fault. -/
def ImportFault.message : ImportFault → String
  | .freeze fault => fault.message
  | .header fault => s!"Invalid header row: {fault.message}"

/-- The names of the columns, the rows under them, and how many of these are fixed, given the number
of frozen rows. Without a header the columns have no names. -/
def splitHeader (header : Bool) (rows : Table String) (frozen : Nat) :
    List (Option String) × Table String × Nat :=
  match header, rows with
  | true, first :: rest => (first.map headerName?, rest, frozen - 1)
  | _, rows => ([], rows, frozen)

/-- The sheet of a worksheet. -/
def sheetOf (w : Worksheet) (header : Bool) (options : Options) (functions : Registry) :
    Except ImportFault Sheet := do
  let frozen ← (frozenRows w).mapError .freeze
  let (names, rows, frozen) := splitHeader header (textRows w options) frozen
  let s ← (Sheet.ofRows rows names options functions).mapError .header
  return { applyWidths w s with fixedRows := min frozen s.nRows }

end Spreadsheet.Workbook

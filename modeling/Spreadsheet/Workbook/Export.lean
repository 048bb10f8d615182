import Spreadsheet.Sheet.Layout
import Spreadsheet.Workbook.Basic

/-!
# Worksheets of sheets

A sheet as a workbook of one worksheet (`Workbook.ofSheet`). Formulas start with an equals sign
there, whatever their marker, numbers are numbers, and all else is text. The names of the columns
may come first, and the fixed rows are frozen. The last cell has a format if it is empty, so that
the worksheet is as large as the sheet.
-/

namespace Spreadsheet.Workbook

/-- Why a sheet cannot become a workbook. -/
inductive ExportFault where
  | title (fault : TitleFault)
  | control (fault : ControlFault)
  | width (fault : WidthFault)
  deriving DecidableEq

/-- The wording of a fault. -/
def ExportFault.message : ExportFault → String
  | .title fault => fault.message
  | .control fault => fault.message
  | .width fault => fault.message

/-- The content of a cell with a number. A number without fractional part is a whole one. -/
def numberContent : Binary64 → Content
  | .finite x => if x.isInteger then .whole x.truncate else .number (.finite x)
  | x => .number x

/-- The content of a cell of a sheet. -/
def cellContent (options : Options) (cell : Cell) : Content :=
  match options.formulaBody? cell.raw, cell.value with
  | some body, _ => .text ("=" ++ body)
  | none, .empty => .blank
  | none, .number x => numberContent x
  | none, _ => .text cell.raw

/-- The contents of a sheet, with the names of the columns in front if asked for. -/
def contentRows (s : Sheet) (header : Bool) : Table Content :=
  (if header then [s.columnNames.map Content.text] else []) ++
    s.rows.map (·.map (cellContent s.options))

/-- Gives a cell without content a format. -/
def styleBlank (cell : StyledCell) : StyledCell :=
  match cell.content with
  | .blank => { cell with styled := true }
  | _ => cell

/-- Gives the last cell of the last row a format if it has no content. -/
def styleCorner (rows : Table StyledCell) : Table StyledCell :=
  List.modify rows (rows.length - 1) fun row => row.modify (row.length - 1) styleBlank

/-- The cells of a worksheet with the given contents. -/
def enterRows (storage : Storage) (rows : Table Content) : Except ControlFault (Table StyledCell) :=
  rows.mapM fun row => row.mapM fun content => do
    let entered ← storage.enter content
    return ⟨entered, false⟩

/-- The widths of the columns of a sheet. -/
def sheetWidths (s : Sheet) : List ColumnWidth :=
  s.columnWidths.mapIdx fun col width => ⟨(col : Int) + 1, (col : Int) + 1, .ofNat width⟩

/-- The name of the first cell under some frozen rows. -/
def freezeName (rows : Nat) : String := Coord.name ⟨rows, 0⟩ false

/-- The name of the first cell that is not frozen, if rows are frozen. -/
def freezeName? (rows : Nat) : Option String := if rows = 0 then none else some (freezeName rows)

/-- The number of rows of the worksheet of a sheet that are frozen. -/
def frozenCount (s : Sheet) (header : Bool) : Nat := s.fixedRows + if header then 1 else 0

/-- The worksheet of a sheet. -/
def worksheetOf (storage : Storage) (s : Sheet) (header : Bool) (title : String) :
    Except ExportFault Worksheet := do
  let title ← (storage.retitle title).mapError .title
  let cells ← (enterRows storage (contentRows s header)).mapError .control
  (storage.checkWidths (sheetWidths s)).mapError .width
  return .make storage title (if s.rows.isEmpty then cells else styleCorner cells) (sheetWidths s)
    (freezeName? (frozenCount s header))

/-- The workbook of a sheet. -/
def ofSheet (storage : Storage) (s : Sheet) (header : Bool) (title : String) :
    Except ExportFault Workbook := do
  return ⟨[← worksheetOf storage s header title], 0⟩

end Spreadsheet.Workbook

import Spreadsheet.Reference.ColumnName
import Spreadsheet.Table
import Spreadsheet.Workbook.Content

/-!
# Workbooks

A workbook has worksheets, one of which is active. A worksheet has a title, cells, widths of
columns, and the name of a cell above and left of which all is frozen. What of these is kept is up
to a `Storage`. The size of a worksheet is that of the block of cells up to the last one kept
(`Worksheet.nRows`, `Worksheet.nCols`, `Worksheet.grid`).
-/

namespace Spreadsheet.Workbook

/-! ## Titles -/

/-- Why a title is refused. -/
inductive TitleFault where
  | character (c : Char)
  | empty
  deriving DecidableEq

/-- The wording of a fault. -/
def TitleFault.message : TitleFault → String
  | .character c => s!"Invalid character {c} found in sheet title"
  | .empty => "Title must have at least one character"

/-- The characters that no title has. -/
def titleExclusions : List Char := ['\\', '*', '?', ':', '/', '[', ']']

/-- The title that a new workbook gives its worksheet. -/
def initialTitle : String := "Sheet"

/-- The title of the worksheet of a new workbook. One that differs from the initial title by case
alone gets a number. -/
def retitled (title : String) : Except TitleFault String :=
  match title.toList.find? titleExclusions.contains with
  | some c => .error (.character c)
  | none =>
    if title.isEmpty then .error .empty
    else if title ≠ initialTitle ∧ Text.lower title.toList = Text.lower initialTitle.toList then
      .ok (title ++ "1")
    else .ok title

/-! ## Columns -/

/-- How many columns a worksheet has: those with names of at most three letters. -/
def columnLimit : Nat := 18278

/-- A text names no column of a worksheet. -/
structure ColumnFault where
  letters : String
  deriving DecidableEq

/-- The wording of a fault. -/
def ColumnFault.message (fault : ColumnFault) : String :=
  s!"'{fault.letters}' is not a valid column name. Column names are from A to ZZZ"

/-- The number, counted from one, of the column with some letters of either case. Where the capital
of a letter is several letters the last three of all count. -/
def columnNumber (letters : List Char) : Except ColumnFault Nat :=
  let capitals := Text.upper letters
  match ColumnName.ofText? (capitals.drop (capitals.length - 3)) with
  | some col => if letters.length ≤ 3 then .ok (col + 1) else .error ⟨String.ofList letters⟩
  | none => .error ⟨String.ofList letters⟩

/-! ## Widths -/

/-- The width of a run of columns, the first and last of them counted from one. -/
structure ColumnWidth where
  first : Int
  last : Int
  width : Binary64
  deriving DecidableEq

/-- Why a width cannot be kept or read back. -/
inductive WidthFault where
  /-- The width is no number in the range of binary numbers. -/
  | notFinite
  /-- There is no column with the number of the first one. -/
  | column (number : Int)
  deriving DecidableEq

/-- The wording of a fault. -/
def WidthFault.message : WidthFault → String
  | .notFinite => "expected <class 'float'>"
  | .column number => s!"Invalid column index {number}"

/-- The first column of a width is one of a worksheet. -/
def ColumnWidth.isPlaced (w : ColumnWidth) : Bool := 1 ≤ w.first && w.first ≤ columnLimit

/-- The width is that of a column, counted from zero. -/
def ColumnWidth.covers (w : ColumnWidth) (col : Nat) : Bool := w.first ≤ col + 1 && col + 1 ≤ w.last

/-- The width of a column, counted from zero, if it has one: of several the last. -/
def widthOf? (widths : List ColumnWidth) (col : Nat) : Option Binary64 :=
  ((widths.filter (·.covers col)).getLast?).map ColumnWidth.width

/-- A number as it is kept for a width, with sixteen significant digits. -/
def keptWidth (x : Binary64) : Binary64 := (readNumber? (x.significant 16)).getD x

/-- Puts a width in the place of one for the same first column, or at the end. -/
def replaceWidth (widths : List ColumnWidth) (w : ColumnWidth) : List ColumnWidth :=
  if widths.any (·.first == w.first) then
    widths.map fun v => if v.first = w.first then w else v
  else widths ++ [w]

/-- The widths as they are kept, by ascending first column. One of zero is not. -/
def keptWidths (widths : List ColumnWidth) : List ColumnWidth :=
  let kept := widths.filter fun w => !w.width.equal (.zero false)
  ((kept.mergeSort fun v w => v.first ≤ w.first).map fun w =>
    { w with width := keptWidth w.width }).foldl replaceWidth []

/-- Refuses widths, the first of them that of the first column, if one is no number in the range of
binary numbers or there are more than a worksheet has columns. -/
def acceptWidths (widths : List ColumnWidth) : Except WidthFault Unit :=
  if !(widths.take columnLimit).all (·.width.isFinite) then .error .notFinite
  else if columnLimit < widths.length then .error (.column (columnLimit + 1))
  else .ok ()

/-! ## Storage -/

/-- What a workbook makes of what is put into its worksheets. -/
structure Storage where
  /-- The title of a worksheet that is to have the given one, if that is not refused. -/
  retitle : String → Except TitleFault String
  /-- The content as it is entered in a cell, if it is not refused. -/
  enter : Content → Except ControlFault Content
  /-- The content of a cell as it is kept. -/
  keep : Content → Content
  /-- Refuses widths of the columns from the first one on. -/
  checkWidths : List ColumnWidth → Except WidthFault Unit
  /-- The widths of columns as they are kept. -/
  keepWidths : List ColumnWidth → List ColumnWidth
  /-- The name of the first cell that is not frozen, as it is kept. -/
  keepFreeze : Option String → Option String

namespace Storage

/-- The storage of workbooks in files. Nothing is frozen above and left of the first cell of all. -/
def standard : Storage where
  retitle := retitled
  enter := Content.entered
  keep := Content.kept
  checkWidths := acceptWidths
  keepWidths := keptWidths
  keepFreeze := Option.filter fun name => name != "" && name != "A1"

/-- The cell as it is kept, if it is: a cell with neither content nor format is not. -/
def keepCell? (storage : Storage) (cell : StyledCell) : Option StyledCell :=
  match cell.content, cell.styled with
  | .blank, false => none
  | content, styled => some ⟨storage.keep content, styled⟩

end Storage

/-! ## Worksheets -/

/-- A worksheet as it is kept. -/
structure Worksheet where
  title : String
  cells : Table (Option StyledCell)
  widths : List ColumnWidth
  /-- The name of the first cell that is not frozen. -/
  freeze : Option String
  deriving DecidableEq

namespace Worksheet

/-- The worksheet with the given cells, widths and name of the first cell that is not frozen. -/
def make (storage : Storage) (title : String) (cells : Table StyledCell)
    (widths : List ColumnWidth) (freeze : Option String) : Worksheet where
  title
  cells := cells.map (·.map storage.keepCell?)
  widths := storage.keepWidths widths
  freeze := storage.keepFreeze freeze

/-- The number of cells in a row up to the last one kept. -/
def rowLength (row : List (Option StyledCell)) : Nat := (row.reverse.dropWhile Option.isNone).length

/-- The number of rows up to the last one with a cell kept, at least one. -/
def nRows (w : Worksheet) : Nat := max 1 (w.cells.reverse.dropWhile (·.all Option.isNone)).length

/-- The number of columns up to the last one with a cell kept, at least one. -/
def nCols (w : Worksheet) : Nat := (w.cells.map rowLength).foldl max 1

/-- The cell at a place, one with neither content nor format where none is kept. -/
def cellAt (w : Worksheet) (row col : Nat) : StyledCell :=
  (((w.cells[row]?).bind (·[col]?)).join).getD ⟨.blank, false⟩

/-- The contents of all cells, row by row. -/
def grid (w : Worksheet) : Table Content :=
  (List.range w.nRows).map fun row => (List.range w.nCols).map fun col => (w.cellAt row col).content

/-- The width of a column, counted from zero, if it has one. -/
def width? (w : Worksheet) (col : Nat) : Option Binary64 := widthOf? w.widths col

end Worksheet

end Workbook

/-- Worksheets, one of them active. -/
structure Workbook where
  sheets : List Workbook.Worksheet
  active : Nat
  deriving DecidableEq

namespace Workbook

/-- The active worksheet. -/
def activeSheet? (w : Workbook) : Option Worksheet := w.sheets[w.active]?

/-- Why the widths of a worksheet cannot be read back, if they cannot. -/
def Worksheet.readFault? (w : Worksheet) : Option WidthFault :=
  match w.widths.find? (!·.isPlaced) with
  | some width => some (.column width.first)
  | none => if w.widths.all (·.width.isFinite) then none else some .notFinite

/-- Why the workbook cannot be read back, if it cannot. -/
def readFault? (w : Workbook) : Option WidthFault := w.sheets.findSome? Worksheet.readFault?

end Workbook

end Spreadsheet

import Spreadsheet.Dependency.Graph
import Spreadsheet.Formula.Eval
import Spreadsheet.Formula.Parser
import Spreadsheet.Sheet.Fault
import Spreadsheet.Sheet.Options
import Spreadsheet.Table

/-!
# Sheets

A sheet is a table of cells. A cell has the text that was entered, the formula that the text is
read as, if it is one, and a value. The sheet also knows which cells its formulas read.
-/

namespace Spreadsheet

/-- A cell of a sheet. -/
structure Cell where
  /-- The text as entered. -/
  raw : String
  /-- The formula, unless the text is none or cannot be read. -/
  formula : Option Expr
  value : Value

/-- The cell with nothing in it. -/
def Cell.blank : Cell := ⟨"", none, .empty⟩

/-- A column of a sheet, with its name if it was given one. -/
structure Column where
  name : Option String
  width : Nat
  deriving DecidableEq

/-- A table of cells. -/
structure Sheet where
  columns : List Column
  rows : Table Cell
  /-- How many rows at the top stay in place when the others are sorted. -/
  fixedRows : Nat
  links : Links
  options : Options
  functions : Registry

namespace Sheet

/-- The number of rows. -/
def nRows (s : Sheet) : Nat := s.rows.length

/-- The number of columns. -/
def nCols (s : Sheet) : Nat := s.columns.length

/-- The coordinates of all cells, row by row. -/
def cells (s : Sheet) : List Coord := Coord.block 0 0 s.nRows s.nCols

/-- The cell at a place, a blank one outside the sheet. -/
def cellAt (s : Sheet) (cell : Coord) : Cell := (s.rows.get? cell).getD Cell.blank

/-- The value at a place. -/
def valueAt (s : Sheet) (cell : Coord) : Value := (s.cellAt cell).value

/-- The sheet with a cell changed. -/
def modifyCell (s : Sheet) (cell : Coord) (change : Cell → Cell) : Sheet :=
  { s with rows := s.rows.modify cell change }

@[simp] theorem nRows_modifyCell (s : Sheet) (cell : Coord) (change : Cell → Cell) :
    (s.modifyCell cell change).nRows = s.nRows := by
  simp [nRows, modifyCell]

@[simp] theorem nCols_modifyCell (s : Sheet) (cell : Coord) (change : Cell → Cell) :
    (s.modifyCell cell change).nCols = s.nCols := rfl

/-- The other cells stay as they are when one is changed. -/
theorem cellAt_modifyCell_of_ne {s : Sheet} {cell other : Coord} (h : other ≠ cell)
    (change : Cell → Cell) : (s.modifyCell cell change).cellAt other = s.cellAt other := by
  rw [cellAt, modifyCell, Table.get?_modify, if_neg h, cellAt]

/-- The cell that is changed, where there is one. -/
theorem cellAt_modifyCell {s : Sheet} {cell : Coord} {old : Cell}
    (hold : s.rows.get? cell = some old) (change : Cell → Cell) :
    (s.modifyCell cell change).cellAt cell = change (s.cellAt cell) := by
  simp [cellAt, modifyCell, Table.get?_modify, hold]

/-- The sheet with a cell's value changed. -/
def setValue (s : Sheet) (cell : Coord) (value : Value) : Sheet :=
  s.modifyCell cell fun c => { c with value }

/-- The sheet as its formulas see it. -/
def source (s : Sheet) : Source := ⟨s.nRows, s.nCols, fun cell => .ok (s.valueAt cell)⟩

/-- What the formulas of the sheet may refer to. -/
def grammar (s : Sheet) : Grammar := ⟨s.nRows, s.nCols, s.functions⟩

/-- The cells that hold a formula, row by row. -/
def formulaCells (s : Sheet) : List Coord :=
  s.cells.filter fun cell => (s.cellAt cell).formula.isSome

/-- Refuses a cell that is not on the sheet. -/
def checkCell (s : Sheet) (cell : Coord) : Except EditFault Unit :=
  if cell.Within s.nRows s.nCols then .ok () else .error (.cellOutside cell)

/-- The number of a column that must be on the sheet. -/
def locateColumn (s : Sheet) (col : Int) : Except EditFault Nat :=
  if 0 ≤ col ∧ col < s.nCols then .ok col.toNat else .error (.columnOutside col)

/-- The text shown in a cell. -/
def display (s : Sheet) (cell : Coord) : String := (s.valueAt cell).display s.options.decimals

/-- The text shown in a cell, if so many digits after the point can be shown or none are needed. -/
def display? (s : Sheet) (cell : Coord) : Except PlacesFault String :=
  (s.valueAt cell).display? s.options.decimals

end Sheet

end Spreadsheet

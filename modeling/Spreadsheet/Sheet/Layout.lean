import Spreadsheet.Sheet.Basic

/-!
# Columns and fixed rows

Names and widths of columns, and the rows that stay in place when the others are sorted.
-/

namespace Spreadsheet.Sheet

/-- The name of a column, its letters if it was given none. -/
def columnLabel (column : Column) (col : Nat) : String := column.name.getD (ColumnName.text col)

/-- The names of all columns. -/
def columnNames (s : Sheet) : List String := s.columns.mapIdx fun col column => columnLabel column col

/-- The widths of all columns. -/
def columnWidths (s : Sheet) : List Nat := s.columns.map Column.width

/-- Refuses a blank name and the name of a column, that of the column `skip` excepted. -/
def checkName (s : Sheet) (name : String) (skip : Option Nat) : Except EditFault Unit :=
  if Text.allBlank name.toList then .error .blankName
  else if s.columns.zipIdx.any fun (column, col) =>
      some col != skip && column.name == some name then
    .error (.duplicateName name)
  else .ok ()

/-- Gives a column a name that no other column was given. -/
def setColumnName (s : Sheet) (col : Int) (name : String) : Except EditFault Sheet := do
  let index ← s.locateColumn col
  s.checkName name (some index)
  return { s with columns := s.columns.modify index fun column => { column with name := some name } }

/-- Gives a column a width. -/
def setColumnWidth (s : Sheet) (col width : Int) : Except EditFault Sheet := do
  let index ← s.locateColumn col
  if width < 1 then .error (.columnWidth width)
  else
    return { s with
      columns := s.columns.modify index fun column => { column with width := width.toNat } }

/-- The length of the longest text shown in a column, if all of its texts can be shown. -/
def widestDisplay (s : Sheet) (col : Nat) : Except PlacesFault Nat := do
  let shown ← (List.range s.nRows).mapM fun row : Nat => s.display? ⟨row, col⟩
  return (shown.map String.length).foldl max 0

/-- Gives a column the width of its longest text shown and one more. -/
def fitColumnWidth (s : Sheet) (col : Int) : Except EditFault (Sheet × Nat) := do
  let index ← s.locateColumn col
  let width := (← (s.widestDisplay index).mapError .places) + 1
  return (← s.setColumnWidth col width, width)

/-- Fixes a number of rows at the top. -/
def fixRows (s : Sheet) (count : Int) : Except EditFault Sheet :=
  if 0 ≤ count ∧ count ≤ s.nRows then .ok { s with fixedRows := count.toNat }
  else .error (.fixRows count s.nRows)

end Spreadsheet.Sheet

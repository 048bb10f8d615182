import Spreadsheet.Sheet.Basic

/-!
# Finding a text

`Sheet.find?` looks through the cells row by row for a text that holds another one, from a cell on
to the end and again from the start up to that cell.
-/

namespace Spreadsheet.Sheet

/-- The cell shows a text that holds the given one. -/
def showsText (s : Sheet) (text : String) (cell : Coord) : Bool :=
  match s.valueAt cell with
  | .text shown => Text.contains shown.toList text.toList
  | _ => false

/-- The next cell after the start whose text holds the given one; the start itself comes last. A
sheet without cells has no such cell, wherever the start. -/
def find? (s : Sheet) (text : String) (start : Coord) : Except EditFault (Option Coord) :=
  if s.cells.isEmpty then .ok none
  else do
    s.checkCell start
    let (upTo, after) := s.cells.partition fun cell => !start.before cell
    return (after ++ upTo).find? (s.showsText text)

end Spreadsheet.Sheet

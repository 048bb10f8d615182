import Spreadsheet.Delimited.Separator
import Spreadsheet.Delimited.Writer
import Spreadsheet.Sheet.Layout

/-!
# Delimited text of sheets

The rows of a sheet as delimited text (`Delimited.dump`): texts as they were entered, and formulas
as their values or, if asked for, as they were entered. The names of the columns may come first.
-/

namespace Spreadsheet.Delimited

/-- The field of a cell. -/
def cellField (options : Options) (formulas : Bool) (cell : Cell) : String :=
  if formulas || !options.isFormula cell.raw then cell.raw else cell.value.serialize

/-- The rows of a sheet as fields. -/
def fieldRows (s : Sheet) (formulas header : Bool) : List (List String) :=
  (if header then [s.columnNames] else []) ++ s.rows.map (·.map (cellField s.options formulas))

/-- The text of a sheet with the given separator. -/
def dumpSeparated (separator : Char) (s : Sheet) (formulas header : Bool) : String :=
  writeRows separator (fieldRows s formulas header)

/-- The text of a sheet. -/
def dump (setting : String) (s : Sheet) (formulas header : Bool) : Except SeparatorFault String := do
  return dumpSeparated (← separator setting) s formulas header

end Spreadsheet.Delimited

import Spreadsheet.Sheet.Layout

/-!
# What a sheet shows

The cells of a sheet as they are shown (`Sheet.viewRows`), one of them found by its name or by its
place, which may be counted from the end (`Sheet.viewNamed`, `Sheet.viewAt`).
-/

namespace Spreadsheet

/-- A cell as shown. -/
structure CellView where
  raw : String
  isFormula : Bool
  value : Value
  display : String
  deriving DecidableEq

/-- Why there is no cell to show. -/
inductive ViewFault where
  | name (fault : NameFault)
  | index (fault : Table.IndexFault)
  deriving DecidableEq

/-- The wording of a fault. -/
def ViewFault.message : ViewFault → String
  | .name fault => fault.message
  | .index fault => fault.message "tuple"

namespace Sheet

/-- A cell as shown on the sheet. -/
def view (s : Sheet) (cell : Cell) : CellView :=
  ⟨cell.raw, s.options.isFormula cell.raw, cell.value, cell.value.display s.options.decimals⟩

/-- All cells as shown, row by row. -/
def viewRows (s : Sheet) : Table CellView := s.rows.map (·.map s.view)

/-- Why some cell cannot be shown, if one cannot. -/
def displayFault? (s : Sheet) : Option PlacesFault :=
  if s.rows.any (·.any (·.value.hasPlaces)) then PlacesFault.of? s.options.decimals else none

/-- The cell at a place as shown. -/
def viewAt (s : Sheet) (cell : Coord) : Except ViewFault CellView :=
  (s.viewRows.entryFromEitherEnd cell).mapError .index

/-- The cell of a name as shown. -/
def viewNamed (s : Sheet) (name : String) : Except ViewFault CellView := do
  s.viewAt (← (readCellName name).mapError .name)

end Sheet

end Spreadsheet

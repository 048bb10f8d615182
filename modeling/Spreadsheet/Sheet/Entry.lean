import Spreadsheet.Formula.Move
import Spreadsheet.Formula.Printer
import Spreadsheet.Sheet.Recalc

/-!
# Entering texts

Entering a text in a cell (`Sheet.setText`), copying a cell to another place (`Sheet.fill`) and
entering many texts at once (`Sheet.load`).
-/

namespace Spreadsheet.Sheet

/-- Lets the sheet know what the formula of a cell reads. -/
def link (s : Sheet) (cell : Coord) : Sheet :=
  let refs := match (s.cellAt cell).formula with
    | some formula => formula.reads s.nRows (some cell)
    | none => []
  { s with links := s.links.set cell refs }

/-- A cell with a text entered. A formula has no value of its own before it is computed. -/
def enter (s : Sheet) (raw : String) (cell : Cell) : Cell :=
  match s.options.formulaBody? raw with
  | none => ⟨raw, none, .ofLiteral raw⟩
  | some body =>
    match s.grammar.parse body with
    | .ok formula => ⟨raw, some formula, cell.value⟩
    | .error e => ⟨raw, none, .error ⟨.parse, some e.fault.reason, e.fault.message⟩⟩

/-- The sheet with a text entered in a cell and nothing computed. -/
def install (s : Sheet) (cell : Coord) (raw : String) : Sheet :=
  (s.modifyCell cell (s.enter raw)).link cell

/-- Enters a text in a cell and computes what depends on it. -/
def setTextAt (s : Sheet) (cell : Coord) (raw : String) : Sheet × Recalc :=
  (s.install cell raw).recalculateFrom [cell] s

/-- Enters a text in a cell, if it is on the sheet, and computes what depends on it. -/
def setText (s : Sheet) (cell : Coord) (raw : String) : Except EditFault (Sheet × Recalc) := do
  s.checkCell cell
  return s.setTextAt cell raw

/-- Empties a cell and computes what depends on it. -/
def clear (s : Sheet) (cell : Coord) : Except EditFault (Sheet × Recalc) := s.setText cell ""

/-- The text of a cell after a copy to a place `rows` further down and `cols` further right: the
references of a formula move along, and a whole number counts on. -/
def filledText (s : Sheet) (cell : Cell) (rows cols : Int) : Except EditFault String :=
  match cell.formula with
  | some formula =>
    let moved := (formula.shifted? rows cols s.nRows s.nCols).getD formula
    .ok (s.options.formulaText moved.print)
  | none =>
    if !s.options.isFormula cell.raw && Text.isPlainInteger cell.raw.toList then
      match Text.integer? cell.raw.toList with
      | some n => .ok (Binary64.integerText (n + rows + cols))
      | none => .error (.integer cell.raw)
    else .ok cell.raw

/-- Copies a cell to another place and computes what depends on that. -/
def fill (s : Sheet) (origin target : Coord) : Except EditFault (Sheet × Recalc) := do
  s.checkCell origin
  s.checkCell target
  let raw ← s.filledText (s.cellAt origin) (target.row - origin.row) (target.col - origin.col)
  return s.setTextAt target raw

/-- The entry comes before the other one, or both are of one cell. -/
def entryAtMost (a b : Coord × String) : Bool := !b.1.before a.1

/-- Enters texts row by row, of several for one cell the last, and computes all formulas. -/
def load (s : Sheet) (entries : List (Coord × String)) : Except EditFault (Sheet × Recalc) := do
  let entries := entries.mergeSort entryAtMost
  entries.forM fun entry => s.checkCell entry.1
  return (entries.foldl (fun s (cell, raw) => s.install cell raw) s).recalculate

end Spreadsheet.Sheet

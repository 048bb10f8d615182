import Spreadsheet.Dependency.Schedule
import Spreadsheet.Sheet.Basic

/-!
# Recalculation

Formulas are evaluated in an order in which each comes after those it reads
(`Sheet.settle`): all of them (`Sheet.recalculate`), or after an edit only those that depend on
the edited cells (`Sheet.recalculateFrom`). Formulas on a cycle, and those that depend on one,
have no such order and become errors. A `Recalc` reports what was computed and what changed.
-/

namespace Spreadsheet

/-- A change of the value of a cell. -/
structure Change where
  cell : Coord
  before : Value
  after : Value
  deriving DecidableEq

/-- What a recalculation did. -/
structure Recalc where
  /-- The cells computed, in order; those on or after a cycle come last. -/
  recomputed : List Coord
  /-- The computed cells that have another value than before, in the same order. -/
  changes : List Change
  /-- The cells on a cycle or dependent on one, in ascending order. -/
  circular : List Coord
  /-- The length of the longest chain of dependent cells from the edited ones, zero if all cells
  were computed. -/
  depth : Nat
  deriving DecidableEq

namespace Recalc

/-- The cells that have another value than before, in ascending order. -/
def changed (r : Recalc) : List Coord := Coord.ascending (r.changes.map Change.cell)

/-- The share of the computed cells that have another value than before. -/
def changeRatio (r : Recalc) : Binary64 :=
  if r.recomputed.isEmpty then .zero false
  else (Binary64.ofNat r.changes.length).div (.ofNat r.recomputed.length)

end Recalc

namespace Sheet

/-- The value of a formula at a place of the sheet. A formula that was read from a text has one; a
tree without value counts as an error. -/
def evaluate (s : Sheet) (cell : Coord) (formula : Expr) : Value :=
  match formula.eval s.functions s.source (some cell) with
  | .ok value => value
  | .error fault => .error (.of .type fault.message)

/-- The sheet with the formula of a cell evaluated, if the cell has one. -/
def evaluateCell (s : Sheet) (cell : Coord) : Sheet :=
  match (s.cellAt cell).formula with
  | some formula => s.setValue cell (s.evaluate cell formula)
  | none => s

/-- The value of a formula that depends on itself. -/
def circularValue : Value := .error (.of .cycle "circular reference")

/-- The sheet with the cells of a schedule computed. -/
def settled (s : Sheet) (schedule : Schedule) : Sheet :=
  schedule.stuck.foldl (fun s cell => s.setValue cell circularValue)
    (schedule.order.foldl evaluateCell s)

/-- The changes of some cells between two sheets. -/
def changesOf (cells : List Coord) (before after : Sheet) : List Change :=
  cells.filterMap fun cell =>
    if (before.valueAt cell).same (after.valueAt cell) then none
    else some ⟨cell, before.valueAt cell, after.valueAt cell⟩

/-- Computes the cells of a schedule and reports what has changed since the sheet `before`. -/
def settle (s : Sheet) (schedule : Schedule) (before : Sheet) (depth : Nat) : Sheet × Recalc :=
  let after := s.settled schedule
  (after, {
    recomputed := schedule.cells
    changes := changesOf schedule.cells before after
    circular := schedule.stuck
    depth })

/-- Computes all formulas. -/
def recalculate (s : Sheet) : Sheet × Recalc :=
  s.settle (s.links.schedule s.formulaCells) s 0

/-- Computes the edited cells and those that depend on them, and reports what has changed since
the sheet `before`. -/
def recalculateFrom (s : Sheet) (edited : List Coord) (before : Sheet) : Sheet × Recalc :=
  s.settle (s.links.scheduleFrom edited) before (s.links.depth edited)

end Sheet

end Spreadsheet

import Spreadsheet.Sheet.Structure

/-!
# Sorting

`Sheet.sort` puts the rows that are not fixed in the order of their values in a column
(`Value.sortOrder`): numbers, then texts without regard to case, then errors. Rows with equal
values keep their order, and rows without a value come last, whichever way is sorted.
-/

namespace Spreadsheet

namespace Value

/-- The place of the kinds of values among each other. -/
def sortClass : Value → Nat
  | .number _ => 0
  | .text _ => 1
  | .error _ => 2
  | .empty => 3

/-- How two values compare when cells are sorted. -/
def sortOrder : Value → Value → Ordering
  | .number x, .number y => (x.compare? y).getD .eq
  | .text s, .text t => Text.order (Text.fold s.toList) (Text.fold t.toList)
  | .error e, .error f => compare e.kind.rank f.kind.rank
  | a, b => compare a.sortClass b.sortClass

end Value

namespace Sheet

/-- The value of a row in a column. -/
def rowValue (col : Nat) (row : List Cell) : Value := (row[col]?.getD Cell.blank).value

/-- A row may come before another one. -/
def rowAtMost (col : Nat) (descending : Bool) (a b : List Cell) : Bool :=
  let order := (rowValue col a).sortOrder (rowValue col b)
  if descending then order != .lt else order != .gt

/-- The rows in the order of their values in a column. -/
def sortRows (col : Nat) (descending : Bool) (rows : List (List Cell)) : List (List Cell) :=
  let filled := rows.filter fun row => !(rowValue col row).isEmpty
  let empty := rows.filter fun row => (rowValue col row).isEmpty
  filled.mergeSort (rowAtMost col descending) ++ empty

/-- Sorts the rows that are not fixed by their values in a column. Formulas move with their rows as
they are. -/
def sort (s : Sheet) (col : Int) (descending : Bool) : Except EditFault (Sheet × Recalc) := do
  let index ← s.locateColumn col
  let head := s.rows.take s.fixedRows
  let body := s.rows.drop s.fixedRows
  return { s with rows := head ++ sortRows index descending body }.rebuild

end Sheet

end Spreadsheet

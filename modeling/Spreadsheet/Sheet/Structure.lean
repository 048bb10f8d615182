import Spreadsheet.Sheet.Entry
import Spreadsheet.Sheet.Layout

/-!
# Rows and columns come and go

Inserting and deleting rows and columns, and growing the sheet. The references of formulas follow
the cells they mean, and a formula's text is written anew only if one of its references moved.
-/

namespace Spreadsheet.Sheet

/-- A cell with its formula after a row or column comes or goes. -/
def adjustCell (s : Sheet) (edit : LineEdit) (cell : Cell) : Cell :=
  match cell.formula.bind (·.afterEdit? edit) with
  | some formula =>
    { cell with raw := s.options.formulaText formula.print, formula := some formula }
  | none => cell

/-- The sheet with all formulas after a row or column comes or goes. -/
def adjustFormulas (s : Sheet) (edit : LineEdit) : Sheet :=
  { s with rows := s.rows.map (·.map (s.adjustCell edit)) }

/-- The sheet with its knowledge of what formulas read made anew. -/
def relink (s : Sheet) : Sheet := s.formulaCells.foldl link { s with links := .empty }

/-- Finds out anew what formulas read and computes all of them. -/
def rebuild (s : Sheet) : Sheet × Recalc := s.relink.recalculate

/-- Inserts an empty row before a row, or after the last one. -/
def insertRow (s : Sheet) (index : Int) : Except EditFault (Sheet × Recalc) :=
  if 0 ≤ index ∧ index ≤ s.nRows then
    let row := index.toNat
    let grown : Sheet := { s with
      rows := s.rows.insertIdx row (List.replicate s.nCols Cell.blank)
      fixedRows := if row < s.fixedRows then s.fixedRows + 1 else s.fixedRows }
    .ok (grown.adjustFormulas (.insert .row row)).rebuild
  else .error (.insertRow index)

/-- Deletes a row. -/
def deleteRow (s : Sheet) (index : Int) : Except EditFault (Sheet × Recalc) :=
  if 0 ≤ index ∧ index < s.nRows then
    let row := index.toNat
    let shrunk : Sheet := { s with
      rows := s.rows.eraseIdx row
      fixedRows := if row < s.fixedRows then s.fixedRows - 1 else s.fixedRows }
    .ok (shrunk.adjustFormulas (.delete .row row)).rebuild
  else .error (.deleteRow index)

/-- Inserts an empty column before a column, or after the last one, with a name if one is given. -/
def insertColumn (s : Sheet) (index : Int) (name : Option String) :
    Except EditFault (Sheet × Recalc) :=
  if 0 ≤ index ∧ index ≤ s.nCols then do
    let col := index.toNat
    if let some name := name then s.checkName name none
    let grown : Sheet := { s with
      columns := s.columns.insertIdx col ⟨name, s.options.columnWidth⟩
      rows := s.rows.map (·.insertIdx col Cell.blank) }
    return (grown.adjustFormulas (.insert .column col)).rebuild
  else .error (.insertColumn index)

/-- Deletes a column. -/
def deleteColumn (s : Sheet) (index : Int) : Except EditFault (Sheet × Recalc) :=
  if 0 ≤ index ∧ index < s.nCols then
    let col := index.toNat
    let shrunk : Sheet := { s with
      columns := s.columns.eraseIdx col
      rows := s.rows.map (·.eraseIdx col) }
    .ok (shrunk.adjustFormulas (.delete .column col)).rebuild
  else .error (.deleteColumn index)

/-- Grows the sheet at the right and at the bottom. -/
def resize (s : Sheet) (newCols newRows : Int) : Except EditFault (Sheet × Recalc) :=
  if newCols < s.nCols ∨ newRows < s.nRows then
    .error (.shrink s.nCols s.nRows newCols newRows)
  else
    let moreCols := newCols.toNat - s.nCols
    let moreRows := newRows.toNat - s.nRows
    let grown : Sheet := { s with
      columns := s.columns ++ List.replicate moreCols ⟨none, s.options.columnWidth⟩
      rows := s.rows.map (· ++ List.replicate moreCols Cell.blank) ++
        List.replicate moreRows (List.replicate newCols.toNat Cell.blank) }
    .ok grown.rebuild

end Spreadsheet.Sheet

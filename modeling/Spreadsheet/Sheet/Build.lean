import Spreadsheet.Sheet.Entry
import Spreadsheet.Sheet.Layout

/-!
# New sheets

Sheets of a given size (`Sheet.make`), and sheets of given texts (`Sheet.ofRows`).
-/

namespace Spreadsheet.Sheet

/-- The sheet of a size with nothing in its cells. -/
def blank (nRows nCols : Nat) (options : Options) (functions : Registry) : Sheet where
  columns := List.replicate nCols ⟨none, options.columnWidth⟩
  rows := List.replicate nRows (List.replicate nCols Cell.blank)
  fixedRows := 0
  links := .empty
  options
  functions

/-- Names the first columns, passing over those without a name. -/
def nameColumns (s : Sheet) (names : List (Option String)) : Except EditFault Sheet :=
  names.zipIdx.foldlM (fun s (name, col) =>
    match name with
    | some name => s.setColumnName col name
    | none => .ok s) s

/-- An empty sheet of a size, its first columns named. -/
def make (nRows nCols : Int) (names : List (Option String)) (options : Options)
    (functions : Registry) : Except BuildFault Sheet :=
  if nRows < 0 ∨ nCols < 0 then .error .negativeSize
  else if nCols < names.length then .error (.tooManyNames names.length nCols.toNat)
  else
    ((blank nRows.toNat nCols.toNat options functions).nameColumns names).mapError .edit

/-- The sheet with the given texts in its cells, as wide as its widest row and its names. -/
def ofRows (rows : List (List String)) (names : List (Option String)) (options : Options)
    (functions : Registry) : Except BuildFault Sheet := do
  let nCols := (rows.map List.length).foldl max names.length
  let s ← make rows.length nCols names options functions
  let entries := rows.zipIdx.flatMap fun (texts, row) =>
    texts.zipIdx.map fun (text, col) => (⟨row, col⟩, text)
  match s.load entries with
  | .ok (s, _) => .ok s
  | .error fault => .error (.edit fault)

end Spreadsheet.Sheet

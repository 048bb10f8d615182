import Spreadsheet.Coord.Basic
import Spreadsheet.Formula.Fault
import Spreadsheet.Number.Digits
import Spreadsheet.Reference.ColumnName
import Spreadsheet.Text.Digit

/-!
# Cell references

A cell is written as its column letters and its row number, counted from one. This module writes
and reads such names (`Coord.name`, `readCellName`, `expandRange`), and finds the cell that a
reference in a formula means on a sheet of a given size (`splitReference`, `rowWithin`,
`columnWithin`, `resolveCell`).
-/

namespace Spreadsheet

/-! ## Faults -/

/-- Why a text is no name of a column, a row, a cell or a range. -/
inductive NameFault where
  | columnName (name : String)
  | columnIndex (index : Int)
  | cellName (name : String)
  | rowBelowOne (name : String)
  | range (text : String)
  | integer (text : String)
  deriving DecidableEq

/-- The wording of the fault of a text that spells no whole number, quoted up to 200 characters. -/
def integerMessage (text : String) : String :=
  "invalid literal for int() with base 10: " ++
    String.ofList ((Text.quoted text).toList.take 200)

/-- The wording of a fault. -/
def NameFault.message : NameFault → String
  | .columnName name => s!"Invalid column name: {Text.quoted name}"
  | .columnIndex index => s!"Column index must be >= 0: {Binary64.integerText index}"
  | .cellName name => s!"Invalid cell reference: {Text.quoted name}"
  | .rowBelowOne name => s!"Row must be >= 1: {Text.quoted name}"
  | .range text => s!"Invalid range: {Text.quoted text}"
  | .integer text => integerMessage text

/-- Why the cell of a reference cannot be found: it is no reference, or not of this sheet. -/
inductive ResolveFault where
  | name (fault : NameFault)
  | parse (error : ParseError)
  deriving DecidableEq

/-! ## Names of cells -/

/-- The number of a row as written, counted from one. -/
def rowText (row : Int) : String := Binary64.integerText (row + 1)

namespace Coord

/-- The letters of a column in the given case. -/
def columnText (col : Int) (lowercase : Bool) : String :=
  String.ofList
    (if lowercase then ColumnName.smallLetters col.toNat else ColumnName.letters col.toNat)

/-- The name of a cell whose column has letters. -/
def name (cell : Coord) (lowercase : Bool) : String :=
  columnText cell.col lowercase ++ rowText cell.row

end Coord

/-- The letters of a column. One before the first has none. -/
def columnNameOf (index : Int) (lowercase : Bool) : Except NameFault String :=
  if index < 0 then .error (.columnIndex index) else .ok (Coord.columnText index lowercase)

/-- The name of a cell. One in a column before the first has none. -/
def cellNameOf (cell : Coord) (lowercase : Bool) : Except NameFault String := do
  return (← columnNameOf cell.col lowercase) ++ rowText cell.row

/-- The column that a text names. -/
def columnOfName (name : String) : Except NameFault Nat :=
  match ColumnName.ofText? name.toList with
  | some col => .ok col
  | none => .error (.columnName name)

/-- The letters of a name and the digits after them, if it has any. One line break at the end is
passed over. -/
def splitName? (cs : List Char) : Option (List Char × Option (List Char)) :=
  let letters := cs.takeWhile Char.isAlpha
  let afterLetters := cs.dropWhile Char.isAlpha
  let digits := afterLetters.takeWhile Text.isDecimal
  let rest := afterLetters.dropWhile Text.isDecimal
  if letters.isEmpty ∨ (rest ≠ [] ∧ rest ≠ ['\n']) then none
  else some (letters, if digits.isEmpty then none else some digits)

/-- The cell that a text names, white space around it allowed, wherever that cell is. -/
def readCellName (name : String) : Except NameFault Coord :=
  match splitName? (Text.strip name.toList) with
  | some (letters, some digits) =>
    match Text.digitsValue digits with
    | 0 => .error (.rowBelowOne name)
    | row + 1 => .ok ⟨row, ColumnName.ofLetters letters⟩
  | _ => .error (.cellName name)

/-- The cells of a range such as `A1:B2`, row by row. The corners may come in any order. -/
def expandRange (text : String) : Except NameFault (List Coord) :=
  match Text.cutAt ':' text.toList with
  | [first, last] => do
    let a ← readCellName (String.ofList first)
    let b ← readCellName (String.ofList last)
    let (top, left, bottom, right) := Coord.corners a b
    return Coord.rectangle top left bottom right
  | _ => .error (.range text)

/-! ## References in formulas -/

/-- The letters of a reference, all of one case, and the digits after them, if it has any. -/
def splitReference (token : List Char) (position : Nat) :
    Except ParseError (List Char × Option (List Char)) :=
  match splitName? token with
  | none => .error ⟨.notAReference (String.ofList token), position⟩
  | some (letters, digits) =>
    if (Text.letterCase? letters).isNone then
      .error ⟨.mixedReference (String.ofList token), position⟩
    else .ok (letters, digits)

/-- The column with the given letters on a sheet of `nCols` columns. -/
def columnWithin (letters : List Char) (nCols : Int) (position : Nat) : Except ParseError Int :=
  let col : Int := ColumnName.ofLetters letters
  if col < nCols then .ok col
  else .error ⟨.columnOutside (String.ofList letters) nCols, position⟩

/-- The row with the given number, counted from one, on a sheet of `nRows` rows. -/
def rowNumberWithin (number : Int) (digits : List Char) (nRows : Int) (position : Nat) :
    Except ParseError Int :=
  if 1 ≤ number ∧ number ≤ nRows then .ok (number - 1)
  else .error ⟨.rowOutside (String.ofList digits) nRows, position⟩

/-- The row that decimal digits spell on a sheet of `nRows` rows. -/
def rowWithin (digits : List Char) (nRows : Int) (position : Nat) : Except ParseError Int :=
  rowNumberWithin (Text.digitsValue digits) digits nRows position

/-- The column that a text names on a sheet of `nCols` columns. -/
def resolveColumn (name : String) (nCols : Int) (position : Nat) : Except ResolveFault Int :=
  if ColumnName.isName name.toList then
    (columnWithin name.toList nCols position).mapError .parse
  else .error (.name (.columnName name))

/-- The row that a text spells on a sheet of `nRows` rows. -/
def resolveRow (text : String) (nRows : Int) (position : Nat) : Except ResolveFault Int :=
  match Text.integer? text.toList with
  | some number => (rowNumberWithin number text.toList nRows position).mapError .parse
  | none => .error (.name (.integer text))

/-- The cell that a reference means on a sheet of the given size. -/
def resolveCell (token : String) (nRows nCols : Int) (position : Nat) :
    Except ParseError Coord := do
  let (letters, digits) ← splitReference token.toList position
  match digits with
  | none => .error ⟨.missingRow token, position⟩
  | some digits =>
    let row ← rowWithin digits nRows position
    return ⟨row, ← columnWithin letters nCols position⟩

end Spreadsheet

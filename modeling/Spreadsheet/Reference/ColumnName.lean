import Spreadsheet.Text.Case
import Spreadsheet.Text.Quoted

/-!
# Column letters

Columns are named `A` to `Z`, then `AA`, `AB` and so on. `ColumnName.letters` names a column and
`ColumnName.ofLetters` finds the column of a name, in either case; they are inverse to each other.
-/

namespace Spreadsheet.ColumnName

/-- A capital letter by its place in the alphabet, from zero. -/
def capital (place : Nat) : Char := Char.ofNat ('A'.toNat + place)

/-- The place of a letter of either case in the alphabet, from zero. -/
def place (c : Char) : Nat :=
  if 'a'.toNat ≤ c.toNat then c.toNat - 'a'.toNat else c.toNat - 'A'.toNat

/-- The letters of a column, counted from zero. -/
def letters (column : Nat) : List Char :=
  if column < 26 then [capital column]
  else letters (column / 26 - 1) ++ [capital (column % 26)]

/-- The letters of a column in small letters. -/
def smallLetters (column : Nat) : List Char := (letters column).map Char.toLower

/-- The number of columns up to the one with the given letters, that one included. -/
def countTo (cs : List Char) : Nat := cs.foldl (fun count c => count * 26 + (place c + 1)) 0

/-- The column with the given letters. -/
def ofLetters (cs : List Char) : Nat := countTo cs - 1

/-- The text is a row of ASCII letters. -/
def isName (cs : List Char) : Bool := !cs.isEmpty && cs.all Char.isAlpha

/-- The column that a text names. -/
def ofText? (cs : List Char) : Option Nat := if isName cs then some (ofLetters cs) else none

/-- The name of a column. -/
def text (column : Nat) : String := String.ofList (letters column)

end Spreadsheet.ColumnName

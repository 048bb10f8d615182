import Spreadsheet.Text.CodePoint
import Spreadsheet.Text.Split

/-!
# White space

Blank characters separate words and surround numbers. `strip` drops them at both ends of a text
and `words` cuts a text at them.
-/

namespace Spreadsheet.Text

/-- The blank characters: the ASCII ones with the four information separators, the next-line
control, and the spaces and line separators of Unicode. -/
def blankRanges : CodePoints := [
  (0x20, 0x20), (0x9, 0xD), (0x1C, 0x1F), (0x85, 0x85), (0xA0, 0xA0), (0x1680, 0x1680),
  (0x2000, 0x200A), (0x2028, 0x2029), (0x202F, 0x202F), (0x205F, 0x205F), (0x3000, 0x3000)]

/-- The character is white space. -/
def isBlank (c : Char) : Bool := blankRanges.has c

/-- The text holds nothing but white space. -/
def allBlank (cs : List Char) : Bool := cs.all isBlank

/-- The text without the characters of a class at its ends. -/
def stripWhere (isDropped : Char → Bool) (cs : List Char) : List Char :=
  ((cs.dropWhile isDropped).reverse.dropWhile isDropped).reverse

/-- The text without the white space around it. -/
def strip (cs : List Char) : List Char := stripWhere isBlank cs

/-- The maximal runs of characters that are not blank, in order. -/
def words (cs : List Char) : List (List Char) := (cutWhere isBlank cs).filter (!·.isEmpty)

/-- The text without the white space around it. -/
def stripped (s : String) : String := String.ofList (strip s.toList)

end Spreadsheet.Text

import Spreadsheet.Text.Blank
import Spreadsheet.Text.CodePoint
import Spreadsheet.Text.Split

/-!
# Digits

Numbers may be written with the decimal digits of any script. `digit?` gives a digit's value and
`digitsValue` reads a row of them, whatever scripts they come from. `isDigit` holds of some more
characters, such as superscripts and circled digits, which look like digits but spell no number.
`integer?` reads a whole number with a sign, surrounding white space and underscores between
digits.

Numbers may have any count of digits. The limit of 4300 digits that an interpreter may put on the
whole numbers that it reads is no part of the model.
-/

namespace Spreadsheet.Text

/-- The decimal digits of Unicode 14: rows of ten, each starting with a zero. -/
def decimalRanges : CodePoints := [
  (0x30, 0x39), (0x660, 0x669), (0x6F0, 0x6F9), (0x7C0, 0x7C9), (0x966, 0x96F), (0x9E6, 0x9EF),
  (0xA66, 0xA6F), (0xAE6, 0xAEF), (0xB66, 0xB6F), (0xBE6, 0xBEF), (0xC66, 0xC6F), (0xCE6, 0xCEF),
  (0xD66, 0xD6F), (0xDE6, 0xDEF), (0xE50, 0xE59), (0xED0, 0xED9), (0xF20, 0xF29),
  (0x1040, 0x1049), (0x1090, 0x1099), (0x17E0, 0x17E9), (0x1810, 0x1819), (0x1946, 0x194F),
  (0x19D0, 0x19D9), (0x1A80, 0x1A89), (0x1A90, 0x1A99), (0x1B50, 0x1B59), (0x1BB0, 0x1BB9),
  (0x1C40, 0x1C49), (0x1C50, 0x1C59), (0xA620, 0xA629), (0xA8D0, 0xA8D9), (0xA900, 0xA909),
  (0xA9D0, 0xA9D9), (0xA9F0, 0xA9F9), (0xAA50, 0xAA59), (0xABF0, 0xABF9), (0xFF10, 0xFF19),
  (0x104A0, 0x104A9), (0x10D30, 0x10D39), (0x11066, 0x1106F), (0x110F0, 0x110F9),
  (0x11136, 0x1113F), (0x111D0, 0x111D9), (0x112F0, 0x112F9), (0x11450, 0x11459),
  (0x114D0, 0x114D9), (0x11650, 0x11659), (0x116C0, 0x116C9), (0x11730, 0x11739),
  (0x118E0, 0x118E9), (0x11950, 0x11959), (0x11C50, 0x11C59), (0x11D50, 0x11D59),
  (0x11DA0, 0x11DA9), (0x16A60, 0x16A69), (0x16AC0, 0x16AC9), (0x16B50, 0x16B59),
  (0x1D7CE, 0x1D7FF), (0x1E140, 0x1E149), (0x1E2F0, 0x1E2F9), (0x1E950, 0x1E959),
  (0x1FBF0, 0x1FBF9)]

/-- The characters of Unicode 14 that are digits without being decimal digits. -/
def digitLikeRanges : CodePoints := [
  (0xB2, 0xB3), (0xB9, 0xB9), (0x1369, 0x1371), (0x19DA, 0x19DA), (0x2070, 0x2070),
  (0x2074, 0x2079), (0x2080, 0x2089), (0x2460, 0x2468), (0x2474, 0x247C), (0x2488, 0x2490),
  (0x24EA, 0x24EA), (0x24F5, 0x24FD), (0x24FF, 0x24FF), (0x2776, 0x277E), (0x2780, 0x2788),
  (0x278A, 0x2792), (0x10A40, 0x10A43), (0x10E60, 0x10E68), (0x11052, 0x1105A),
  (0x1F100, 0x1F10A)]

/-- The value of a decimal digit of any script. -/
def digit? (c : Char) : Option Nat :=
  decimalRanges.findSome? fun (first, last) =>
    if first ≤ c.toNat && c.toNat ≤ last then some ((c.toNat - first) % 10) else none

/-- The character is a decimal digit of some script. -/
def isDecimal (c : Char) : Bool := (digit? c).isSome

/-- The character is a digit, decimal or not. -/
def isDigit (c : Char) : Bool := isDecimal c || digitLikeRanges.has c

/-- The number that a row of decimal digits spells, the first the most significant. -/
def digitsValue (cs : List Char) : Nat :=
  cs.foldl (fun value c => 10 * value + (digit? c).getD 0) 0

/-- The digits of a number in base ten. -/
def decimalDigits (n : Nat) : List Char := Nat.toDigits 10 n

/-- The row of characters is not empty and all of them are digits, decimal or not. -/
def allDigits (cs : List Char) : Bool := !cs.isEmpty && cs.all isDigit

/-- The number that decimal digits spell, where one underscore may stand between two of them. -/
def groupedDigits? (cs : List Char) : Option Nat :=
  let groups := cutAt '_' cs
  if groups.all fun group => !group.isEmpty && group.all isDecimal then
    some (digitsValue groups.flatten)
  else none

/-- The character may stand around a whole number: white space other than the four information
separators. -/
def isIntegerBlank (c : Char) : Bool := isBlank c && !(0x1C ≤ c.toNat && c.toNat ≤ 0x1F)

/-- The number with the sign that stands before its digits. -/
def signed (digits? : List Char → Option Nat) : List Char → Option Int
  | '-' :: digits => (digits? digits).map fun n => -(n : Int)
  | '+' :: digits => (digits? digits).map fun n => (n : Int)
  | digits => (digits? digits).map fun n => (n : Int)

/-- The whole number that a text spells: decimal digits, with a sign before them and white space
around them if need be. -/
def integer? (cs : List Char) : Option Int :=
  signed groupedDigits? (stripWhere isIntegerBlank cs)

/-- The text is nothing but decimal digits, with a sign before them and any white space around
them if need be. -/
def isPlainInteger (cs : List Char) : Bool :=
  (signed (fun digits => if !digits.isEmpty && digits.all isDecimal then some 0 else none)
    (strip cs)).isSome

end Spreadsheet.Text

import Spreadsheet.Number.Binary64
import Spreadsheet.Text.Digit

/-!
# Decimal numbers and numerals

A `Decimal` is an exact decimal number and `Decimal.toBinary64` the floating-point number nearest
to it. A `Numeral` is the written form of an unsigned decimal number: digits, perhaps a point and
more digits, perhaps an exponent. `Numeral.scan` takes the longest numeral off the front of a text;
`Numeral.spelling` is its text again.
-/

namespace Spreadsheet

/-- The decimal number `± coefficient · 10 ^ exponent`. -/
structure Decimal where
  negative : Bool
  coefficient : Nat
  exponent : Int
  deriving DecidableEq

namespace Decimal

/-- The floating-point number nearest to a decimal one, a tie going to the even significand. A
number of more than 400 digits before the point is infinite, and one with more than 400 zeros
after the point is zero, whatever its digits. -/
def toBinary64 (x : Decimal) : Binary64 :=
  if x.coefficient = 0 then .zero x.negative
  else if 400 < x.exponent then .infinity x.negative
  else if x.exponent < -(Nat.log2 x.coefficient : Int) - 400 then .zero x.negative
  else
    match x.exponent with
    | .ofNat e => .ofQuotient x.negative (x.coefficient * Nat.pow 10 e * Binary64.one) 1
    | .negSucc e => .ofQuotient x.negative (x.coefficient * Binary64.one) (Nat.pow 10 (e + 1))

end Decimal

/-- The exponent of a numeral: the letter `e` of either case, perhaps a sign, and digits. -/
structure Numeral.Exponent where
  letter : Char
  sign : Option Char
  digits : List Char

/-- An unsigned decimal number as written. -/
structure Numeral where
  whole : List Char
  /-- The digits after the point, if there is a point. -/
  fraction : Option (List Char)
  exponent : Option Numeral.Exponent

namespace Numeral

/-- The text of an exponent. -/
def Exponent.spelling (e : Exponent) : List Char := e.letter :: e.sign.toList ++ e.digits

/-- The number that an exponent stands for. -/
def Exponent.value (e : Exponent) : Int :=
  if e.sign = some '-' then -(Text.digitsValue e.digits : Int) else Text.digitsValue e.digits

/-- The text of a numeral. -/
def spelling (n : Numeral) : List Char :=
  n.whole ++ (n.fraction.map ('.' :: ·)).getD [] ++ (n.exponent.map Exponent.spelling).getD []

/-- The decimal number that a numeral stands for. -/
def toDecimal (n : Numeral) : Decimal where
  negative := false
  coefficient := Text.digitsValue (n.whole ++ n.fraction.getD [])
  exponent := (n.exponent.map Exponent.value).getD 0 - (n.fraction.getD []).length

/-- Takes a row of decimal digits off the front of a text. -/
def scanDigits (cs : List Char) : List Char × List Char :=
  (cs.takeWhile Text.isDecimal, cs.dropWhile Text.isDecimal)

/-- Takes a point and the digits after it off the front of a text. -/
def scanFraction : List Char → Option (List Char) × List Char
  | '.' :: rest => (some (scanDigits rest).1, (scanDigits rest).2)
  | cs => (none, cs)

/-- Takes a sign off the front of a text. -/
def scanSign : List Char → Option Char × List Char
  | '+' :: rest => (some '+', rest)
  | '-' :: rest => (some '-', rest)
  | cs => (none, cs)

/-- Takes an exponent off the front of a text; a letter without digits after it is none. -/
def scanExponent : List Char → Option Exponent × List Char
  | [] => (none, [])
  | c :: rest =>
    let (sign, afterSign) := scanSign rest
    let (digits, afterDigits) := scanDigits afterSign
    if (c = 'e' ∨ c = 'E') ∧ digits ≠ [] then (some ⟨c, sign, digits⟩, afterDigits)
    else (none, c :: rest)

/-- Takes the longest numeral off the front of a text. It has a digit before or after the point. -/
def scan (cs : List Char) : Option (Numeral × List Char) :=
  let (whole, afterWhole) := scanDigits cs
  let (fraction, afterFraction) := scanFraction afterWhole
  if whole = [] ∧ fraction.getD [] = [] then none
  else
    let (exponent, rest) := scanExponent afterFraction
    some (⟨whole, fraction, exponent⟩, rest)

theorem scanDigits_append (cs : List Char) : (scanDigits cs).1 ++ (scanDigits cs).2 = cs :=
  List.takeWhile_append_dropWhile

theorem scanFraction_append (cs : List Char) :
    ((scanFraction cs).1.map ('.' :: ·)).getD [] ++ (scanFraction cs).2 = cs := by
  unfold scanFraction
  split
  · simp [scanDigits_append]
  · simp

theorem scanSign_append (cs : List Char) : (scanSign cs).1.toList ++ (scanSign cs).2 = cs := by
  unfold scanSign
  split <;> simp

theorem scanExponent_append (cs : List Char) :
    ((scanExponent cs).1.map Exponent.spelling).getD [] ++ (scanExponent cs).2 = cs := by
  cases cs with
  | nil => rfl
  | cons c rest =>
    simp only [scanExponent]
    split
    · simp only [Exponent.spelling, Option.map_some, Option.getD_some, List.cons_append,
        List.append_assoc, scanDigits_append, scanSign_append]
    · simp

/-- A numeral and what follows it are the text it was taken from. -/
theorem scan_append {cs rest : List Char} {n : Numeral} (h : scan cs = some (n, rest)) :
    n.spelling ++ rest = cs := by
  simp only [scan] at h
  split at h
  · cases h
  · obtain ⟨rfl, rfl⟩ := Prod.mk.inj (Option.some.inj h)
    simp only [spelling, List.append_assoc, scanExponent_append, scanFraction_append,
      scanDigits_append]

/-- A numeral has at least one character. -/
theorem spelling_ne_nil {cs rest : List Char} {n : Numeral} (h : scan cs = some (n, rest)) :
    n.spelling ≠ [] := by
  simp only [scan] at h
  split at h
  · cases h
  · next hdigits =>
    obtain ⟨rfl, rfl⟩ := Prod.mk.inj (Option.some.inj h)
    intro hnil
    simp only [spelling, List.append_eq_nil_iff] at hnil
    refine hdigits ⟨hnil.1.1, ?_⟩
    cases hf : (scanFraction (scanDigits cs).2).1 with
    | none => rfl
    | some _ => simp [hf] at hnil

/-- Taking a numeral off a text leaves less of it. -/
theorem length_lt_of_scan {cs rest : List Char} {n : Numeral} (h : scan cs = some (n, rest)) :
    rest.length < cs.length := by
  have hlength := congrArg List.length (scan_append h)
  have hpos := List.length_pos_iff.2 (spelling_ne_nil h)
  simp only [List.length_append] at hlength
  omega

/-- The number that a text spells, if it is a numeral and nothing else. -/
def read? (cs : List Char) : Option Decimal :=
  match scan cs with
  | some (n, []) => some n.toDecimal
  | _ => none

end Numeral

/-- The number that a text spells: a numeral, with a sign before it if need be. -/
def Decimal.read? (cs : List Char) : Option Decimal :=
  match cs with
  | '-' :: rest => (Numeral.read? rest).map fun x => { x with negative := true }
  | '+' :: rest => Numeral.read? rest
  | _ => Numeral.read? cs

/-- The number that a text spells as a floating-point number, white space around it allowed.
Words such as those for infinity spell none. -/
def readNumber? (s : String) : Option Binary64 :=
  (Decimal.read? (Text.strip s.toList)).map Decimal.toBinary64

end Spreadsheet

import Spreadsheet.Number.Decimal

/-!
# Decimal digits of floating-point numbers

Three ways to write a finite number, each exact about the binary value behind it:

* `Binary64.shortest`, the fewest digits that read back as the same number;
* `Binary64.significant`, a given count of significant digits;
* `Binary64.fixed`, a given count of digits after the point.

The last two round the exact value, a tie going to the even digit. How digits are laid out with a
point and an exponent is up to `Digits.positional` and `Digits.scientific`.
-/

namespace Spreadsheet

/-- Significant digits with the place of the point: `0.d₁d₂d₃… · 10 ^ point`. -/
structure Digits where
  digits : List Char
  point : Int

namespace Digits

/-- The digits without the zeros at their end, though never fewer than one. -/
def trimmed (d : Digits) : Digits :=
  match (d.digits.reverse.dropWhile (· == '0')).reverse with
  | [] => ⟨['0'], d.point⟩
  | digits => ⟨digits, d.point⟩

/-- The digits of a coefficient, with the place of the point for a decimal exponent. -/
def ofCoefficient (coefficient : Nat) (exponent : Int) : Digits :=
  let digits := Text.decimalDigits coefficient
  ⟨digits, exponent + digits.length⟩

/-- The digits around a point, with zeros where there are none. Without digits after the point
there is no point. -/
def positional (d : Digits) : List Char :=
  if d.point ≤ 0 then '0' :: '.' :: (List.replicate (-d.point).toNat '0' ++ d.digits)
  else
    let whole := d.digits.take d.point.toNat
    let fraction := d.digits.drop d.point.toNat
    let zeros := List.replicate (d.point.toNat - whole.length) '0'
    if fraction.isEmpty then whole ++ zeros else whole ++ '.' :: fraction

/-- One digit, the others after a point, and an exponent with its sign and at least two digits. -/
def scientific (d : Digits) : List Char :=
  let exponent := d.point - 1
  let size := Text.decimalDigits exponent.natAbs
  let mantissa :=
    match d.digits with
    | [] => ['0']
    | [c] => [c]
    | c :: rest => c :: '.' :: rest
  mantissa ++ ['e', if exponent < 0 then '-' else '+'] ++
    (List.replicate (2 - size.length) '0' ++ size)

end Digits

namespace Binary64

/-- The place of the first significant digit: the least `p` with `x < 10 ^ p`. -/
def Finite.decimalPoint (x : Finite) : Int :=
  let scaled := x.magnitude * Nat.pow 10 400 / one
  (Text.decimalDigits scaled).length - 400

/-- The value over `10 ^ exponent`, as a quotient of natural numbers. -/
def Finite.over (x : Finite) (exponent : Int) : Nat × Nat :=
  match exponent with
  | .ofNat e => (x.magnitude, one * Nat.pow 10 e)
  | .negSucc e => (x.magnitude * Nat.pow 10 (e + 1), one)

/-- The multiple of `10 ^ exponent` next to the value that reads back as the value. Of two that do
the nearer is taken, and of two equally near ones the even one. -/
def Finite.neighbour? (x : Finite) (exponent : Int) : Option Nat :=
  let (num, den) := x.over exponent
  let below := num / den
  let readsBack (n : Nat) : Bool :=
    Decimal.toBinary64 ⟨x.negative, n, exponent⟩ == .finite x
  let nearest := roundHalfEven num den
  let other := if nearest = below then below + 1 else below
  if readsBack nearest then some nearest
  else if readsBack other then some other
  else none

/-- All digits of the value. A unit is `5 ^ 1074` times its last decimal place. -/
def Finite.allDigits (x : Finite) : Digits :=
  Digits.ofCoefficient (x.magnitude * Nat.pow 5 1074) (-1074)

/-- The digits of the multiple next to the value that has `count` digits, if there is one. -/
def Finite.digits? (x : Finite) (count : Nat) : Option Digits :=
  let exponent := x.decimalPoint - count
  (x.neighbour? exponent).map (Digits.ofCoefficient · exponent)

/-- The fewest digits, at least `count` and fewer than `count + fuel`, that read back as the
value; all its digits if there are none so few. -/
def Finite.shortestFrom (x : Finite) (count : Nat) : Nat → Digits
  | 0 => x.allDigits
  | fuel + 1 => (x.digits? count).getD (x.shortestFrom (count + 1) fuel)

/-- The fewest digits that read back as the value, at most seventeen. -/
def Finite.shortest (x : Finite) : Digits :=
  if x.significand = 0 then ⟨['0'], 1⟩ else (x.shortestFrom 1 17).trimmed

/-- The value rounded to `count` significant digits. -/
def Finite.significant (x : Finite) (count : Nat) : Digits :=
  if x.significand = 0 then ⟨List.replicate count '0', 1⟩
  else
    let exponent := x.decimalPoint - count
    let (num, den) := x.over exponent
    -- Rounding up from nines gives a digit more, a zero.
    let all := Digits.ofCoefficient (roundHalfEven num den) exponent
    ⟨all.digits.take count, all.point⟩

/-- The texts of the values that have no digits. -/
def nonFiniteText : Binary64 → List Char
  | .infinity true => ['-', 'i', 'n', 'f']
  | .infinity false => ['i', 'n', 'f']
  | _ => ['n', 'a', 'n']

/-- The sign of a number as written. -/
def signText (negative : Bool) : List Char := if negative then ['-'] else []

/-- The text of a number from which the same number can be read: the fewest digits, from
`0.0001` up to `10 ^ 16` around a point with a digit on either side, elsewhere with an exponent. -/
def shortest (x : Binary64) : String :=
  String.ofList <|
    match x with
    | .finite x =>
      let d := x.shortest
      signText x.negative ++
        (if -4 < d.point ∧ d.point ≤ 16 then
          if d.digits.length ≤ d.point then d.positional ++ ['.', '0'] else d.positional
        else d.scientific)
    | x => nonFiniteText x

/-- The number rounded to `places` digits after the point. -/
def fixed (x : Binary64) (places : Nat) : String :=
  String.ofList <|
    match x with
    | .finite x =>
      let digits := Text.decimalDigits (roundHalfEven (x.magnitude * Nat.pow 10 places) one)
      let padded := List.replicate (places + 1 - digits.length) '0' ++ digits
      let whole := padded.take (padded.length - places)
      signText x.negative ++
        (if places = 0 then whole else whole ++ '.' :: padded.drop (padded.length - places))
    | x => nonFiniteText x

/-- The number rounded to `count` significant digits, without zeros at the end: around a point from
`0.0001` up to `10 ^ count`, elsewhere with an exponent. -/
def significant (x : Binary64) (count : Nat) : String :=
  String.ofList <|
    match x with
    | .finite x =>
      let rounded := x.significant count
      let d := rounded.trimmed
      signText x.negative ++
        (if -4 < rounded.point ∧ rounded.point ≤ count then d.positional else d.scientific)
    | x => nonFiniteText x

/-- The digits of an integer, with its sign. -/
def integerText (n : Int) : String :=
  String.ofList (signText (n < 0) ++ Text.decimalDigits n.natAbs)

end Binary64

end Spreadsheet

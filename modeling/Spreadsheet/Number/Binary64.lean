/-!
# Binary floating-point numbers

The numbers of a sheet are the IEEE 754 binary64 values. Every finite one is a whole multiple of
the *unit* `2⁻¹⁰⁷⁴`, the least positive value, so a finite number is kept as a sign, a significand
and an exponent counted from the unit, and exact arithmetic on it is arithmetic of integers. Each
operation computes its exact result and rounds once:

* `roundHalfEven` rounds a quotient to a whole number, a tie going to the even neighbour;
* `ofQuotient` rounds a quotient of units to the nearest value, beyond the range to infinity;
* `add`, `sub`, `mul` and `div` are the exact result under `ofQuotient`;
* `compare?` orders all values but NaN, which is comparable to nothing.
-/

namespace Spreadsheet

/-- The whole number nearest to `num / den`; a tie goes to the even one. -/
def roundHalfEven (num den : Nat) : Nat :=
  let quotient := num / den
  let remainder := num % den
  if 2 * remainder < den ∨ (2 * remainder = den ∧ quotient % 2 = 0) then quotient
  else quotient + 1

namespace Binary64

/-- The significands and exponents of the finite values: at most 53 bits, and all 53 of them in
use unless the exponent is the least one. So each value has one representation. -/
def Canonical (significand exponent : Nat) : Prop :=
  significand < Nat.pow 2 53 ∧ exponent ≤ 2045 ∧ (exponent = 0 ∨ Nat.pow 2 52 ≤ significand)

instance (significand exponent : Nat) : Decidable (Canonical significand exponent) := by
  unfold Canonical; infer_instance

/-- The finite number `± significand · 2 ^ exponent` units. -/
structure Finite where
  negative : Bool
  significand : Nat
  exponent : Nat
  canonical : Canonical significand exponent
  deriving DecidableEq

/-- How many units make one. -/
def one : Nat := Nat.pow 2 1074

namespace Finite

/-- The distance from zero, in units. -/
def magnitude (x : Finite) : Nat := x.significand * Nat.pow 2 x.exponent

/-- The number in units, which does not tell the two zeros apart. -/
def units (x : Finite) : Int := if x.negative then -(x.magnitude : Int) else x.magnitude

/-- The number has no fractional part. -/
def isInteger (x : Finite) : Bool := x.magnitude % one == 0

/-- The number without its fractional part. -/
def truncate (x : Finite) : Int :=
  if x.negative then -((x.magnitude / one : Nat) : Int) else (x.magnitude / one : Nat)

end Finite

end Binary64

/-- A binary64 value. The two zeros differ by their sign, and there is one NaN. -/
inductive Binary64 where
  | finite (x : Binary64.Finite)
  | infinity (negative : Bool)
  | nan
  deriving DecidableEq

namespace Binary64

/-! ## Rounding -/

/-- The zero of a sign. -/
def zero (negative : Bool) : Binary64 := .finite ⟨negative, 0, 0, by decide⟩

instance : Inhabited Binary64 := ⟨zero false⟩

/-- The value `significand · 2 ^ exponent` units, or infinity if that is none. -/
def ofParts (negative : Bool) (significand exponent : Nat) : Binary64 :=
  if h : Canonical significand exponent then .finite ⟨negative, significand, exponent, h⟩
  else .infinity negative

/-- The value nearest to `num / den` units: 53 bits are kept, or fewer where the last kept bit
would be less than a unit, and a tie goes to the even significand. -/
def ofQuotient (negative : Bool) (num den : Nat) : Binary64 :=
  let exponent := Nat.log2 (num / den) - 52
  let significand := roundHalfEven num (den * Nat.pow 2 exponent)
  if significand = Nat.pow 2 53 then ofParts negative (Nat.pow 2 52) (exponent + 1)
  else ofParts negative significand exponent

/-- The value nearest to an integer. -/
def ofInt (n : Int) : Binary64 := ofQuotient (n < 0) (n.natAbs * one) 1

/-- The value nearest to a natural number. -/
def ofNat (n : Nat) : Binary64 := ofInt n

/-! ## Arithmetic -/

/-- The sign bit is set. -/
def isNegative : Binary64 → Bool
  | .finite x => x.negative
  | .infinity negative => negative
  | .nan => false

/-- The value with the given sign bit. -/
def withSign (negative : Bool) : Binary64 → Binary64
  | .finite x => .finite { x with negative }
  | .infinity _ => .infinity negative
  | .nan => .nan

/-- The number with its sign turned. -/
def neg (x : Binary64) : Binary64 := x.withSign !x.isNegative

/-- The number without its sign. -/
def abs (x : Binary64) : Binary64 := x.withSign false

/-- The sum. A sum of nothing but negative zeros is negative zero. -/
def add : Binary64 → Binary64 → Binary64
  | .nan, _ | _, .nan => .nan
  | .infinity s, .infinity t => if s = t then .infinity s else .nan
  | .infinity s, .finite _ => .infinity s
  | .finite _, .infinity s => .infinity s
  | .finite x, .finite y =>
    let sum := x.units + y.units
    if sum = 0 then zero (x.negative && y.negative)
    else ofQuotient (sum < 0) sum.natAbs 1

/-- The difference. -/
def sub (x y : Binary64) : Binary64 := add x (neg y)

/-- The product. -/
def mul : Binary64 → Binary64 → Binary64
  | .nan, _ | _, .nan => .nan
  | .infinity s, .infinity t => .infinity (s != t)
  | .infinity s, .finite y => if y.significand = 0 then .nan else .infinity (s != y.negative)
  | .finite x, .infinity t => if x.significand = 0 then .nan else .infinity (x.negative != t)
  | .finite x, .finite y =>
    ofQuotient (x.negative != y.negative) (x.magnitude * y.magnitude) one

/-- The quotient. -/
def div : Binary64 → Binary64 → Binary64
  | .nan, _ | _, .nan => .nan
  | .infinity _, .infinity _ => .nan
  | .infinity s, .finite y => .infinity (s != y.negative)
  | .finite x, .infinity t => zero (x.negative != t)
  | .finite x, .finite y =>
    if y.significand = 0 then
      if x.significand = 0 then .nan else .infinity (x.negative != y.negative)
    else ofQuotient (x.negative != y.negative) (x.magnitude * one) y.magnitude

/-! ## Order -/

/-- How two values compare; NaN compares to nothing, and the two zeros are equal. -/
def compare? : Binary64 → Binary64 → Option Ordering
  | .nan, _ | _, .nan => none
  | .infinity s, .infinity t =>
    some (if s = t then .eq else if s then .lt else .gt)
  | .infinity s, .finite _ => some (if s then .lt else .gt)
  | .finite _, .infinity t => some (if t then .gt else .lt)
  | .finite x, .finite y => some (compare x.units y.units)

/-- The first value is less than the second. -/
def less (x y : Binary64) : Bool := compare? x y == some .lt

/-- The values are the same number. -/
def equal (x y : Binary64) : Bool := compare? x y == some .eq

/-- The first value is at most the second. -/
def atMost (x y : Binary64) : Bool := less x y || equal x y

/-- The value is a number, infinite or not. -/
def isNumber : Binary64 → Bool
  | .nan => false
  | _ => true

/-- The value is neither infinite nor NaN. -/
def isFinite : Binary64 → Bool
  | .finite _ => true
  | _ => false

end Binary64

end Spreadsheet

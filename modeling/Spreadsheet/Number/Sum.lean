import Spreadsheet.Number.Binary64

/-!
# Exact sums

`Binary64.sum?` adds up a list of numbers as if with unlimited precision and rounds once, so the
order of the numbers does not change a result. It gives up where the running total leaves the range
of the numbers, and where infinities of both signs meet.

The running total is kept as a row of numbers, each too small to touch the digits of the next
(`absorb` adds a number to the row); the total leaves the range when the last of them does.
-/

namespace Spreadsheet.Binary64

/-- Why a list of numbers has no sum. -/
inductive SumFault where
  /-- A running total is beyond the greatest finite number. -/
  | overflow
  /-- The list holds infinities of both signs. -/
  | oppositeInfinities
  deriving DecidableEq

/-- Adds a number to a row, from its small end: what is left of each number of the row after the
carry to the next, without zeros, and the last carry. -/
def absorb : List Binary64 → Binary64 → List Binary64 × Binary64
  | [], x => ([], x)
  | y :: row, x =>
    let (greater, lesser) := if x.abs.less y.abs then (y, x) else (x, y)
    let carry := greater.add lesser
    let left := lesser.sub (carry.sub greater)
    let (kept, last) := absorb row carry
    (if left.equal (zero false) then kept else left :: kept, last)

/-- The running total of the numbers, on top of a row, leaves the range. An infinite number or NaN
starts a new total. -/
def sumOverflows (row : List Binary64) : List Binary64 → Bool
  | [] => false
  | x :: xs =>
    if !x.isFinite then sumOverflows [] xs
    else
      let (kept, last) := absorb row x
      if !last.isFinite then true
      else sumOverflows (if last.equal (zero false) then kept else kept ++ [last]) xs

/-- The number in units; zero if it is not finite. -/
def unitsOrZero : Binary64 → Int
  | .finite x => x.units
  | _ => 0

/-- The exact sum of the numbers, rounded once. Infinite numbers and NaN outweigh all others. -/
def sum? (xs : List Binary64) : Except SumFault Binary64 :=
  if sumOverflows [] xs then .error .overflow
  else if xs.contains (.infinity true) && xs.contains (.infinity false) then
    .error .oppositeInfinities
  else
    match xs.find? (· == nan), xs.find? (!·.isFinite) with
    | some x, _ => .ok x
    | none, some x => .ok x
    | none, none =>
      let total := (xs.map unitsOrZero).foldr (· + ·) 0
      .ok (ofQuotient (total < 0) total.natAbs 1)

end Spreadsheet.Binary64

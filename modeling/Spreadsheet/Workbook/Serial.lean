import Spreadsheet.Number.Decimal
import Spreadsheet.Number.Digits
import Spreadsheet.Workbook.Calendar

/-!
# Serial numbers of moments

A workbook keeps a date and a time of day as one number: the days since the end of 1899, the time
being the fractional part (`serial`). The days up to the 28th of February 1900 are numbered
as if that year had had a leap day. A number from zero to below one is a time of day alone when it
is read back (`momentOfSerial?`), and times are read back to the millisecond. As they are rounded to
it, a moment can come to lie past the last day of the calendar; then there is none to read back.
-/

namespace Spreadsheet.Workbook

/-- The number of the day before the last of 1899, from which serial numbers count. -/
def serialStart : Int := Date.number ⟨1899, 12, 30⟩

/-- The share of a day that has passed at a time of day. -/
def dayShare (t : TimeOfDay) : Binary64 :=
  let seconds := Binary64.ofNat (t.hour * 3600 + t.minute * 60 + t.second)
  (seconds.add ((Binary64.ofNat t.microsecond).div (.ofNat 1000000))).div (.ofNat 86400)

/-- The serial number of a day. -/
def daySerial (d : Date) : Int :=
  let days := (d.number : Int) - serialStart
  if 0 < days ∧ days ≤ 60 then days - 1 else days

/-- The serial number of a moment. -/
def serial (d : Date) (t : TimeOfDay) : Binary64 := (Binary64.ofInt (daySerial d)).add (dayShare t)

/-- The milliseconds in the fractional part of a serial number, which is some units. -/
def serialMilliseconds (units : Int) : Nat :=
  let share := Binary64.ofQuotient false (units % Binary64.one).toNat 1
  match (share.mul (.ofNat 86400)).mul (.ofNat 1000) with
  | .finite x => roundHalfEven x.magnitude Binary64.one
  | _ => 0

/-- The moment with a serial number, if it is one of the calendar: its date, unless the number is
below one and not negative, and its time of day. -/
def momentOfSerial? (x : Binary64.Finite) : Option (Option Date × TimeOfDay) :=
  let day := x.units / Binary64.one
  let milliseconds := serialMilliseconds x.units
  let time := TimeOfDay.ofMilliseconds (milliseconds % 86400000)
  if day = 0 ∧ milliseconds < 86400000 then some (none, time)
  else
    let early : Int := if 0 < x.units ∧ day < 60 then 1 else 0
    let number := serialStart + day + early + (milliseconds / 86400000 : Nat)
    if 1 ≤ number ∧ number ≤ Date.last.number then some (some (.ofNumber number.toNat), time)
    else none

/-- The moment that is read back where a serial number is kept with sixteen digits, if there is
one. -/
def keptMoment? (serial : Binary64) : Option (Option Date × TimeOfDay) :=
  match readNumber? (serial.significant 16) with
  | some (.finite x) => momentOfSerial? x
  | _ => none

end Spreadsheet.Workbook

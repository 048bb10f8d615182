import Spreadsheet.Text.Digit

/-!
# Dates and times of day

A cell of a worksheet may hold a date, a time of day or both. Their texts are those of ISO 8601:
`Date.text` and `TimeOfDay.text` write them, and `Date.ofText`, `TimeOfDay.ofText` and
`momentOfText` read them, with or without the marks between their parts. Days are numbered
from the first of January of the year one, which has the number one (`Date.number`,
`Date.ofNumber`), to `Date.last`.
-/

namespace Spreadsheet.Workbook

/-- The digits of a number, with zeros before them up to a width. -/
def paddedDigits (width n : Nat) : String :=
  let digits := Nat.toDigits 10 n
  String.ofList (List.replicate (width - digits.length) '0' ++ digits)

/-- The number that some digits of a text spell, from a place on. -/
def digitsAt (cs : List Char) (place count : Nat) : Nat :=
  Text.digitsValue ((cs.drop place).take count)

/-! ## Dates -/

/-- A day of the calendar. -/
structure Date where
  year : Nat
  month : Nat
  day : Nat
  deriving DecidableEq

namespace Date

/-- The last day of the calendar. -/
def last : Date := ⟨9999, 12, 31⟩

/-- The text of a date. -/
def text (d : Date) : String :=
  paddedDigits 4 d.year ++ "-" ++ paddedDigits 2 d.month ++ "-" ++ paddedDigits 2 d.day

/-- The year has a leap day. -/
def isLeap (year : Nat) : Bool := year % 4 == 0 && (year % 100 != 0 || year % 400 == 0)

/-- The number of days of each month of a year. -/
def monthLengths (year : Nat) : List Nat :=
  [31, if isLeap year then 29 else 28, 31, 30, 31, 30, 31, 31, 30, 31, 30, 31]

/-- The number of days before a year. -/
def daysBefore (year : Nat) : Nat :=
  let y := year - 1
  y * 365 + y / 4 - y / 100 + y / 400

/-- The number of a day. -/
def number (d : Date) : Nat :=
  daysBefore d.year + ((monthLengths d.year).take (d.month - 1)).foldr (· + ·) 0 + d.day

/-- The year with the day of the given number. -/
def yearOf (number : Nat) : Nat :=
  let late := daysBefore (number / 366 + 1)
  (List.range' (number / 366 + 1) ((number - late) / 365 + 1)).foldl
    (fun found year => if daysBefore year < number then year else found) 1

/-- The month and the day of it, given the lengths of the months from one on and the number of a
day after the first of them starts. -/
def monthAndDay (month day : Nat) : List Nat → Nat × Nat
  | length :: rest =>
    if day ≤ length then (month, day) else monthAndDay (month + 1) (day - length) rest
  | [] => (month, day)

/-- The day with the given number. -/
def ofNumber (number : Nat) : Date :=
  let year := yearOf number
  let (month, day) := monthAndDay 1 (number - daysBefore year) (monthLengths year)
  ⟨year, month, day⟩

/-- The day of a week of a year, weeks and days counted from one. The first week is the one with the
fourth of January, and weeks start on Mondays. -/
def ofWeek (year week day : Nat) : Date :=
  let fourth := number ⟨year, 1, 4⟩
  ofNumber (fourth - (fourth - 1) % 7 + 7 * (week - 1) + (day - 1))

/-- The date that a text spells, as year, month and day or as year, week and day of the week, with
dashes between them or without. The day of the week may be left out. -/
def ofText (cs : List Char) : Date :=
  match cs.filter (· != '-') with
  | a :: b :: c :: d :: 'W' :: rest =>
    ofWeek (digitsAt [a, b, c, d] 0 4) (digitsAt rest 0 2) (max 1 (digitsAt rest 2 1))
  | digits => ⟨digitsAt digits 0 4, digitsAt digits 4 2, digitsAt digits 6 2⟩

/-- The length of the date that a text starts with. -/
def textLength (cs : List Char) : Nat :=
  match cs[4]?, cs[5]? with
  | some '-', some 'W' => if cs[8]? = some '-' then 10 else 8
  | some '-', _ => 10
  | some 'W', _ => if (cs[7]?).any Char.isDigit then 8 else 7
  | _, _ => 8

end Date

/-! ## Times of day -/

/-- A time of day. -/
structure TimeOfDay where
  hour : Nat
  minute : Nat
  second : Nat
  microsecond : Nat
  /-- The time is that of a time zone. -/
  zoned : Bool
  deriving DecidableEq

namespace TimeOfDay

/-- The start of a day. -/
def midnight : TimeOfDay := ⟨0, 0, 0, 0, false⟩

/-- The text of a time of day. Microseconds are written if there are any, and time zones are not. -/
def text (t : TimeOfDay) : String :=
  paddedDigits 2 t.hour ++ ":" ++ paddedDigits 2 t.minute ++ ":" ++ paddedDigits 2 t.second ++
    if t.microsecond = 0 then "" else "." ++ paddedDigits 6 t.microsecond

/-- The time of day that a text spells, with colons between its parts or without; parts that it
lacks are zero. Digits of a second past the sixth are passed over. -/
def ofText (cs : List Char) : TimeOfDay :=
  let isZone := fun c => c == 'Z' || c == '+' || c == '-'
  let clock := cs.takeWhile (!isZone ·)
  let digits := (clock.takeWhile fun c => c != '.' && c != ',').filter Char.isDigit
  let fraction := ((clock.dropWhile fun c => c != '.' && c != ',').filter Char.isDigit).take 6
  { hour := digitsAt digits 0 2
    minute := digitsAt digits 2 2
    second := digitsAt digits 4 2
    microsecond := Text.digitsValue fraction * Nat.pow 10 (6 - fraction.length)
    zoned := cs.any isZone }

/-- The time of day so many milliseconds after the start of the day. -/
def ofMilliseconds (n : Nat) : TimeOfDay where
  hour := n / 3600000
  minute := n / 60000 % 60
  second := n / 1000 % 60
  microsecond := n % 1000 * 1000
  zoned := false

end TimeOfDay

/-! ## Dates with times -/

/-- The text of a date with a time of day. -/
def momentText (d : Date) (t : TimeOfDay) : String := d.text ++ "T" ++ t.text

/-- The date and the time of day that a text spells, one character between them. -/
def momentOfText (cs : List Char) : Date × TimeOfDay :=
  let length := Date.textLength cs
  (.ofText (cs.take length), .ofText (cs.drop (length + 1)))

end Spreadsheet.Workbook

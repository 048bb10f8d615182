import Spreadsheet.Number.Decimal
import Spreadsheet.Number.Digits
import Spreadsheet.Text.Digit
import Spreadsheet.Text.LineEnd
import Spreadsheet.Workbook.Serial

/-!
# Cells of worksheets

What a cell of a worksheet may hold (`Content`), which texts are refused (`Content.entered`), which
contents cannot be kept in a workbook (`Content.keepFault?`), and what is kept of the others
(`Content.kept`).
-/

namespace Spreadsheet.Workbook

/-- What a cell of a worksheet holds. A formula is a text that starts with an equals sign. -/
inductive Content where
  | blank
  | flag (value : Bool)
  | text (value : String)
  | whole (value : Int)
  | number (value : Binary64)
  | date (day : Date)
  | moment (day : Date) (time : TimeOfDay)
  | time (time : TimeOfDay)
  deriving DecidableEq

/-! ## Entering texts -/

/-- A text with a control character cannot be entered. -/
structure ControlFault where
  text : String
  deriving DecidableEq

/-- The wording of a fault. -/
def ControlFault.message (fault : ControlFault) : String :=
  s!"{fault.text} cannot be used in worksheets."

/-- How many characters of a text a cell holds. -/
def textLimit : Nat := 32767

/-- The character is a control character other than tab, line feed and carriage return. -/
def isControl (c : Char) : Bool :=
  c.toNat < 0x20 && !(c == '\t' || c == '\n' || c == '\r')

/-- The content as it is entered in a cell: a text is cut to the limit. -/
def Content.entered : Content → Except ControlFault Content
  | .text s =>
    let held := s.toList.take textLimit
    if held.any isControl then .error ⟨String.ofList held⟩ else .ok (.text (String.ofList held))
  | content => .ok content

/-! ## Keeping contents -/

/-- A number as it is kept, with sixteen significant digits; it is whole if it has neither a point
nor an exponent then. Of infinity nothing is kept. -/
def keptNumber (x : Binary64) : Content :=
  if x.isFinite then
    let digits := x.significant 16
    match Text.integer? digits.toList with
    | some n => .whole n
    | none => .number ((readNumber? digits).getD x)
  else .blank

/-- What is read back of the moment with a serial number: the text of an error if it is not one of
the calendar. -/
def contentOfSerial (serial : Binary64) : Content :=
  match keptMoment? serial with
  | some (some day, time) => .moment day time
  | some (none, time) => .time time
  | none => .text "#VALUE!"

/-- The content as it is kept in a workbook: texts with line feeds at the ends of their lines,
numbers with sixteen digits, dates and times as serial numbers, and an empty text not at all. -/
def Content.kept : Content → Content
  | .blank => .blank
  | .flag value => .flag value
  | .text s => if s.isEmpty then .blank else .text (String.ofList (Text.unifyLineEnds s.toList))
  | .whole n => keptNumber (.ofInt n)
  | .number x => keptNumber x
  | .date day => contentOfSerial (serial day .midnight)
  | .moment day clock => contentOfSerial (serial day clock)
  | .time clock => contentOfSerial (dayShare clock)

/-- Why a content cannot be kept. -/
inductive KeepFault where
  | timeZone
  /-- A whole number is beyond the range of binary numbers. -/
  | tooLarge
  deriving DecidableEq

/-- The wording of a fault. -/
def KeepFault.message : KeepFault → String
  | .timeZone => "Excel does not support timezones in datetimes. " ++
    "The tzinfo in the datetime/time object must be set to None."
  | .tooLarge => "int too large to convert to float"

/-- Why a content cannot be kept, if it cannot. -/
def Content.keepFault? : Content → Option KeepFault
  | .whole n => if (Binary64.ofInt n).isFinite then none else some .tooLarge
  | .moment _ clock | .time clock => if clock.zoned then some .timeZone else none
  | _ => none

/-- A cell of a worksheet, which may have a format of its own. -/
structure StyledCell where
  content : Content
  styled : Bool
  deriving DecidableEq

end Spreadsheet.Workbook

/-!
# Reading delimited text

A `Reader` takes a text one character at a time (`Reader.step`) and collects records of fields. A
line feed ends a record and carriage returns may stand before it. In quotation marks a field may
hold separators and line ends, and a doubled quotation mark stands for one. `readRows` is the
whole of a text, without the empty lines at its end.
-/

namespace Spreadsheet.Delimited

/-- Why a text cannot be read. -/
inductive ReadFault where
  /-- A carriage return outside quotation marks ends no line. -/
  | loneReturn
  | longField
  deriving DecidableEq

/-- How many characters a field may have. -/
def fieldLimit : Nat := 131072

/-- The wording of a fault. -/
def ReadFault.message : ReadFault → String
  | .loneReturn => "new-line character seen in unquoted field - do you need to open the file in " ++
      "universal-newline mode?"
  | .longField => s!"field larger than field limit ({fieldLimit})"

/-- Where a reader stands between two characters. -/
inductive Place where
  | recordStart
  | fieldStart
  /-- In a field, outside quotation marks. -/
  | inField
  | inQuotes
  /-- After a quotation mark that closes the field or is the first of two. -/
  | afterQuote
  /-- After a carriage return, with the record complete. -/
  | afterReturn
  deriving DecidableEq

/-- What has been read so far, each list with its last member first. -/
structure Reader where
  place : Place
  field : List Char
  record : List String
  records : List (List String)

namespace Reader

/-- The reader at the start of a text. -/
def start : Reader := ⟨.recordStart, [], [], []⟩

/-- Takes a character into the field. -/
def push (r : Reader) (c : Char) (place : Place) : Reader :=
  { r with place, field := c :: r.field }

/-- Completes the field. -/
def endField (r : Reader) (place : Place) : Except ReadFault Reader :=
  if fieldLimit < r.field.length then .error .longField
  else .ok { r with place, field := [], record := String.ofList r.field.reverse :: r.record }

/-- Completes the record. -/
def endRecord (r : Reader) : Reader :=
  { r with place := .recordStart, record := [], records := r.record.reverse :: r.records }

/-- Completes the field at a line feed or carriage return, and at a line feed the record. -/
def endLine (r : Reader) (c : Char) : Except ReadFault Reader := do
  let r ← r.endField .afterReturn
  return if c = '\n' then r.endRecord else r

/-- Takes the first character of a field. -/
def startField (r : Reader) (separator c : Char) : Except ReadFault Reader :=
  if c = '\n' ∨ c = '\r' then r.endLine c
  else if c = '"' then .ok { r with place := .inQuotes }
  else if c = separator then r.endField .fieldStart
  else .ok (r.push c .inField)

/-- Takes the character after a quotation mark of a quoted field. A line feed that separates fields
ends the line as well, so an empty field comes last. -/
def leaveQuotes (r : Reader) (separator c : Char) : Except ReadFault Reader :=
  if c = '"' then .ok (r.push c .inQuotes)
  else if c = separator then do
    let r ← r.endField .fieldStart
    if c = '\n' then r.endLine c else .ok r
  else if c = '\n' ∨ c = '\r' then r.endLine c
  else .ok (r.push c .inField)

/-- Takes one character. -/
def step (separator : Char) (r : Reader) (c : Char) : Except ReadFault Reader :=
  match r.place with
  | .recordStart =>
    if c = '\n' then .ok r.endRecord
    else if c = '\r' then .ok { r with place := .afterReturn }
    else r.startField separator c
  | .fieldStart => r.startField separator c
  | .inField =>
    if c = '\n' ∨ c = '\r' then r.endLine c
    else if c = separator then r.endField .fieldStart
    else .ok (r.push c .inField)
  | .inQuotes => .ok (if c = '"' then { r with place := .afterQuote } else r.push c .inQuotes)
  | .afterQuote => r.leaveQuotes separator c
  | .afterReturn =>
    if c = '\n' then .ok r.endRecord
    else if c = '\r' then .ok r
    else .error .loneReturn

/-- The records at the end of the text, the last line and the last quotation mark being closed if
they are open. -/
def finish (r : Reader) : Except ReadFault (List (List String)) :=
  match r.place with
  | .recordStart => .ok r.records.reverse
  | .afterReturn => .ok r.endRecord.records.reverse
  | _ => do return (← r.endField .recordStart).endRecord.records.reverse

end Reader

/-- The records of a text. An empty line is a record without fields. -/
def readRecords (separator : Char) (text : String) : Except ReadFault (List (List String)) := do
  (← text.toList.foldlM (Reader.step separator) .start).finish

/-- The records without those at the end that have no fields. -/
def dropTrailingEmpty (records : List (List String)) : List (List String) :=
  (records.reverse.dropWhile List.isEmpty).reverse

/-- The rows of a text, without the empty lines at its end. -/
def readRows (separator : Char) (text : String) : Except ReadFault (List (List String)) := do
  return dropTrailingEmpty (← readRecords separator text)

end Spreadsheet.Delimited

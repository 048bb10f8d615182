import Spreadsheet.Number.Digits
import Spreadsheet.Text.Quoted

/-!
# Cell values

A cell shows a number, a text, an error or nothing. `Value.ofLiteral` is the value of a text that
is no formula, `Value.toNumber` the number that a value counts as, `Value.display` the text shown
in a cell and `Value.serialize` a text from which the value can be read again.
-/

namespace Spreadsheet

/-- The kinds of error a cell can hold. -/
inductive ErrorKind where
  /-- The formula cannot be read. -/
  | parse
  /-- An operand is of the wrong kind, or a result is out of range. -/
  | type
  /-- A division by zero. -/
  | divideByZero
  /-- A cell that does not exist. -/
  | reference
  /-- A formula that depends on itself. -/
  | cycle
  deriving DecidableEq, Repr

/-- The short form of an error shown in a cell. -/
def ErrorKind.tag : ErrorKind → String
  | .parse => "#PARSE"
  | .type => "#TYPE"
  | .divideByZero => "#DIV/0"
  | .reference => "#REF"
  | .cycle => "#CYCLE"

/-- The place of an error among errors when cells are sorted. -/
def ErrorKind.rank : ErrorKind → Nat
  | .parse => 0
  | .type => 1
  | .divideByZero => 2
  | .reference => 3
  | .cycle => 4

/-- Why a formula cannot be read. -/
inductive ParseReason where
  | unexpectedToken
  | unterminatedString
  | unknownFunction
  | invalidReference
  | mixedCase
  deriving DecidableEq, Repr

/-- An error value. The reason belongs to errors of kind `parse`; the message explains the error
and does not distinguish it from others. -/
structure CellError where
  kind : ErrorKind
  reason : Option ParseReason
  message : String
  deriving DecidableEq

/-- What a cell holds. -/
inductive Value where
  | number (x : Binary64)
  | text (s : String)
  | error (e : CellError)
  | empty
  deriving DecidableEq

instance : Inhabited Value := ⟨.empty⟩

/-- An error of a kind that has no reason. -/
def CellError.of (kind : ErrorKind) (message : String) : CellError := ⟨kind, none, message⟩

namespace Value

/-- The values are the same: equal numbers, equal texts, errors of one kind and reason. -/
def same : Value → Value → Bool
  | .number x, .number y => x.equal y
  | .text s, .text t => s == t
  | .error e, .error f => e.kind == f.kind && e.reason == f.reason
  | .empty, .empty => true
  | _, _ => false

/-- The value of a text that is no formula: empty if it is blank, a number if it spells one, else
the text itself. -/
def ofLiteral (raw : String) : Value :=
  if Text.allBlank raw.toList then .empty
  else
    match readNumber? raw with
    | some x => .number x
    | none => .text raw

/-- The value is an error. -/
def isError : Value → Bool
  | .error _ => true
  | _ => false

/-- The value is empty. -/
def isEmpty : Value → Bool
  | .empty => true
  | _ => false

/-- The first error among the values. -/
def firstError? : List Value → Option CellError
  | [] => none
  | .error e :: _ => some e
  | _ :: values => firstError? values

/-- The number that a value counts as: an empty cell is zero and a text must spell a number. -/
def toNumber : Value → Except CellError Binary64
  | .number x => .ok x
  | .empty => .ok (.zero false)
  | .text s =>
    match readNumber? s with
    | some x => .ok x
    | none => .error (.of .type s!"{Text.quoted s} is not a number")
  | .error e => .error e

/-- The result of a calculation: results that are not finite are errors. -/
def ofResult (x : Binary64) : Value :=
  if x.isFinite then .number x else .error (.of .type "numeric overflow")

end Value

/-- The integer that a number is, if it is one of fewer than sixteen digits: these are written
without a point. -/
def Binary64.shortInteger? : Binary64 → Option Int
  | .finite x =>
    if x.isInteger && x.magnitude < Nat.pow 10 15 * Binary64.one then some x.truncate else none
  | _ => none

/-- The text of a number shown in a cell: whole numbers without a point, others with a fixed count
of digits after it. -/
def Binary64.display (x : Binary64) (places : Nat) : String :=
  match x.shortInteger? with
  | some n => Binary64.integerText n
  | none => x.fixed places

/-- Why a count of digits after the point cannot be shown. -/
inductive PlacesFault where
  | negative
  | tooMany
  /-- The count does not fit 64 bits. -/
  | tooLarge
  deriving DecidableEq

namespace PlacesFault

/-- The wording of a fault. -/
def message : PlacesFault → String
  | .negative => "Format specifier missing precision"
  | .tooMany => "precision too big"
  | .tooLarge => "Too many decimal digits in format string"

/-- Why a count of digits cannot be shown, if it cannot. -/
def of? (places : Int) : Option PlacesFault :=
  if places < 0 then some .negative
  else if places < Nat.pow 2 31 then none
  else if places < Nat.pow 2 63 then some .tooMany
  else some .tooLarge

end PlacesFault

/-- The text of a number from which it can be read again. -/
def Binary64.serialize (x : Binary64) : String :=
  match x.shortInteger? with
  | some n => Binary64.integerText n
  | none => x.shortest

namespace Value

/-- The text shown in a cell. -/
def display (value : Value) (places : Nat) : String :=
  match value with
  | .number x => x.display places
  | .text s => s
  | .error e => e.kind.tag
  | .empty => ""

/-- The value is shown with digits after a point. -/
def hasPlaces : Value → Bool
  | .number x => x.shortInteger?.isNone
  | _ => false

/-- The text shown in a cell, if so many digits after the point can be shown or none are needed. -/
def display? (value : Value) (places : Int) : Except PlacesFault String :=
  match PlacesFault.of? places with
  | some fault =>
    if value.hasPlaces then .error fault else .ok (value.display 0)
  | none => .ok (value.display places.toNat)

/-- The text written for a value where its formula is not kept. -/
def serialize : Value → String
  | .number x => x.serialize
  | .text s => s
  | .error e => e.kind.tag
  | .empty => ""

end Value

end Spreadsheet

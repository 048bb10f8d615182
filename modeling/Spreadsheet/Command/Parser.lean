import Spreadsheet.Command.Basic
import Spreadsheet.Reference.Cell

/-!
# Reading commands

A line is read as a command by its words (`Command.parse?`). Paths and texts to find are the rest
of the line, with the white space in them. The numbers of commands (`Command.count`) may have any
count of digits, as all numbers may: a limit that an interpreter puts on them, such as 4300 digits,
is no part of the model.
-/

namespace Spreadsheet

/-- The numbers that commands take. -/
inductive CommandCount where
  | columnWidth
  | rowCount
  | width
  | height
  deriving DecidableEq

/-- What a number is called. -/
def CommandCount.name : CommandCount → String
  | .columnWidth => "column-width"
  | .rowCount => "row count"
  | .width => "width"
  | .height => "height"

/-- Why a line is not a command. -/
inductive CommandFault where
  | unknown (line : String)
  | setting (key : String)
  | count (what : CommandCount) (text : String)
  | column (text : String)
  /-- The text looks like a number and spells none. -/
  | integer (text : String)
  deriving DecidableEq

/-- The wording of a fault. -/
def CommandFault.message : CommandFault → String
  | .unknown line => s!"Unknown command: {Text.quoted line}"
  | .setting key => s!"Unknown setting {Text.quoted key}"
  | .count what text => s!"{what.name} must be a non-negative integer, got {Text.quoted text}"
  | .column text => s!"Not a column: {Text.quoted text}"
  | .integer text => integerMessage text

namespace Command

/-- The number that a word spells. -/
def count (what : CommandCount) (word : List Char) : Except CommandFault Nat :=
  if !Text.allDigits word then .error (.count what (String.ofList word))
  else if word.all Text.isDecimal then .ok (Text.digitsValue word)
  else .error (.integer (String.ofList word))

/-- The column that a word names, in letters of either case. -/
def column (word : List Char) : Except CommandFault Nat :=
  match ColumnName.ofText? (Text.upper word) with
  | some col => .ok col
  | none => .error (.column (String.ofList word))

/-- The line after its first word, without white space around it. -/
def restAfter (word : String) (line : List Char) : String :=
  String.ofList (Text.strip ((Text.strip line).drop word.length))

/-- The command with the given words, if they are one. The line is what they are the words of. -/
def ofWords? (line : List Char) (name : String) (args : List (List Char)) :
    Option (Except CommandFault Command) :=
  match name, args with
  | "help", [] => some (.ok .help)
  | "new", [] => some (.ok .new)
  | "set", [key, value] => some <|
    if String.ofList key = "column-width" then .setColumnWidth <$> count .columnWidth value
    else .error (.setting (String.ofList key))
  | "save", _ :: _ => some (.ok (.save (.ofText (restAfter "save" line))))
  | "find", _ :: _ => some (.ok (.find (restAfter "find" line)))
  | "sort", [word] => some (.sort <$> column word)
  | "fit", [word] => some (.fit <$> column word)
  | "fix", [word, unit] =>
    if String.ofList unit = "rows" ∨ (String.ofList unit = "row" ∧ word = ['1']) then
      some (.fix <$> count .rowCount word)
    else none
  | "resize", [width, height] => some do
    let columns ← count .width width
    let rows ← count .height height
    return .resize columns rows
  | _, _ => none

/-- The command that a line spells, none if the line is blank. -/
def parse? (line : String) : Except CommandFault (Option Command) :=
  match Text.words line.toList with
  | [] => .ok none
  | name :: args =>
    match ofWords? line.toList (String.ofList name) args with
    | some command => some <$> command
    | none => .error (.unknown (Text.stripped line))

end Command

end Spreadsheet

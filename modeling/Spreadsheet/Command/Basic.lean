import Spreadsheet.Files.Path
import Spreadsheet.Reference.ColumnName
import Spreadsheet.Text.Digit

/-!
# Commands

What can be asked for on a command line (`Command`), and how it is written (`Command.display`).
-/

namespace Spreadsheet

/-- A command. -/
inductive Command where
  /-- Shows what commands there are. -/
  | help
  /-- Replaces the sheet by an empty one. -/
  | new
  /-- Sets the width of the column with the cursor. -/
  | setColumnWidth (width : Nat)
  /-- Saves the sheet. -/
  | save (path : Path)
  /-- Moves the cursor to the next cell with a text. -/
  | find (text : String)
  /-- Sorts the rows by a column. -/
  | sort (column : Nat)
  /-- Makes a column as wide as its contents. -/
  | fit (column : Nat)
  /-- Fixes rows at the top. -/
  | fix (rows : Nat)
  /-- Grows the sheet. -/
  | resize (columns rows : Nat)
  deriving DecidableEq

namespace Command

/-- A number as it is written in a command. -/
def countText (n : Nat) : String := String.ofList (Text.decimalDigits n)

/-- A number of rows as it is written in a command. -/
def rowsText (n : Nat) : String := countText n ++ if n = 1 then " row" else " rows"

/-- The line for a command. -/
def display : Command → String
  | .help => "help"
  | .new => "new"
  | .setColumnWidth width => "set column-width " ++ countText width
  | .save path => "save " ++ path.text
  | .find text => "find " ++ text
  | .sort column => "sort " ++ ColumnName.text column
  | .fit column => "fit " ++ ColumnName.text column
  | .fix rows => "fix " ++ rowsText rows
  | .resize columns rows => "resize " ++ countText columns ++ " " ++ countText rows

/-- What each command does, by its first word. -/
def overview : List (String × String) := [
  ("help", "Show this overview of all commands."),
  ("new", "Discard the current sheet and start an empty one. Save first."),
  ("set", "set column-width N: set the width of the cursor's column to N."),
  ("save", "save PATH: save the sheet. .csv/.tsv/.txt or .xlsx picks the format."),
  ("find", "find TEXT: jump to the next text cell containing TEXT, wrapping around."),
  ("sort", "sort COL: sort the rows below the fixed rows by column COL."),
  ("fit", "fit COL: make column COL just wide enough for its contents."),
  ("fix", "fix N rows (or fix 1 row): pin the first N rows; sorting leaves them alone."),
  ("resize", "resize W H: grow the sheet to W columns and H rows.")]

/-- A line of the overview, with the word in a column of eight characters. -/
def overviewLine (word text : String) : List Char :=
  word.toList ++ List.replicate (8 - word.length) ' ' ++ text.toList

/-- The overview of all commands. -/
def helpText : String :=
  String.ofList (Text.joinWith ['\n'] (overview.map fun (word, text) => overviewLine word text))

end Command

end Spreadsheet

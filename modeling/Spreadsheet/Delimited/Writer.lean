import Spreadsheet.Text.Split

/-!
# Writing delimited text

A row is a line of fields with a separator between neighbours. A field is put in quotation marks
if it holds a separator, a quotation mark or a line feed, and the quotation marks in it are
doubled. A row of one empty field is a pair of quotation marks, so that it differs from a row
without fields.
-/

namespace Spreadsheet.Delimited

/-- The field has to be put in quotation marks. -/
def needsQuotes (separator : Char) (field : List Char) : Bool :=
  field.any fun c => c == separator || c == '"' || c == '\n'

/-- The field in quotation marks. -/
def quoteField (field : List Char) : List Char :=
  '"' :: field.flatMap (fun c => if c = '"' then ['"', '"'] else [c]) ++ ['"']

/-- The field as it stands in a line. -/
def fieldText (separator : Char) (field : List Char) : List Char :=
  if needsQuotes separator field then quoteField field else field

/-- The line of a row, with its end. -/
def rowText (separator : Char) (row : List String) : List Char :=
  if row = [""] then quoteField [] ++ ['\n']
  else Text.joinWith [separator] (row.map fun field => fieldText separator field.toList) ++ ['\n']

/-- The lines of all rows. -/
def writeRows (separator : Char) (rows : List (List String)) : String :=
  String.ofList (rows.flatMap (rowText separator))

end Spreadsheet.Delimited

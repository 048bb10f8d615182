import Spreadsheet.Delimited.Detect
import Spreadsheet.Delimited.Reader
import Spreadsheet.Delimited.Separator
import Spreadsheet.Sheet.Build

/-!
# Sheets from delimited text

The rows of a delimited text become the rows of a sheet (`Delimited.load`). The first one may give
the names of the columns instead; a column whose name is blank stays without one.
-/

namespace Spreadsheet.Delimited

/-- Why a text cannot be loaded. -/
inductive LoadFault where
  | separator (fault : SeparatorFault)
  | malformed (fault : ReadFault)
  | noCells
  | header (fault : BuildFault)
  deriving DecidableEq

/-- The wording of a fault. -/
def LoadFault.message : LoadFault → String
  | .separator fault => fault.message
  | .malformed fault => s!"Malformed CSV: {fault.message}"
  | .noCells => "No cells found"
  | .header fault => s!"Invalid header row: {fault.message}"

/-- The name that a field of the first row gives to its column. -/
def headerName? (field : String) : Option String :=
  let name := Text.stripped field
  if name.isEmpty then none else some name

/-- The names in the first row, if the text has them, and the rows of cells. -/
def splitHeader (header : Bool) : List (List String) → List (Option String) × List (List String)
  | [] => ([], [])
  | first :: rest => if header then (first.map headerName?, rest) else ([], first :: rest)

/-- The sheet with the given rows. -/
def ofRows (rows : List (List String)) (header : Bool) (options : Options) (functions : Registry) :
    Except LoadFault Sheet :=
  let (names, cells) := splitHeader header rows
  if cells.isEmpty && names.isEmpty then .error .noCells
  else (Sheet.ofRows cells names options functions).mapError .header

/-- The sheet that a text with the given separator holds. -/
def loadSeparated (separator : Char) (text : String) (header : Bool) (options : Options)
    (functions : Registry) : Except LoadFault Sheet := do
  ofRows (← (readRows separator text).mapError .malformed) header options functions

/-- The separator to read a text with: the one of the setting, or else the one that the text is
found to have. -/
def separatorFor (setting : Option String) (text : String) : Except SeparatorFault Char :=
  match setting with
  | some setting => separator setting
  | none => .ok (detect text)

/-- The sheet that a text holds. The separator is looked for if none is set. -/
def load (setting : Option String) (text : String) (header : Bool) (options : Options)
    (functions : Registry) : Except LoadFault Sheet := do
  let c ← (separatorFor setting text).mapError .separator
  loadSeparated c text header options functions

end Spreadsheet.Delimited

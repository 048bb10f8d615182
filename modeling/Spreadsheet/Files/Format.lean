import Spreadsheet.Files.Path
import Spreadsheet.Text.Case
import Spreadsheet.Text.Quoted

/-!
# File formats

The suffix of a path, in either case, says which format a file has (`FileFormat.ofPath`). Not every
setting goes with every format (`refuseSettings`).
-/

namespace Spreadsheet

/-- The formats of files that hold sheets. -/
inductive FileFormat where
  /-- Delimited text. -/
  | delimited
  /-- Delimited text whose separator is a tab. -/
  | tabbed
  | workbook
  deriving DecidableEq

/-- The suffix of a path belongs to no format. -/
structure FormatFault where
  suffix : List Char
  path : String
  deriving DecidableEq

/-- The wording of a fault. -/
def FormatFault.message (fault : FormatFault) : String :=
  let suffix := if fault.suffix.isEmpty then "(none)" else String.ofList fault.suffix
  s!"Unsupported file type {Text.quoted suffix}: {Text.quoted fault.path}"

namespace FileFormat

/-- The formats by their suffixes. -/
def suffixes : List (String × FileFormat) := [
  (".csv", .delimited), (".txt", .delimited), (".tsv", .tabbed), (".xlsx", .workbook),
  (".xlsm", .workbook)]

/-- The format of the file with the given path. -/
def ofPath (path : String) : Except FormatFault FileFormat :=
  let suffix := Text.lower (Path.ofText path).suffix
  match suffixes.lookup (String.ofList suffix) with
  | some format => .ok format
  | none => .error ⟨suffix, path⟩

/-- The extensions of files that are opened as workbooks. -/
def workbookExtensions : List String := [".xlsx", ".xlsm", ".xltx", ".xltm"]

end FileFormat

/-- Files with the extension are not opened as workbooks. -/
structure ExtensionFault where
  extension : String
  deriving DecidableEq

/-- The wording of a fault. Two older kinds of workbooks have one of their own. -/
def ExtensionFault.message (fault : ExtensionFault) : String :=
  match fault.extension with
  | ".xls" => "openpyxl does not support the old .xls file format, please use xlrd to read this " ++
    "file, or convert it to the more recent .xlsx file format."
  | ".xlsb" => "openpyxl does not support binary format .xlsb, please convert this file to " ++
    ".xlsx format if you want to open it with openpyxl"
  | extension => s!"openpyxl does not support {extension} file format, please check you can " ++
    "open it with Excel first. Supported formats are: " ++
    String.intercalate "," FileFormat.workbookExtensions

/-- Refuses a path whose extension is not that of a workbook. -/
def FileFormat.checkExtension (path : String) : Except ExtensionFault Unit :=
  let extension := String.ofList (Text.lower (Path.extension path))
  if workbookExtensions.contains extension then .ok () else .error ⟨extension⟩

/-! ## Settings -/

/-- A setting is given to an action that has no use for it. -/
structure SettingFault where
  action : String
  setting : String
  deriving DecidableEq

/-- The wording of a fault. -/
def SettingFault.message (fault : SettingFault) : String :=
  s!"{fault.action}() got an unexpected keyword argument '{fault.setting}'"

/-- Refuses the first of the named settings that is given. -/
def refuseSettings (action : String) (settings : List (String × Bool)) :
    Except SettingFault Unit :=
  match settings.find? (·.2) with
  | some (setting, _) => .error ⟨action, setting⟩
  | none => .ok ()

end Spreadsheet

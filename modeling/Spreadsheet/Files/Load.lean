import Spreadsheet.Delimited.Load
import Spreadsheet.Files.Basic
import Spreadsheet.Files.Encoding
import Spreadsheet.Files.Format
import Spreadsheet.Workbook.Import

/-!
# Loading files

A file of delimited text or a workbook as a sheet (`Files.loadDelimited`, `Files.loadWorkbook`), and
either of them by the suffix of the path (`Files.loadSheet`).
-/

namespace Spreadsheet

/-- How a file is loaded. -/
structure LoadSettings where
  /-- The first row gives the names of the columns. -/
  header : Bool
  /-- The separator of delimited text, which is looked for if there is none. -/
  separator : Option String
  /-- The encoding of delimited text, UTF-8 if there is none. -/
  encoding : Option Encoding
  options : Options
  functions : Registry

/-- Why a text cannot be read from a file. -/
inductive TextFault where
  | file (fault : FileFault)
  | decode (fault : DecodeFault)
  /-- The file holds a workbook. -/
  | workbook
  deriving DecidableEq

/-- Why a workbook cannot be read from a file. -/
inductive WorkbookFault where
  | extension (fault : ExtensionFault)
  | file (fault : FileFault)
  /-- The file holds no workbook. -/
  | noWorkbook
  | unfinished
  | width (fault : Workbook.WidthFault)
  deriving DecidableEq

/-- The wording of a fault of the file with the given path. -/
def WorkbookFault.message (path : String) : WorkbookFault → String
  | .extension fault => fault.message
  | .file fault => fault.message path
  | .noWorkbook => "File is not a zip file"
  | .unfinished => Text.quoted "There is no item named '[Content_Types].xml' in the archive"
  | .width fault => fault.message

/-- Why a file cannot be loaded. -/
inductive FileLoadFault where
  | format (fault : FormatFault)
  | setting (fault : SettingFault)
  | unreadable (path : String)
  /-- The path has a character that no path has. -/
  | nullCharacter
  | delimited (fault : Delimited.LoadFault)
  | width (fault : Workbook.WidthFault)
  | worksheet (fault : Workbook.ImportFault)
  deriving DecidableEq

/-- The wording of a fault. -/
def FileLoadFault.message : FileLoadFault → String
  | .format fault => fault.message
  | .setting fault => fault.message
  | .unreadable path => s!"Cannot read {Text.quoted path}"
  | .nullCharacter => FileFault.nullCharacter.message ""
  | .delimited fault => fault.message
  | .width fault => fault.message
  | .worksheet fault => fault.message

namespace Files

/-- The text that a file keeps. -/
def readText (files : Files) (path : String) (encoding : Encoding) : Except TextFault String := do
  match ← (files.read path).mapError .file with
  | .bytes bytes => (encoding.decode bytes).mapError .decode
  | .workbook _ | .unfinished => .error .workbook

/-- The fault of a file of delimited text that cannot be read. -/
def textLoadFault (path : String) : TextFault → FileLoadFault
  | .file .nullCharacter => .nullCharacter
  | _ => .unreadable path

/-- The sheet of a file of delimited text. -/
def loadDelimited (files : Files) (path : String) (settings : LoadSettings) :
    Except FileLoadFault Sheet := do
  let text ← (files.readText path (settings.encoding.getD .utf8)).mapError (textLoadFault path)
  (Delimited.load settings.separator text settings.header settings.options
    settings.functions).mapError .delimited

/-- The workbook of a file. -/
def readWorkbook (files : Files) (path : String) : Except WorkbookFault Workbook := do
  (FileFormat.checkExtension path).mapError .extension
  match ← (files.read path).mapError .file with
  | .workbook workbook =>
    match workbook.readFault? with
    | some fault => .error (.width fault)
    | none => return workbook
  | .bytes _ => .error .noWorkbook
  | .unfinished => .error .unfinished

/-- The fault of a workbook that cannot be read. -/
def workbookLoadFault (path : String) : WorkbookFault → FileLoadFault
  | .file .nullCharacter => .nullCharacter
  | .width fault => .width fault
  | _ => .unreadable path

/-- The sheet of a workbook. Delimiters and encodings are for delimited text. -/
def loadWorkbook (files : Files) (path : String) (settings : LoadSettings) :
    Except FileLoadFault Sheet := do
  (refuseSettings "load_xlsx" [("delimiter", settings.separator.isSome),
    ("encoding", settings.encoding.isSome)]).mapError .setting
  let workbook ← (files.readWorkbook path).mapError (workbookLoadFault path)
  match workbook.activeSheet? with
  | some worksheet =>
    (Workbook.sheetOf worksheet settings.header settings.options settings.functions).mapError
      .worksheet
  | none => .error (.unreadable path)

/-- The sheet of a file, in the format that the suffix of its path names. -/
def loadSheet (files : Files) (path : String) (settings : LoadSettings) :
    Except FileLoadFault Sheet := do
  match ← (FileFormat.ofPath path).mapError .format with
  | .workbook => files.loadWorkbook path settings
  | .delimited | .tabbed => files.loadDelimited path settings

end Files

end Spreadsheet

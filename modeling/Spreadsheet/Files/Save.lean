import Spreadsheet.Delimited.Dump
import Spreadsheet.Files.Encoding
import Spreadsheet.Files.Format
import Spreadsheet.Files.Medium
import Spreadsheet.Workbook.Draft

/-!
# Saving files

A sheet as a file of delimited text or as a workbook (`Medium.saveDelimited`,
`Medium.saveWorkbook`), and either of them by the suffix of the path (`Medium.saveSheet`), on any
medium. Each gives the files as they are after the attempt, with the fault if it failed.
-/

namespace Spreadsheet

/-- How a sheet is saved. -/
structure SaveSettings where
  /-- Formulas are saved as they were entered, in delimited text. -/
  formulas : Option Bool
  /-- The names of the columns are the first row. -/
  header : Bool
  /-- The separator of delimited text, the usual one of the format if there is none. -/
  separator : Option String
  /-- The encoding of delimited text, UTF-8 if there is none. -/
  encoding : Option Encoding
  /-- The title of the worksheet. -/
  title : Option String

/-- The settings for a sheet that is saved without any. -/
def SaveSettings.standard : SaveSettings := ⟨none, false, none, none, none⟩

/-- The title of a worksheet that is given none. -/
def usualTitle : String := "Sheet1"

/-- Why a sheet cannot be saved. -/
inductive SaveFault (ε : Type := Empty) where
  | format (fault : FormatFault)
  | setting (fault : SettingFault)
  | unwritable (path : String)
  /-- The path has a character that no path has. -/
  | nullCharacter
  | separator (fault : Delimited.SeparatorFault)
  | encoding (fault : EncodeFault)
  | workbook (fault : Workbook.ExportFault)
  /-- Another fault of the medium. -/
  | other (fault : ε)
  deriving DecidableEq

/-- The wording of a fault. -/
def SaveFault.message {ε : Type} [ToString ε] : SaveFault ε → String
  | .format fault => fault.message
  | .setting fault => fault.message
  | .unwritable path => s!"Cannot write {Text.quoted path}"
  | .nullCharacter => FileFault.nullCharacter.message ""
  | .separator fault => fault.message
  | .encoding fault => fault.message
  | .workbook fault => fault.message
  | .other fault => toString fault

/-- The fault of a sheet whose file is not written. A refusal of the system is reported as one of
saving; all else is left as it is. -/
def MediumFault.saveFault {ε : Type} (path : String) : MediumFault ε → SaveFault ε
  | .system => .unwritable path
  | .nullCharacter => .nullCharacter
  | .other fault => .other fault

namespace Medium

variable {F ε : Type} [Medium F ε]

/-- The files after an attempt to save, and the fault if it failed. -/
abbrev SaveResult (F ε : Type) := F × Except (SaveFault ε) Unit

/-- Writes the file of a sheet. -/
def writeSaved (files : F) (path : String) (content : FileContent) : SaveResult F ε :=
  let (written, result) := write files path content
  (written, result.mapError (·.saveFault path))

/-- Writes a text to a file. If the encoding lacks one of its characters the file is left empty. -/
def writeText (files : F) (path : String) (encoding : Encoding) (text : String) :
    SaveResult F ε :=
  match encoding.encode text with
  | .ok bytes => writeSaved files path (.bytes bytes)
  | .error fault =>
    let (written, result) := writeSaved files path (.bytes .empty)
    (written, result >>= fun _ => .error (.encoding fault))

/-- The text of a sheet that is to be saved, with the given separator unless the settings name one.
Titles are for workbooks. -/
def savedText (usual : String) (sheet : Sheet) (settings : SaveSettings) :
    Except (SaveFault ε) String := do
  (refuseSettings "save_csv" [("title", settings.title.isSome)]).mapError .setting
  (Delimited.dump (settings.separator.getD usual) sheet (settings.formulas.getD false)
    settings.header).mapError .separator

/-- Saves a sheet as delimited text, with the given separator unless the settings name one. -/
def saveDelimitedWith (files : F) (usual : String) (sheet : Sheet) (path : String)
    (settings : SaveSettings) : SaveResult F ε :=
  match savedText usual sheet settings with
  | .ok text => writeText files path (settings.encoding.getD .utf8) text
  | .error fault => (files, .error fault)

/-- Saves a sheet as delimited text. -/
def saveDelimited (files : F) (sheet : Sheet) (path : String) (settings : SaveSettings) :
    SaveResult F ε :=
  saveDelimitedWith files "," sheet path settings

/-- The workbook of a sheet that is to be saved. Formulas as they were entered, delimiters and
encodings are for delimited text. -/
def savedWorkbook (storage : Workbook.Storage) (sheet : Sheet) (settings : SaveSettings) :
    Except (SaveFault ε) Workbook := do
  (refuseSettings "save_xlsx" [("formulas", settings.formulas.isSome),
    ("delimiter", settings.separator.isSome),
    ("encoding", settings.encoding.isSome)]).mapError .setting
  (Workbook.ofSheet storage sheet settings.header
    (settings.title.getD usualTitle)).mapError .workbook

/-- Saves a sheet as a workbook. -/
def saveWorkbook (files : F) (sheet : Sheet) (path : String) (settings : SaveSettings) :
    SaveResult F ε :=
  match savedWorkbook (storage F) sheet settings with
  | .ok workbook => writeSaved files path (.workbook workbook)
  | .error fault => (files, .error fault)

/-- Saves a sheet in the format that the suffix of the path names. -/
def saveSheet (files : F) (sheet : Sheet) (path : String) (settings : SaveSettings) :
    SaveResult F ε :=
  match FileFormat.ofPath path with
  | .ok .workbook => saveWorkbook files sheet path settings
  | .ok .tabbed => saveDelimitedWith files "\t" sheet path settings
  | .ok .delimited => saveDelimited files sheet path settings
  | .error fault => (files, .error (.format fault))

end Medium

namespace Files

export Medium (saveDelimited saveWorkbook saveSheet)

/-- The files of a tree after an attempt to save, and the fault if it failed. -/
abbrev SaveResult := Medium.SaveResult Files Empty

/-! ## Workbooks put together by hand -/

/-- Why a workbook that was put together by hand cannot be saved. -/
inductive DraftFault where
  | draft (fault : Workbook.DraftFault)
  | file (fault : FileFault)
  | write (fault : Workbook.WriteFault)
  deriving DecidableEq

/-- Saves a workbook that was put together by hand. If it cannot be written the file is left
unfinished. -/
def saveDraft (files : Files) (path : String) (draft : Workbook.Draft) :
    Files × Except DraftFault Unit :=
  match draft.workbook with
  | .error fault => (files, .error (.draft fault))
  | .ok workbook =>
    let (content, result) :=
      match draft.writeFault? with
      | none => (FileContent.workbook workbook, .ok ())
      | some fault => (.unfinished, .error (.write fault))
    match files.write path content with
    | .ok written => (written, result)
    | .error fault => (files, .error (.file fault))

end Files

end Spreadsheet

import Spreadsheet.Reference.Cell
import Spreadsheet.Workbook.Export

/-!
# Workbooks put together by hand

A `Draft` says what is to be in a workbook: the contents, widths and frozen part of its first
worksheet, and the contents of a second one if there is to be one. `Draft.workbook` is the workbook
that is kept. Columns that do not exist and contents that cannot be kept are found when it is
written (`Draft.writeFault?`).
-/

namespace Spreadsheet.Workbook

/-- A width set for the column with some letters, or for the columns from the first to the last,
counted from one, if both are given. -/
structure WidthSetting where
  letters : String
  first : Option Int
  last : Option Int
  width : Binary64
  deriving DecidableEq

namespace WidthSetting

/-- The setting in place of an earlier one for the same letters. The columns of that one stay where
no others are given. -/
def after (setting earlier : WidthSetting) : WidthSetting :=
  { setting with
    first := setting.first <|> earlier.first
    last := setting.last <|> earlier.last }

/-- The settings with one more. -/
def add (settings : List WidthSetting) (setting : WidthSetting) : List WidthSetting :=
  if settings.any (·.letters == setting.letters) then
    settings.map fun earlier =>
      if earlier.letters = setting.letters then setting.after earlier else earlier
  else settings ++ [setting]

/-- The width that is set. A first or last column of zero counts as none. -/
def columnWidth (setting : WidthSetting) : Except ColumnFault ColumnWidth :=
  match setting.first.filter (· != 0), setting.last.filter (· != 0) with
  | some first, some last => .ok ⟨first, last, setting.width⟩
  | _, _ => do
    let col ← columnNumber setting.letters.toList
    return ⟨col, col, setting.width⟩

end WidthSetting

/-- Why a text is no name of the first cell that is not frozen. -/
inductive FreezeFault where
  | row (digits : String)
  | column (fault : ColumnFault)
  deriving DecidableEq

/-- The wording of a fault. -/
def FreezeFault.message : FreezeFault → String
  | .row digits => integerMessage digits
  | .column fault => fault.message

/-- Refuses a text that names no first cell that is not frozen. The letters of a name end at its
first digit, or before its last character if it has no digit. -/
def checkFreeze (name : String) : Except FreezeFault Unit :=
  let cs := name.toList
  let count := min (cs.takeWhile (!·.isDigit)).length (cs.length - 1)
  let letters := cs.take count
  let digits := cs.drop count
  if cs.isEmpty then .ok ()
  else if (Text.integer? digits).isNone then .error (.row (String.ofList digits))
  else ((columnNumber letters).map fun _ => ()).mapError .column

/-- What is to be in a workbook. -/
structure Draft where
  rows : Table Content
  widths : List WidthSetting
  /-- The name of the first cell of the first worksheet that is not frozen. -/
  freeze : Option String
  /-- The only row of the second worksheet, if there is to be one. -/
  second : Option (List Content)
  active : Nat

/-- Why no workbook can be made of a draft. -/
inductive DraftFault where
  | control (fault : ControlFault)
  | freeze (fault : FreezeFault)
  deriving DecidableEq

/-- Why the workbook of a draft cannot be written. -/
inductive WriteFault where
  | column (fault : ColumnFault)
  | content (fault : KeepFault)
  deriving DecidableEq

namespace Draft

/-- The title of a second worksheet. -/
def secondTitle : String := "Sheet1"

/-- The widths that are set, those of the same letters put together. -/
def settings (draft : Draft) : List WidthSetting := draft.widths.foldl WidthSetting.add []

/-- The workbook as it is kept. The first worksheet is active unless another one is. -/
def workbook (draft : Draft) : Except DraftFault Workbook := do
  let rows ← (enterRows .standard draft.rows).mapError .control
  (checkFreeze (draft.freeze.getD "")).mapError .freeze
  let widths := draft.settings.filterMap (·.columnWidth.toOption)
  let first := Worksheet.make .standard initialTitle rows widths draft.freeze
  match draft.second with
  | none => return ⟨[first], 0⟩
  | some row =>
    let rows ← (enterRows .standard [row]).mapError .control
    let second := .make .standard secondTitle rows [] none
    return ⟨[first, second], if draft.active < 2 then draft.active else 0⟩

/-- Why the workbook cannot be written, if it cannot: the fault of the first width set for a column
that does not exist, else of the first content that cannot be kept. -/
def writeFault? (draft : Draft) : Option WriteFault :=
  match draft.settings.mapM WidthSetting.columnWidth with
  | .error fault => some (.column fault)
  | .ok _ =>
    ((draft.rows.flatten ++ draft.second.getD []).findSome? Content.keepFault?).map .content

end Draft

end Spreadsheet.Workbook

import Spreadsheet.Files.Basic

/-!
# Media

A `Medium` is what a sheet is saved with that is no part of saving itself: files of any kind that
can be written, and what workbooks keep of what is put into them. Writing may fail in any way, and
may have changed the files all the same. The trees of `Files` are one medium.
-/

namespace Spreadsheet

/-- Why a file is not written. -/
inductive MediumFault (ε : Type := Empty) where
  /-- The system refuses it. -/
  | system
  /-- The path has a character that no path has. -/
  | nullCharacter
  /-- Any other fault. -/
  | other (fault : ε)
  deriving DecidableEq

/-- Files that can be written, and the storage of the workbooks among them. -/
class Medium (F : Type) (ε : outParam Type) where
  storage (F) : Workbook.Storage
  /-- Writes the file of a path. The files are those that there are afterwards, also if that
  failed. -/
  write : F → String → FileContent → F × Except (MediumFault ε) Unit

instance instToStringEmpty : ToString Empty where
  toString := Empty.elim

/-- Why writing a file of a tree fails. -/
def FileFault.mediumFault : FileFault → MediumFault
  | .nullCharacter => .nullCharacter
  | .missing | .exists | .notDirectory | .isDirectory | .nameTooLong => .system

instance : Medium Files Empty where
  storage := .standard
  write files path content :=
    match files.write path content with
    | .ok written => (written, .ok ())
    | .error fault => (files, .error fault.mediumFault)

end Spreadsheet

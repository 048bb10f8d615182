import Spreadsheet.Files.Path
import Spreadsheet.Text.Quoted
import Spreadsheet.Workbook.Basic

/-!
# Files

A tree of directories and files (`Files`). A file holds bytes or a workbook. A path is followed from
directory to directory up to its last name (`Files.locate`), from the root if it starts with a slash
and else from the working directory; what has that name there can be read, written (`Files.read`,
`Files.write`) or made a directory (`Files.makeDirectory`). There are no links, and everything can
be read and written that is there.
-/

namespace Spreadsheet

/-- What a file holds. -/
inductive FileContent where
  | bytes (content : ByteArray)
  | workbook (content : Workbook)
  /-- The part of a workbook that was written before the writing failed. -/
  | unfinished

/-- What stands at a place of a tree of files. -/
inductive FileEntry where
  | directory
  | file (content : FileContent)

/-- The names on the way to a place from the root of a tree. -/
abbrev Place := List (List Char)

/-- A tree of files, as the places in it that are taken beside the working directory and the
directories above it. -/
structure Files where
  /-- The working directory. -/
  here : Place
  entries : List (Place × FileEntry)

/-- Why a path cannot be read, written or made a directory. -/
inductive FileFault where
  | missing
  | exists
  | notDirectory
  | isDirectory
  | nameTooLong
  /-- The path has a character that no path has. -/
  | nullCharacter
  deriving DecidableEq

/-- The wording of a fault of the file with the given path. -/
def FileFault.message (path : String) : FileFault → String
  | .missing => s!"[Errno 2] No such file or directory: {Text.quoted path}"
  | .exists => s!"[Errno 17] File exists: {Text.quoted path}"
  | .notDirectory => s!"[Errno 20] Not a directory: {Text.quoted path}"
  | .isDirectory => s!"[Errno 21] Is a directory: {Text.quoted path}"
  | .nameTooLong => s!"[Errno 36] File name too long: {Text.quoted path}"
  | .nullCharacter => "embedded null byte"

namespace Files

/-- The tree with nothing in it but a working directory, two steps below the root. -/
def empty : Files := ⟨["tmp".toList, "sheets".toList], []⟩

/-- What stands at a place. -/
def lookup? (files : Files) (place : Place) : Option FileEntry :=
  if place.isPrefixOf files.here then some .directory else files.entries.lookup place

/-- Puts something at a place. -/
def put (files : Files) (place : Place) (entry : FileEntry) : Files :=
  { files with entries := (place, entry) :: files.entries.filter (·.1 != place) }

/-! ## Following a path -/

/-- How many bytes a name and a path may have. -/
def nameLimit : Nat := 255

@[inherit_doc nameLimit]
def pathLimit : Nat := 4095

/-- The size of a text in bytes. -/
def byteSize (cs : List Char) : Nat := (String.ofList cs).utf8ByteSize

/-- The name stands for the directory itself. -/
def isHere (name : List Char) : Bool := name == [] || name == ['.']

/-- What has a name in a directory, if anything has. -/
def find (files : Files) (place : Place) (name : List Char) :
    Except FileFault (Option FileEntry) :=
  if nameLimit < byteSize name then .error .nameTooLong else .ok (files.lookup? (place ++ [name]))

/-- The directory that has a name in a directory. That above the root is the root. -/
def enter (files : Files) (place : Place) (name : List Char) : Except FileFault Place :=
  if isHere name then .ok place
  else if name = ['.', '.'] then .ok place.dropLast
  else do
    match ← files.find place name with
    | some .directory => return place ++ [name]
    | some (.file _) => .error .notDirectory
    | none => .error .missing

/-- Where a path leads to: the directory, the name in it, and whether a slash comes after that. The
name may stand for the directory itself or the one above. -/
structure Target where
  directory : Place
  name : List Char
  slash : Bool

/-- The place of a target. -/
def Target.place (target : Target) : Place := target.directory ++ [target.name]

/-- The target is a directory that can be no other thing. -/
def Target.isDots (target : Target) : Bool := isHere target.name || target.name == ['.', '.']

/-- Refuses what is no path. -/
def checkPath (path : List Char) : Except FileFault Unit :=
  if path.contains '\x00' then .error .nullCharacter
  else if pathLimit < byteSize path then .error .nameTooLong
  else if path.isEmpty then .error .missing
  else .ok ()

/-- The names of a path, those between its slashes. Slashes at its end are left out. -/
def pathNames (path : List Char) : List (List Char) :=
  Text.cutAt '/' (path.reverse.dropWhile (· == '/')).reverse

/-- The directory from which a path leads. -/
def start (files : Files) (path : List Char) : Place :=
  if path.head? = some '/' then [] else files.here

/-- Follows a path up to its last name. -/
def locate (files : Files) (path : String) : Except FileFault Target := do
  let cs := path.toList
  checkPath cs
  return {
    directory := ← (pathNames cs).dropLast.foldlM files.enter (files.start cs)
    name := (pathNames cs).getLastD []
    slash := cs.getLast? == some '/' }

/-! ## Reading and writing -/

/-- What the file of a path holds. -/
def read (files : Files) (path : String) : Except FileFault FileContent := do
  let target ← files.locate path
  if target.isDots then .error .isDirectory
  else
    match ← files.find target.directory target.name with
    | none => .error .missing
    | some .directory => .error .isDirectory
    | some (.file content) => if target.slash then .error .notDirectory else .ok content

/-- Writes the file of a path. -/
def write (files : Files) (path : String) (content : FileContent) : Except FileFault Files := do
  let target ← files.locate path
  if target.isDots || target.slash then .error .isDirectory
  else
    match ← files.find target.directory target.name with
    | some .directory => .error .isDirectory
    | _ => .ok (files.put target.place (.file content))

/-- Makes a new directory in one that exists. -/
def makeDirectory (files : Files) (path : String) : Except FileFault Files := do
  let target ← files.locate path
  if target.isDots then .error .exists
  else
    match ← files.find target.directory target.name with
    | some _ => .error .exists
    | none => .ok (files.put target.place .directory)

end Files

end Spreadsheet

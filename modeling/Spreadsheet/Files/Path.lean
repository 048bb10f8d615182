import Spreadsheet.Text.Split

/-!
# Paths

A path is a list of names. `Path.ofText` reads one with the empty parts and the parts `.` left out,
and `Path.text` writes it. The suffix of a path is the end of its last name from the last dot on.
-/

namespace Spreadsheet

/-- A path: the slashes it starts with, if any, and its names. -/
structure Path where
  root : List Char
  parts : List (List Char)
  deriving DecidableEq

namespace Path

/-- The slashes that a path starts with. Two are different from one, and more are the same as
one. -/
def rootOf (cs : List Char) : List Char :=
  match cs.takeWhile (· == '/') with
  | [] => []
  | ['/', '/'] => ['/', '/']
  | _ => ['/']

/-- The path that a text spells. -/
def ofText (text : String) : Path where
  root := rootOf text.toList
  parts := (Text.cutAt '/' text.toList).filter fun part => part != [] && part != ['.']

/-- The text of a path, a dot if it has no parts. -/
def text (p : Path) : String :=
  if p.root.isEmpty && p.parts.isEmpty then "."
  else String.ofList (p.root ++ Text.joinWith ['/'] p.parts)

/-- The last name of a path, empty if it has none. -/
def name (p : Path) : List Char := p.parts.getLast?.getD []

/-- The name before its last dot, and the name from that dot on, if it has a dot. -/
def splitAtLastDot? (name : List Char) : Option (List Char × List Char) :=
  let after := name.reverse.takeWhile (· != '.')
  if after.length = name.length then none
  else some (name.take (name.length - after.length - 1), '.' :: after.reverse)

/-- The end of the last name from its last dot on. A dot at either end of the name starts no
suffix. -/
def suffix (p : Path) : List Char :=
  match splitAtLastDot? p.name with
  | some (stem, suffix) => if stem.isEmpty || suffix == ['.'] then [] else suffix
  | none => []

/-- The end of the text after its last slash, from the last dot on that has something other than
dots before it. -/
def extension (text : String) : List Char :=
  let name := ((Text.cutAt '/' text.toList).getLast?).getD []
  match splitAtLastDot? name with
  | some (stem, extension) => if stem.all (· == '.') then [] else extension
  | none => []

end Path

end Spreadsheet

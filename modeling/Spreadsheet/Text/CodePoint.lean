/-!
# Properties of characters, as ranges of code points

The classes and case maps of Unicode that the program needs are lists of ranges. `CodePoints.has`
decides membership, and `CaseRun.map?` applies a regular run of a case map.
-/

namespace Spreadsheet.Text

/-- A set of characters, as the first and last code points of ascending ranges. -/
abbrev CodePoints := List (Nat × Nat)

/-- The character lies in one of the ranges. -/
def CodePoints.has (ranges : CodePoints) (c : Char) : Bool :=
  ranges.any fun (first, last) => first ≤ c.toNat && c.toNat ≤ last

/-- A run of characters, every `step`-th from `first` to `last`. -/
structure LetterRun where
  first : Nat
  last : Nat
  step : Nat

/-- The character is a member of the run. -/
def LetterRun.has (run : LetterRun) (c : Char) : Bool :=
  run.first ≤ c.toNat && c.toNat ≤ run.last && (c.toNat - run.first) % run.step == 0

/-- A run of characters that a case map sends to the characters at the same distances from
`target`. -/
structure CaseRun extends LetterRun where
  target : Nat

/-- The image of a character of the run. -/
def CaseRun.map? (run : CaseRun) (c : Char) : Option Char :=
  if run.has c then some (Char.ofNat (run.target + (c.toNat - run.first))) else none

/-- A case map given by its runs and by the characters with an image of several characters. All
other characters are their own image. -/
def mapCase (runs : List CaseRun) (expansions : List (Nat × List Nat)) (c : Char) : List Char :=
  match expansions.lookup c.toNat with
  | some image => image.map Char.ofNat
  | none => [(runs.findSome? (·.map? c)).getD c]

end Spreadsheet.Text

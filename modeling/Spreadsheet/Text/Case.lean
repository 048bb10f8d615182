import Spreadsheet.Text.Table.Cased
import Spreadsheet.Text.Table.Fold
import Spreadsheet.Text.Table.LetterCase
import Spreadsheet.Text.Table.Lower
import Spreadsheet.Text.Table.Upper

/-!
# Letter case

`upper` writes a text in capitals, `lower` in small letters and `fold` in a form in which texts
that differ by case alone are the same. The maps are the full ones of Unicode: one letter may
become several, and a capital sigma at the end of a word becomes a final sigma. `letterCase?` is
the one case of all letters of a text.
-/

namespace Spreadsheet.Text

/-- The text in capital letters. -/
def upper (cs : List Char) : List Char := cs.flatMap (mapCase upperRuns upperExpansions)

/-- The caseless form of the text. -/
def fold (cs : List Char) : List Char := cs.flatMap (mapCase foldRuns foldExpansions)

/-- The first character that is not passed over has case. -/
def startsCased (cs : List Char) : Bool :=
  match cs.dropWhile caseIgnorableRanges.has with
  | [] => false
  | c :: _ => casedRanges.has c

/-- The small letters of a text, given the characters before it, the nearest first. A capital
sigma is final if a letter stands before it and none after it. -/
def lowerAfter (before : List Char) : List Char → List Char
  | [] => []
  | c :: rest =>
    let small :=
      if c = 'Σ' then [if startsCased before && !startsCased rest then 'ς' else 'σ']
      else mapCase lowerRuns lowerExpansions c
    small ++ lowerAfter (c :: before) rest

/-- The text in small letters. -/
def lower (cs : List Char) : List Char := lowerAfter [] cs

/-- The case that a text is written in. -/
inductive LetterCase where
  | upper
  | lower
  deriving DecidableEq, Repr

/-- The case of all the letters of a text, if it has letters and they have the same case. -/
def letterCase? (cs : List Char) : Option LetterCase :=
  let hasCapital := cs.any fun c => capitalRuns.any (·.has c)
  let hasSmall := cs.any fun c => smallRuns.any (·.has c)
  if cs.any titleRanges.has || hasCapital == hasSmall then none
  else some (if hasCapital then .upper else .lower)

end Spreadsheet.Text

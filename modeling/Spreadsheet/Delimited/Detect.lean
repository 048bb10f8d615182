import Spreadsheet.Text.Split
import Spreadsheet.Text.Table.Word

/-!
# Finding the separator

The separator of a text is a comma, a semicolon or a tab. `byQuotes?` looks at the characters next
to quoted fields; a text without such fields is left to `byFrequency?`, which takes the character
that stands equally often in most lines. `detect` tries one after the other on the start of the
text and takes a comma if both fail.
-/

namespace Spreadsheet.Delimited

/-- The separators that are looked for, the preferred ones first. -/
def knownSeparators : List Char := [',', '\t', ';']

/-- The member with the highest score, of several the first. -/
def firstBest {α : Type} (score : α → Nat) : List α → Option α
  | [] => none
  | x :: xs =>
    match firstBest score xs with
    | some y => if score x < score y then some y else some x
    | none => some x

/-! ## Quoted fields -/

/-- Single and double quotation marks may enclose a field. -/
def isQuote (c : Char) : Bool := c == '"' || c == '\''

/-- The character may separate fields: it is no letter, digit, quotation mark or line feed. -/
def maySeparate (c : Char) : Bool := !(c == '\n' || isQuote c || Text.wordRanges.has c)

/-- What stands on the two sides of a quoted field: a separator, or else the end of the line. -/
structure Surroundings where
  separatorBefore : Bool
  separatorAfter : Bool

/-- The surroundings in the order in which they are looked for. -/
def surroundings : List Surroundings :=
  [⟨true, true⟩, ⟨false, true⟩, ⟨true, false⟩, ⟨false, false⟩]

/-- The start of a quoted field: the separator before it, its quotation mark, how many characters
there are up to that one, and the text after it. -/
structure Opening where
  separator : Option Char
  quote : Char
  length : Nat
  rest : List Char

/-- The opening of a quoted field after a separator, which a space may follow. -/
def openingAfterSeparator? : List Char → Option Opening
  | c :: ' ' :: q :: rest =>
    if isQuote q && maySeparate c then some ⟨some c, q, 3, rest⟩ else none
  | c :: q :: rest => if isQuote q && maySeparate c then some ⟨some c, q, 2, rest⟩ else none
  | _ => none

/-- The opening of a quoted field at the start of a line, with the line feed before it if the text
starts with that one. -/
def openingAtLineStart? (atLineStart : Bool) : List Char → Option Opening
  | '\n' :: q :: rest => if isQuote q then some ⟨none, q, 2, rest⟩ else none
  | q :: rest => if atLineStart && isQuote q then some ⟨none, q, 1, rest⟩ else none
  | [] => none

/-- What follows a closing quotation mark, if it is what the surroundings ask for: the separator
next to the field and the number of characters it takes. -/
def closing? (s : Surroundings) (before : Option Char) (rest : List Char) :
    Option (Option Char × Nat) :=
  if s.separatorAfter then
    match before, rest with
    | some c, d :: _ => if c = d then some (some c, 1) else none
    | none, d :: ' ' :: _ => if maySeparate d then some (some d, 2) else none
    | none, d :: _ => if maySeparate d then some (some d, 1) else none
    | _, [] => none
  else
    match rest with
    | [] => some (before, 0)
    | c :: _ => if c = '\n' then some (before, 0) else none

/-- The first closing quotation mark that is surrounded as asked for: the separator next to the
field, and the number of characters up to the end of the field. -/
def close? (s : Surroundings) (o : Opening) : List Char → Option (Option Char × Nat)
  | [] => none
  | c :: rest =>
    match if c = o.quote then closing? s o.separator rest else none with
    | some (separator, n) => some (separator, n + 1)
    | none => (close? s o rest).map fun (separator, n) => (separator, n + 1)

/-- The quoted field at the start of a text: the separator next to it and its length. -/
def quotedField? (s : Surroundings) (atLineStart : Bool) (text : List Char) :
    Option (Option Char × Nat) := do
  let o ← if s.separatorBefore then openingAfterSeparator? text
    else openingAtLineStart? atLineStart text
  let (separator, n) ← close? s o o.rest
  return (separator, o.length + n)

/-- The separators next to the quoted fields of a text, none for a field that is a line of its own,
after `skip` characters are passed over. A field starts where the one before it has ended. -/
def quotedFields (s : Surroundings) : (skip : Nat) → (atLineStart : Bool) → List Char →
    List (Option Char)
  | _, _, [] => []
  | skip + 1, _, _ :: rest => quotedFields s skip false rest
  | 0, atLineStart, c :: rest =>
    match quotedField? s atLineStart (c :: rest) with
    | some (separator, n) => separator :: quotedFields s (n - 1) false rest
    | none => quotedFields s 0 (c == '\n') rest

/-- The known separator that stands most often next to quoted fields, of several the first. -/
def byQuotes? (text : List Char) : Option Char :=
  let found := (surroundings.map fun s => quotedFields s 0 true text).find? (!·.isEmpty)
  let known := (found.getD []).filterMap fun separator =>
    separator.filter knownSeparators.contains
  firstBest known.count known

/-! ## Frequencies -/

/-- In how many more lines than not a separator stands as often as it stands in most of them, zero
if that is not at all. -/
def regularity (counts : List Nat) : Nat :=
  match firstBest counts.count counts.eraseDups with
  | some (usual + 1) => 2 * counts.count (usual + 1) - counts.length
  | _ => 0

/-- The preferred one of the separators that are regular enough, at the highest percentage from 100
down to 91 that one of them reaches. -/
def mostRegular? (lines : Nat) (regularities : List (Char × Nat)) : Option Char :=
  (List.range 10).findSome? fun k =>
    (regularities.find? fun (_, regular) =>
      0 < regular && (100 - k) * lines ≤ 100 * regular).map Prod.fst

/-- The separator that is regular in the first ten lines, or else in the first twenty, and so on.
Empty lines do not count. -/
def byFrequency? (text : List Char) : Option Char :=
  let lines := (Text.cutAt '\n' text).filter (!·.isEmpty)
  let counts := knownSeparators.map fun separator => (separator, lines.map (·.count separator))
  (List.range ((lines.length + 9) / 10)).findSome? fun k =>
    let size := min (10 * (k + 1)) lines.length
    mostRegular? size (counts.map fun (separator, counts) =>
      (separator, regularity (counts.take size)))

/-! ## Both -/

/-- How many characters at the start of a text are looked at. -/
def sampleSize : Nat := 8192

/-- The separator of a text. -/
def detect (text : String) : Char :=
  let sample := text.toList.take sampleSize
  (byQuotes? sample <|> byFrequency? sample).getD ','

end Spreadsheet.Delimited

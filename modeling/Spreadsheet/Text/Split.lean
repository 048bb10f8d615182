/-!
# Cutting a text

`cutWhere` cuts a text at every character of a class, `cutAt` at every occurrence of one character,
and `joinWith` puts pieces together again, which gives the text that was cut (`joinWith_cutAt`).
-/

namespace Spreadsheet.Text

/-- The pieces between the characters of a class; a text without such a character is one piece. -/
def cutWhere (isCut : Char → Bool) : List Char → List (List Char)
  | [] => [[]]
  | c :: rest =>
    if isCut c then [] :: cutWhere isCut rest
    else
      match cutWhere isCut rest with
      | [] => [[c]]
      | piece :: pieces => (c :: piece) :: pieces

/-- The pieces between the occurrences of a character. -/
def cutAt (separator : Char) (cs : List Char) : List (List Char) := cutWhere (· == separator) cs

/-- The texts in a row, with `separator` between neighbours. -/
def joinWith (separator : List Char) : List (List Char) → List Char
  | [] => []
  | [piece] => piece
  | piece :: pieces => piece ++ separator ++ joinWith separator pieces

/-- A text has at least one piece. -/
theorem cutWhere_ne_nil (isCut : Char → Bool) (cs : List Char) : cutWhere isCut cs ≠ [] := by
  induction cs with
  | nil => simp [cutWhere]
  | cons c rest ih =>
    rw [cutWhere]
    split
    · simp
    · split <;> simp

/-- The pieces of a text put together again with the character that it was cut at are the text. -/
theorem joinWith_cutAt (separator : Char) (cs : List Char) :
    joinWith [separator] (cutAt separator cs) = cs := by
  induction cs with
  | nil => rfl
  | cons c rest ih =>
    simp only [cutAt] at ih
    simp only [cutAt, cutWhere]
    have hne := cutWhere_ne_nil (· == separator) rest
    revert ih hne
    generalize cutWhere (· == separator) rest = pieces
    intro ih hne
    cases pieces with
    | nil => contradiction
    | cons piece pieces =>
      by_cases hc : c = separator
      · subst hc
        simp [joinWith, ih]
      · rw [if_neg (by simpa using hc)]
        cases pieces <;> simp_all [joinWith]

/-- The text holds the other one as a run of neighbouring characters. -/
def contains (text part : List Char) : Bool :=
  part.isPrefixOf text ||
    match text with
    | [] => false
    | _ :: rest => contains rest part

end Spreadsheet.Text

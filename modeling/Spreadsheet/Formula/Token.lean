import Spreadsheet.Formula.Expr
import Spreadsheet.Formula.Fault
import Spreadsheet.Number.Decimal

/-!
# Tokens

`tokenize` cuts the text of a formula into tokens, which white space may separate, and ends them
with a `stop`. `Lexeme.scan` takes one token off the front of a text; what it takes is never empty
(`length_lt_of_scan`).
-/

namespace Spreadsheet

/-- A word of a formula. -/
inductive Lexeme where
  | number (spelling : String)
  /-- A text in quotation marks, without them and with each inner one written once. -/
  | string (content : String)
  | name (text : String)
  | arithmetic (op : Arithmetic)
  | comparison (op : Comparison)
  /-- The mark of a reference to a cell that is gone, in letters of any case. -/
  | deletedReference (spelling : String)
  | leftParen
  | rightParen
  | comma
  | colon
  /-- The end of the formula. -/
  | stop
  deriving DecidableEq

/-- A word of a formula and the count of characters before it. -/
structure Token where
  lexeme : Lexeme
  position : Nat
  deriving DecidableEq

namespace Lexeme

/-- The text of a word, for a string its content. -/
def text : Lexeme → String
  | .number spelling => spelling
  | .string content => content
  | .name text => text
  | .arithmetic op => op.symbol
  | .comparison op => op.symbol
  | .deletedReference spelling => spelling
  | .leftParen => "("
  | .rightParen => ")"
  | .comma => ","
  | .colon => ":"
  | .stop => ""

/-- The character can start a name. -/
def isNameStart (c : Char) : Bool := c.isAlpha || c == '_'

/-- The character can stand in a name after its start. -/
def isNamePart (c : Char) : Bool := c.isAlphanum || c == '_'

/-- The mark of a reference to a cell that is gone. -/
def deletedMark : List Char := ['#', 'R', 'E', 'F', '!']

/-- The content of a string after its opening quotation mark and what follows its closing one. A
mark written twice is a mark of the content. -/
def scanString : List Char → Option (List Char × List Char)
  | [] => none
  | '"' :: '"' :: rest => (scanString rest).map fun (content, after) => ('"' :: content, after)
  | '"' :: rest => some ([], rest)
  | c :: rest => (scanString rest).map fun (content, after) => (c :: content, after)

/-- Takes an operator or a punctuation mark off the front of a text, one of two characters if it
can be. -/
def scanSymbol : List Char → Option (Lexeme × List Char)
  | '<' :: '=' :: rest => some (.comparison .atMost, rest)
  | '>' :: '=' :: rest => some (.comparison .atLeast, rest)
  | '<' :: '>' :: rest => some (.comparison .notEqual, rest)
  | '=' :: rest => some (.comparison .equal, rest)
  | '<' :: rest => some (.comparison .less, rest)
  | '>' :: rest => some (.comparison .greater, rest)
  | '+' :: rest => some (.arithmetic .add, rest)
  | '-' :: rest => some (.arithmetic .sub, rest)
  | '*' :: rest => some (.arithmetic .mul, rest)
  | '/' :: rest => some (.arithmetic .div, rest)
  | '(' :: rest => some (.leftParen, rest)
  | ')' :: rest => some (.rightParen, rest)
  | ',' :: rest => some (.comma, rest)
  | ':' :: rest => some (.colon, rest)
  | _ => none

/-- The text starts like a number: with a digit, or with a point and a digit. -/
def startsNumber : List Char → Bool
  | '.' :: c :: _ => Text.isDigit c
  | c :: _ => Text.isDigit c
  | [] => false

/-- Takes a word off the front of a text that does not start with white space. -/
def scan (position : Nat) (cs : List Char) : Except ParseError (Lexeme × List Char) :=
  match cs with
  | [] => .ok (.stop, [])
  | c :: rest =>
    if startsNumber (c :: rest) then
      match Numeral.scan (c :: rest) with
      | some (numeral, after) => .ok (.number (String.ofList numeral.spelling), after)
      | none => .error ⟨.malformedNumber position, position⟩
    else if c = '"' then
      match scanString rest with
      | some (content, after) => .ok (.string (String.ofList content), after)
      | none => .error ⟨.unterminatedString, position⟩
    else if isNameStart c then
      .ok (.name (String.ofList (c :: rest.takeWhile isNamePart)), rest.dropWhile isNamePart)
    else if ((c :: rest).take 5).map Char.toUpper = deletedMark then
      .ok (.deletedReference (String.ofList ((c :: rest).take 5)), rest.drop 4)
    else
      match scanSymbol (c :: rest) with
      | some (lexeme, after) => .ok (lexeme, after)
      | none => .error ⟨.unexpectedCharacter c, position⟩

theorem length_le_of_scanString {cs content after : List Char}
    (h : scanString cs = some (content, after)) : after.length ≤ cs.length := by
  fun_induction scanString cs generalizing content with
  | case1 => cases h
  | case2 rest ih =>
    obtain ⟨⟨inner, _⟩, hinner, heq⟩ := Option.map_eq_some_iff.1 h
    cases heq
    have := ih hinner
    simp only [List.length_cons]
    omega
  | case3 rest =>
    cases h
    simp
  | case4 c rest _ _ ih =>
    obtain ⟨⟨inner, _⟩, hinner, heq⟩ := Option.map_eq_some_iff.1 h
    cases heq
    have := ih hinner
    simp only [List.length_cons]
    omega

theorem length_lt_of_scanSymbol {cs after : List Char} {lexeme : Lexeme}
    (h : scanSymbol cs = some (lexeme, after)) : after.length < cs.length := by
  unfold scanSymbol at h
  split at h <;> cases h <;> simp only [List.length_cons] <;> omega

/-- Taking a word off a text leaves less of it. -/
theorem length_lt_of_scan {position : Nat} {c : Char} {rest after : List Char} {lexeme : Lexeme}
    (h : scan position (c :: rest) = .ok (lexeme, after)) : after.length < (c :: rest).length := by
  simp only [scan] at h
  repeat' split at h
  all_goals try cases h
  · next hscan => exact Numeral.length_lt_of_scan hscan
  · next hscan =>
    have := length_le_of_scanString hscan
    simp only [List.length_cons]
    omega
  · have := (List.dropWhile_sublist isNamePart (l := rest)).length_le
    simp only [List.length_cons]
    omega
  · simp only [List.length_cons, List.length_drop]
    omega
  · next hscan => exact length_lt_of_scanSymbol hscan

end Lexeme

/-- The tokens of a text that starts at a position, up to the stop. -/
def tokensFrom (position : Nat) (cs : List Char) : Except ParseError (List Token) :=
  match cs with
  | [] => .ok [⟨.stop, position⟩]
  | c :: rest =>
    if Text.isBlank c then tokensFrom (position + 1) rest
    else
      match _h : Lexeme.scan position (c :: rest) with
      | .error e => .error e
      | .ok (lexeme, after) => do
        let tokens ← tokensFrom (position + ((c :: rest).length - after.length)) after
        return ⟨lexeme, position⟩ :: tokens
termination_by cs.length
decreasing_by
  · simp
  · exact Lexeme.length_lt_of_scan _h

/-- The tokens of the text of a formula, the last one the stop. -/
def tokenize (text : String) : Except ParseError (List Token) := tokensFrom 0 text.toList

end Spreadsheet

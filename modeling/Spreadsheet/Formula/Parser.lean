import Spreadsheet.Coord.Basic
import Spreadsheet.Formula.Function
import Spreadsheet.Formula.Token
import Spreadsheet.Number.Decimal
import Spreadsheet.Reference.Cell

/-!
# Reading formulas

`Grammar.parse` reads a formula, given the size of the sheet and the functions that may be called.
From the loosest to the tightest, a formula is

* a comparison: sums, with `=`, `<>`, `<`, `>`, `<=` or `>=` between them;
* a sum: products, with `+` or `-` between them;
* a product: signed parts, with `*` or `/` between them;
* a signed part: minus signs before a part;
* a part: a number, a string, `#REF!`, a formula in parentheses, a call of a function, or a
  reference: a cell, a range `A1:B2` or `A1:2`, or columns `A` or `A:B`.

Equal operators group from the left. References lie on the sheet, and all of a formula are written
in letters of one case.
-/

namespace Spreadsheet

/-- What a formula may refer to: the cells of a sheet of a size, and functions. -/
structure Grammar where
  nRows : Int
  nCols : Int
  functions : Registry

/-- A part of a formula read off a row of tokens: what it is, the tokens after it, fewer than
`bound`, and the letter case of the references so far. -/
structure Parsed (α : Type) (bound : Nat) where
  value : α
  rest : List Token
  case : Option Text.LetterCase
  fewer : rest.length < bound

namespace Grammar

/-- The fault of a token that cannot stand where it stands. -/
def unexpected : List Token → ParseError
  | [] => ⟨.unexpectedEnd, 0⟩
  | ⟨.stop, position⟩ :: _ => ⟨.unexpectedEnd, position⟩
  | token :: _ => ⟨.unexpectedToken token.lexeme.text, token.position⟩

/-- Reads a closing parenthesis after a part, and says where it is. -/
def closing {α : Type} {bound : Nat} (part : Parsed α bound) :
    Except ParseError (Parsed α bound × Nat) :=
  match part with
  | ⟨value, ⟨.rightParen, position⟩ :: rest, case, fewer⟩ =>
    .ok (⟨value, rest, case, Nat.lt_of_succ_lt fewer⟩, position)
  | ⟨_, rest, _, _⟩ => .error (unexpected rest)

/-- Reads a comma after a part, if there is one. -/
def comma? {α : Type} {bound : Nat} (part : Parsed α bound) : Option (Parsed α bound) :=
  match part with
  | ⟨value, ⟨.comma, _⟩ :: rest, case, fewer⟩ =>
    some ⟨value, rest, case, Nat.lt_of_succ_lt fewer⟩
  | _ => none

/-! ## References -/

/-- The letter case of the references of a formula after one more, at a position. -/
def noteCase (letters : List Char) (position : Nat) (case : Option Text.LetterCase) :
    Except ParseError (Option Text.LetterCase) :=
  let found := Text.letterCase? letters
  if case.isNone then .ok found
  else if found = case then .ok case
  else .error ⟨.mixedFormula, position⟩

/-- The letters are small. -/
def isLower (letters : List Char) : Bool := Text.letterCase? letters == some .lower

/-- Reads a reference to columns, after the letters of its first column. -/
def columnReference (g : Grammar) (letters : List Char) (first : Int) (tokens : List Token)
    (case : Option Text.LetterCase) : Except ParseError (Parsed Expr (tokens.length + 1)) :=
  match tokens with
  | ⟨.colon, _⟩ :: ⟨.name last, position⟩ :: rest => do
    let (lastLetters, digits) ← splitReference last.toList position
    if digits.isSome then .error ⟨.columnToCell (String.ofList letters) last, position⟩
    else
      let case ← noteCase lastLetters position case
      let other ← columnWithin lastLetters g.nCols position
      return {
        value := .columns (min first other) (max first other) (isLower letters)
        rest
        case
        fewer := by simp only [List.length_cons]; omega }
  | ⟨.colon, _⟩ :: rest => .error (unexpected rest)
  | rest => .ok ⟨.columns first first (isLower letters), rest, case, Nat.lt_succ_self _⟩

/-- Reads a reference to a cell or a range, after its first cell. -/
def cellReference (g : Grammar) (letters : List Char) (first : Coord) (tokens : List Token)
    (case : Option Text.LetterCase) : Except ParseError (Parsed Expr (tokens.length + 1)) :=
  let range (other : Coord) : Expr :=
    let (top, left, bottom, right) := Coord.corners first other
    .range top left bottom right (isLower letters)
  match tokens with
  | ⟨.colon, _⟩ :: ⟨.name last, position⟩ :: rest => do
    let (lastLetters, digits) ← splitReference last.toList position
    let case ← noteCase lastLetters position case
    match digits with
    | none => .error ⟨.rangeEndWithoutRow last, position⟩
    | some digits =>
      let row ← rowWithin digits g.nRows position
      let col ← columnWithin lastLetters g.nCols position
      return ⟨range ⟨row, col⟩, rest, case, by simp only [List.length_cons]; omega⟩
  | ⟨.colon, _⟩ :: ⟨.number digits, position⟩ :: rest =>
    if Text.allDigits digits.toList then do
      let row ← rowWithin digits.toList g.nRows position
      return ⟨range ⟨row, first.col⟩, rest, case, by simp only [List.length_cons]; omega⟩
    else .error (unexpected (⟨.number digits, position⟩ :: rest))
  | ⟨.colon, _⟩ :: rest => .error (unexpected rest)
  | rest => .ok ⟨.cell first (isLower letters), rest, case, Nat.lt_succ_self _⟩

/-- Reads a reference, after its first name. -/
def reference (g : Grammar) (name : String) (position : Nat) (tokens : List Token)
    (case : Option Text.LetterCase) : Except ParseError (Parsed Expr (tokens.length + 1)) := do
  let (letters, digits) ← splitReference name.toList position
  let case ← noteCase letters position case
  let col ← columnWithin letters g.nCols position
  match digits with
  | none => g.columnReference letters col tokens case
  | some digits =>
    let row ← rowWithin digits g.nRows position
    g.cellReference letters ⟨row, col⟩ tokens case

/-! ## Formulas -/

/-- The operators at a level: of products at level one, of sums at two, comparisons at three. -/
def operatorAt (level : Nat) : Lexeme → Option BinaryOp
  | .comparison op => if level = 3 then some (.comparison op) else none
  | .arithmetic .add => if level = 2 then some (.arithmetic .add) else none
  | .arithmetic .sub => if level = 2 then some (.arithmetic .sub) else none
  | .arithmetic .mul => if level = 1 then some (.arithmetic .mul) else none
  | .arithmetic .div => if level = 1 then some (.arithmetic .div) else none
  | _ => none

/-- The call of a function, if it takes that many arguments. The fault is at the closing
parenthesis. -/
def call (name : String) (arity : Arity) (args : List Expr) (position : Nat) :
    Except ParseError Expr :=
  if arity.accepts args.length then .ok (.call name args)
  else .error ⟨.argumentCount name args.length, position⟩

mutual

/-- Reads a formula of a level: a signed part at level zero, above that parts of the level below
with operators between them. -/
def expression (g : Grammar) (level : Nat) (tokens : List Token) (case : Option Text.LetterCase) :
    Except ParseError (Parsed Expr tokens.length) :=
  match level with
  | level + 1 => do
    let first ← g.expression level tokens case
    have := first.fewer
    let all ← g.operations (level + 1) first.value first.rest first.case
    return ⟨all.value, all.rest, all.case, Nat.lt_of_lt_of_le all.fewer first.fewer⟩
  | 0 =>
    match tokens with
    | ⟨.arithmetic .sub, _⟩ :: rest => do
      let operand ← g.expression 0 rest case
      return ⟨.unary .minus operand.value, operand.rest, operand.case,
        Nat.lt_succ_of_lt operand.fewer⟩
    | ⟨.number spelling, _⟩ :: rest =>
      let value := ((Numeral.read? spelling.toList).map Decimal.toBinary64).getD (.zero false)
      .ok ⟨.number value spelling, rest, case, Nat.lt_succ_self _⟩
    | ⟨.string content, _⟩ :: rest => .ok ⟨.string content, rest, case, Nat.lt_succ_self _⟩
    | ⟨.deletedReference _, _⟩ :: rest =>
      .ok ⟨.deletedReference, rest, case, Nat.lt_succ_self _⟩
    | ⟨.leftParen, _⟩ :: rest => do
      let inner ← g.expression 3 rest case
      let (inner, _) ← closing inner
      return ⟨inner.value, inner.rest, inner.case, Nat.lt_succ_of_lt inner.fewer⟩
    | ⟨.name name, position⟩ :: ⟨.leftParen, _⟩ :: rest =>
      match g.functions.find? name with
      | none => .error ⟨.unknownFunction name, position⟩
      | some function =>
        match rest with
        | ⟨.rightParen, close⟩ :: rest => do
          let value ← call name function.arity [] close
          return ⟨value, rest, case, by simp only [List.length_cons]; omega⟩
        | rest => do
          let args ← g.arguments rest case
          let (args, close) ← closing args
          let value ← call name function.arity args.value close
          return ⟨value, args.rest, args.case, by
            have := args.fewer
            simp only [List.length_cons]
            omega⟩
    | ⟨.name name, position⟩ :: rest => g.reference name position rest case
    | tokens => .error (unexpected tokens)
termination_by (tokens.length, level)

/-- Reads the operators of a level that follow a formula of that level, with their operands. -/
def operations (g : Grammar) (level : Nat) (left : Expr) (tokens : List Token)
    (case : Option Text.LetterCase) : Except ParseError (Parsed Expr (tokens.length + 1)) :=
  match tokens with
  | [] => .ok ⟨left, [], case, Nat.lt_succ_self _⟩
  | token :: rest =>
    match operatorAt level token.lexeme with
    | none => .ok ⟨left, token :: rest, case, Nat.lt_succ_self _⟩
    | some op => do
      let right ← g.expression (level - 1) rest case
      have := Nat.lt_succ_of_lt right.fewer
      let all ← g.operations level (.binary op left right.value) right.rest right.case
      return ⟨all.value, all.rest, all.case, by
        have := all.fewer
        have := right.fewer
        simp only [List.length_cons]
        omega⟩
termination_by (tokens.length, 0)

/-- Reads formulas with commas between them. -/
def arguments (g : Grammar) (tokens : List Token) (case : Option Text.LetterCase) :
    Except ParseError (Parsed (List Expr) tokens.length) := do
  let first ← g.expression 3 tokens case
  match comma? first with
  | none => return ⟨[first.value], first.rest, first.case, first.fewer⟩
  | some before => do
    have := before.fewer
    let others ← g.arguments before.rest before.case
    return ⟨before.value :: others.value, others.rest, others.case, Nat.lt_trans others.fewer this⟩
termination_by (tokens.length, 4)

end

/-- Reads a formula that fills its text. -/
def parse (g : Grammar) (text : String) : Except ParseError Expr := do
  let tokens ← tokenize text
  let all ← g.expression 3 tokens none
  match all.rest with
  | ⟨.stop, _⟩ :: _ => return all.value
  | rest => .error (unexpected rest)

end Grammar

end Spreadsheet

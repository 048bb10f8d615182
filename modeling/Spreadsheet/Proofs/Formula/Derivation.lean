import Spreadsheet.Proofs.Formula.Reading
import Spreadsheet.Proofs.Text.Ascii

/-!
# The grammar of formulas

`Grammar.Derives` relates rows of words to the formulas that they spell, one rule for each
production; it does not say how a formula is found. From the loosest phrase to the tightest:

* a comparison is a sum, or a comparison, a comparison sign and a sum;
* a sum is a product, or a sum, `+` or `-` and a product;
* a product is a signed part, or a product, `*` or `/` and a signed part;
* a signed part is a part, or `-` and a signed part;
* a part is a number, a string, `#REF!`, a comparison in parentheses, a call with comparisons for
  arguments, or a reference.

A reference is a cell, a cell and `:` and a cell or a row number, a column, or a column and `:` and
a column (`Grammar.Refers`). All letters of references have the one case `case`.
-/

namespace Spreadsheet

namespace Grammar

variable (g : Grammar) (case : Text.LetterCase)

/-! ## References -/

/-- The letters, all of the case, name a column of the sheet. -/
structure IsColumn (letters : List Char) (col : Int) : Prop where
  nonempty : letters ≠ []
  oneCase : ∀ c ∈ letters, case.has c
  value : (ColumnName.ofLetters letters : Int) = col
  within : col < g.nCols

/-- The decimal digits spell the number of a row of the sheet, counted from one. -/
structure IsRow (digits : List Char) (row : Int) : Prop where
  nonempty : digits ≠ []
  decimal : ∀ c ∈ digits, Text.isDecimal c
  value : (Text.digitsValue digits : Int) = row + 1
  within : 0 ≤ row ∧ row < g.nRows

/-- The name is that of a cell: the letters of its column and the number of its row. -/
def IsCell (name : String) (cell : Coord) : Prop :=
  ∃ letters digits, name.toList = letters ++ digits ∧ g.IsColumn case letters cell.col ∧
    g.IsRow digits cell.row

/-- The range with two opposite corners. -/
def rangeBetween (case : Text.LetterCase) (a b : Coord) : Expr :=
  .range (min a.row b.row) (min a.col b.col) (max a.row b.row) (max a.col b.col) case.isLower

/-- What a reference refers to. -/
inductive Refers : List Lexeme → Expr → Prop
  | cell {name : String} {target : Coord} (h : g.IsCell case name target) :
      Refers [.name name] (.cell target case.isLower)
  | range {first last : String} {a b : Coord} (ha : g.IsCell case first a)
      (hb : g.IsCell case last b) :
      Refers [.name first, .colon, .name last] (rangeBetween case a b)
  /-- A row number alone ends a range in the column in which it starts. -/
  | rangeToRow {first digits : String} {a : Coord} {row : Int} (ha : g.IsCell case first a)
      (hrow : g.IsRow digits.toList row) :
      Refers [.name first, .colon, .number digits] (rangeBetween case a ⟨row, a.col⟩)
  | column {name : String} {col : Int} (h : g.IsColumn case name.toList col) :
      Refers [.name name] (.columns col col case.isLower)
  | columns {first last : String} {a b : Int} (ha : g.IsColumn case first.toList a)
      (hb : g.IsColumn case last.toList b) :
      Refers [.name first, .colon, .name last] (.columns (min a b) (max a b) case.isLower)

/-! ## Formulas -/

/-- The kinds of phrases of formulas. -/
inductive Phrase where
  | comparison
  | sum
  | product
  | signed
  | part
  deriving DecidableEq

/-- The words between parentheses in a call, given those of each argument. -/
def listed (arguments : List (List Lexeme × Expr)) : List Lexeme :=
  [Lexeme.comma].intercalate (arguments.map Prod.fst)

theorem listed_singleton (argument : List Lexeme × Expr) : listed [argument] = argument.1 := by
  simp [listed]

theorem listed_cons_cons (argument next : List Lexeme × Expr)
    (others : List (List Lexeme × Expr)) :
    listed (argument :: next :: others) = argument.1 ++ .comma :: listed (next :: others) := by
  simp [listed, List.intercalate]

/-- The words are a phrase of a kind that spells the formula. -/
inductive Derives : Phrase → List Lexeme → Expr → Prop
  | ofSum {words : List Lexeme} {e : Expr} (h : Derives .sum words e) :
      Derives .comparison words e
  | compare (op : Comparison) {before after : List Lexeme} {left right : Expr}
      (hleft : Derives .comparison before left) (hright : Derives .sum after right) :
      Derives .comparison (before ++ .comparison op :: after) (.binary (.comparison op) left right)
  | ofProduct {words : List Lexeme} {e : Expr} (h : Derives .product words e) :
      Derives .sum words e
  | add {before after : List Lexeme} {left right : Expr} (hleft : Derives .sum before left)
      (hright : Derives .product after right) :
      Derives .sum (before ++ .arithmetic .add :: after) (.binary (.arithmetic .add) left right)
  | subtract {before after : List Lexeme} {left right : Expr} (hleft : Derives .sum before left)
      (hright : Derives .product after right) :
      Derives .sum (before ++ .arithmetic .sub :: after) (.binary (.arithmetic .sub) left right)
  | ofSigned {words : List Lexeme} {e : Expr} (h : Derives .signed words e) :
      Derives .product words e
  | multiply {before after : List Lexeme} {left right : Expr} (hleft : Derives .product before left)
      (hright : Derives .signed after right) :
      Derives .product (before ++ .arithmetic .mul :: after) (.binary (.arithmetic .mul) left right)
  | divide {before after : List Lexeme} {left right : Expr} (hleft : Derives .product before left)
      (hright : Derives .signed after right) :
      Derives .product (before ++ .arithmetic .div :: after) (.binary (.arithmetic .div) left right)
  | ofPart {words : List Lexeme} {e : Expr} (h : Derives .part words e) : Derives .signed words e
  | minus {words : List Lexeme} {e : Expr} (h : Derives .signed words e) :
      Derives .signed (.arithmetic .sub :: words) (.unary .minus e)
  | number (spelling : String) :
      Derives .part [.number spelling] (.number (numberOf spelling) spelling)
  | string (content : String) : Derives .part [.string content] (.string content)
  | deletedReference (spelling : String) :
      Derives .part [.deletedReference spelling] .deletedReference
  | parenthesized {words : List Lexeme} {e : Expr} (h : Derives .comparison words e) :
      Derives .part (.leftParen :: (words ++ [.rightParen])) e
  | call {name : String} {function : Function} {arguments : List (List Lexeme × Expr)}
      (hfind : g.functions.find? name = some function)
      (haccepts : function.arity.accepts arguments.length)
      (harguments : ∀ argument ∈ arguments, Derives .comparison argument.1 argument.2) :
      Derives .part (.name name :: .leftParen :: (listed arguments ++ [.rightParen]))
        (.call name (arguments.map Prod.snd))
  | reference {words : List Lexeme} {e : Expr} (h : g.Refers case words e) : Derives .part words e

/-- The tokens spell the formula: all before the stop are a comparison, and all references in it are
written in one case. -/
def Spells (g : Grammar) (tokens : List Token) (e : Expr) : Prop :=
  ∃ case words, tokens.map Token.lexeme = words ++ [.stop] ∧ g.Derives case .comparison words e

end Grammar

end Spreadsheet

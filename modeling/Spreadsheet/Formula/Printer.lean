import Spreadsheet.Formula.Expr
import Spreadsheet.Number.Digits
import Spreadsheet.Reference.Cell

/-!
# The text of a formula

`Expr.print` writes a formula as text, with parentheses only where precedence or the order of
equal operators needs them. `Expr.printFault?` finds what in a formula has no text.
-/

namespace Spreadsheet

/-- The text in parentheses if need be. -/
def parenthesized (needed : Bool) (text : String) : String :=
  if needed then "(" ++ text ++ ")" else text

/-- Why a formula has no text. Every formula that was read from a text has one. -/
inductive PrintFault where
  | unknownOperator (symbol : String)
  /-- A column before the first has no letters. -/
  | columnIndex (index : Int)
  deriving DecidableEq

/-- The wording of a fault. -/
def PrintFault.message : PrintFault → String
  | .unknownOperator symbol => Text.quoted symbol
  | .columnIndex index => (NameFault.columnIndex index).message

namespace Expr

/-- The fault of the first of some columns that has no letters. -/
def columnFault? (cols : List Int) : Option PrintFault := (cols.find? (· < 0)).map .columnIndex

/-- The first thing in a formula that has no text, if there is one. -/
def printFault? (e : Expr) : Option PrintFault :=
  e.nodes.findSome? fun
    | .binary (.unknown symbol) _ _ => some (.unknownOperator symbol)
    | .cell target _ => columnFault? [target.col]
    | .range _ left _ right _ => columnFault? [left, right]
    | .columns first last _ => columnFault? [first, last]
    | _ => none

/-- How tightly the parts of a formula hold together, the tightest the greatest. -/
def precedence : Expr → Nat
  | .binary op _ _ => op.precedence
  | .unary _ _ => 4
  | _ => 5

/-- The text of a number: as it was written, else the shortest. -/
def numberText (value : Binary64) (spelling : String) : String :=
  if spelling.isEmpty then
    match value with
    | .finite x => if x.isInteger then Binary64.integerText x.truncate else value.shortest
    | _ => value.shortest
  else spelling

/-- A text in quotation marks, each inner one written twice. -/
def stringText (text : String) : String :=
  String.ofList ('"' :: text.toList.flatMap (fun c => if c = '"' then ['"', '"'] else [c]) ++ ['"'])

/-- The text of columns: one name for one column. -/
def columnsText (first last : Int) (lowercase : Bool) : String :=
  if first = last then Coord.columnText first lowercase
  else Coord.columnText first lowercase ++ ":" ++ Coord.columnText last lowercase

mutual

/-- The text of a formula. -/
def print : Expr → String
  | .number value spelling => numberText value spelling
  | .string text => stringText text
  | .cell target lowercase => target.name lowercase
  | .range top left bottom right lowercase =>
    Coord.name ⟨top, left⟩ lowercase ++ ":" ++ Coord.name ⟨bottom, right⟩ lowercase
  | .columns first last lowercase => columnsText first last lowercase
  | .deletedReference => "#REF!"
  | .unary op operand => op.symbol ++ parenthesized (operand.precedence < 4) operand.print
  | .binary op left right =>
    parenthesized (left.precedence < op.precedence) left.print ++ op.symbol ++
      parenthesized (right.precedence ≤ op.precedence) right.print
  | .call name args => name ++ "(" ++ String.intercalate "," (printAll args) ++ ")"

/-- The texts of formulas. -/
def printAll : List Expr → List String
  | [] => []
  | e :: es => e.print :: printAll es

end

end Expr

end Spreadsheet

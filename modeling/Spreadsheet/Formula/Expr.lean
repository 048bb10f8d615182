import Spreadsheet.Coord.Ascending
import Spreadsheet.Number.Binary64

/-!
# Formula trees

A formula is kept as a tree over numbers, texts and references, which are coordinates and not
names, so that they can move with the cells they mean. `Expr.nodes` lists a tree and all its
subtrees, `Expr.reads` the cells that evaluating it looks at.
-/

namespace Spreadsheet

/-- The operations on numbers. -/
inductive Arithmetic where
  | add
  | sub
  | mul
  | div
  deriving DecidableEq, Repr

/-- The comparisons of values. -/
inductive Comparison where
  | equal
  | notEqual
  | less
  | greater
  | atMost
  | atLeast
  deriving DecidableEq, Repr

/-- An operator between two operands. -/
inductive BinaryOp where
  | arithmetic (op : Arithmetic)
  | comparison (op : Comparison)
  /-- A symbol without meaning. No text of a formula gives a tree with one. -/
  | unknown (symbol : String)
  deriving DecidableEq, Repr

/-- An operator before its operand. Every one of them turns the sign, but only the minus can be
written in a formula. -/
inductive UnaryOp where
  | minus
  | unknown (symbol : String)
  deriving DecidableEq, Repr

/-- A formula. References in small letters remember that, so that they are written so again. -/
inductive Expr where
  /-- A number, with the text it was written as; an empty one if it was not written. -/
  | number (value : Binary64) (spelling : String)
  | string (text : String)
  | cell (target : Coord) (lowercase : Bool)
  /-- The cells from one corner to the opposite one. -/
  | range (top left bottom right : Int) (lowercase : Bool)
  /-- All cells of the columns from the first to the last. -/
  | columns (first last : Int) (lowercase : Bool)
  /-- A reference to a cell that is gone. -/
  | deletedReference
  | unary (op : UnaryOp) (operand : Expr)
  | binary (op : BinaryOp) (left right : Expr)
  | call (name : String) (args : List Expr)

namespace Arithmetic

/-- The symbol of an operation. -/
def symbol : Arithmetic → String
  | .add => "+"
  | .sub => "-"
  | .mul => "*"
  | .div => "/"

end Arithmetic

namespace Comparison

/-- The symbol of a comparison. -/
def symbol : Comparison → String
  | .equal => "="
  | .notEqual => "<>"
  | .less => "<"
  | .greater => ">"
  | .atMost => "<="
  | .atLeast => ">="

end Comparison

namespace BinaryOp

/-- The symbol of an operator. -/
def symbol : BinaryOp → String
  | .arithmetic op => op.symbol
  | .comparison op => op.symbol
  | .unknown symbol => symbol

/-- How tightly an operator binds its operands, the tightest the greatest. -/
def precedence : BinaryOp → Nat
  | .comparison _ => 1
  | .arithmetic .add | .arithmetic .sub => 2
  | .arithmetic .mul | .arithmetic .div => 3
  | .unknown _ => 0

/-- The operator with a symbol. -/
def ofSymbol : String → BinaryOp
  | "+" => .arithmetic .add
  | "-" => .arithmetic .sub
  | "*" => .arithmetic .mul
  | "/" => .arithmetic .div
  | "=" => .comparison .equal
  | "<>" => .comparison .notEqual
  | "<" => .comparison .less
  | ">" => .comparison .greater
  | "<=" => .comparison .atMost
  | ">=" => .comparison .atLeast
  | symbol => .unknown symbol

end BinaryOp

namespace UnaryOp

/-- The symbol of an operator. -/
def symbol : UnaryOp → String
  | .minus => "-"
  | .unknown symbol => symbol

/-- The operator with a symbol. -/
def ofSymbol : String → UnaryOp
  | "-" => .minus
  | symbol => .unknown symbol

end UnaryOp

namespace Expr

/-- The tree is a reference to a cell, a range or columns. -/
def isReference : Expr → Bool
  | .cell .. | .range .. | .columns .. => true
  | _ => false

mutual

/-- The tree and all its subtrees, each before its parts. -/
def nodes : Expr → List Expr
  | .unary op operand => .unary op operand :: operand.nodes
  | .binary op left right => .binary op left right :: (left.nodes ++ right.nodes)
  | .call name args => .call name args :: nodesOfAll args
  | .number value spelling => [.number value spelling]
  | .string text => [.string text]
  | .cell target lowercase => [.cell target lowercase]
  | .range top left bottom right lowercase => [.range top left bottom right lowercase]
  | .columns first last lowercase => [.columns first last lowercase]
  | .deletedReference => [.deletedReference]

/-- The trees and all their subtrees. -/
def nodesOfAll : List Expr → List Expr
  | [] => []
  | e :: es => e.nodes ++ nodesOfAll es

end

/-- The cells that a reference covers on a sheet of `nRows` rows. Whole columns leave out the cell
`origin`, where the formula stands. -/
def coveredCells (nRows : Int) (origin : Option Coord) : Expr → List Coord
  | .cell target _ => [target]
  | .range top left bottom right _ => Coord.rectangle top left bottom right
  | .columns first last _ =>
    (Coord.rectangle 0 first (nRows - 1) last).filter (some · != origin)
  | _ => []

/-- The cells that a formula at `origin` reads, in ascending order. -/
def reads (e : Expr) (nRows : Int) (origin : Option Coord) : List Coord :=
  Coord.ascending (e.nodes.flatMap (coveredCells nRows origin))

/-- A reference of the formula is to a cell that is gone. -/
def hasDeletedReference (e : Expr) : Bool :=
  e.nodes.any fun
    | .deletedReference => true
    | _ => false

end Expr

end Spreadsheet

import Spreadsheet.Formula.Expr
import Spreadsheet.Formula.Function
import Spreadsheet.Table
import Spreadsheet.Text.Order

/-!
# Evaluation

`Expr.eval` computes the value of a formula from the values of the cells it refers to, which it
reads from a `Source`. Errors in operands are results, the left one first. Of a block the values are
read row by row up to the first that the source lacks (`Source.readBlock_eq`).
-/

namespace Spreadsheet

/-- A sheet as a formula sees it: its size and the values of its cells. -/
structure Source where
  nRows : Int
  nCols : Int
  valueAt : Coord → Except Table.IndexFault Value

/-- Why a formula has no value. One that was read from a text has one wherever the source has all
the cells that its size promises. -/
inductive EvalFault where
  | unknownComparison (symbol : String)
  | missingArgument
  | missingCell (fault : Table.IndexFault)
  deriving DecidableEq

/-- The wording of a fault. -/
def EvalFault.message : EvalFault → String
  | .unknownComparison symbol => s!"Unknown comparison {Text.quoted symbol}"
  | .missingArgument => Failure.missingArgument.message
  | .missingCell fault => fault.message "list"

/-! ## Operators -/

/-- The result of an operation on numbers. -/
def Arithmetic.apply : Arithmetic → Binary64 → Binary64 → Value
  | .add, x, y => .ofResult (x.add y)
  | .sub, x, y => .ofResult (x.sub y)
  | .mul, x, y => .ofResult (x.mul y)
  | .div, x, y =>
    if y.equal (.zero false) then .error (.of .divideByZero "") else .ofResult (x.div y)

/-- The result of an operation on values. -/
def Arithmetic.eval (op : Arithmetic) (left right : Value) : Value :=
  match Value.firstError? [left, right] with
  | some e => .error e
  | none =>
    match left.toNumber, right.toNumber with
    | .error e, _ => .error e
    | .ok _, .error e => .error e
    | .ok x, .ok y => op.apply x y

/-- The comparison holds of operands that compare like this, `none` if they do not compare. -/
def Comparison.holds : Comparison → Option Ordering → Bool
  | .equal, o => o == some .eq
  | .notEqual, o => o != some .eq
  | .less, o => o == some .lt
  | .greater, o => o == some .gt
  | .atMost, o => o == some .lt || o == some .eq
  | .atLeast, o => o == some .gt || o == some .eq

/-- The number that a value is or spells; an empty cell is zero. -/
def Value.comparableNumber? : Value → Option Binary64
  | .number x => some x
  | .empty => some (.zero false)
  | .text s => readNumber? s
  | .error _ => none

/-- The text that a value is compared by, in small letters. -/
def Value.comparableText : Value → List Char
  | .number x => x.shortest.toList
  | .text s => Text.lower s.toList
  | _ => []

/-- How two values compare: as numbers if both are or spell numbers, else as texts without regard
to case. -/
def Value.compare? (left right : Value) : Option Ordering :=
  match left.comparableNumber?, right.comparableNumber? with
  | some x, some y => x.compare? y
  | _, _ => some (Text.order left.comparableText right.comparableText)

/-- The number that stands for a truth value. -/
def Value.ofBool (b : Bool) : Value := .number (.ofNat b.toNat)

/-- The result of a comparison of values: one if it holds and zero if not. -/
def Comparison.eval (op : Comparison) (left right : Value) : Value :=
  match Value.firstError? [left, right] with
  | some e => .error e
  | none => .ofBool (op.holds (left.compare? right))

/-- The result of an operator. -/
def BinaryOp.eval (op : BinaryOp) (left right : Value) : Except EvalFault Value :=
  match op with
  | .arithmetic op => .ok (op.eval left right)
  | .comparison op => .ok (op.eval left right)
  | .unknown symbol =>
    match Value.firstError? [left, right] with
    | some e => .ok (.error e)
    | none => .error (.unknownComparison symbol)

/-- The value with its sign turned. -/
def Value.negate (value : Value) : Value :=
  match value.toNumber with
  | .ok x => .number x.neg
  | .error e => .error e

/-! ## References -/

/-- An error for a reference to what is not there. -/
def Value.noReference (message : String) : Value := .error (.of .reference message)

namespace Source

/-- The value that the source has at a place. -/
def read (source : Source) (cell : Coord) : Except EvalFault Value :=
  (source.valueAt cell).mapError .missingCell

/-- The value of a cell. -/
def cellValue (source : Source) (cell : Coord) : Except EvalFault Value :=
  if cell.Within source.nRows source.nCols then source.read cell
  else .ok (.noReference "reference outside the sheet")

/-- The values of so many cells of a row from a column on, without that of the cell `skip`. -/
def readRow (source : Source) (skip : Option Coord) (row left : Int) :
    Nat → Except EvalFault (List Value)
  | 0 => .ok []
  | width + 1 =>
    if some ⟨row, left⟩ = skip then source.readRow skip row (left + 1) width
    else do
      let value ← source.read ⟨row, left⟩
      return value :: (← source.readRow skip row (left + 1) width)

/-- The values of the cells of a block, row by row, without that of the cell `skip`. -/
def readBlock (source : Source) (skip : Option Coord) (top left : Int) (width : Nat) :
    Nat → Except EvalFault (List Value)
  | 0 => .ok []
  | height + 1 => do
    let values ← source.readRow skip top left width
    return values ++ (← source.readBlock skip (top + 1) left width height)

theorem readRow_eq (source : Source) (skip : Option Coord) (row left : Int) (width : Nat) :
    source.readRow skip row left width =
      (((Coord.span left width).map (Coord.mk row)).filter (some · != skip)).mapM source.read := by
  induction width generalizing left with
  | zero => rfl
  | succ width ih =>
    rw [readRow, Coord.span, List.map_cons, List.filter_cons]
    by_cases h : some (Coord.mk row left) = skip
    · rw [if_pos h, if_neg (by simp [h]), ih]
    · rw [if_neg h, if_pos (by simpa using h), List.mapM_cons, ih]

theorem readBlock_eq (source : Source) (skip : Option Coord) (top left : Int)
    (width height : Nat) :
    source.readBlock skip top left width height =
      ((Coord.block top left height width).filter (some · != skip)).mapM source.read := by
  induction height generalizing top with
  | zero => rfl
  | succ height ih =>
    have hblock : Coord.block top left (height + 1) width =
        (Coord.span left width).map (Coord.mk top) ++ Coord.block (top + 1) left height width := rfl
    rw [readBlock, ih, readRow_eq, hblock, List.filter_append, List.mapM_append]

/-- The values of the cells of a rectangle, row by row, without that of the cell `skip`. -/
def readRectangle (source : Source) (skip : Option Coord) (top left bottom right : Int) :
    Except EvalFault (List Value) :=
  source.readBlock skip top left (Coord.extent left right) (Coord.extent top bottom)

/-- The values that a reference in a formula at `origin` covers. Whole columns leave out the cell
`origin`. -/
def argument (source : Source) (origin : Option Coord) : Expr → Except EvalFault Argument
  | .cell target _ => do return .range ⟨[← source.cellValue target], 1, 1⟩
  | .range top left bottom right _ =>
    if source.nRows ≤ bottom ∨ source.nCols ≤ right then
      .ok (.value (.noReference "range outside the sheet"))
    else do
      return .range {
        values := ← source.readRectangle none top left bottom right
        nRows := bottom - top + 1
        nCols := right - left + 1 }
  | .columns first last _ =>
    if source.nCols ≤ last then .ok (.value (.noReference "column outside the sheet"))
    else do
      return .range {
        values := ← source.readRectangle origin 0 first (source.nRows - 1) last
        nRows := source.nRows
        nCols := last - first + 1 }
  | _ => .ok (.value .empty)

end Source

/-! ## Formulas -/

/-- The result of a call. A failure of the function is an error value. -/
def Registry.call (functions : Registry) (name : String) (args : List Argument) :
    Except EvalFault Value :=
  match functions.find? name with
  | none => .ok (.error (.of .parse s!"unknown function {name}"))
  | some function =>
    match function.apply args with
    | .ok value => .ok value
    | .error .missingArgument => .error .missingArgument
    | .error failure => .ok (.error (.of .type failure.message))

mutual

/-- The value of a formula that stands at `origin`. -/
def Expr.eval (functions : Registry) (source : Source) (origin : Option Coord) :
    Expr → Except EvalFault Value
  | .number value _ => .ok (.number value)
  | .string text => .ok (.text text)
  | .deletedReference => .ok (.noReference "reference to a deleted cell")
  | .cell target _ => source.cellValue target
  | .range top left bottom right lowercase => do
    return (← source.argument origin (.range top left bottom right lowercase)).scalar
  | .columns first last lowercase => do
    return (← source.argument origin (.columns first last lowercase)).scalar
  | .unary _ operand => do return (← operand.eval functions source origin).negate
  | .binary op left right => do
    let left ← left.eval functions source origin
    let right ← right.eval functions source origin
    op.eval left right
  | .call name args =>
    -- The arguments of a call to no function are not looked at.
    if (functions.find? name).isSome then do
      functions.call name (← Expr.evalAll functions source origin args)
    else functions.call name []

/-- The arguments of a call, evaluated in order: references as all their cells. -/
def Expr.evalAll (functions : Registry) (source : Source) (origin : Option Coord) :
    List Expr → Except EvalFault (List Argument)
  | [] => .ok []
  | arg :: args => do
    let value ←
      if arg.isReference then source.argument origin arg
      else Argument.value <$> arg.eval functions source origin
    return value :: (← Expr.evalAll functions source origin args)

end

end Spreadsheet

import Spreadsheet.Number.Sum
import Spreadsheet.Text.Case
import Spreadsheet.Value

/-!
# Functions of formulas

A function takes evaluated arguments, a reference as the values of its cells and anything else as
one value. A `Registry` holds the functions that a formula may call, by name without regard to
case; `Registry.builtin` has sums, averages, extremes, counts, absolute values, rounding and the
conditional.
-/

namespace Spreadsheet

/-- The values of a reference, row by row, with the shape of the reference. -/
structure RangeValue where
  values : List Value
  nRows : Int
  nCols : Int
  deriving DecidableEq

/-- The value of a reference to one cell. -/
def RangeValue.scalar (range : RangeValue) : Value :=
  match range.nRows == 1 && range.nCols == 1, range.values with
  | true, value :: _ => value
  | _, _ => .error (.of .type "range used where a single value is expected")

/-- An argument of a function. -/
inductive Argument where
  | value (v : Value)
  | range (r : RangeValue)
  deriving DecidableEq

/-- An argument as one value. -/
def Argument.scalar : Argument → Value
  | .value v => v
  | .range r => r.scalar

/-- An argument as all its values. -/
def Argument.values : Argument → List Value
  | .value v => [v]
  | .range r => r.values

/-- Why a function has no result. -/
inductive Failure where
  | sum (fault : Binary64.SumFault)
  | infinityToInteger
  | nanToInteger
  /-- A function with fewer arguments than it needs, which no formula text calls. -/
  | missingArgument
  | refused (message : String)
  deriving DecidableEq

/-- The wording of a failure. -/
def Failure.message : Failure → String
  | .sum .overflow => "intermediate overflow in fsum"
  | .sum .oppositeInfinities => "-inf + inf in fsum"
  | .infinityToInteger => "cannot convert float infinity to integer"
  | .nanToInteger => "cannot convert float NaN to integer"
  | .missingArgument => "list index out of range"
  | .refused message => message

/-- How many arguments a function takes. -/
structure Arity where
  least : Nat
  most : Option Nat
  deriving DecidableEq

/-- The function takes that many arguments. -/
def Arity.accepts (arity : Arity) (count : Nat) : Bool :=
  arity.least ≤ count && arity.most.all (count ≤ ·)

/-- A function that formulas can call. -/
structure Function where
  arity : Arity
  apply : List Argument → Except Failure Value

/-! ## The builtin functions -/

namespace Function

/-- The numbers of one argument. A reference gives the numbers in its cells and passes over texts
and empty cells; any other argument counts as a number, an empty one as none. An error anywhere is
the result. -/
def numbersOf : Argument → Except CellError (List Binary64)
  | .range range =>
    range.values.foldr (fun value rest =>
      match value with
      | .error e => .error e
      | .number x => rest.map (x :: ·)
      | _ => rest) (.ok [])
  | .value .empty => .ok []
  | .value value => value.toNumber.map ([·])

/-- The numbers of all arguments, or the first error. -/
def numbers : List Argument → Except CellError (List Binary64)
  | [] => .ok []
  | arg :: args => do return (← numbersOf arg) ++ (← numbers args)

/-- The result of a function of the numbers of its arguments. -/
def ofNumbers (result : List Binary64 → Except Failure Value) (args : List Argument) :
    Except Failure Value :=
  match numbers args with
  | .ok xs => result xs
  | .error e => .ok (.error e)

/-- The sum of numbers. -/
def sumOf (xs : List Binary64) : Except Failure Value :=
  match Binary64.sum? xs with
  | .ok total => .ok (.ofResult total)
  | .error fault => .error (.sum fault)

/-- The mean of numbers. -/
def meanOf (xs : List Binary64) : Except Failure Value :=
  if xs.isEmpty then .ok (.error (.of .divideByZero "AVG of no numbers"))
  else
    match Binary64.sum? xs with
    | .ok total => .ok (.ofResult (total.div (.ofNat xs.length)))
    | .error fault => .error (.sum fault)

/-- The first of the numbers that no other one precedes, zero if there are none. -/
def extreme (precedes : Binary64 → Binary64 → Bool) : List Binary64 → Binary64
  | [] => .zero false
  | x :: xs => xs.foldl (fun best y => if precedes y best then y else best) x

/-- The values that are not empty, counted up to the first error. -/
def countOf : List Value → Except CellError Nat
  | [] => .ok 0
  | .error e :: _ => .error e
  | .empty :: values => countOf values
  | _ :: values => (countOf values).map (· + 1)

/-- The result of a function of the number that its first argument counts as. -/
def ofFirstNumber (args : List Argument)
    (result : Binary64 → List Argument → Except Failure Value) : Except Failure Value :=
  match args with
  | [] => .error .missingArgument
  | arg :: rest =>
    match arg.scalar.toNumber with
    | .ok x => result x rest
    | .error e => .ok (.error e)

/-- The whole number that a number is without its fractional part. -/
def truncate : Binary64 → Except Failure Int
  | .finite x => .ok x.truncate
  | .infinity _ => .error .infinityToInteger
  | .nan => .error .nanToInteger

/-- A number rounded to a count of decimal places, negative for tens and hundreds, a half away from
zero. Scaling and unscaling are rounded themselves, by a factor of at most `10 ^ 15`. -/
def roundTo (x : Binary64) (places : Int) : Except Failure Binary64 := do
  let places := max (-15) (min 15 places)
  let factor := Binary64.ofNat (Nat.pow 10 places.natAbs)
  let half := Binary64.ofQuotient false Binary64.one 2
  if 0 ≤ places then
    let whole ← truncate ((x.abs.mul factor).add half)
    return ((Binary64.ofInt whole).div factor).withSign x.isNegative
  else
    let whole ← truncate ((x.abs.div factor).add half)
    return ((Binary64.ofInt whole).mul factor).withSign x.isNegative

/-- The sum of all numbers. -/
def sum : Function := ⟨⟨1, none⟩, ofNumbers sumOf⟩

/-- The mean of all numbers. -/
def average : Function := ⟨⟨1, none⟩, ofNumbers meanOf⟩

/-- The least of all numbers. -/
def minimum : Function := ⟨⟨1, none⟩, ofNumbers fun xs => .ok (.number (extreme Binary64.less xs))⟩

/-- The greatest of all numbers. -/
def maximum : Function :=
  ⟨⟨1, none⟩, ofNumbers fun xs => .ok (.number (extreme (fun x y => y.less x) xs))⟩

/-- The count of values that are not empty. -/
def count : Function :=
  ⟨⟨1, none⟩, fun args =>
    match countOf (args.flatMap Argument.values) with
    | .ok n => .ok (.number (.ofNat n))
    | .error e => .ok (.error e)⟩

/-- A number without its sign. -/
def absolute : Function :=
  ⟨⟨1, some 1⟩, fun args => ofFirstNumber args fun x _ => .ok (.number x.abs)⟩

/-- A number rounded to the places given by the second argument, none without it. -/
def round : Function :=
  ⟨⟨1, some 2⟩, fun args => ofFirstNumber args fun x rest =>
    match rest with
    | [] => (roundTo x 0).map .ofResult
    | places :: _ =>
      match places.scalar.toNumber with
      | .ok places => do return .ofResult (← roundTo x (← truncate places))
      | .error e => .ok (.error e)⟩

/-- The second argument if the first is not zero, else the third, or zero without one. -/
def conditional : Function :=
  ⟨⟨2, some 3⟩, fun args => ofFirstNumber args fun condition rest =>
    match condition.equal (.zero false), rest with
    | false, [] => .error .missingArgument
    | false, whenTrue :: _ => .ok whenTrue.scalar
    | true, _ :: whenFalse :: _ => .ok whenFalse.scalar
    | true, _ => .ok (.number (.zero false))⟩

end Function

/-! ## Registries -/

/-- Functions by their names in capital letters. -/
structure Registry where
  entries : List (String × Function)

namespace Registry

/-- The form of a name under which a function is registered. -/
def key (name : String) : String := String.ofList (Text.upper name.toList)

/-- The function of a name. -/
def find? (functions : Registry) (name : String) : Option Function :=
  functions.entries.lookup (key name)

/-- The registry with a function under a name, in place of one that has the name. -/
def register (functions : Registry) (name : String) (function : Function) : Registry :=
  ⟨(key name, function) :: functions.entries.filter (·.1 != key name)⟩

/-- The names of all functions. -/
def names (functions : Registry) : List String := functions.entries.map Prod.fst

/-- The functions that every sheet knows. -/
def builtin : Registry where
  entries := [
    ("SUM", .sum), ("AVG", .average), ("AVERAGE", .average), ("MIN", .minimum),
    ("MAX", .maximum), ("COUNT", .count), ("ABS", .absolute), ("ROUND", .round),
    ("IF", .conditional)]

end Registry

end Spreadsheet

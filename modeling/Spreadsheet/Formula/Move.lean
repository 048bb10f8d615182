import Spreadsheet.Formula.Expr

/-!
# Moving references

When rows or columns come and go, the references of a formula follow the cells they mean
(`Expr.afterEdit?`); when a formula is copied, they keep their distance from it
(`Expr.shifted?`). A reference to cells that are gone becomes `Expr.deletedReference`. Both
functions give `none` where nothing is to be written anew.
-/

namespace Spreadsheet

/-- The two directions of a sheet. -/
inductive Axis where
  | row
  | column
  deriving DecidableEq, Repr

/-- The insertion or deletion of a row or a column. -/
inductive LineEdit where
  /-- A new line comes before the line with the given index. -/
  | insert (axis : Axis) (index : Int)
  | delete (axis : Axis) (index : Int)
  deriving DecidableEq, Repr

/-! ## Lines -/

/-- Where a line is after a line is inserted before `index`. -/
def lineAfterInsert (index line : Int) : Int := if index ≤ line then line + 1 else line

/-- Where a line is after the line `index` is deleted, unless it is that line. -/
def lineAfterDelete? (index line : Int) : Option Int :=
  if line = index then none else some (if index < line then line - 1 else line)

/-- The first and last of the lines from `first` to `last` that are left after the line `index` is
deleted, unless none is left. -/
def spanAfterDelete? (index first last : Int) : Option (Int × Int) :=
  if first = index ∧ last = index then none
  else some (if index < first then first - 1 else first, if index ≤ last then last - 1 else last)

namespace LineEdit

/-- The direction in which lines move. -/
def axis : LineEdit → Axis
  | .insert axis _ => axis
  | .delete axis _ => axis

/-- Where a line of the edited direction is after the edit, if it still is. -/
def line? : LineEdit → Int → Option Int
  | .insert _ index, line => some (lineAfterInsert index line)
  | .delete _ index, line => lineAfterDelete? index line

/-- The first and last of some neighbouring lines of the edited direction after the edit, if any
are left. A line inserted between them joins them. -/
def span? : LineEdit → Int → Int → Option (Int × Int)
  | .insert _ index, first, last => some (lineAfterInsert index first, lineAfterInsert index last)
  | .delete _ index, first, last => spanAfterDelete? index first last

/-- A reference after the edit, if it is written anew: `rebuild` puts moved lines in place of
`first` and `last`. -/
def adjustSpan? (edit : LineEdit) (first last : Int) (rebuild : Int → Int → Expr) :
    Option Expr :=
  match edit.span? first last with
  | none => some .deletedReference
  | some (newFirst, newLast) =>
    if newFirst = first ∧ newLast = last then none else some (rebuild newFirst newLast)

/-- A reference after the edit, if it is written anew. Whole columns keep their rows. -/
def reference? (edit : LineEdit) : Expr → Option Expr
  | .cell target lowercase =>
    let line := match edit.axis with
      | .row => target.row
      | .column => target.col
    match edit.line? line with
    | none => some .deletedReference
    | some moved =>
      if moved = line then none
      else
        match edit.axis with
        | .row => some (.cell ⟨moved, target.col⟩ lowercase)
        | .column => some (.cell ⟨target.row, moved⟩ lowercase)
  | .range top left bottom right lowercase =>
    match edit.axis with
    | .row => edit.adjustSpan? top bottom fun top bottom => .range top left bottom right lowercase
    | .column =>
      edit.adjustSpan? left right fun left right => .range top left bottom right lowercase
  | .columns first last lowercase =>
    match edit.axis with
    | .row => none
    | .column => edit.adjustSpan? first last fun first last => .columns first last lowercase
  | _ => none

end LineEdit

/-! ## Formulas -/

namespace Expr

mutual

/-- The formula with its references replaced, if one is: `replace` gives what a reference becomes,
or `none` where it stays. -/
def mapReferences? (replace : Expr → Option Expr) : Expr → Option Expr
  | .cell target lowercase => replace (.cell target lowercase)
  | .range top left bottom right lowercase => replace (.range top left bottom right lowercase)
  | .columns first last lowercase => replace (.columns first last lowercase)
  | .unary op operand => (operand.mapReferences? replace).map (.unary op)
  | .binary op left right =>
    match left.mapReferences? replace, right.mapReferences? replace with
    | none, none => none
    | newLeft, newRight => some (.binary op (newLeft.getD left) (newRight.getD right))
  | .call name args => (mapAllReferences? replace args).map (.call name)
  | .number _ _ => none
  | .string _ => none
  | .deletedReference => none

/-- The formulas with their references replaced, if one is. -/
def mapAllReferences? (replace : Expr → Option Expr) : List Expr → Option (List Expr)
  | [] => none
  | e :: es =>
    match e.mapReferences? replace, mapAllReferences? replace es with
    | none, none => none
    | newFirst, newRest => some (newFirst.getD e :: newRest.getD es)

end

/-- The formula after a row or column comes or goes, if it is written anew. -/
def afterEdit? (e : Expr) (edit : LineEdit) : Option Expr := e.mapReferences? edit.reference?

/-- A line at a distance, if it lies among the first `count`. -/
def lineAt? (line offset count : Int) : Option Int :=
  if 0 ≤ line + offset ∧ line + offset < count then some (line + offset) else none

/-- A reference moved down and right on a sheet of the given size. -/
def shiftReference (rows cols nRows nCols : Int) : Expr → Expr
  | .cell target lowercase =>
    match lineAt? target.row rows nRows, lineAt? target.col cols nCols with
    | some row, some col => .cell ⟨row, col⟩ lowercase
    | _, _ => .deletedReference
  | .range top left bottom right lowercase =>
    match lineAt? top rows nRows, lineAt? bottom rows nRows, lineAt? left cols nCols,
      lineAt? right cols nCols with
    | some top, some bottom, some left, some right => .range top left bottom right lowercase
    | _, _, _, _ => .deletedReference
  | .columns first last lowercase =>
    match lineAt? first cols nCols, lineAt? last cols nCols with
    | some first, some last => .columns first last lowercase
    | _, _ => .deletedReference
  | e => e

/-- The formula with all references moved down and right, if it is written anew: always, unless it
has no references or they move by nothing. -/
def shifted? (e : Expr) (rows cols nRows nCols : Int) : Option Expr :=
  if rows = 0 ∧ cols = 0 then none
  else e.mapReferences? fun ref => some (shiftReference rows cols nRows nCols ref)

end Expr

end Spreadsheet

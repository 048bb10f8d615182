import Spreadsheet.Formula.Eval

/-!
# What evaluation depends on

A formula looks at no more of a sheet than its size and the cells that it reads. So it has the same
value on two sources that are `Source.Alike` in these (`Expr.eval_congr`).
-/

namespace Spreadsheet

/-! ## Sources that are alike -/

/-- The sources have one size and the same values in some cells. -/
structure Source.Alike (source source' : Source) (cells : List Coord) : Prop where
  nRows : source.nRows = source'.nRows
  nCols : source.nCols = source'.nCols
  valueAt : ∀ cell ∈ cells, source.valueAt cell = source'.valueAt cell

namespace Source

variable {source source' : Source} {cells fewer : List Coord} {cell : Coord}
  {origin : Option Coord}

theorem Alike.mono (h : source.Alike source' cells) (hfewer : ∀ cell ∈ fewer, cell ∈ cells) :
    source.Alike source' fewer :=
  ⟨h.nRows, h.nCols, fun cell hcell => h.valueAt cell (hfewer cell hcell)⟩

theorem Alike.left (h : source.Alike source' (cells ++ fewer)) : source.Alike source' cells :=
  h.mono fun _ => List.mem_append_left fewer

theorem Alike.right (h : source.Alike source' (fewer ++ cells)) : source.Alike source' cells :=
  h.mono fun _ => List.mem_append_right fewer

theorem Alike.read (h : source.Alike source' cells) (hcell : cell ∈ cells) :
    source.read cell = source'.read cell := by
  rw [Source.read, Source.read, h.valueAt cell hcell]

theorem Alike.mapM_read (h : source.Alike source' cells) :
    cells.mapM source.read = cells.mapM source'.read := by
  induction cells with
  | nil => rfl
  | cons cell cells ih =>
    rw [List.mapM_cons, List.mapM_cons, h.read List.mem_cons_self,
      ih (h.mono fun _ => List.mem_cons_of_mem cell)]

theorem Alike.cellValue (h : source.Alike source' [cell]) :
    source.cellValue cell = source'.cellValue cell := by
  rw [Source.cellValue, Source.cellValue, h.nRows, h.nCols, h.read List.mem_cons_self]

/-- The values of a rectangle are those of its cells in turn. -/
theorem readRectangle_eq (source : Source) (skip : Option Coord) (top left bottom right : Int) :
    source.readRectangle skip top left bottom right =
      ((Coord.rectangle top left bottom right).filter (some · != skip)).mapM source.read :=
  source.readBlock_eq skip top left _ _

theorem Alike.readRectangle (skip : Option Coord) {top left bottom right : Int}
    (h : source.Alike source'
      ((Coord.rectangle top left bottom right).filter (some · != skip))) :
    source.readRectangle skip top left bottom right =
      source'.readRectangle skip top left bottom right := by
  rw [readRectangle_eq, readRectangle_eq]
  exact h.mapM_read

/-- A reference covers the same values where the cells that it covers have the same values. -/
theorem Alike.argument {ref : Expr}
    (h : source.Alike source' (ref.coveredCells source.nRows origin)) :
    source.argument origin ref = source'.argument origin ref := by
  cases ref with
  | cell target lowercase => rw [Source.argument, Source.argument, Alike.cellValue h]
  | range top left bottom right lowercase =>
    have hblock := Alike.readRectangle none <| h.mono fun _ hcell =>
      (List.mem_filter.1 hcell).1
    rw [Source.argument, Source.argument, hblock, h.nRows, h.nCols]
  | columns first last lowercase =>
    have hblock := Alike.readRectangle origin h
    rw [Source.argument, Source.argument, hblock, h.nRows, h.nCols]
  | _ => rfl

end Source

/-! ## Formulas look at what they read -/

namespace Expr

variable {functions : Registry} {source source' : Source} {origin : Option Coord}

/-- A reference has the value of the argument that it is. -/
theorem eval_of_isReference {ref : Expr} (h : ref.isReference) :
    ref.eval functions source origin = (source.argument origin ref).map Argument.scalar := by
  cases ref with
  | cell target lowercase =>
    rw [eval, Source.argument]
    cases source.cellValue target <;> rfl
  | range | columns => rw [eval]; rfl
  | _ => cases h

/-- The cells that some nodes of a formula cover. -/
def covered (source : Source) (origin : Option Coord) (nodes : List Expr) : List Coord :=
  nodes.flatMap (coveredCells source.nRows origin)

mutual

theorem eval_congr_nodes : ∀ {e : Expr},
    source.Alike source' (covered source origin e.nodes) →
      e.eval functions source origin = e.eval functions source' origin
  | .number .., _ | .string _, _ | .deletedReference, _ => by rw [eval, eval]
  | .cell target _, h => by
    rw [eval, eval, Source.Alike.cellValue (by simpa [covered, nodes, coveredCells] using h)]
  | .range .., h | .columns .., h => by
    rw [eval, eval, Source.Alike.argument (by simpa [covered, nodes] using h)]
  | .unary _ operand, h => by
    have hoperand : source.Alike source' (covered source origin operand.nodes) := by
      simpa [covered, nodes, coveredCells] using h
    rw [eval, eval, eval_congr_nodes hoperand]
  | .binary _ left right, h => by
    have hparts : source.Alike source'
        (covered source origin left.nodes ++ covered source origin right.nodes) := by
      simpa [covered, nodes, coveredCells] using h
    rw [eval, eval, eval_congr_nodes hparts.left, eval_congr_nodes hparts.right]
  | .call _ args, h => by
    have hargs : source.Alike source' (covered source origin (nodesOfAll args)) := by
      simpa [covered, nodes, coveredCells] using h
    rw [eval, eval, evalAll_congr_nodes hargs]

theorem evalAll_congr_nodes : ∀ {args : List Expr},
    source.Alike source' (covered source origin (nodesOfAll args)) →
      evalAll functions source origin args = evalAll functions source' origin args
  | [], _ => by rw [evalAll, evalAll]
  | arg :: args, h => by
    have hparts : source.Alike source'
        (covered source origin arg.nodes ++ covered source origin (nodesOfAll args)) :=
      by simpa [covered, nodesOfAll] using h
    have hreference (href : arg.isReference) :
        source.argument origin arg = source'.argument origin arg := by
      refine Source.Alike.argument (hparts.left.mono fun cell hcell => ?_)
      cases arg <;> simp_all [isReference, covered, nodes]
    rw [evalAll, evalAll, eval_congr_nodes hparts.left, evalAll_congr_nodes hparts.right]
    split
    · next href => rw [hreference href]
    · rfl

end

/-- A formula has the same value on sources that are alike in the cells that it reads. -/
theorem eval_congr {e : Expr} (h : source.Alike source' (e.reads source.nRows origin)) :
    e.eval functions source origin = e.eval functions source' origin :=
  eval_congr_nodes (h.mono fun _ => Coord.mem_ascending.2)

/-- What a formula gives, be it a value or a fault, depends on nothing of a sheet but its size and
the values of the cells that the formula reads: whatever the functions, wherever it stands. -/
theorem eval_eq_of_valueAt_eq (functions : Registry) (origin : Option Coord) (e : Expr)
    {source source' : Source} (hrows : source'.nRows = source.nRows)
    (hcols : source'.nCols = source.nCols)
    (hvalues : ∀ cell ∈ e.reads source.nRows origin, source'.valueAt cell = source.valueAt cell) :
    e.eval functions source' origin = e.eval functions source origin :=
  (eval_congr ⟨hrows.symm, hcols.symm, fun cell hcell => (hvalues cell hcell).symm⟩).symm

/-- The values of a column do not depend on those of the cell that covers the column itself. -/
theorem eval_eq_of_valueAt_eq_columns :
    (Expr.call "COUNT" [.columns 0 0 false]).eval .builtin
        ⟨2, 2, fun cell => .ok (if cell = ⟨0, 0⟩ then .text "x" else .empty)⟩ (some ⟨1, 0⟩) =
      (Expr.call "COUNT" [.columns 0 0 false]).eval .builtin
        ⟨2, 2, fun cell => .ok (if cell = ⟨0, 0⟩ then .text "x" else .text "y")⟩ (some ⟨1, 0⟩) := by
  have hreads : (Expr.call "COUNT" [.columns 0 0 false]).reads 2 (some ⟨1, 0⟩) = [⟨0, 0⟩] := by
    decide
  refine eval_eq_of_valueAt_eq .builtin (some ⟨1, 0⟩) _ rfl rfl fun cell hcell => ?_
  rw [hreads] at hcell
  obtain rfl := List.mem_singleton.1 hcell
  rfl

end Expr

end Spreadsheet

import Spreadsheet.Proofs.Formula.Area

/-!
# Different spellings of the same cells

A cell can be written as a range of one cell, and whole columns as the range of all their rows, as
long as the formula does not stand in them. A formula with references that are spelt another way
(`Expr.Respells`), at any depth, has the same value and reads the same cells
(`Expr.respelt_spec`).
-/

namespace Spreadsheet.Expr

variable {source : Source} {origin : Option Coord} {ref ref' e e' : Expr}

/-- The second reference is another spelling of the first one, in a formula at `origin`. -/
inductive Respells (source : Source) (origin : Option Coord) : Expr → Expr → Prop
  | same (ref : Expr) : Respells source origin ref ref
  | cell {target : Coord} (h : target.Within source.nRows source.nCols) (small small' : Bool) :
      Respells source origin (.cell target small)
        (.range target.row target.col target.row target.col small')
  /-- The formula does not stand in the columns. -/
  | columns {first last : Int} (hfirst : 0 ≤ first ∧ first < source.nCols)
      (hlast : 0 ≤ last ∧ last < source.nCols)
      (horigin : ∀ cell, origin = some cell → ¬(first ≤ cell.col ∧ cell.col ≤ last))
      (small small' : Bool) :
      Respells source origin (.columns first last small)
        (.range 0 first (source.nRows - 1) last small')

/-- The cell of the formula is not among those of columns in which it does not stand. -/
theorem filter_rectangle {top left bottom right : Int}
    (h : ∀ cell, origin = some cell → ¬(left ≤ cell.col ∧ cell.col ≤ right)) :
    (Coord.rectangle top left bottom right).filter (some · != origin) =
      Coord.rectangle top left bottom right := by
  refine List.filter_eq_self.2 fun cell hcell => bne_iff_ne.2 fun heq => ?_
  exact h cell heq.symm (Coord.mem_rectangle.1 hcell).2

namespace Respells

theorem isReference (h : Respells source origin ref ref') (href : ref.isReference) :
    ref'.isReference := by
  cases h with
  | same => exact href
  | _ => rfl

theorem coveredCells_eq (h : Respells source origin ref ref') :
    ref'.coveredCells source.nRows origin = ref.coveredCells source.nRows origin := by
  cases h with
  | same => rfl
  | cell h => exact Coord.rectangle_self _
  | columns _ _ horigin => exact (filter_rectangle horigin).symm

/-- Functions are given the same argument. -/
theorem argument_eq (h : Respells source origin ref ref') :
    source.argument origin ref' = source.argument origin ref := by
  cases h with
  | same => rfl
  | @cell target hwithin small small' =>
    have hcorner : ¬(source.nRows ≤ target.row ∨ source.nCols ≤ target.col) := by
      obtain ⟨⟨-, hrow⟩, -, hcol⟩ := hwithin
      omega
    have hone (n : Int) : n - n + 1 = 1 := by omega
    have hread : source.readRectangle none target.row target.col target.row target.col =
        [target].mapM source.read := by
      rw [Source.readRectangle_eq, Coord.rectangle_self]
      rfl
    rw [Source.argument, Source.argument, if_neg hcorner, Source.cellValue, if_pos hwithin, hread,
      hone, hone, List.mapM_cons]
    cases source.read target <;> rfl
  | @columns first last hfirst hlast horigin small small' =>
    have hcorner : ¬(source.nRows ≤ source.nRows - 1 ∨ source.nCols ≤ last) := by omega
    have hcount : source.nRows - 1 - 0 + 1 = source.nRows := by omega
    have hread : source.readRectangle none 0 first (source.nRows - 1) last =
        source.readRectangle origin 0 first (source.nRows - 1) last := by
      rw [Source.readRectangle_eq, Source.readRectangle_eq, filter_rectangle horigin]
      exact congrArg (List.mapM source.read) (List.filter_eq_self.2 fun _ _ => rfl)
    rw [Source.argument, Source.argument, if_neg hcorner, if_neg (Int.not_le.2 hlast.2), hread,
      hcount]

end Respells

/-- A formula with references spelt another way has the same value and reads the same cells. -/
theorem respelt_spec (functions : Registry) (h : e.SameBut (Respells source origin) e') :
    e'.eval functions source origin = e.eval functions source origin ∧
      e'.reads source.nRows origin = e.reads source.nRows origin := by
  constructor
  · exact h.eval_eq functions.sees_id fun ref ref' href hspell =>
      ⟨hspell.isReference href, congrArg (Except.map id) hspell.argument_eq⟩
  · rw [reads, reads]
    exact congrArg Coord.ascending <| h.flatMap_nodes
      (fun _ hnode => coveredCells_of_not_isReference hnode)
      fun ref ref' href hspell => ⟨hspell.isReference href, hspell.coveredCells_eq⟩

/-- `SUM(A)+B1` in the third column is `SUM(A1:A2)+B1:B1` on a sheet of two rows. -/
theorem respelt_spec_sum :
    let source : Source := ⟨2, 3, fun cell => .ok (if cell.col = 0 then .empty else .text "7")⟩
    let columns : Expr := .binary (.arithmetic .add) (.call "SUM" [.columns 0 0 false])
      (.cell ⟨0, 1⟩ false)
    let ranges : Expr := .binary (.arithmetic .add) (.call "SUM" [.range 0 0 1 0 false])
      (.range 0 1 0 1 false)
    ranges.eval .builtin source (some ⟨0, 2⟩) = columns.eval .builtin source (some ⟨0, 2⟩) ∧
      ranges.reads 2 (some ⟨0, 2⟩) = columns.reads 2 (some ⟨0, 2⟩) := by
  intro source columns ranges
  have hcolumns : (Expr.columns 0 0 false).SameBut (Respells source (some ⟨0, 2⟩))
      (.range 0 0 1 0 false) := by
    refine .reference rfl (.columns (by decide) (by decide) (fun cell horigin => ?_) false false)
    cases horigin
    decide
  have hcell : (Expr.cell ⟨0, 1⟩ false).SameBut (Respells source (some ⟨0, 2⟩))
      (.range 0 1 0 1 false) :=
    .reference rfl (@Respells.cell source _ ⟨0, 1⟩ (by decide) false false)
  exact respelt_spec .builtin
    (.binary (.arithmetic .add) (.call "SUM" (.cons hcolumns .nil)) hcell)

end Spreadsheet.Expr

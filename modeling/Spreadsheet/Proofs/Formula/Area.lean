import Spreadsheet.Coord.Ascending
import Spreadsheet.Proofs.Formula.Blanks
import Spreadsheet.Proofs.Formula.WellFormed

/-!
# The area of a reference

A reference covers the cells of an `Area`, of which whole columns leave out the cell of the formula
(`Expr.coveredCells_eq`). On a sheet with a value in every cell the argument that a reference is has
the values of these cells, in ascending order, and the shape of the area
(`Expr.Placed.argument_eq`).
-/

namespace Spreadsheet

/-! ## Rectangles ascend -/

namespace Coord

theorem pairwise_span (first : Int) (count : Nat) : (span first count).Pairwise (· < ·) := by
  induction count generalizing first with
  | zero => exact List.Pairwise.nil
  | succ count ih =>
    refine List.pairwise_cons.2 ⟨fun n hn => ?_, ih (first + 1)⟩
    have hn := mem_span.1 hn
    omega

theorem ascends_block (top left : Int) (height width : Nat) :
    Ascends (block top left height width) := by
  refine List.pairwise_flatMap.2 ⟨fun row _ => ?_, (pairwise_span top height).imp ?_⟩
  · refine List.pairwise_map.2 ((pairwise_span left width).imp fun {a b} hlt => ?_)
    simp [before, hlt]
  · intro row below hlt cell hcell other hother
    obtain ⟨col, -, rfl⟩ := List.mem_map.1 hcell
    obtain ⟨otherCol, -, rfl⟩ := List.mem_map.1 hother
    simp [before, hlt]

/-- The rectangle from a cell to itself is the cell. -/
theorem rectangle_self (cell : Coord) :
    rectangle cell.row cell.col cell.row cell.col = [cell] := by
  have hone (n : Int) : extent n n = 1 := by
    rw [extent]
    omega
  rw [rectangle, hone, hone]
  rfl

end Coord

/-! ## Areas -/

/-- Neighbouring rows and columns, from the first to the last of both. -/
structure Area where
  top : Int
  left : Int
  bottom : Int
  right : Int

namespace Area

/-- The cells of the area, row by row. -/
def cells (a : Area) : List Coord := Coord.rectangle a.top a.left a.bottom a.right

/-- The cell lies in one of the rows and one of the columns. -/
def Contains (a : Area) (cell : Coord) : Prop :=
  (a.top ≤ cell.row ∧ cell.row ≤ a.bottom) ∧ a.left ≤ cell.col ∧ cell.col ≤ a.right

/-- The first cell of the area. -/
def corner (a : Area) : Coord := ⟨a.top, a.left⟩

/-- The area is that of one cell. -/
def IsSingle (a : Area) : Prop := a.top = a.bottom ∧ a.left = a.right

instance (a : Area) : Decidable a.IsSingle :=
  inferInstanceAs (Decidable (a.top = a.bottom ∧ a.left = a.right))

variable {a : Area} {cell : Coord}

theorem mem_cells : cell ∈ a.cells ↔ a.Contains cell := Coord.mem_rectangle

theorem ascends_cells (a : Area) : Coord.Ascends a.cells := Coord.ascends_block ..

end Area

namespace Expr

variable {ref : Expr} {a : Area} {nRows nCols : Int} {origin : Option Coord} {cell : Coord}
  {lowercase : Bool}

/-- The area that a reference is to, on a sheet of `nRows` rows. -/
def area? (nRows : Int) : Expr → Option Area
  | .cell target _ => some ⟨target.row, target.col, target.row, target.col⟩
  | .range top left bottom right _ => some ⟨top, left, bottom, right⟩
  | .columns first last _ => some ⟨0, first, nRows - 1, last⟩
  | _ => none

/-- The cell of its area that a reference leaves out, in a formula at `origin`. -/
def skipped (origin : Option Coord) : Expr → Option Coord
  | .columns .. => origin
  | _ => none

theorem exists_area? (href : ref.isReference) (nRows : Int) : ∃ a, ref.area? nRows = some a := by
  cases ref with
  | cell | range | columns => exact ⟨_, rfl⟩
  | _ => cases href

theorem isReference_of_area? (ha : ref.area? nRows = some a) : ref.isReference := by
  cases ref with
  | cell | range | columns => rfl
  | _ => cases ha

theorem coveredCells_of_not_isReference (h : ref.isReference = false) :
    ref.coveredCells nRows origin = [] := by
  cases ref with
  | cell | range | columns => cases h
  | _ => rfl

theorem coveredCells_eq (ha : ref.area? nRows = some a) :
    ref.coveredCells nRows origin = a.cells.filter (some · != ref.skipped origin) := by
  have hall (cells : List Coord) : cells.filter (some · != none) = cells :=
    List.filter_eq_self.2 fun _ _ => rfl
  cases ref with
  | cell target small =>
    cases ha
    have hskipped : (Expr.cell target small).skipped origin = none := rfl
    rw [hskipped, hall, Area.cells, Coord.rectangle_self]
    rfl
  | range top left bottom right small =>
    cases ha
    exact (hall _).symm
  | columns first last small =>
    cases ha
    rfl
  | _ => cases ha

theorem mem_coveredCells (ha : ref.area? nRows = some a) :
    cell ∈ ref.coveredCells nRows origin ↔ a.Contains cell ∧ some cell ≠ ref.skipped origin := by
  rw [coveredCells_eq ha, List.mem_filter, Area.mem_cells, bne_iff_ne]

theorem ascends_coveredCells (ha : ref.area? nRows = some a) :
    Coord.Ascends (ref.coveredCells nRows origin) := by
  rw [coveredCells_eq ha]
  exact a.ascends_cells.filter _

/-- The cells of the area of a reference on the sheet lie on the sheet. -/
theorem Placed.within (h : ref.Placed nRows nCols lowercase) (ha : ref.area? nRows = some a)
    (hcell : a.Contains cell) : cell.Within nRows nCols := by
  cases ref with
  | cell target small =>
    cases ha
    simp only [Area.Contains] at hcell
    obtain ⟨⟨hrows, hcols⟩, -⟩ := h
    exact ⟨by omega, by omega⟩
  | range top left bottom right small =>
    cases ha
    simp only [Area.Contains] at hcell
    obtain ⟨hrows, hcols, -⟩ := h
    exact ⟨by omega, by omega⟩
  | columns first last small =>
    cases ha
    simp only [Area.Contains] at hcell
    obtain ⟨hcols, -⟩ := h
    exact ⟨by omega, by omega⟩
  | _ => cases ha

/-- The cells that a reference on the sheet covers lie on the sheet. -/
theorem Placed.within_of_mem (h : ref.Placed nRows nCols lowercase)
    (hcell : cell ∈ ref.coveredCells nRows origin) : cell.Within nRows nCols := by
  cases href : ref.isReference with
  | true =>
    obtain ⟨a, ha⟩ := exists_area? href nRows
    exact h.within ha ((mem_coveredCells ha).1 hcell).1
  | false =>
    rw [coveredCells_of_not_isReference href] at hcell
    cases hcell

/-- A reference on a sheet that has rows is to one cell at least. -/
theorem Placed.nonempty (h : ref.Placed nRows nCols lowercase) (ha : ref.area? nRows = some a)
    (hrows : 0 < nRows) : a.top ≤ a.bottom ∧ a.left ≤ a.right := by
  cases ref with
  | cell target small =>
    cases ha
    exact ⟨Int.le_refl _, Int.le_refl _⟩
  | range top left bottom right small =>
    cases ha
    exact ⟨h.1.2.1, h.2.1.2.1⟩
  | columns first last small =>
    cases ha
    exact ⟨Int.le_sub_one_of_lt hrows, h.1.2.1⟩
  | _ => cases ha

/-- A reference leaves out the moved cell of a formula if it left out the cell. -/
theorem ne_skipped_iff {cell' : Coord} {origin' : Option Coord}
    (h : some cell' = origin' ↔ some cell = origin) :
    some cell' ≠ ref.skipped origin' ↔ some cell ≠ ref.skipped origin := by
  cases ref with
  | columns first last small => simp [skipped, h]
  | _ => simp [skipped]

/-- The only cell of its area that a reference leaves out is that of the formula. -/
theorem eq_of_not_mem_coveredCells {origin : Coord} (ha : ref.area? nRows = some a)
    (hcell : a.Contains cell) (h : cell ∉ ref.coveredCells nRows (some origin)) :
    cell = origin := by
  rw [mem_coveredCells ha] at h
  have hskipped : some cell = ref.skipped (some origin) := by
    by_contra hne
    exact h ⟨hcell, hne⟩
  cases ref with
  | columns first last small => exact Option.some.inj hskipped
  | _ => cases hskipped

theorem mem_coveredCells_columns {first last : Int} {small : Bool}
    (hcell : cell.Within nRows nCols) :
    cell ∈ (columns first last small).coveredCells nRows origin ↔
      (first ≤ cell.col ∧ cell.col ≤ last) ∧ some cell ≠ origin := by
  rw [mem_coveredCells rfl, Area.Contains]
  refine and_congr_left fun _ => and_iff_right ?_
  exact ⟨hcell.1.1, Int.le_sub_one_of_lt hcell.1.2⟩

/-- Whole columns of two rows at least are no single cell, however many rows they have. -/
theorem single_columns {nRows' first last : Int} {small : Bool} (hrows : 2 ≤ nRows)
    (hrows' : 2 ≤ nRows') (ha : (columns first last small).area? nRows = some a) {p : Area → Prop} :
    ∃ a', (columns first last small).area? nRows' = some a' ∧ (a'.IsSingle ↔ a.IsSingle) ∧
      (a'.IsSingle → p a') := by
  cases ha
  refine ⟨_, rfl, ?_⟩
  simp only [Area.IsSingle]
  have hnot : ¬0 = nRows - 1 := by omega
  have hnot' : ¬0 = nRows' - 1 := by omega
  simp [hnot, hnot']

end Expr

/-! ## What a reference covers on a sheet -/

section Values

variable {source : Source} {value : Coord → Value}

theorem Source.mapM_read (hsource : ∀ cell, source.valueAt cell = .ok (value cell))
    (cells : List Coord) : cells.mapM source.read = .ok (cells.map value) := by
  induction cells with
  | nil => rfl
  | cons cell cells ih =>
    rw [List.mapM_cons, Source.read, hsource, ih]
    rfl

/-- The values of the cells of the area. -/
def Area.rangeValue (a : Area) (values : List Value) : RangeValue where
  values
  nRows := a.bottom - a.top + 1
  nCols := a.right - a.left + 1

/-- A reference on the sheet is the argument with the values that it covers. -/
theorem Expr.Placed.argument_eq {ref : Expr} {a : Area} {origin : Option Coord} {lowercase : Bool}
    (h : ref.Placed source.nRows source.nCols lowercase)
    (ha : ref.area? source.nRows = some a)
    (hsource : ∀ cell, source.valueAt cell = .ok (value cell)) :
    source.argument origin ref =
      .ok (.range (a.rangeValue ((ref.coveredCells source.nRows origin).map value))) := by
  have hrectangle (skip : Option Coord) : source.readRectangle skip a.top a.left a.bottom a.right =
      .ok ((a.cells.filter (some · != skip)).map value) := by
    rw [Source.readRectangle_eq, Source.mapM_read hsource]
    rfl
  cases ref with
  | cell target small =>
    cases ha
    rw [Source.argument, Source.cellValue, if_pos h.1, Source.read, hsource]
    simp only [Area.rangeValue, Int.sub_self, Int.zero_add]
    rfl
  | range top left bottom right small =>
    obtain rfl := Option.some.inj ha
    obtain ⟨hrows, hcols, -⟩ := h
    rw [coveredCells_eq ha, Source.argument, if_neg (by omega), hrectangle]
    rfl
  | columns first last small =>
    obtain rfl := Option.some.inj ha
    obtain ⟨hcols, -⟩ := h
    have hcount : source.nRows - 1 - 0 + 1 = source.nRows := by omega
    rw [coveredCells_eq ha, Source.argument, if_neg (by omega), hrectangle, Area.rangeValue, hcount]
    rfl
  | _ => cases ha

/-- Two areas look the same to a function that passes over empty cells, if their values that are not
empty are the same, and all of them are if one of the areas is that of one cell. -/
theorem Area.view_rangeValue_eq {a a' : Area} {values values' : List Value}
    (hsingle : a'.IsSingle ↔ a.IsSingle) (hone : a.IsSingle → values' = values)
    (hvalues : values'.filter (!·.isEmpty) = values.filter (!·.isEmpty)) :
    (Argument.range (a'.rangeValue values')).view =
      (Argument.range (a.rangeValue values)).view := by
  have hshape (a : Area) (values : List Value) :
      ((a.rangeValue values).nRows == 1 && (a.rangeValue values).nCols == 1) =
        decide a.IsSingle := by
    rw [Bool.eq_iff_iff, Bool.and_eq_true, beq_iff_eq, beq_iff_eq, decide_eq_true_iff]
    simp only [rangeValue, IsSingle]
    omega
  have hscalar : (a'.rangeValue values').scalar = (a.rangeValue values).scalar := by
    rw [RangeValue.scalar, RangeValue.scalar, hshape, hshape, decide_eq_decide.2 hsingle]
    by_cases h : a.IsSingle
    · rw [rangeValue, rangeValue, hone h]
    · rw [decide_eq_false h]
  rw [Argument.view, Argument.view, hscalar]
  exact congrArg _ hvalues

end Values

end Spreadsheet

/-!
# Cell coordinates

A cell lies in a row and a column, both counted from zero. A place outside a sheet has coordinates
too, negative ones before the first row and the first column. Places are ordered row by row
(`Coord.before`), and `Coord.rectangle` lists those between two corners in that order.
-/

namespace Spreadsheet

/-- The place of a cell, on a sheet or off it. -/
structure Coord where
  row : Int
  col : Int
  deriving DecidableEq, Repr

namespace Coord

/-- The first cell comes before the second, row by row. -/
def before (a b : Coord) : Bool := a.row < b.row || (a.row == b.row && a.col < b.col)

/-- The cell lies on a sheet of the given size. -/
def Within (cell : Coord) (nRows nCols : Int) : Prop :=
  (0 ≤ cell.row ∧ cell.row < nRows) ∧ 0 ≤ cell.col ∧ cell.col < nCols

instance (cell : Coord) (nRows nCols : Int) : Decidable (cell.Within nRows nCols) :=
  inferInstanceAs (Decidable ((0 ≤ cell.row ∧ cell.row < nRows) ∧ 0 ≤ cell.col ∧ cell.col < nCols))

/-! ## Rectangles -/

/-- So many numbers from the first on. -/
def span (first : Int) : Nat → List Int
  | 0 => []
  | count + 1 => first :: span (first + 1) count

/-- The cells of `height` rows and `width` columns from a corner on, row by row. -/
def block (top left : Int) (height width : Nat) : List Coord :=
  (span top height).flatMap fun row => (span left width).map fun col => ⟨row, col⟩

/-- How many numbers there are from the first to the last, both included. -/
def extent (first last : Int) : Nat := (last + 1 - first).toNat

/-- The cells from one corner to the opposite one, both included, row by row. -/
def rectangle (top left bottom right : Int) : List Coord :=
  block top left (extent top bottom) (extent left right)

@[simp] theorem mem_span {first n : Int} {count : Nat} :
    n ∈ span first count ↔ first ≤ n ∧ n < first + count := by
  induction count generalizing first with
  | zero =>
    simp only [span, List.not_mem_nil, false_iff]
    omega
  | succ count ih =>
    rw [span, List.mem_cons, ih]
    omega

/-- A cell lies in a block if its row and its column do. -/
theorem mem_block {top left : Int} {height width : Nat} {cell : Coord} :
    cell ∈ block top left height width ↔
      (top ≤ cell.row ∧ cell.row < top + height) ∧ left ≤ cell.col ∧ cell.col < left + width := by
  obtain ⟨row, col⟩ := cell
  simp only [block, List.mem_flatMap, List.mem_map, mem_span, Coord.mk.injEq]
  constructor
  · rintro ⟨r, hr, c, hc, rfl, rfl⟩
    exact ⟨hr, hc⟩
  · rintro ⟨hr, hc⟩
    exact ⟨row, hr, col, hc, rfl, rfl⟩

/-- A cell lies in a rectangle if its row and its column do. -/
theorem mem_rectangle {top left bottom right : Int} {cell : Coord} :
    cell ∈ rectangle top left bottom right ↔
      (top ≤ cell.row ∧ cell.row ≤ bottom) ∧ left ≤ cell.col ∧ cell.col ≤ right := by
  rw [rectangle, mem_block, extent, extent]
  omega

/-- The block of a sheet's size from its first cell on holds the cells of the sheet. -/
theorem mem_block_zero {nRows nCols : Nat} {cell : Coord} :
    cell ∈ block 0 0 nRows nCols ↔ cell.Within nRows nCols := by
  rw [mem_block, Within, Int.zero_add, Int.zero_add]

/-- The top, left, bottom and right of the rectangle with the two corners. -/
def corners (a b : Coord) : Int × Int × Int × Int :=
  (min a.row b.row, min a.col b.col, max a.row b.row, max a.col b.col)

/-! ## Order -/

theorem before_irrefl (a : Coord) : a.before a = false := by
  simp [before]

theorem before_trans {a b c : Coord} (hab : a.before b = true) (hbc : b.before c = true) :
    a.before c = true := by
  simp only [before, Bool.or_eq_true, decide_eq_true_eq, Bool.and_eq_true, beq_iff_eq] at *
  omega

/-- Of two different cells one comes before the other. -/
theorem before_of_not_before {a b : Coord} (h : a.before b = false) (hne : a ≠ b) :
    b.before a = true := by
  obtain ⟨r, c⟩ := a
  obtain ⟨s, d⟩ := b
  simp only [before, Bool.or_eq_false_iff, decide_eq_false_iff_not, Bool.and_eq_false_iff,
    beq_eq_false_iff_ne, Bool.or_eq_true, decide_eq_true_eq, Bool.and_eq_true, beq_iff_eq, ne_eq,
    Coord.mk.injEq, not_and] at *
  omega

end Coord

end Spreadsheet

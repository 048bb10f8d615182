import Spreadsheet.Proofs.Formula.Relocation

/-!
# How lines move

When a row or column comes or goes, the cells after it move by one, and the references with them
(`LineEdit.moves`). When a sheet grows at its end, they stay where they are (`Moves.of_le`). Rows
and columns are treated alike, as the lines of an `Axis`.
-/

namespace Spreadsheet

/-! ## Lines of an axis -/

/-- The direction across. -/
def Axis.other : Axis → Axis
  | .row => .column
  | .column => .row

namespace Coord

/-- The row or the column of a cell. -/
def line (cell : Coord) : Axis → Int
  | .row => cell.row
  | .column => cell.col

/-- The cell moved to another row or column. -/
def withLine (cell : Coord) (line : Int) : Axis → Coord
  | .row => ⟨line, cell.col⟩
  | .column => ⟨cell.row, line⟩

variable {a b : Coord} (axis : Axis)

@[simp] theorem line_withLine (line : Int) : (a.withLine line axis).line axis = line := by
  cases axis <;> rfl

@[simp] theorem line_other_withLine (line : Int) :
    (a.withLine line axis).line axis.other = a.line axis.other := by
  cases axis <;> rfl

theorem ext_line (h : a.line axis = b.line axis) (hother : a.line axis.other = b.line axis.other) :
    a = b := by
  obtain ⟨row, col⟩ := a
  obtain ⟨row', col'⟩ := b
  cases axis with
  | row => exact congrArg₂ mk h hother
  | column => exact congrArg₂ mk hother h

end Coord

/-- The number of rows or of columns. -/
def Grammar.lines (g : Grammar) : Axis → Int
  | .row => g.nRows
  | .column => g.nCols

theorem Grammar.within_iff_lines (g : Grammar) {cell : Coord} (axis : Axis) :
    cell.Within g.nRows g.nCols ↔ (0 ≤ cell.line axis ∧ cell.line axis < g.lines axis) ∧
      0 ≤ cell.line axis.other ∧ cell.line axis.other < g.lines axis.other := by
  cases axis with
  | row => exact Iff.rfl
  | column => exact And.comm

namespace Area

/-- The first row or column. -/
def first (a : Area) : Axis → Int
  | .row => a.top
  | .column => a.left

/-- The last row or column. -/
def last (a : Area) : Axis → Int
  | .row => a.bottom
  | .column => a.right

/-- The area with other rows or columns. -/
def withLines (a : Area) (first last : Int) : Axis → Area
  | .row => { a with top := first, bottom := last }
  | .column => { a with left := first, right := last }

variable {a : Area} (axis : Axis)

theorem contains_iff_lines {cell : Coord} : a.Contains cell ↔
    (a.first axis ≤ cell.line axis ∧ cell.line axis ≤ a.last axis) ∧
      a.first axis.other ≤ cell.line axis.other ∧ cell.line axis.other ≤ a.last axis.other := by
  cases axis with
  | row => exact Iff.rfl
  | column => exact And.comm

theorem isSingle_iff_lines :
    a.IsSingle ↔ a.first axis = a.last axis ∧ a.first axis.other = a.last axis.other := by
  cases axis with
  | row => exact Iff.rfl
  | column => exact And.comm

theorem first_le_last (h : a.top ≤ a.bottom ∧ a.left ≤ a.right) : a.first axis ≤ a.last axis := by
  cases axis with
  | row => exact h.1
  | column => exact h.2

theorem line_corner : a.corner.line axis = a.first axis := by
  cases axis <;> rfl

variable (first last : Int)

@[simp] theorem first_withLines : (a.withLines first last axis).first axis = first := by
  cases axis <;> rfl

@[simp] theorem last_withLines : (a.withLines first last axis).last axis = last := by
  cases axis <;> rfl

@[simp] theorem first_other_withLines :
    (a.withLines first last axis).first axis.other = a.first axis.other := by
  cases axis <;> rfl

@[simp] theorem last_other_withLines :
    (a.withLines first last axis).last axis.other = a.last axis.other := by
  cases axis <;> rfl

end Area

/-! ## Lines that come and go -/

namespace LineEdit

variable {edit : LineEdit} {line moved first last newFirst newLast : Int} {cell cell' : Coord}

/-- The new line comes before one of so many or after the last one, or one of them goes. -/
def Fits (edit : LineEdit) (lines : Int) : Prop :=
  match edit with
  | .insert _ index => 0 ≤ index ∧ index ≤ lines
  | .delete _ index => 0 ≤ index ∧ index < lines

theorem Fits.within {lines : Int} (h : edit.Fits lines) : edit.Within lines := by
  cases edit with
  | insert axis index => trivial
  | delete axis index => exact h

theorem line?_delete_eq_some {axis : Axis} {index : Int} :
    (delete axis index).line? line = some moved ↔
      line ≠ index ∧ moved = if index < line then line - 1 else line := by
  rw [line?, lineAfterDelete?]
  split <;> simp [*, eq_comm]

theorem span?_delete_eq_some {axis : Axis} {index : Int} :
    (delete axis index).span? first last = some (newFirst, newLast) ↔
      ¬(first = index ∧ last = index) ∧ newFirst = (if index < first then first - 1 else first) ∧
        newLast = if index ≤ last then last - 1 else last := by
  rw [span?, spanAfterDelete?]
  split <;> simp [*, eq_comm]

/-- Lines keep their order. -/
theorem line?_lt_iff {line' moved' : Int} (h : edit.line? line = some moved)
    (h' : edit.line? line' = some moved') : moved < moved' ↔ line < line' := by
  cases edit with
  | insert axis index =>
    cases h
    cases h'
    simp only [lineAfterInsert]
    split <;> split <;> omega
  | delete axis index =>
    obtain ⟨hne, rfl⟩ := line?_delete_eq_some.1 h
    obtain ⟨hne', rfl⟩ := line?_delete_eq_some.1 h'
    split <;> split <;> omega

/-- A line is one of neighbouring ones after the edit if it was before. -/
theorem mem_span?_iff (h : edit.line? line = some moved) (hle : first ≤ last)
    (hspan : edit.span? first last = some (newFirst, newLast)) :
    newFirst ≤ moved ∧ moved ≤ newLast ↔ first ≤ line ∧ line ≤ last := by
  cases edit with
  | insert axis index =>
    cases h
    cases hspan
    simp only [lineAfterInsert]
    split <;> split <;> split <;> omega
  | delete axis index =>
    obtain ⟨hne, rfl⟩ := line?_delete_eq_some.1 h
    obtain ⟨-, rfl, rfl⟩ := span?_delete_eq_some.1 hspan
    split <;> split <;> split <;> omega

/-- Where no lines are left, each of them is gone. -/
theorem line?_eq_none_of_span? (hspan : edit.span? first last = none)
    (hline : first ≤ line ∧ line ≤ last) : edit.line? line = none := by
  cases edit with
  | insert axis index => cases hspan
  | delete axis index =>
    rw [span?, spanAfterDelete?] at hspan
    split at hspan
    · rw [line?, lineAfterDelete?, if_pos (by omega)]
    · cases hspan

theorem span?_self (edit : LineEdit) (line : Int) :
    edit.span? line line = (edit.line? line).map fun moved => (moved, moved) := by
  cases edit with
  | insert axis index => rfl
  | delete axis index =>
    rw [span?, spanAfterDelete?, line?, lineAfterDelete?]
    by_cases h : line = index
    · simp [h]
    · have hlt : index ≤ line ↔ index < line := by omega
      simp [h, hlt]

/-- Lines that are all left keep their number, at least if there is but one of them. -/
theorem exists_span? (hle : first ≤ last)
    (h : ∀ line, first ≤ line → line ≤ last → (edit.line? line).isSome) :
    ∃ newFirst newLast, edit.span? first last = some (newFirst, newLast) ∧
      (newFirst = newLast ↔ first = last) ∧ edit.line? first = some newFirst := by
  cases edit with
  | insert axis index =>
    refine ⟨_, _, rfl, ?_, rfl⟩
    simp only [lineAfterInsert]
    split <;> split <;> omega
  | delete axis index =>
    have houtside : ¬(first ≤ index ∧ index ≤ last) := by
      rintro ⟨hfirst, hlast⟩
      simpa [line?, lineAfterDelete?] using h index hfirst hlast
    refine ⟨_, _, span?_delete_eq_some.2 ⟨by omega, rfl, rfl⟩, ?_,
      line?_delete_eq_some.2 ⟨by omega, rfl⟩⟩
    split <;> split <;> omega

/-! ## Cells -/

/-- Where a cell is after the edit, if it still is. -/
def place? (edit : LineEdit) (cell : Coord) : Option Coord :=
  (edit.line? (cell.line edit.axis)).map (cell.withLine · edit.axis)

theorem place?_eq_some : edit.place? cell = some cell' ↔
    edit.line? (cell.line edit.axis) = some (cell'.line edit.axis) ∧
      cell'.line edit.axis.other = cell.line edit.axis.other := by
  rw [place?, Option.map_eq_some_iff]
  constructor
  · rintro ⟨moved, hmoved, rfl⟩
    simp [hmoved]
  · rintro ⟨hmoved, hother⟩
    exact ⟨_, hmoved, Coord.ext_line edit.axis (by simp) (by simp [hother])⟩

/-- Different cells do not move to one place. -/
theorem place?_inj_iff {a b a' b' : Coord} (ha : edit.place? a = some a')
    (hb : edit.place? b = some b') : a' = b' ↔ a = b := by
  constructor
  · rintro rfl
    obtain ⟨hlineA, hotherA⟩ := place?_eq_some.1 ha
    obtain ⟨hlineB, hotherB⟩ := place?_eq_some.1 hb
    have hlt := line?_lt_iff hlineA hlineB
    have hgt := line?_lt_iff hlineB hlineA
    exact Coord.ext_line edit.axis (by omega) (hotherA.symm.trans hotherB)
  · rintro rfl
    exact Option.some.inj (ha.symm.trans hb)

theorem isSome_place? : (edit.place? cell).isSome ↔ (edit.line? (cell.line edit.axis)).isSome := by
  rw [place?, Option.isSome_map]

theorem before_place? {a b a' b' : Coord} (h : a.before b) (ha : edit.place? a = some a')
    (hb : edit.place? b = some b') : a'.before b' := by
  obtain ⟨hlineA, hotherA⟩ := place?_eq_some.1 ha
  obtain ⟨hlineB, hotherB⟩ := place?_eq_some.1 hb
  have hlt := line?_lt_iff hlineA hlineB
  have hgt := line?_lt_iff hlineB hlineA
  simp only [Coord.before, Bool.or_eq_true, decide_eq_true_eq, Bool.and_eq_true, beq_iff_eq] at h ⊢
  cases haxis : edit.axis <;> simp only [haxis, Coord.line, Axis.other] at * <;> omega

/-! ## References -/

theorem area?_adjustSpan? {rebuild : Int → Int → Expr} {area : Int → Int → Area}
    {skipped : Option Coord → Option Coord} {nRows : Int}
    (harea : ∀ first last, (rebuild first last).area? nRows = some (area first last))
    (hskipped : ∀ first last origin, (rebuild first last).skipped origin = skipped origin) :
    edit.span? first last = none ∧
        (edit.adjustSpan? first last rebuild).getD (rebuild first last) = .deletedReference ∨
      ∃ newFirst newLast, edit.span? first last = some (newFirst, newLast) ∧
        ((edit.adjustSpan? first last rebuild).getD (rebuild first last)).area? nRows =
          some (area newFirst newLast) ∧
        ∀ origin, ((edit.adjustSpan? first last rebuild).getD (rebuild first last)).skipped origin =
          skipped origin := by
  rw [getD_adjustSpan?]
  cases edit.span? first last with
  | none => exact .inl ⟨rfl, rfl⟩
  | some span => exact .inr ⟨span.1, span.2, rfl, harea _ _, hskipped _ _⟩

/-- The lines of a reference move, those of whole columns only if columns come or go. -/
theorem area?_reference? {ref : Expr} {a : Area} {nRows nRows' : Int}
    (ha : ref.area? nRows = some a)
    (hrow : edit.axis = .row → ∀ origin, ref.skipped origin = none)
    (hcolumn : edit.axis = .column → nRows' = nRows) :
    edit.span? (a.first edit.axis) (a.last edit.axis) = none ∧
        ref.replaceReferences edit.reference? = .deletedReference ∨
      ∃ first last, edit.span? (a.first edit.axis) (a.last edit.axis) = some (first, last) ∧
        (ref.replaceReferences edit.reference?).area? nRows' =
          some (a.withLines first last edit.axis) ∧
        ∀ origin, (ref.replaceReferences edit.reference?).skipped origin = ref.skipped origin := by
  rw [Expr.replaceReferences_of_isReference (Expr.isReference_of_area? ha)]
  cases haxis : edit.axis with
  | row =>
    cases ref with
    | cell target small =>
      cases ha
      simp only [getD_reference?_row haxis, Area.first, Area.last, span?_self]
      cases edit.line? target.row with
      | none => exact .inl ⟨rfl, rfl⟩
      | some row => exact .inr ⟨row, row, rfl, rfl, fun _ => rfl⟩
    | range top left bottom right small =>
      cases ha
      simp only [reference?, haxis]
      exact area?_adjustSpan? (fun _ _ => rfl) fun _ _ _ => rfl
    | columns first last small => cases hrow haxis (some ⟨0, 0⟩)
    | _ => cases ha
  | column =>
    cases ref with
    | cell target small =>
      cases ha
      simp only [getD_reference?_column haxis, Area.first, Area.last, span?_self]
      cases edit.line? target.col with
      | none => exact .inl ⟨rfl, rfl⟩
      | some col => exact .inr ⟨col, col, rfl, rfl, fun _ => rfl⟩
    | range top left bottom right small =>
      cases ha
      simp only [reference?, haxis]
      exact area?_adjustSpan? (fun _ _ => rfl) fun _ _ _ => rfl
    | columns first last small =>
      cases ha
      simp only [reference?, haxis, hcolumn haxis]
      exact area?_adjustSpan? (fun _ _ => rfl) fun _ _ _ => rfl
    | _ => cases ha

/-- A reference covers the same cells after the edit. -/
theorem covers_reference? {ref : Expr} {a : Area} {nRows nRows' : Int}
    {origin origin' : Option Coord}
    (ha : ref.area? nRows = some a) (hle : a.first edit.axis ≤ a.last edit.axis)
    (hrow : edit.axis = .row → ∀ origin, ref.skipped origin = none)
    (hcolumn : edit.axis = .column → nRows' = nRows)
    (horigin : some cell' = origin' ↔ some cell = origin) (hcell : edit.place? cell = some cell') :
    cell' ∈ (ref.replaceReferences edit.reference?).coveredCells nRows' origin' ↔
      cell ∈ ref.coveredCells nRows origin := by
  obtain ⟨hline, hother⟩ := place?_eq_some.1 hcell
  rw [Expr.mem_coveredCells ha, Area.contains_iff_lines edit.axis]
  obtain ⟨hspan, hdeleted⟩ | ⟨first, last, hspan, hnew, hskipped⟩ :=
    area?_reference? ha hrow hcolumn
  · rw [hdeleted]
    refine iff_of_false List.not_mem_nil ?_
    rintro ⟨⟨hlines, -⟩, -⟩
    rw [line?_eq_none_of_span? hspan hlines] at hline
    cases hline
  · rw [Expr.mem_coveredCells hnew, Area.contains_iff_lines edit.axis, hskipped]
    simp only [Area.first_withLines, Area.last_withLines, Area.first_other_withLines,
      Area.last_other_withLines]
    rw [mem_span?_iff hline hle hspan, hother, Expr.ne_skipped_iff horigin]

/-- A reference of which all cells are left is one to a single cell if it was. -/
theorem single_reference? {g : Grammar} {ref : Expr} {a : Area} {lowercase : Bool} {nRows' : Int}
    {origin origin' : Coord} (hplaced : ref.Placed g.nRows g.nCols lowercase)
    (ha : ref.area? g.nRows = some a)
    (hrow : edit.axis = .row → ∀ origin, ref.skipped origin = none)
    (hcolumn : edit.axis = .column → nRows' = g.nRows)
    (hwithin : origin.Within g.nRows g.nCols) (horigin : edit.place? origin = some origin')
    (hleft : ∀ cell ∈ ref.coveredCells g.nRows (some origin), (edit.place? cell).isSome) :
    ∃ a', (ref.replaceReferences edit.reference?).area? nRows' = some a' ∧
      (a'.IsSingle ↔ a.IsSingle) ∧ (a'.IsSingle → ∀ cell', a'.Contains cell' →
        ∃ cell : Coord, cell.Within g.nRows g.nCols ∧ edit.place? cell = some cell') := by
  have hnonempty := hplaced.nonempty ha (Int.lt_of_le_of_lt hwithin.1.1 hwithin.1.2)
  have hcorner : a.Contains a.corner :=
    ⟨⟨Int.le_refl _, hnonempty.1⟩, Int.le_refl _, hnonempty.2⟩
  have hlines := (Area.contains_iff_lines edit.axis).1 hcorner
  rw [Area.line_corner, Area.line_corner] at hlines
  -- Each line of the area has a cell that is covered, or is the cell of the formula.
  obtain ⟨first, last, hspan, hone, hfirst⟩ := edit.exists_span? hlines.1.2 fun line hge hle => by
    have hcontains : a.Contains (a.corner.withLine line edit.axis) := by
      rw [Area.contains_iff_lines edit.axis]
      simp only [Coord.line_withLine, Coord.line_other_withLine, Area.line_corner]
      exact ⟨⟨hge, hle⟩, hlines.2⟩
    have hplace : (edit.place? (a.corner.withLine line edit.axis)).isSome := by
      by_cases hcovered : a.corner.withLine line edit.axis ∈ ref.coveredCells g.nRows (some origin)
      · exact hleft _ hcovered
      · rw [Expr.eq_of_not_mem_coveredCells ha hcontains hcovered, horigin]
        rfl
    simpa [isSome_place?] using hplace
  obtain ⟨hnone, -⟩ | ⟨_, _, hsome, hnew, -⟩ := area?_reference? ha hrow hcolumn
  · rw [hspan] at hnone
    cases hnone
  rw [hspan] at hsome
  cases hsome
  refine ⟨_, hnew, ?_, fun hsingle cell' hcell' => ⟨a.corner, hplaced.within ha hcorner, ?_⟩⟩
  · rw [Area.isSingle_iff_lines edit.axis, Area.isSingle_iff_lines edit.axis]
    simp [hone]
  · rw [Area.isSingle_iff_lines edit.axis] at hsingle
    rw [Area.contains_iff_lines edit.axis] at hcell'
    simp only [Area.first_withLines, Area.last_withLines, Area.first_other_withLines,
      Area.last_other_withLines] at hsingle hcell'
    refine place?_eq_some.2 ⟨?_, ?_⟩
    · rw [Area.line_corner, hfirst]
      exact congrArg some (by omega)
    · rw [Area.line_corner]
      omega

/-! ## Rows and columns -/

variable {g : Grammar} {ref : Expr}

theorem columns_of_skipped (h : ¬(edit.axis = .row → ∀ origin, ref.skipped origin = none)) :
    edit.axis = .row ∧ ∃ first last small, ref = .columns first last small := by
  obtain ⟨haxis, hskipped⟩ := Classical.not_imp.1 h
  refine ⟨haxis, ?_⟩
  cases ref with
  | columns first last small => exact ⟨first, last, small, rfl⟩
  | _ => exact absurd (fun _ => rfl) hskipped

/-- Whole columns are written as before when rows come or go. -/
theorem replaceReferences_columns (haxis : edit.axis = .row) (first last : Int) (small : Bool) :
    (Expr.columns first last small).replaceReferences edit.reference? =
      .columns first last small := by
  rw [Expr.replaceReferences_of_isReference rfl, reference?, haxis]
  rfl

theorem lines_after (g : Grammar) (edit : LineEdit) :
    (g.after edit).lines edit.axis = edit.count (g.lines edit.axis) ∧
      (g.after edit).lines edit.axis.other = g.lines edit.axis.other := by
  rw [Grammar.after]
  cases edit.axis <;> exact ⟨rfl, rfl⟩

theorem allows_iff : g.Allows edit ↔ edit.Within (g.lines edit.axis) := by
  rw [Grammar.Allows]
  cases edit.axis <;> rfl

theorem within_place? (hedit : g.Allows edit) (hcell : cell.Within g.nRows g.nCols)
    (hplace : edit.place? cell = some cell') :
    cell'.Within (g.after edit).nRows (g.after edit).nCols := by
  obtain ⟨hline, hother⟩ := place?_eq_some.1 hplace
  obtain ⟨hlines, hothers⟩ := lines_after g edit
  rw [Grammar.within_iff_lines _ edit.axis] at hcell ⊢
  rw [hlines, hothers, hother]
  exact ⟨line?_within (allows_iff.1 hedit) hcell.1 hline, hcell.2⟩

theorem nRows_after (haxis : edit.axis = .column) : (g.after edit).nRows = g.nRows := by
  rw [Grammar.after, haxis]

/-- A cell of a deleted row is in each column, so that no column is left whole. -/
theorem exists_gone {index first last : Int} {small lowercase : Bool} {origin : Coord}
    (hindex : 0 ≤ index ∧ index < g.nRows)
    (hplaced : (Expr.columns first last small).Placed g.nRows g.nCols lowercase)
    (horigin : ((delete .row index).place? origin).isSome) :
    ∃ cell ∈ (Expr.columns first last small).coveredCells g.nRows (some origin),
      (delete .row index).place? cell = none := by
  have hgone (col : Int) : (delete .row index).place? ⟨index, col⟩ = none := by
    simp [place?, line?, lineAfterDelete?, axis, Coord.line]
  obtain ⟨hcols, -⟩ := hplaced
  have hcell : (Coord.mk index first).Within g.nRows g.nCols :=
    ⟨hindex, hcols.1, Int.lt_of_le_of_lt hcols.2.1 hcols.2.2⟩
  refine ⟨_, (Expr.mem_coveredCells_columns hcell).2 ⟨⟨Int.le_refl _, hcols.2.1⟩, ?_⟩, hgone first⟩
  rintro ⟨⟩
  rw [hgone] at horigin
  cases horigin

/-- When a row or column comes or goes, the cells move, and the references with them. A single row
must not become two, for then a column that was one cell is one no longer. -/
theorem moves (hedit : g.Allows edit) (hrows : ∀ index, edit = .insert .row index → 2 ≤ g.nRows) :
    Moves g (g.after edit) edit.place? edit.reference? where
  within := within_place? hedit
  before := before_place?
  reference {ref lowercase} href hplaced := by
    have hprintable := Expr.printable_reference? hedit href hplaced
    rw [← Expr.replaceReferences_of_isReference href] at hprintable
    have hkept (href' : (ref.replaceReferences edit.reference?).isReference) :=
      And.intro href' ((Expr.throughout_of_isReference href').1 hprintable).placed
    by_cases hrow : edit.axis = .row → ∀ origin, ref.skipped origin = none
    · obtain ⟨a, ha⟩ := Expr.exists_area? href g.nRows
      obtain ⟨-, hdeleted⟩ | ⟨_, _, -, hnew, -⟩ := area?_reference? ha hrow nRows_after
      · exact .inl hdeleted
      · exact .inr (hkept (Expr.isReference_of_area? hnew))
    · obtain ⟨haxis, first, last, small, rfl⟩ := columns_of_skipped hrow
      exact .inr (hkept (by rw [replaceReferences_columns haxis]; rfl))
  covers {ref lowercase origin origin' cell cell'} href hplaced horigin hcell hplace := by
    by_cases hrow : edit.axis = .row → ∀ origin, ref.skipped origin = none
    · obtain ⟨a, ha⟩ := Expr.exists_area? href g.nRows
      have hnonempty := hplaced.nonempty ha (Int.lt_of_le_of_lt hcell.1.1 hcell.1.2)
      have hsame : some cell' = some origin' ↔ some cell = some origin := by
        simp [place?_inj_iff hplace horigin]
      exact covers_reference? ha (Area.first_le_last _ hnonempty) hrow nRows_after hsame hplace
    · obtain ⟨haxis, first, last, small, rfl⟩ := columns_of_skipped hrow
      have hother := (place?_eq_some.1 hplace).2
      rw [haxis] at hother
      have hcol : cell'.col = cell.col := hother
      rw [replaceReferences_columns haxis,
        Expr.mem_coveredCells_columns (within_place? hedit hcell hplace),
        Expr.mem_coveredCells_columns hcell, hcol]
      exact and_congr_right fun _ => by simp [place?_inj_iff hplace horigin]
  single {ref lowercase origin origin' a} hplaced ha hwithin horigin hleft := by
    by_cases hrow : edit.axis = .row → ∀ origin, ref.skipped origin = none
    · exact single_reference? hplaced ha hrow nRows_after hwithin horigin hleft
    · obtain ⟨haxis, first, last, small, rfl⟩ := columns_of_skipped hrow
      cases edit with
      | insert axis index =>
        obtain rfl : axis = .row := haxis
        have htwo := hrows index rfl
        rw [replaceReferences_columns rfl]
        exact Expr.single_columns htwo (Int.le_add_one htwo) ha
      | delete axis index =>
        obtain rfl : axis = .row := haxis
        obtain ⟨cell, hcell, hgone⟩ := exists_gone hedit hplaced (Option.isSome_of_eq_some horigin)
        have hleft := hleft cell hcell
        rw [hgone] at hleft
        cases hleft

end LineEdit

/-! ## Growth at the end -/

/-- When a sheet of two rows at least grows at its end, all cells stay where they are. -/
theorem Moves.of_le {g g' : Grammar} (hrows : g.nRows ≤ g'.nRows) (hcols : g.nCols ≤ g'.nCols)
    (htwo : 2 ≤ g.nRows) : Moves g g' some fun _ => none := by
  have hsame {ref : Expr} (href : ref.isReference) :
      ref.replaceReferences (fun _ => none) = ref :=
    Expr.replaceReferences_of_isReference href
  refine ⟨?_, ?_, ?_, ?_, ?_⟩
  · rintro cell _ hcell ⟨⟩
    exact hcell.mono hrows hcols
  · rintro a b _ _ h ⟨⟩ ⟨⟩
    exact h
  · intro ref lowercase href hplaced
    rw [hsame href]
    exact .inr ⟨href, hplaced.mono hrows hcols⟩
  · rintro ref lowercase origin _ cell _ href hplaced ⟨⟩ hcell ⟨⟩
    rw [hsame href]
    cases ref with
    | columns first last small =>
      rw [Expr.mem_coveredCells_columns (hcell.mono hrows hcols),
        Expr.mem_coveredCells_columns hcell]
    | _ => rfl
  · rintro ref lowercase origin _ a hplaced ha - ⟨⟩ -
    rw [hsame (Expr.isReference_of_area? ha)]
    cases ref with
    | columns first last small => exact Expr.single_columns htwo (Int.le_trans htwo hrows) ha
    | _ => exact ⟨a, ha, Iff.rfl, fun _ cell hcell => ⟨cell, hplaced.within ha hcell, rfl⟩⟩

end Spreadsheet

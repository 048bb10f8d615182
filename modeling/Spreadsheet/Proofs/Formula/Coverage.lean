import Spreadsheet.Proofs.Formula.Lines

/-!
# What formulas read when lines come and go

When a row or column comes or goes, a formula reads the cells that it read before, in their new
places (`LineEdit.shift`), without those that are gone (`LineEdit.Deletes`). Of a new line it reads
the cells between the lines of its ranges and whole columns, and, of a new row, those in its whole
columns (`Expr.Surrounds`). Reference by reference this is shown in `mem_moved_iff` and
`mem_inserted_iff`, for a whole formula in `Expr.afterEdit_spec`.
-/

namespace Spreadsheet

@[simp] theorem Coord.withLine_line (cell : Coord) (axis : Axis) :
    cell.withLine (cell.line axis) axis = cell := by
  cases axis <;> rfl

/-- A new line through the cell comes between lines of the reference. A new row has a cell in each
column whatever comes before and after it. -/
def Expr.Surrounds (axis : Axis) (nRows : Int) (cell : Coord) : Expr → Prop
  | .range top left bottom right _ =>
    match axis with
    | .row => (top < cell.row ∧ cell.row ≤ bottom) ∧ left ≤ cell.col ∧ cell.col ≤ right
    | .column => (left < cell.col ∧ cell.col ≤ right) ∧ top ≤ cell.row ∧ cell.row ≤ bottom
  | .columns first last _ =>
    match axis with
    | .row => first ≤ cell.col ∧ cell.col ≤ last
    | .column => (first < cell.col ∧ cell.col ≤ last) ∧ 0 ≤ cell.row ∧ cell.row < nRows
  | _ => False

namespace LineEdit

/-- The cell is one of the deleted line. -/
def Deletes (edit : LineEdit) (cell : Coord) : Prop :=
  match edit with
  | .insert _ _ => False
  | .delete axis index => cell.line axis = index

/-- The cell is one of the inserted line. -/
def Inserts (edit : LineEdit) (cell : Coord) : Prop :=
  match edit with
  | .insert axis index => cell.line axis = index
  | .delete _ _ => False

/-- Where a cell that is left is after the edit. -/
def shift (edit : LineEdit) (cell : Coord) : Coord :=
  match edit with
  | .insert axis index =>
    if index ≤ cell.line axis then cell.withLine (cell.line axis + 1) axis else cell
  | .delete axis index =>
    if index < cell.line axis then cell.withLine (cell.line axis - 1) axis else cell

/-- Nothing is left of a reference: of one to cells, if each of them is deleted, and of one to whole
columns, to which it does not matter what rows there are, if their only column is. -/
def Removes (edit : LineEdit) (nRows : Int) : Expr → Prop
  | .columns first last _ => first = last ∧ edit = .delete .column first
  | ref => ∀ cell ∈ ref.coveredCells nRows none, edit.Deletes cell

variable {g : Grammar} {edit : LineEdit} {ref : Expr} {a : Area} {lowercase : Bool}
  {origin : Option Coord} {cell cell' : Coord} {nRows : Int}

/-! ## Cells that move and cells that come -/

theorem place?_eq_some_iff_shift :
    edit.place? cell = some cell' ↔ ¬edit.Deletes cell ∧ edit.shift cell = cell' := by
  cases edit with
  | insert axis index =>
    simp only [place?, LineEdit.axis, line?, lineAfterInsert, Deletes, shift]
    by_cases hlater : index ≤ cell.line axis <;> simp [hlater]
  | delete axis index =>
    simp only [place?, LineEdit.axis, line?, lineAfterDelete?, Deletes, shift]
    by_cases hgone : cell.line axis = index
    · simp [hgone]
    · by_cases hlater : index < cell.line axis <;> simp [hgone, hlater]

/-- After the edit each cell was there before or is one of the inserted line. -/
theorem exists_place?_or_inserts (edit : LineEdit) (cell' : Coord) :
    (∃ cell, edit.place? cell = some cell') ∨ edit.Inserts cell' := by
  have hplace (line : Int) (h : edit.line? line = some (cell'.line edit.axis)) :
      ∃ cell, edit.place? cell = some cell' :=
    ⟨cell'.withLine line edit.axis, place?_eq_some.2 (by simp [h])⟩
  cases edit with
  | insert axis index =>
    by_cases hnew : cell'.line axis = index
    · exact .inr hnew
    · refine .inl ?_
      by_cases hlater : index < cell'.line axis
      · refine hplace (cell'.line axis - 1) ?_
        rw [line?, lineAfterInsert, if_pos (by omega), Int.sub_add_cancel]
        rfl
      · refine hplace (cell'.line axis) ?_
        rw [line?, lineAfterInsert, if_neg (by omega)]
        rfl
  | delete axis index =>
    refine .inl ?_
    by_cases hlater : index ≤ cell'.line axis
    · refine hplace (cell'.line axis + 1) (line?_delete_eq_some.2 ⟨by omega, ?_⟩)
      rw [if_pos (by omega), Int.add_sub_cancel]
      rfl
    · refine hplace (cell'.line axis) (line?_delete_eq_some.2 ⟨by omega, ?_⟩)
      rw [if_neg (by omega)]
      rfl

/-- A cell that was there before is none of the inserted line. -/
theorem not_inserts_of_place? (h : edit.place? cell = some cell') : ¬edit.Inserts cell' := by
  cases edit with
  | insert axis index =>
    have hline : lineAfterInsert index (cell.line axis) = cell'.line axis :=
      Option.some.inj (place?_eq_some.1 h).1
    rw [Inserts, ← hline, lineAfterInsert]
    by_cases hlater : index ≤ cell.line axis
    · rw [if_pos hlater]
      omega
    · rw [if_neg hlater]
      omega
  | delete axis index => exact id

/-- What moves to the place of the formula is the formula. -/
theorem eq_map_shift_iff (horigin : ∀ cell, origin = some cell → ¬edit.Deletes cell)
    (hcell : edit.place? cell = some cell') :
    some cell' = origin.map edit.shift ↔ some cell = origin := by
  cases origin with
  | none => simp
  | some owner =>
    have hplace : edit.place? owner = some (edit.shift owner) :=
      place?_eq_some_iff_shift.2 ⟨horigin owner rfl, rfl⟩
    simpa using place?_inj_iff hcell hplace

/-- The formula is in no inserted line. -/
theorem ne_map_shift (horigin : ∀ cell, origin = some cell → ¬edit.Deletes cell)
    (hnew : edit.Inserts cell') : some cell' ≠ origin.map edit.shift := by
  intro heq
  obtain ⟨owner, howner, hshift⟩ := Option.map_eq_some_iff.1 heq.symm
  exact not_inserts_of_place?
    (place?_eq_some_iff_shift.2 ⟨horigin owner howner, hshift⟩) hnew

/-! ## The lines of a reference -/

theorem first_le_last_of_placed {nCols : Int} {axis : Axis}
    (hplaced : ref.Placed nRows nCols lowercase) (ha : ref.area? nRows = some a)
    (hrow : axis = .row → ∀ origin, ref.skipped origin = none) :
    a.first axis ≤ a.last axis := by
  cases ref with
  | cell target small =>
    cases ha
    cases axis <;> exact Int.le_refl _
  | range top left bottom right small =>
    cases ha
    exact Area.first_le_last axis ⟨hplaced.1.2.1, hplaced.2.1.2.1⟩
  | columns first last small =>
    cases ha
    cases axis with
    | row => cases hrow rfl (some ⟨0, 0⟩)
    | column => exact hplaced.1.2.1
  | _ => cases ha

theorem surrounds_iff_area {axis : Axis} (ha : ref.area? nRows = some a)
    (hrow : axis = .row → ∀ origin, ref.skipped origin = none) :
    ref.Surrounds axis nRows cell ↔
      (a.first axis < cell.line axis ∧ cell.line axis ≤ a.last axis) ∧
        a.first axis.other ≤ cell.line axis.other ∧
          cell.line axis.other ≤ a.last axis.other := by
  cases ref with
  | cell target small =>
    cases ha
    refine iff_of_false id fun h => ?_
    have hlines := h.1
    cases axis <;> exact absurd hlines.2 (Int.not_le.2 hlines.1)
  | range top left bottom right small =>
    cases ha
    cases axis <;> exact Iff.rfl
  | columns first last small =>
    cases ha
    cases axis with
    | row => cases hrow rfl (some ⟨0, 0⟩)
    | column => exact and_congr_right fun _ => and_congr_right fun _ => Int.le_sub_one_iff.symm
  | _ => cases ha

theorem span?_eq_none_iff {first last : Int} :
    edit.span? first last = none ↔
      first = last ∧ edit = .delete edit.axis first := by
  cases edit with
  | insert axis index => simp [span?]
  | delete axis index =>
    simp only [span?, spanAfterDelete?, ite_eq_left_iff, reduceCtorEq, imp_false, not_not,
      delete.injEq, LineEdit.axis, true_and]
    omega

/-- A new line is between others after it comes if its place was between them. -/
theorem between_lineAfterInsert_iff {index first last : Int} :
    lineAfterInsert index first ≤ index ∧ index ≤ lineAfterInsert index last ↔
      first < index ∧ index ≤ last := by
  simp only [lineAfterInsert]
  split <;> split <;> omega

/-- A line is one of the sheet after the edit if it was before. -/
theorem within_line?_iff {lines line moved : Int} (hedit : edit.Fits lines)
    (hmoved : edit.line? line = some moved) :
    0 ≤ moved ∧ moved < edit.count lines ↔ 0 ≤ line ∧ line < lines := by
  cases edit with
  | insert axis index =>
    cases hmoved
    simp only [Fits, lineAfterInsert, count] at hedit ⊢
    split <;> omega
  | delete axis index =>
    obtain ⟨hne, rfl⟩ := line?_delete_eq_some.1 hmoved
    simp only [Fits, count] at hedit ⊢
    split <;> omega

/-! ## References that move -/

/-- After the edit a reference is one to the cells that are left of it. -/
theorem mem_moved_iff (hedit : edit.Fits (g.lines edit.axis)) (href : ref.isReference)
    (hplaced : ref.Placed g.nRows g.nCols lowercase)
    (horigin : ∀ cell, origin = some cell → ¬edit.Deletes cell)
    (hcell : edit.place? cell = some cell') :
    cell' ∈ (ref.replaceReferences edit.reference?).coveredCells (g.after edit).nRows
        (origin.map edit.shift) ↔
      cell ∈ ref.coveredCells g.nRows origin := by
  have hsame := eq_map_shift_iff horigin hcell
  by_cases hrow : edit.axis = .row → ∀ origin, ref.skipped origin = none
  · obtain ⟨a, ha⟩ := Expr.exists_area? href g.nRows
    exact covers_reference? ha (first_le_last_of_placed hplaced ha hrow) hrow nRows_after hsame
      hcell
  · obtain ⟨haxis, first, last, small, rfl⟩ := columns_of_skipped hrow
    obtain ⟨hline, hother⟩ := place?_eq_some.1 hcell
    have hrows := (lines_after g edit).1
    rw [haxis] at hedit hline hother hrows
    have hcount : (g.after edit).nRows = edit.count g.nRows := hrows
    have hwithin : 0 ≤ cell'.row ∧ cell'.row < edit.count g.nRows ↔
        0 ≤ cell.row ∧ cell.row < g.nRows := within_line?_iff hedit hline
    have hcol : cell'.col = cell.col := hother
    rw [replaceReferences_columns haxis, Expr.mem_coveredCells rfl, Expr.mem_coveredCells rfl,
      Expr.ne_skipped_iff hsame]
    simp only [Area.Contains, hcol, Int.le_sub_one_iff, hcount, hwithin]

/-- A cell of a new line is read by a reference if it comes between its lines. -/
theorem mem_inserted_iff (hedit : edit.Fits (g.lines edit.axis)) (href : ref.isReference)
    (horigin : ∀ cell, origin = some cell → ¬edit.Deletes cell) (hnew : edit.Inserts cell') :
    cell' ∈ (ref.replaceReferences edit.reference?).coveredCells (g.after edit).nRows
        (origin.map edit.shift) ↔
      ref.Surrounds edit.axis g.nRows cell' := by
  have hskipped : some cell' ≠ ref.skipped (origin.map edit.shift) := by
    cases ref with
    | columns first last small => exact ne_map_shift horigin hnew
    | _ => exact Option.some_ne_none cell'
  by_cases hrow : edit.axis = .row → ∀ origin, ref.skipped origin = none
  · obtain ⟨a, ha⟩ := Expr.exists_area? href g.nRows
    rw [surrounds_iff_area ha hrow]
    obtain ⟨hspan, -⟩ | ⟨first, last, hspan, harea, hskip⟩ :=
      area?_reference? ha hrow (nRows_after (g := g))
    · obtain ⟨-, hdelete⟩ := span?_eq_none_iff.1 hspan
      rw [hdelete] at hnew
      exact hnew.elim
    · rw [Expr.mem_coveredCells harea, hskip, and_iff_left hskipped,
        Area.contains_iff_lines edit.axis]
      simp only [Area.first_withLines, Area.last_withLines, Area.first_other_withLines,
        Area.last_other_withLines]
      refine and_congr_left fun _ => ?_
      cases edit with
      | insert axis index =>
        have hline : cell'.line axis = index := hnew
        cases hspan
        rw [LineEdit.axis, hline]
        exact between_lineAfterInsert_iff
      | delete axis index => exact hnew.elim
  · obtain ⟨haxis, first, last, small, rfl⟩ := columns_of_skipped hrow
    have hrows := (lines_after g edit).1
    rw [replaceReferences_columns haxis, Expr.mem_coveredCells rfl, and_iff_left hskipped]
    rw [haxis] at hedit hrows ⊢
    cases edit with
    | insert axis index =>
      have hline : cell'.line axis = index := hnew
      obtain rfl : axis = .row := haxis
      have hcount : (g.after (.insert .row index)).nRows = g.nRows + 1 := hrows
      have hrow' : cell'.row = index := hline
      obtain ⟨hfirst, hlast⟩ : 0 ≤ index ∧ index ≤ g.nRows := hedit
      refine and_iff_right ?_
      simp only [hcount, hrow']
      omega
    | delete axis index => exact hnew.elim

/-- After the edit a reference covers the cells that are left of it, and those of a new line that
comes between its lines. -/
theorem mem_coveredCells_iff (hedit : edit.Fits (g.lines edit.axis))
    (hplaced : ref.Placed g.nRows g.nCols lowercase)
    (horigin : ∀ cell, origin = some cell → ¬edit.Deletes cell) :
    cell' ∈ (ref.replaceReferences edit.reference?).coveredCells (g.after edit).nRows
        (origin.map edit.shift) ↔
      (∃ cell ∈ ref.coveredCells g.nRows origin, ¬edit.Deletes cell ∧ edit.shift cell = cell') ∨
        edit.Inserts cell' ∧ ref.Surrounds edit.axis g.nRows cell' := by
  simp only [← place?_eq_some_iff_shift]
  cases href : ref.isReference with
  | false =>
    have hroot : (ref.replaceReferences edit.reference?).isReference = false :=
      (Expr.sameRoot_replaceReferences href).isReference
    have hnone : ¬ref.Surrounds edit.axis g.nRows cell' := by
      cases ref with
      | cell | range | columns => cases href
      | _ => exact id
    simp [Expr.coveredCells_of_not_isReference, href, hroot, hnone]
  | true =>
    obtain ⟨cell, hcell⟩ | hnew := exists_place?_or_inserts edit cell'
    · rw [mem_moved_iff hedit href hplaced horigin hcell]
      have hold := not_inserts_of_place? hcell
      constructor
      · exact fun hmem => .inl ⟨cell, hmem, hcell⟩
      · rintro (⟨other, hmem, hother⟩ | ⟨hnew, -⟩)
        · rwa [← (place?_inj_iff hother hcell).1 rfl]
        · exact absurd hnew hold
    · rw [mem_inserted_iff hedit href horigin hnew]
      constructor
      · exact fun hsurrounds => .inr ⟨hnew, hsurrounds⟩
      · rintro (⟨other, -, hother⟩ | ⟨-, hsurrounds⟩)
        · exact absurd hnew (not_inserts_of_place? hother)
        · exact hsurrounds

/-! ## References to lines that are gone -/

/-- All cells of an area are deleted if its only line is. -/
theorem deletes_area_iff (hle : a.top ≤ a.bottom ∧ a.left ≤ a.right) :
    (∀ cell, a.Contains cell → edit.Deletes cell) ↔
      a.first edit.axis = a.last edit.axis ∧ edit = .delete edit.axis (a.first edit.axis) := by
  constructor
  · intro h
    have hfirst : edit.Deletes a.corner := h _ ⟨⟨Int.le_refl _, hle.1⟩, Int.le_refl _, hle.2⟩
    have hlast : edit.Deletes ⟨a.bottom, a.right⟩ :=
      h _ ⟨⟨hle.1, Int.le_refl _⟩, hle.2, Int.le_refl _⟩
    cases edit with
    | insert axis index => exact hfirst.elim
    | delete axis index =>
      cases axis with
      | row => exact ⟨hfirst.trans hlast.symm, congrArg (delete .row) hfirst.symm⟩
      | column => exact ⟨hfirst.trans hlast.symm, congrArg (delete .column) hfirst.symm⟩
  · rintro ⟨hone, hdelete⟩ cell hcell
    have hline := ((Area.contains_iff_lines edit.axis).1 hcell).1
    rw [hdelete]
    show cell.line edit.axis = a.first edit.axis
    omega

theorem removes_iff_area (href : ref.isReference) (hplaced : ref.Placed g.nRows g.nCols lowercase)
    (ha : ref.area? g.nRows = some a)
    (hrow : edit.axis = .row → ∀ origin, ref.skipped origin = none) :
    edit.Removes g.nRows ref ↔
      a.first edit.axis = a.last edit.axis ∧ edit = .delete edit.axis (a.first edit.axis) := by
  cases ref with
  | cell target small =>
    rw [← deletes_area_iff]
    · simp [Removes, Expr.mem_coveredCells ha, Expr.skipped]
    · cases ha
      exact ⟨Int.le_refl _, Int.le_refl _⟩
  | range top left bottom right small =>
    rw [← deletes_area_iff]
    · simp [Removes, Expr.mem_coveredCells ha, Expr.skipped]
    · cases ha
      exact ⟨hplaced.1.2.1, hplaced.2.1.2.1⟩
  | columns first last small =>
    cases ha
    cases haxis : edit.axis with
    | row => cases hrow haxis (some ⟨0, 0⟩)
    | column => exact Iff.rfl
  | _ => cases href

/-- A reference becomes one to cells that are gone if nothing is left of it. -/
theorem replaceReferences_eq_deletedReference_iff (href : ref.isReference)
    (hplaced : ref.Placed g.nRows g.nCols lowercase) :
    ref.replaceReferences edit.reference? = .deletedReference ↔ edit.Removes g.nRows ref := by
  by_cases hrow : edit.axis = .row → ∀ origin, ref.skipped origin = none
  · obtain ⟨a, ha⟩ := Expr.exists_area? href g.nRows
    rw [removes_iff_area href hplaced ha hrow, ← span?_eq_none_iff]
    obtain ⟨hspan, hdeleted⟩ | ⟨first, last, hspan, harea, -⟩ :=
      area?_reference? ha hrow (nRows_after (g := g))
    · exact iff_of_true hdeleted hspan
    · refine iff_of_false (fun hdeleted => ?_) (by simp [hspan])
      rw [hdeleted] at harea
      cases harea
  · obtain ⟨haxis, first, last, small, rfl⟩ := columns_of_skipped hrow
    rw [replaceReferences_columns haxis]
    refine iff_of_false nofun ?_
    rintro ⟨-, hdelete⟩
    rw [hdelete] at haxis
    cases haxis

/-- A reference becomes one node. -/
theorem nodes_replaceReferences_of_isReference (href : ref.isReference) :
    (ref.replaceReferences edit.reference?).nodes = [ref.replaceReferences edit.reference?] := by
  by_cases hrow : edit.axis = .row → ∀ origin, ref.skipped origin = none
  · obtain ⟨a, ha⟩ := Expr.exists_area? href 0
    obtain ⟨-, hdeleted⟩ | ⟨first, last, -, harea, -⟩ :=
      area?_reference? ha hrow fun _ => rfl
    · rw [hdeleted]
      rfl
    · exact Expr.nodes_of_isReference (Expr.isReference_of_area? harea)
  · obtain ⟨haxis, first, last, small, rfl⟩ := columns_of_skipped hrow
    rw [replaceReferences_columns haxis]
    rfl

/-- References stay on the sheet. -/
theorem placed_replaceReferences (hedit : edit.Fits (g.lines edit.axis)) {e : Expr}
    (he : e.Throughout fun node => ∃ lowercase, node.Placed g.nRows g.nCols lowercase) :
    (e.replaceReferences edit.reference?).Throughout fun node =>
      ∃ lowercase, node.Placed (g.after edit).nRows (g.after edit).nCols lowercase := by
  refine he.replaceReferences (fun ref href => ?_) fun node node' hroot _ => ?_
  · rintro ⟨lowercase, hplaced⟩
    have hprintable := Expr.printable_reference? (allows_iff.2 hedit.within) href hplaced
    exact hprintable.mono fun node hnode => ⟨lowercase, hnode.placed⟩
  · refine ⟨false, ?_⟩
    cases hroot <;> trivial

end LineEdit

namespace Expr

/-- When a row or column comes or goes, a formula on the sheet reads the cells that are left of
those that it read, in their new places, and those of a new line that comes between the lines of
its references. Those of its references become `#REF!` of which nothing is left, and all others stay
on the sheet. -/
theorem afterEdit_spec (g : Grammar) (edit : LineEdit) (hedit : edit.Fits (g.lines edit.axis))
    (e : Expr) (he : e.Throughout fun node => ∃ lowercase, node.Placed g.nRows g.nCols lowercase)
    (origin : Option Coord) (horigin : ∀ cell, origin = some cell → ¬edit.Deletes cell) :
    let rewritten (e : Expr) : Expr := (e.afterEdit? edit).getD e
    (∀ cell', cell' ∈ (rewritten e).reads (g.after edit).nRows (origin.map edit.shift) ↔
      (∃ cell ∈ e.reads g.nRows origin, ¬edit.Deletes cell ∧ edit.shift cell = cell') ∨
        edit.Inserts cell' ∧ ∃ ref ∈ e.nodes, ref.Surrounds edit.axis g.nRows cell') ∧
    (rewritten e).nodes = e.nodes.map rewritten ∧
    (∀ ref ∈ e.nodes, ref.isReference →
      (rewritten ref = .deletedReference ↔ edit.Removes g.nRows ref)) ∧
    (rewritten e).Throughout fun node =>
      ∃ lowercase, node.Placed (g.after edit).nRows (g.after edit).nCols lowercase := by
  intro rewritten
  have hnodes : (rewritten e).nodes = e.nodes.map rewritten :=
    nodes_replaceReferences fun _ _ => LineEdit.nodes_replaceReferences_of_isReference
  refine ⟨fun cell' => ?_, hnodes, fun ref hmem href => ?_,
    LineEdit.placed_replaceReferences hedit he⟩
  · have hreference (ref : Expr) (hmem : ref ∈ e.nodes) :
        cell' ∈ (rewritten ref).coveredCells (g.after edit).nRows (origin.map edit.shift) ↔
          (∃ cell ∈ ref.coveredCells g.nRows origin,
              ¬edit.Deletes cell ∧ edit.shift cell = cell') ∨
            edit.Inserts cell' ∧ ref.Surrounds edit.axis g.nRows cell' := by
      obtain ⟨lowercase, hplaced⟩ := he ref hmem
      exact LineEdit.mem_coveredCells_iff hedit hplaced horigin
    simp only [reads, Coord.mem_ascending, hnodes, List.flatMap_map, List.mem_flatMap]
    constructor
    · rintro ⟨ref, hmem, hcell⟩
      obtain ⟨cell, hcell, hmoved⟩ | ⟨hnew, hsurrounds⟩ := (hreference ref hmem).1 hcell
      · exact .inl ⟨cell, ⟨ref, hmem, hcell⟩, hmoved⟩
      · exact .inr ⟨hnew, ref, hmem, hsurrounds⟩
    · rintro (⟨cell, ⟨ref, hmem, hcell⟩, hmoved⟩ | ⟨hnew, ref, hmem, hsurrounds⟩)
      · exact ⟨ref, hmem, (hreference ref hmem).2 (.inl ⟨cell, hcell, hmoved⟩)⟩
      · exact ⟨ref, hmem, (hreference ref hmem).2 (.inr ⟨hnew, hsurrounds⟩)⟩
  · obtain ⟨lowercase, hplaced⟩ := he ref hmem
    exact LineEdit.replaceReferences_eq_deletedReference_iff href hplaced

/-- In `A1:A3+B` in the cell B1 of three rows, a new second row joins the cells of both references,
and all of the cells that were read are so afterwards. -/
theorem afterEdit_spec_sample :
    let g : Grammar := ⟨3, 2, .builtin⟩
    let edit : LineEdit := .insert .row 1
    let e : Expr := .binary (.arithmetic .add) (.range 0 0 2 0 false) (.columns 1 1 false)
    let e' : Expr := (e.afterEdit? edit).getD e
    edit.Fits (g.lines edit.axis) ∧
    (e.Throughout fun node => ∃ lowercase, node.Placed g.nRows g.nCols lowercase) ∧
    ¬edit.Deletes ⟨0, 1⟩ ∧
    (∀ cell ∈ e.reads 3 (some ⟨0, 1⟩), edit.shift cell ∈ e'.reads 4 (some ⟨0, 1⟩)) ∧
    Coord.mk 1 0 ∈ e'.reads 4 (some ⟨0, 1⟩) ∧ Coord.mk 1 1 ∈ e'.reads 4 (some ⟨0, 1⟩) := by
  intro g edit e e'
  have hedit : edit.Fits (g.lines edit.axis) := And.intro (by decide) (by decide)
  have he : e.Throughout fun node => ∃ lowercase, node.Placed g.nRows g.nCols lowercase :=
    fun node hnode => ⟨false, by
      revert node
      simp [e, g, nodes, Placed]⟩
  have hmem := (afterEdit_spec g edit hedit e he (some ⟨0, 1⟩) fun _ _ => id).1
  refine ⟨hedit, he, id, fun cell hcell => (hmem _).2 (.inl ⟨cell, hcell, id, rfl⟩), ?_, ?_⟩
  · exact (hmem ⟨1, 0⟩).2 (.inr ⟨rfl, .range 0 0 2 0 false, by simp [e, nodes],
      by simp [edit, LineEdit.axis, Surrounds]⟩)
  · exact (hmem ⟨1, 1⟩).2 (.inr ⟨rfl, .columns 1 1 false, by simp [e, nodes],
      by simp [edit, LineEdit.axis, Surrounds]⟩)

/-- Whole columns outlive their rows: the only row of a sheet is deleted, and with it the one cell
of a column, but the reference to the column stays. -/
theorem columns_outlive_rows :
    let ref : Expr := .columns 0 0 false
    let edit : LineEdit := .delete .row 0
    ref.Placed 1 1 false ∧ edit.Fits 1 ∧ ref.coveredCells 1 none = [⟨0, 0⟩] ∧
      edit.Deletes ⟨0, 0⟩ ∧ (ref.afterEdit? edit).getD ref ≠ .deletedReference := by
  refine ⟨⟨by decide, rfl⟩, And.intro (by decide) (by decide), by decide, rfl, ?_⟩
  exact nofun

end Expr

end Spreadsheet

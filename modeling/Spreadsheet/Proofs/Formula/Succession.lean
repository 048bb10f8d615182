import Spreadsheet.Proofs.Formula.Lines

/-!
# Lines that come and go one after the other

What formulas become when rows and columns come and go one after the other. Where a line is inserted
and deleted again, all formulas are as they were (`replaceReferences_delete_insert`); a row that
comes or goes and a column that does so may change places (`replaceReferences_comm`). A formula is
written anew exactly if it becomes another one (`afterEdit?_eq_none_iff`), so what holds of the
formulas holds of what is written anew as well.
-/

namespace Spreadsheet

namespace Expr

variable {replace : Expr → Option Expr} {e : Expr}

/-! ## What is written anew -/

theorem mapAllReferences?_eq_none {args : List Expr}
    (h : ∀ arg ∈ args, arg.mapReferences? replace = none) :
    mapAllReferences? replace args = none := by
  induction args with
  | nil => rfl
  | cons arg args ih =>
    obtain ⟨hfirst, hrest⟩ := List.forall_mem_cons.1 h
    rw [mapAllReferences?, hfirst, ih hrest]

/-- Where no reference is replaced by itself, a formula is written anew exactly if it becomes
another one. -/
theorem mapReferences?_eq_none_iff (hreplace : ∀ ref, replace ref ≠ some ref) :
    e.mapReferences? replace = none ↔ e.replaceReferences replace = e := by
  refine ⟨fun h => by rw [replaceReferences, h, Option.getD_none], fun h => ?_⟩
  induction e using Expr.induction with
  | number | string | deletedReference => rfl
  | reference ref href =>
    rw [replaceReferences_of_isReference href] at h
    have hkept : replace ref = none := by
      cases hnew : replace ref with
      | none => rfl
      | some new =>
        rw [hnew, Option.getD_some] at h
        exact absurd (h ▸ hnew) (hreplace ref)
    cases ref <;> first | exact hkept | cases href
  | unary op operand ih =>
    rw [replaceReferences_unary] at h
    rw [mapReferences?, ih (Expr.unary.inj h).2, Option.map_none]
  | binary op left right ihLeft ihRight =>
    rw [replaceReferences_binary] at h
    obtain ⟨-, hleft, hright⟩ := Expr.binary.inj h
    rw [mapReferences?, ihLeft hleft, ihRight hright]
  | call name args ih =>
    rw [replaceReferences_call] at h
    have hargs : ∀ arg ∈ args, arg.replaceReferences replace = arg := by
      refine List.map_inj_left.1 ?_
      rw [List.map_id']
      exact (Expr.call.inj h).2
    rw [mapReferences?, mapAllReferences?_eq_none fun arg harg => ih arg harg (hargs arg harg),
      Option.map_none]

/-- Formulas become the same when their references are replaced twice, if references do. -/
theorem replaceReferences_twice_congr {first second first' second' : Expr → Option Expr}
    (h : ∀ ref : Expr, ref.isReference →
      (ref.replaceReferences first).replaceReferences second =
        (ref.replaceReferences first').replaceReferences second') (e : Expr) :
    (e.replaceReferences first).replaceReferences second =
      (e.replaceReferences first').replaceReferences second' := by
  rw [replaceReferences_replaceReferences, replaceReferences_replaceReferences]
  exact replaceReferences_congr fun ref _ href => by
    rw [replaceReferences_some href, replaceReferences_some href, h ref href]

end Expr

namespace LineEdit

variable {edit : LineEdit}

/-! ## Single references -/

theorem adjustSpan?_ne_self {first last : Int} {rebuild : Int → Int → Expr}
    (hreference : ∀ first last, (rebuild first last).isReference)
    (hinj : ∀ newFirst newLast, rebuild newFirst newLast = rebuild first last →
      newFirst = first ∧ newLast = last) :
    edit.adjustSpan? first last rebuild ≠ some (rebuild first last) := by
  intro h
  rw [adjustSpan?] at h
  split at h
  · have hdeleted := hreference first last
    rw [← Option.some.inj h] at hdeleted
    cases hdeleted
  · split at h
    · cases h
    · next hmoved => exact hmoved (hinj _ _ (Option.some.inj h))

/-- No reference is written anew that stays as it is. -/
theorem reference?_ne_self (edit : LineEdit) (ref : Expr) : edit.reference? ref ≠ some ref := by
  cases ref with
  | cell target small =>
    intro h
    cases haxis : edit.axis with
    | row =>
      simp only [reference?, haxis] at h
      split at h
      · cases h
      · split at h
        · cases h
        · next hmoved =>
          exact hmoved (congrArg Coord.row (Expr.cell.inj (Option.some.inj h)).1)
    | column =>
      simp only [reference?, haxis] at h
      split at h
      · cases h
      · split at h
        · cases h
        · next hmoved =>
          exact hmoved (congrArg Coord.col (Expr.cell.inj (Option.some.inj h)).1)
  | range top left bottom right small =>
    rw [reference?]
    split
    · refine adjustSpan?_ne_self (fun _ _ => rfl) fun _ _ h => ?_
      cases h
      exact ⟨rfl, rfl⟩
    · refine adjustSpan?_ne_self (fun _ _ => rfl) fun _ _ h => ?_
      cases h
      exact ⟨rfl, rfl⟩
  | columns first last small =>
    rw [reference?]
    split
    · simp
    · refine adjustSpan?_ne_self (fun _ _ => rfl) fun _ _ h => ?_
      cases h
      exact ⟨rfl, rfl⟩
  | _ => simp [reference?]

theorem replaceReferences_cell_row (haxis : edit.axis = .row) (target : Coord) (small : Bool) :
    (Expr.cell target small).replaceReferences edit.reference? =
      ((edit.line? target.row).map fun row => Expr.cell ⟨row, target.col⟩ small).getD
        .deletedReference :=
  (Expr.replaceReferences_of_isReference rfl).trans (getD_reference?_row haxis target small)

theorem replaceReferences_cell_column (haxis : edit.axis = .column) (target : Coord)
    (small : Bool) :
    (Expr.cell target small).replaceReferences edit.reference? =
      ((edit.line? target.col).map fun col => Expr.cell ⟨target.row, col⟩ small).getD
        .deletedReference :=
  (Expr.replaceReferences_of_isReference rfl).trans (getD_reference?_column haxis target small)

theorem replaceReferences_range_row (haxis : edit.axis = .row) (top left bottom right : Int)
    (small : Bool) :
    (Expr.range top left bottom right small).replaceReferences edit.reference? =
      ((edit.span? top bottom).map fun span => Expr.range span.1 left span.2 right small).getD
        .deletedReference := by
  rw [Expr.replaceReferences_of_isReference rfl, reference?, haxis]
  exact getD_adjustSpan? top bottom fun top bottom => .range top left bottom right small

theorem replaceReferences_range_column (haxis : edit.axis = .column) (top left bottom right : Int)
    (small : Bool) :
    (Expr.range top left bottom right small).replaceReferences edit.reference? =
      ((edit.span? left right).map fun span => Expr.range top span.1 bottom span.2 small).getD
        .deletedReference := by
  rw [Expr.replaceReferences_of_isReference rfl, reference?, haxis]
  exact getD_adjustSpan? left right fun left right => .range top left bottom right small

theorem replaceReferences_columns_column (haxis : edit.axis = .column) (first last : Int)
    (small : Bool) :
    (Expr.columns first last small).replaceReferences edit.reference? =
      ((edit.span? first last).map fun span => Expr.columns span.1 span.2 small).getD
        .deletedReference := by
  rw [Expr.replaceReferences_of_isReference rfl, reference?, haxis]
  exact getD_adjustSpan? first last fun first last => .columns first last small

/-! ## Insertion and deletion -/

theorem line?_delete_lineAfterInsert (axis : Axis) (index line : Int) :
    (delete axis index).line? (lineAfterInsert index line) = some line := by
  rw [line?_delete_eq_some, lineAfterInsert]
  split <;> split <;> omega

theorem span?_delete_lineAfterInsert (axis : Axis) (index first last : Int) :
    (delete axis index).span? (lineAfterInsert index first) (lineAfterInsert index last) =
      some (first, last) := by
  have hfirst : lineAfterInsert index first ≠ index := by
    rw [lineAfterInsert]
    split <;> omega
  refine span?_delete_eq_some.2 ⟨fun h => hfirst h.1, ?_, ?_⟩
  · rw [lineAfterInsert]
    split <;> split <;> omega
  · by_cases hlast : index ≤ last
    · rw [lineAfterInsert, if_pos hlast, if_pos (by omega)]
      omega
    · rw [lineAfterInsert, if_neg hlast, if_neg hlast]

/-- Deleting the line that was inserted undoes what became of a formula. -/
theorem replaceReferences_delete_insert (axis : Axis) (index : Int) (e : Expr) :
    (e.replaceReferences (insert axis index).reference?).replaceReferences
      (delete axis index).reference? = e := by
  have hsame (e : Expr) :
      (e.replaceReferences fun _ => none).replaceReferences (fun _ => none) = e := by
    rw [Expr.replaceReferences_none, Expr.replaceReferences_none]
  refine (Expr.replaceReferences_twice_congr (fun ref href => ?_) e).trans (hsame e)
  rw [hsame ref]
  cases axis with
  | row =>
    cases ref with
    | cell target small =>
      rw [replaceReferences_cell_row rfl]
      change (Expr.cell _ small).replaceReferences _ = _
      rw [replaceReferences_cell_row rfl, line?_delete_lineAfterInsert]
      rfl
    | range top left bottom right small =>
      rw [replaceReferences_range_row rfl]
      change (Expr.range _ left _ right small).replaceReferences _ = _
      rw [replaceReferences_range_row rfl, span?_delete_lineAfterInsert]
      rfl
    | columns first last small =>
      rw [replaceReferences_columns rfl, replaceReferences_columns rfl]
    | _ => cases href
  | column =>
    cases ref with
    | cell target small =>
      rw [replaceReferences_cell_column rfl]
      change (Expr.cell _ small).replaceReferences _ = _
      rw [replaceReferences_cell_column rfl, line?_delete_lineAfterInsert]
      rfl
    | range top left bottom right small =>
      rw [replaceReferences_range_column rfl]
      change (Expr.range top _ bottom _ small).replaceReferences _ = _
      rw [replaceReferences_range_column rfl, span?_delete_lineAfterInsert]
      rfl
    | columns first last small =>
      rw [replaceReferences_columns_column rfl]
      change (Expr.columns _ _ small).replaceReferences _ = _
      rw [replaceReferences_columns_column rfl, span?_delete_lineAfterInsert]
      rfl
    | _ => cases href

/-! ## A row and a column -/

/-- A row that comes or goes and a column that does so make the same of a formula in either order.
-/
theorem replaceReferences_comm {row column : LineEdit} (hrow : row.axis = .row)
    (hcolumn : column.axis = .column) (e : Expr) :
    (e.replaceReferences row.reference?).replaceReferences column.reference? =
      (e.replaceReferences column.reference?).replaceReferences row.reference? := by
  refine Expr.replaceReferences_twice_congr (fun ref href => ?_) e
  cases ref with
  | cell target small =>
    rw [replaceReferences_cell_row hrow, replaceReferences_cell_column hcolumn]
    cases hline : row.line? target.row with
    | none =>
      cases column.line? target.col with
      | none => rfl
      | some col => exact ((replaceReferences_cell_row hrow ⟨target.row, col⟩ small).trans
          (by rw [hline]; rfl)).symm
    | some line =>
      refine (replaceReferences_cell_column hcolumn ⟨line, target.col⟩ small).trans ?_
      cases column.line? target.col with
      | none => rfl
      | some col => exact ((replaceReferences_cell_row hrow ⟨target.row, col⟩ small).trans
          (by rw [hline]; rfl)).symm
  | range top left bottom right small =>
    rw [replaceReferences_range_row hrow, replaceReferences_range_column hcolumn]
    cases hspan : row.span? top bottom with
    | none =>
      cases column.span? left right with
      | none => rfl
      | some span =>
        exact ((replaceReferences_range_row hrow top span.1 bottom span.2 small).trans
          (by rw [hspan]; rfl)).symm
    | some lines =>
      refine (replaceReferences_range_column hcolumn lines.1 left lines.2 right small).trans ?_
      cases column.span? left right with
      | none => rfl
      | some span =>
        exact ((replaceReferences_range_row hrow top span.1 bottom span.2 small).trans
          (by rw [hspan]; rfl)).symm
  | columns first last small =>
    rw [replaceReferences_columns hrow, replaceReferences_columns_column hcolumn]
    cases column.span? first last with
    | none => rfl
    | some span => exact (replaceReferences_columns hrow span.1 span.2 small).symm
  | _ => cases href

end LineEdit

/-- A formula is written anew exactly if it becomes another one. -/
theorem Expr.afterEdit?_eq_none_iff {edit : LineEdit} {e : Expr} :
    e.afterEdit? edit = none ↔ e.replaceReferences edit.reference? = e :=
  Expr.mapReferences?_eq_none_iff edit.reference?_ne_self

end Spreadsheet

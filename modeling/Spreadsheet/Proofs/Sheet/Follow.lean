import Mathlib.Data.List.InsertIdx
import Spreadsheet.Proofs.Formula.Succession
import Spreadsheet.Proofs.Sheet.Uncomputed

/-!
# The sheet that an edit computes

Where a row or column comes or goes, `Sheet.follow` is the sheet with its formulas after it, which
is linked anew and computed then. What was computed before does not matter
(`rebuild_follow_rebuild`), so it is enough to look at two edits one after the other before anything
is computed: at the rows and columns (`Table.edited_delete_insert`, `Table.edited_comm`), and at
each cell with its formula (`adjustCell_adjustCell`). A line that is deleted where it was inserted
leaves no more than new texts (`follow_delete_insert`), and a row and a column may come or go in
either order (`follow_comm`).
-/

namespace Spreadsheet

/-! ## Lists of lines -/

namespace LineEdit

variable {α β : Type} {edit : LineEdit}

theorem map_edited (f : α → β) (new : α) (xs : List α) :
    (edit.edited new xs).map f = edit.edited (f new) (xs.map f) := by
  cases edit with
  | insert axis index => exact List.map_insertIdx ..
  | delete axis index => exact (List.eraseIdx_map ..).symm

theorem length_edited_congr {xs : List α} {ys : List β} (h : xs.length = ys.length) (x : α)
    (y : β) : (edit.edited x xs).length = (edit.edited y ys).length := by
  cases edit with
  | insert axis index => rw [edited, edited, List.length_insertIdx, List.length_insertIdx, h]
  | delete axis index => rw [edited, edited, List.length_eraseIdx, List.length_eraseIdx, h]

/-- A list whose members are all the same, as many as those of another list, remains such. -/
theorem edited_replicate (edit : LineEdit) (x : α) (y : β) (ys : List β) :
    edit.edited x (List.replicate ys.length x) =
      List.replicate (edit.edited y ys).length x := by
  refine List.eq_replicate_iff.2 ⟨length_edited_congr List.length_replicate x y, fun z hz => ?_⟩
  exact (mem_edited hz).elim id List.eq_of_mem_replicate

theorem edited_delete_insert (axis : Axis) (index : Int) (new other : α) (xs : List α) :
    (delete axis index).edited other ((insert axis index).edited new xs) = xs :=
  List.eraseIdx_insertIdx_self ..

/-- How many rows at the top are fixed after a line comes or goes. -/
def fixedRows (edit : LineEdit) (fixed : Nat) : Nat :=
  match edit with
  | .insert .row index => if index.toNat < fixed then fixed + 1 else fixed
  | .delete .row index => if index.toNat < fixed then fixed - 1 else fixed
  | _ => fixed

theorem fixedRows_column (haxis : edit.axis = .column) (fixed : Nat) :
    edit.fixedRows fixed = fixed := by
  cases edit <;> cases haxis <;> rfl

theorem fixedRows_delete_insert (axis : Axis) (index : Int) (fixed : Nat) :
    (delete axis index).fixedRows ((insert axis index).fixedRows fixed) = fixed := by
  cases axis with
  | row =>
    simp only [fixedRows]
    split
    · rw [if_pos (by omega), Nat.add_sub_cancel]
    · rfl
  | column => rfl

/-- The columns after a line comes or goes. -/
def columns (edit : LineEdit) (column : Column) (columns : List Column) : List Column :=
  match edit.axis with
  | .row => columns
  | .column => edit.edited column columns

end LineEdit

namespace Table

variable {α β : Type} {table : Table α} {row column : LineEdit}

theorem map_edited (edit : LineEdit) (f : α → β) (entry : α) (width : Nat) (table : Table α) :
    (table.edited edit entry width).map (·.map f) =
      edited edit (f entry) width (table.map (·.map f)) := by
  cases haxis : edit.axis with
  | row => simp only [edited, haxis, LineEdit.map_edited, List.map_replicate]
  | column =>
    simp only [edited, haxis, List.map_map]
    exact List.map_congr_left fun _ _ => LineEdit.map_edited ..

theorem edited_delete_insert (axis : Axis) (index : Int) (entry : α) (width width' : Nat) :
    (table.edited (.insert axis index) entry width).edited (.delete axis index) entry width' =
      table := by
  cases axis with
  | row =>
    exact LineEdit.edited_delete_insert .row index _ (List.replicate width' entry) table
  | column =>
    refine (List.map_map ..).trans ((List.map_congr_left fun row _ => ?_).trans (List.map_id _))
    exact LineEdit.edited_delete_insert .column index entry entry row

/-- A row that comes has as many entries as there are columns then. -/
theorem edited_comm (hrow : row.axis = .row) (hcolumn : column.axis = .column) (entry : α)
    (width width' : Nat) (columns : List β) (new : β) :
    (table.edited row entry columns.length).edited column entry width =
      (table.edited column entry width').edited row entry (column.edited new columns).length := by
  simp only [edited, hrow, hcolumn]
  rw [LineEdit.map_edited, LineEdit.edited_replicate column entry new columns]

end Table

/-! ## Cells -/

/-- The cell with another formula and the text of that. -/
def Cell.withFormula (options : Options) (formula : Expr) (c : Cell) : Cell :=
  { c with raw := options.formulaText formula.print, formula := some formula }

attribute [ext] Sheet

namespace Sheet

variable {s t : Sheet} {edit : LineEdit} {c : Cell} {formula : Expr}

theorem adjustCell_congr (h : t.options = s.options) (edit : LineEdit) :
    t.adjustCell edit = s.adjustCell edit := by
  funext c
  rw [adjustCell, adjustCell, h]

theorem adjustCell_of_none (h : c.formula = none) (s : Sheet) (edit : LineEdit) :
    s.adjustCell edit c = c := by
  rw [adjustCell, h]
  rfl

theorem adjustCell_of_eq (hformula : c.formula = some formula)
    (h : formula.replaceReferences edit.reference? = formula) (s : Sheet) :
    s.adjustCell edit c = c := by
  rw [adjustCell, hformula, Option.bind_some, Expr.afterEdit?_eq_none_iff.2 h]

theorem adjustCell_of_ne (hformula : c.formula = some formula)
    (h : formula.replaceReferences edit.reference? ≠ formula) (s : Sheet) :
    s.adjustCell edit c = c.withFormula s.options (formula.replaceReferences edit.reference?) := by
  rw [adjustCell, hformula, Option.bind_some, Expr.replaceReferences, ← Expr.afterEdit?]
  cases hnew : formula.afterEdit? edit with
  | none => exact absurd (Expr.afterEdit?_eq_none_iff.1 hnew) h
  | some new => rfl

/-- A cell with the text of its formula remains such. -/
theorem adjustCell_withFormula (s : Sheet) (edit : LineEdit) (formula : Expr) (c : Cell) :
    s.adjustCell edit (c.withFormula s.options formula) =
      c.withFormula s.options (formula.replaceReferences edit.reference?) := by
  by_cases h : formula.replaceReferences edit.reference? = formula
  · rw [adjustCell_of_eq rfl h, h]
  · exact adjustCell_of_ne rfl h s

theorem isSome_afterEdit? :
    (formula.afterEdit? edit).isSome ↔ formula.replaceReferences edit.reference? ≠ formula :=
  Option.isSome_iff_ne_none.trans Expr.afterEdit?_eq_none_iff.not

/-- After two lines that come or go a cell has its text as before if neither moves a reference of
its formula, and else the text of the formula as it is then. -/
theorem adjustCell_adjustCell (hformula : c.formula = some formula) (s : Sheet)
    (first second : LineEdit) : s.adjustCell second (s.adjustCell first c) =
      if (formula.afterEdit? first).isSome ∨ (formula.afterEdit? second).isSome then
        c.withFormula s.options
          ((formula.replaceReferences first.reference?).replaceReferences second.reference?)
      else c := by
  by_cases hfirst : formula.replaceReferences first.reference? = formula
  · rw [adjustCell_of_eq hformula hfirst, hfirst]
    by_cases hsecond : formula.replaceReferences second.reference? = formula
    · rw [if_neg (by simp [isSome_afterEdit?, hfirst, hsecond]),
        adjustCell_of_eq hformula hsecond]
    · rw [if_pos (.inr (isSome_afterEdit?.2 hsecond)), adjustCell_of_ne hformula hsecond]
  · rw [if_pos (.inl (isSome_afterEdit?.2 hfirst)), adjustCell_of_ne hformula hfirst,
      adjustCell_withFormula]

theorem adjustCell_comm {row column : LineEdit} (hrow : row.axis = .row)
    (hcolumn : column.axis = .column) (s : Sheet) (c : Cell) :
    s.adjustCell column (s.adjustCell row c) = s.adjustCell row (s.adjustCell column c) := by
  cases hformula : c.formula with
  | none =>
    rw [adjustCell_of_none hformula, adjustCell_of_none hformula, adjustCell_of_none hformula]
  | some formula =>
    rw [adjustCell_adjustCell hformula, adjustCell_adjustCell hformula,
      LineEdit.replaceReferences_comm hrow hcolumn]
    exact if_congr Or.comm rfl rfl

/-- The cell with the text of its formula, if the edit moves a reference of that. -/
def rewordCell (s : Sheet) (edit : LineEdit) (c : Cell) : Cell :=
  match c.formula with
  | some formula => if (formula.afterEdit? edit).isSome then c.withFormula s.options formula else c
  | none => c

theorem adjustCell_delete_insert (s : Sheet) (axis : Axis) (index : Int) (c : Cell) :
    s.adjustCell (.delete axis index) (s.adjustCell (.insert axis index) c) =
      s.rewordCell (.insert axis index) c := by
  cases hformula : c.formula with
  | none => rw [adjustCell_of_none hformula, adjustCell_of_none hformula, rewordCell, hformula]
  | some formula =>
    have hback := LineEdit.replaceReferences_delete_insert axis index formula
    rw [adjustCell_adjustCell hformula, hback, rewordCell, hformula]
    refine if_congr (or_iff_left_of_imp fun hdeleted => ?_) rfl rfl
    rw [isSome_afterEdit?] at hdeleted ⊢
    intro hkept
    rw [hkept] at hback
    exact hdeleted hback

theorem uncomputed_withFormula (options : Options) (formula : Expr) (c : Cell) :
    (c.withFormula options formula).uncomputed =
      { c.withFormula options formula with value := .empty } := rfl

theorem uncomputed_adjustCell (s : Sheet) (edit : LineEdit) (c : Cell) :
    (s.adjustCell edit c).uncomputed = s.adjustCell edit c.uncomputed := by
  cases hformula : c.formula with
  | none =>
    rw [adjustCell_of_none hformula, adjustCell_of_none ((c.formula_uncomputed).trans hformula)]
  | some formula =>
    have hformula' : c.uncomputed.formula = some formula := c.formula_uncomputed.trans hformula
    by_cases h : formula.replaceReferences edit.reference? = formula
    · rw [adjustCell_of_eq hformula h, adjustCell_of_eq hformula' h]
    · rw [adjustCell_of_ne hformula h, adjustCell_of_ne hformula' h, uncomputed_withFormula,
        Cell.uncomputed, hformula]
      rfl

/-! ## Sheets -/

/-- The sheet with a line come or gone, `column` if a column comes, and no formula after it yet. -/
def relined (s : Sheet) (edit : LineEdit) (column : Column) : Sheet :=
  { s with
    columns := edit.columns column s.columns
    rows := s.rows.edited edit .blank s.nCols
    fixedRows := edit.fixedRows s.fixedRows }

/-- The sheet with a line come or gone and its formulas after it, which is computed then. -/
def follow (s : Sheet) (edit : LineEdit) (column : Column) : Sheet :=
  (s.relined edit column).adjustFormulas edit

/-- The sheet with the text of each formula of which the edit moves a reference. -/
def reworded (s : Sheet) (edit : LineEdit) : Sheet :=
  { s with rows := s.rows.map (·.map (s.rewordCell edit)) }

variable {column column' : Column}

theorem relined_relined (hfits : edit.Fits (s.grammar.lines edit.axis)) (column : Column) :
    s.Relined (s.relined edit column) edit := by
  refine ⟨hfits, rfl, rfl, rfl, ?_⟩
  rw [nCols, relined, LineEdit.columns, Grammar.after]
  cases haxis : edit.axis with
  | row => rfl
  | column =>
    rw [haxis] at hfits
    exact LineEdit.length_edited column hfits

theorem Rectangular.follow (h : s.Rectangular) (hfits : edit.Fits (s.grammar.lines edit.axis))
    (column : Column) : (s.follow edit column).Rectangular :=
  ((relined_relined hfits column).rectangular h).adjustFormulas edit

theorem grammar_follow (hfits : edit.Fits (s.grammar.lines edit.axis)) (column : Column) :
    (s.follow edit column).grammar = s.grammar.after edit := by
  rw [Sheet.follow, grammar_adjustFormulas, (relined_relined hfits column).grammar]

theorem rows_follow (s : Sheet) (edit : LineEdit) (column : Column) :
    (s.follow edit column).rows =
      (s.rows.edited edit .blank s.nCols).map (·.map (s.adjustCell edit)) := rfl

theorem columns_follow (s : Sheet) (edit : LineEdit) (column : Column) :
    (s.follow edit column).columns = edit.columns column s.columns := rfl

theorem nCols_follow (s : Sheet) (edit : LineEdit) (column : Column) :
    (s.follow edit column).nCols = (edit.columns column s.columns).length := rfl

theorem nRows_follow_column (haxis : edit.axis = .column) (s : Sheet) (column : Column) :
    (s.follow edit column).nRows = s.nRows := by
  rw [nRows, rows_follow, List.length_map, Table.edited, haxis, List.length_map, nRows]

theorem uncomputed_follow (s : Sheet) (edit : LineEdit) (column : Column) :
    (s.follow edit column).uncomputed = s.uncomputed.follow edit column := by
  have hcell (c : Cell) : (s.adjustCell edit c).uncomputed = s.adjustCell edit c.uncomputed :=
    uncomputed_adjustCell s edit c
  refine Sheet.ext rfl ?_ rfl rfl rfl rfl
  have hmap := Table.map_edited edit Cell.uncomputed .blank s.nCols s.rows
  calc
    (s.follow edit column).uncomputed.rows
      = (s.rows.edited edit .blank s.nCols).map
          (·.map fun c => (s.adjustCell edit c).uncomputed) := by
        rw [uncomputed, rows_follow, List.map_map]
        exact List.map_congr_left fun _ _ => List.map_map ..
    _ = ((s.rows.edited edit .blank s.nCols).map (·.map Cell.uncomputed)).map
          (·.map (s.adjustCell edit)) := by
        simp only [hcell, List.map_map, Function.comp_def]
    _ = (s.uncomputed.follow edit column).rows := by
        rw [hmap]
        rfl

/-- What was computed before an edit does not matter. -/
theorem rebuild_follow_rebuild (h : s.Rectangular) (hfits : edit.Fits (s.grammar.lines edit.axis))
    (column : Column) : (s.rebuild.1.follow edit column).rebuild.1 =
      (s.follow edit column).rebuild.1 := by
  obtain ⟨hframe, -⟩ := rebuild_spec h
  have hfits' := hfits
  rw [← hframe.sameSize.grammar] at hfits'
  refine rebuild_eq_of_uncomputed (h.follow hfits column)
    ((hframe.rectangular h).follow hfits' column) ?_
  rw [uncomputed_follow, uncomputed_rebuild h, uncomputed_follow]

theorem rows_follow_follow (s : Sheet) (first second : LineEdit) (column column' : Column) :
    ((s.follow first column).follow second column').rows =
      (Table.edited second .blank (first.columns column s.columns).length
        (s.rows.edited first .blank s.nCols)).map
          (·.map fun c => s.adjustCell second (s.adjustCell first c)) := by
  have hmap := Table.map_edited second (s.adjustCell first) .blank
    (first.columns column s.columns).length (s.rows.edited first .blank s.nCols)
  rw [adjustCell_of_none rfl] at hmap
  rw [rows_follow, rows_follow, nCols_follow, ← hmap, List.map_map]
  exact List.map_congr_left fun _ _ => List.map_map ..

theorem follow_delete_insert (s : Sheet) (axis : Axis) (index : Int) (column column' : Column) :
    (s.follow (.insert axis index) column).follow (.delete axis index) column' =
      s.reworded (.insert axis index) := by
  have hcolumns : (LineEdit.delete axis index).columns column'
      ((LineEdit.insert axis index).columns column s.columns) = s.columns := by
    cases axis with
    | row => rfl
    | column => exact LineEdit.edited_delete_insert .column index column column' s.columns
  have hrows : ((s.follow (.insert axis index) column).follow (.delete axis index) column').rows =
      (s.reworded (.insert axis index)).rows := by
    rw [rows_follow_follow, Table.edited_delete_insert, reworded]
    simp only [adjustCell_delete_insert]
  have hfixed := LineEdit.fixedRows_delete_insert axis index s.fixedRows
  exact Sheet.ext hcolumns hrows hfixed rfl rfl rfl

/-- A row and a column may come or go in either order. -/
theorem follow_comm {row column : LineEdit} (hrow : row.axis = .row)
    (hcolumn : column.axis = .column) (s : Sheet) (new new' : Column) :
    (s.follow row new).follow column new' = (s.follow column new').follow row new := by
  have hcolumns : column.columns new' (row.columns new s.columns) =
      row.columns new (column.columns new' s.columns) := by
    simp only [LineEdit.columns, hrow, hcolumn]
  have hrows : ((s.follow row new).follow column new').rows =
      ((s.follow column new').follow row new).rows := by
    rw [rows_follow_follow, rows_follow_follow]
    simp only [LineEdit.columns, hrow, hcolumn, adjustCell_comm hrow hcolumn]
    rw [nCols, Table.edited_comm hrow hcolumn]
  have hfixed : column.fixedRows (row.fixedRows s.fixedRows) =
      row.fixedRows (column.fixedRows s.fixedRows) := by
    rw [LineEdit.fixedRows_column hcolumn, LineEdit.fixedRows_column hcolumn]
  exact Sheet.ext hcolumns hrows hfixed rfl rfl rfl

end Sheet

end Spreadsheet

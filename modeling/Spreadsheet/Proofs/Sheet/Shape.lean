import Spreadsheet.Proofs.Sheet.Frame
import Spreadsheet.Proofs.Sheet.Refusal

/-!
# The shape of a sheet

Every row of a `WellShaped` sheet has a cell in each column, no more rows are fixed than there are,
every column has a width of one at least, and the names that columns were given are not blank and
differ from each other. Whatever an edit does, and wherever one of its steps fails, it leaves such a
sheet of such a sheet (`Edit.keepsShape`).
-/

namespace Spreadsheet

/-- The columns were not given the same name. -/
def Column.Apart (a b : Column) : Prop := ∀ name, a.name = some name → b.name ≠ some name

theorem Column.Apart.symm {a b : Column} (h : a.Apart b) : b.Apart a :=
  fun name hb ha => h name ha hb

/-- The column has a width of one at least, and its name is not blank if it was given one. -/
def Column.Formed (column : Column) : Prop :=
  1 ≤ column.width ∧ ∀ name, column.name = some name → Text.allBlank name.toList = false

theorem LineEdit.pairwise_edited {α : Type} {r : α → α → Prop} (hsymm : ∀ {a b}, r a b → r b a)
    {edit : LineEdit} {new : α} {xs : List α} (hfits : edit.Fits xs.length) (h : xs.Pairwise r)
    (hnew : ∀ x ∈ xs, r new x) : (edit.edited new xs).Pairwise r := by
  cases edit with
  | insert axis index =>
    have hperm := List.perm_insertIdx new xs (Int.toNat_le.2 hfits.2)
    exact (hperm.pairwise_iff hsymm).2 (List.pairwise_cons.2 ⟨hnew, h⟩)
  | delete axis index => exact h.sublist (List.eraseIdx_sublist ..)

theorem mem_of_mem_modify {α : Type} {xs : List α} {i : Nat} {f : α → α} {y : α}
    (h : y ∈ xs.modify i f) : y ∈ xs ∨ ∃ x ∈ xs[i]?, f x = y := by
  obtain ⟨j, hj⟩ := List.mem_iff_getElem?.1 h
  rw [List.getElem?_modify] at hj
  obtain ⟨x, hx, hy⟩ := Option.map_eq_some_iff.1 hj
  split at hy
  · next heq => exact .inr ⟨x, heq ▸ hx, hy⟩
  · exact .inl (hy ▸ List.mem_of_getElem? hx)

theorem pairwise_modify {α : Type} {r : α → α → Prop} (hsymm : ∀ {a b}, r a b → r b a)
    {xs : List α} {i : Nat} {f : α → α} (h : xs.Pairwise r)
    (hnew : ∀ x ∈ xs[i]?, ∀ (j : Nat) (y : α), xs[j]? = some y → j ≠ i → r (f x) y) :
    (xs.modify i f).Pairwise r := by
  induction xs generalizing i with
  | nil => rwa [List.modify_nil]
  | cons x xs ih =>
    obtain ⟨hx, hxs⟩ := List.pairwise_cons.1 h
    cases i with
    | zero =>
      rw [List.modify_zero_cons]
      refine List.pairwise_cons.2 ⟨fun y hy => ?_, hxs⟩
      obtain ⟨j, hj⟩ := List.mem_iff_getElem?.1 hy
      exact hnew x rfl (j + 1) y hj j.succ_ne_zero
    | succ i =>
      rw [List.modify_succ_cons]
      refine List.pairwise_cons.2 ⟨fun y hy => ?_, ih hxs fun z hz j y hy hne => ?_⟩
      · obtain hold | ⟨z, hz, rfl⟩ := mem_of_mem_modify hy
        · exact hx y hold
        · exact hsymm (hnew z hz 0 x rfl i.succ_ne_zero.symm)
      · exact hnew z hz (j + 1) y hy (by omega)

theorem LineEdit.fixedRows_le {edit : LineEdit} {fixed rows : Nat} (haxis : edit.axis = .row)
    (hfits : edit.Fits rows) (h : fixed ≤ rows) : (edit.fixedRows fixed : Int) ≤ edit.count rows := by
  cases edit with
  | insert axis index =>
    cases haxis
    simp only [fixedRows, count]
    split <;> omega
  | delete axis index =>
    cases haxis
    obtain ⟨hnonneg, hlt⟩ := hfits
    simp only [fixedRows, count]
    split <;> omega

namespace Sheet

variable {s t : Sheet} {edit : LineEdit} {column : Column}

/-- Rows and columns fit each other, and columns are described as they may be. -/
structure WellShaped (s : Sheet) : Prop where
  rectangular : s.Rectangular
  fixedRows_le : s.fixedRows ≤ s.nRows
  columnWidth_pos : 1 ≤ s.options.columnWidth
  formed : ∀ column ∈ s.columns, column.Formed
  apart : s.columns.Pairwise Column.Apart

/-- A column that was given a name that the sheet takes goes with its columns. -/
theorem formed_of_checkName {skip : Option Nat} {width : Nat} {name : Option String}
    (hwidth : 1 ≤ width) (hname : ∀ n ∈ name, s.checkName n skip = .ok ()) :
    Column.Formed ⟨name, width⟩ ∧ ∀ (index : Nat) (column : Column),
      s.columns[index]? = some column → some index ≠ skip → Column.Apart ⟨name, width⟩ column := by
  have hfree (n : String) (hn : name = some n) : ¬ s.RejectsName n skip := by
    rw [← checkName_eq_error, hname n hn]
    simp
  refine ⟨⟨hwidth, fun n hn => ?_⟩, fun index column hcolumn hskip n hn hused => ?_⟩
  · exact Bool.eq_false_iff.2 fun hblank => hfree n hn (.inl hblank)
  · exact hfree n hn (.inr ⟨index, column, hcolumn, hskip, hused⟩)

namespace WellShaped

theorem of_sameFrame (h : s.WellShaped) (hframe : s.SameFrame t) : t.WellShaped where
  rectangular := hframe.rectangular h.rectangular
  fixedRows_le := by
    rw [hframe.fixedRows, hframe.sameSize.nRows]
    exact h.fixedRows_le
  columnWidth_pos := hframe.options ▸ h.columnWidth_pos
  formed := hframe.columns ▸ h.formed
  apart := hframe.columns ▸ h.apart

/-- A row or column comes or goes, and a column that comes goes with the others. -/
theorem relined (h : s.WellShaped) (hfits : edit.Fits (s.grammar.lines edit.axis))
    (hformed : column.Formed) (hapart : ∀ other ∈ s.columns, column.Apart other) :
    (s.relined edit column).WellShaped := by
  have hrelined := relined_relined hfits column
  have hrows : ((s.relined edit column).nRows : Int) = (s.grammar.after edit).nRows :=
    congrArg Grammar.nRows hrelined.grammar
  have hfixed : (s.relined edit column).fixedRows = edit.fixedRows s.fixedRows := rfl
  have hcolumns : (s.relined edit column).columns = edit.columns column s.columns := rfl
  have hle := h.fixedRows_le
  refine ⟨hrelined.rectangular h.rectangular, ?_, h.columnWidth_pos, ?_, ?_⟩ <;>
    cases haxis : edit.axis
  case refine_1.row =>
    rw [haxis] at hfits
    have hle := LineEdit.fixedRows_le haxis hfits hle
    rw [Grammar.after, haxis] at hrows
    rw [hfixed]
    exact Int.ofNat_le.1 (hrows ▸ hle)
  case refine_1.column =>
    rw [Grammar.after, haxis] at hrows
    rw [hfixed, LineEdit.fixedRows_column haxis]
    exact hle.trans_eq (Int.ofNat.inj hrows).symm
  all_goals rw [hcolumns, LineEdit.columns, haxis]
  case refine_2.row => exact h.formed
  case refine_3.row => exact h.apart
  case refine_2.column =>
    intro other hother
    obtain rfl | hold := LineEdit.mem_edited hother
    · exact hformed
    · exact h.formed other hold
  case refine_3.column =>
    rw [haxis] at hfits
    exact LineEdit.pairwise_edited Column.Apart.symm hfits h.apart hapart

/-- The sheet grows at its end by columns without names. -/
theorem extended (h : s.WellShaped) {newCols newRows : Int}
    (hsize : s.nCols ≤ newCols ∧ s.nRows ≤ newRows) :
    (s.extended newCols newRows).WellShaped := by
  obtain ⟨hregrown, -, -, hrows⟩ := extended_spec h.rectangular hsize
  have hle := h.fixedRows_le
  have hblank : Column.Formed ⟨none, s.options.columnWidth⟩ := ⟨h.columnWidth_pos, nofun⟩
  refine ⟨hregrown.rectangular, ?_, h.columnWidth_pos, fun column hcolumn => ?_, ?_⟩
  · have hfixed : (s.extended newCols newRows).fixedRows = s.fixedRows := rfl
    omega
  · obtain hold | hnew := List.mem_append.1 hcolumn
    · exact h.formed column hold
    · exact List.eq_of_mem_replicate hnew ▸ hblank
  · refine List.pairwise_append.2 ⟨h.apart, ?_, fun a _ b hb name _ hname => ?_⟩
    · exact List.pairwise_replicate.2 (.inr nofun)
    · rw [List.eq_of_mem_replicate hb] at hname
      cases hname

/-- The rows change places. -/
theorem sorted (h : s.WellShaped) (col : Nat) (descending : Bool) :
    (s.sorted col descending).WellShaped where
  rectangular row hrow := h.rectangular row (mem_of_mem_sorted hrow)
  fixedRows_le := h.fixedRows_le.trans (s.nRows_sorted col descending).ge
  columnWidth_pos := h.columnWidth_pos
  formed := h.formed
  apart := h.apart

theorem apart_of_ne (h : s.WellShaped) {i j : Nat} {column' : Column}
    (hi : s.columns[i]? = some column) (hj : s.columns[j]? = some column') (hne : i ≠ j) :
    column.Apart column' := by
  have hapart := List.pairwise_iff_getElem.1 h.apart
  obtain ⟨hiLt, rfl⟩ := List.getElem?_eq_some_iff.1 hi
  obtain ⟨hjLt, rfl⟩ := List.getElem?_eq_some_iff.1 hj
  rcases Nat.lt_or_gt_of_ne hne with hlt | hlt
  · exact hapart i j hiLt hjLt hlt
  · exact (hapart j i hjLt hiLt hlt).symm

/-- A column is described anew. -/
theorem modify (h : s.WellShaped) {index : Nat} {change : Column → Column}
    (hformed : ∀ column ∈ s.columns[index]?, (change column).Formed)
    (hapart : ∀ column ∈ s.columns[index]?, ∀ (other : Nat) (column' : Column),
      s.columns[other]? = some column' → other ≠ index → (change column).Apart column') :
    WellShaped { s with columns := s.columns.modify index change } where
  rectangular row hrow := (h.rectangular row hrow).trans (List.length_modify ..).symm
  fixedRows_le := h.fixedRows_le
  columnWidth_pos := h.columnWidth_pos
  formed column hcolumn := by
    obtain hold | ⟨old, hold, rfl⟩ := mem_of_mem_modify hcolumn
    · exact h.formed column hold
    · exact hformed old hold
  apart := pairwise_modify Column.Apart.symm h.apart hapart

end WellShaped

end Sheet

/-! ## Steps -/

namespace Procedure

open Sheet

variable {α β : Type} {s : Sheet}

/-- The steps leave a well-shaped sheet of a well-shaped sheet, also where one of them fails. -/
def KeepsShape (p : Procedure α) : Prop := ∀ s : Sheet, s.WellShaped → (stateAfter p s).WellShaped

theorem KeepsFrame.keepsShape {p : Procedure α} (h : KeepsFrame p) : KeepsShape p :=
  fun s hs => hs.of_sameFrame (h s)

theorem keepsShape_map {p : Procedure α} (h : KeepsShape p) (f : α → β) : KeepsShape (f <$> p) := by
  intro s hs
  rw [stateAfter_map]
  exact h s hs

/-- After a check the other steps start from the same sheet, if they are made at all. -/
theorem wellShaped_check {result : Sheet → Except EditFault α} {k : α → Procedure β}
    (hs : s.WellShaped) (h : ∀ a, result s = .ok a → (stateAfter (k a) s).WellShaped) :
    (stateAfter (check result >>= k) s).WellShaped := by
  cases hresult : result s with
  | ok a =>
    rw [stateAfter_bind (run_check hresult)]
    exact h a hresult
  | error fault =>
    rw [stateAfter_of_error (does_of_refused hresult)]
    exact hs

theorem stateAfter_write {k : Unit → Procedure β} (change : Sheet → Sheet) (s : Sheet) :
    stateAfter (write change >>= k) s = stateAfter (k ()) (change s) :=
  stateAfter_bind (run_write change)

theorem stateAfter_get (k : Sheet → Procedure β) (s : Sheet) :
    stateAfter (get >>= k) s = stateAfter (k s) s := rfl

theorem keepsFrame_follow (edit : LineEdit) :
    KeepsFrame (do adjustFormulas edit; rebuild : Procedure Recalc) :=
  (keepsFrame_adjustFormulas edit).bind fun _ => keepsFrame_rebuild

/-- After a row or column has come or gone, the formulas follow and are computed. -/
theorem wellShaped_follow (h : s.WellShaped) {edit : LineEdit} {column : Column}
    (hfits : edit.Fits (s.grammar.lines edit.axis)) (hformed : column.Formed)
    (hapart : ∀ other ∈ s.columns, column.Apart other) :
    (stateAfter (do adjustFormulas edit; rebuild : Procedure Recalc)
      (s.relined edit column)).WellShaped :=
  (keepsFrame_follow edit).keepsShape _ (h.relined hfits hformed hapart)

/-- A column without name is described as it may be, next to any others. -/
theorem formed_unnamed : Column.Formed ⟨none, 1⟩ ∧ ∀ other, Column.Apart ⟨none, 1⟩ other :=
  ⟨⟨le_rfl, nofun⟩, nofun⟩

theorem keepsShape_insertRow (index : Int) : KeepsShape (insertRow index) := by
  intro s hs
  refine wellShaped_check hs fun _ hcheck => ?_
  split at hcheck
  · next hindex =>
    have hfits : (LineEdit.insert .row index).Fits s.nRows := hindex
    rw [stateAfter_write, stateAfter_write]
    exact wellShaped_follow hs hfits formed_unnamed.1 fun other _ => formed_unnamed.2 other
  · cases hcheck

theorem keepsShape_deleteRow (index : Int) : KeepsShape (deleteRow index) := by
  intro s hs
  refine wellShaped_check hs fun _ hcheck => ?_
  split at hcheck
  · next hindex =>
    have hfits : (LineEdit.delete .row index).Fits s.nRows := hindex
    rw [stateAfter_write, stateAfter_write]
    exact wellShaped_follow hs hfits formed_unnamed.1 fun other _ => formed_unnamed.2 other
  · cases hcheck

theorem wellShaped_placeColumn {index : Int} {name : Option String} (hs : s.WellShaped)
    (hindex : 0 ≤ index ∧ index ≤ s.nCols) (hname : ∀ n ∈ name, s.checkName n none = .ok ()) :
    (stateAfter (placeColumn index name) s).WellShaped := by
  have hfits : (LineEdit.insert .column index).Fits s.nCols := hindex
  obtain ⟨hformed, hapart⟩ := formed_of_checkName hs.columnWidth_pos hname
  rw [placeColumn, stateAfter_write, stateAfter_write]
  refine wellShaped_follow hs hfits hformed fun other hother => ?_
  obtain ⟨i, hi⟩ := List.mem_iff_getElem?.1 hother
  exact hapart i other hi nofun

theorem keepsShape_insertColumn (index : Int) (name : Option String) :
    KeepsShape (insertColumn index name) := by
  intro s hs
  refine wellShaped_check hs fun _ hcheck => ?_
  split at hcheck
  · next hindex =>
    cases name with
    | none => exact wellShaped_placeColumn hs hindex nofun
    | some name =>
      exact wellShaped_check hs fun _ hname =>
        wellShaped_placeColumn hs hindex (by simpa using hname)
  · cases hcheck

theorem keepsShape_deleteColumn (index : Int) : KeepsShape (deleteColumn index) := by
  intro s hs
  refine wellShaped_check hs fun _ hcheck => ?_
  split at hcheck
  · next hindex =>
    have hfits : (LineEdit.delete .column index).Fits s.nCols := hindex
    have hcol : ∀ row ∈ s.rows, index.toNat < row.length := by
      intro row hrow
      rw [hs.rectangular row hrow]
      exact (Int.toNat_lt hindex.1).2 hindex.2
    rw [stateAfter_write, stateAfter_get, stateAfter_bind (run_eraseCells hcol rfl)]
    exact wellShaped_follow hs hfits formed_unnamed.1 fun other _ => formed_unnamed.2 other
  · cases hcheck

theorem keepsShape_resize (newCols newRows : Int) : KeepsShape (resize newCols newRows) := by
  intro s hs
  refine wellShaped_check hs fun _ hcheck => ?_
  split at hcheck
  · cases hcheck
  · next hsize =>
    have hsize : s.nCols ≤ newCols ∧ s.nRows ≤ newRows := by omega
    have hrebuilt := keepsFrame_rebuild.keepsShape _ (hs.extended hsize)
    rw [stateAfter_write, stateAfter_write]
    simpa only [extended, Table.extended, nRows, List.length_map] using hrebuilt

theorem keepsShape_sort (col : Int) (descending : Bool) : KeepsShape (sort col descending) := by
  intro s hs
  refine wellShaped_check hs fun index hindex => ?_
  rw [stateAfter_get, stateAfter_bind (run_checkColumns hs.rectangular hindex), stateAfter_write]
  exact keepsFrame_rebuild.keepsShape _ (hs.sorted index descending)

theorem keepsShape_setColumnName (col : Int) (name : String) :
    KeepsShape (setColumnName col name) := by
  intro s hs
  refine wellShaped_check hs fun index _ => wellShaped_check hs fun _ hname => ?_
  have hnamed (column : Column) (hcolumn : column ∈ s.columns[index]?) :=
    formed_of_checkName (hs.formed column (List.mem_of_getElem? hcolumn)).1
      (show ∀ n ∈ some name, s.checkName n (some index) = .ok () by simpa using hname)
  exact hs.modify (fun column hcolumn => (hnamed column hcolumn).1)
    fun column hcolumn other column' hother hne =>
      (hnamed column hcolumn).2 other column' hother (mt Option.some.inj hne)

theorem keepsShape_setColumnWidth (col width : Int) : KeepsShape (setColumnWidth col width) := by
  intro s hs
  refine wellShaped_check hs fun index _ => wellShaped_check hs fun _ hcheck => ?_
  split at hcheck
  · cases hcheck
  · next hwidth =>
    have hpos : 1 ≤ width.toNat := by omega
    exact hs.modify
      (fun column hcolumn => ⟨hpos, (hs.formed column (List.mem_of_getElem? hcolumn)).2⟩)
      fun column hcolumn other column' hother hne name hname =>
        hs.apart_of_ne hcolumn hother hne.symm name hname

theorem keepsShape_fitColumnWidth (col : Int) : KeepsShape (fitColumnWidth col) := by
  intro s hs
  refine wellShaped_check hs fun index _ => wellShaped_check hs fun widest _ => ?_
  have hwidth := keepsShape_map (keepsShape_setColumnWidth col (widest + 1 : Nat))
    fun _ => widest + 1
  rw [map_eq_pure_bind] at hwidth
  exact hwidth s hs

theorem keepsShape_fixRows (count : Int) : KeepsShape (fixRows count) := by
  intro s hs
  refine wellShaped_check hs fun _ hcheck => ?_
  split at hcheck
  · next hcount =>
    refine ⟨hs.rectangular, ?_, hs.columnWidth_pos, hs.formed, hs.apart⟩
    exact Int.toNat_le.2 hcount.2
  · cases hcheck

end Procedure

open Sheet Procedure

/-- Whatever an edit does to a well-shaped sheet, and wherever one of its steps fails, the sheet is
well-shaped afterwards. -/
theorem Edit.keepsShape (edit : Edit) : KeepsShape edit.procedure := by
  cases edit with
  | setText cell raw => exact keepsShape_map (keepsFrame_setText cell raw).keepsShape some
  | clear cell => exact keepsShape_map (keepsFrame_setText cell "").keepsShape some
  | fill origin target => exact keepsShape_map (keepsFrame_fill origin target).keepsShape some
  | load entries => exact keepsShape_map (keepsFrame_load entries).keepsShape some
  | recalculate => exact keepsShape_map keepsFrame_recalculate.keepsShape some
  | insertRow index => exact keepsShape_map (keepsShape_insertRow index) some
  | deleteRow index => exact keepsShape_map (keepsShape_deleteRow index) some
  | insertColumn index name => exact keepsShape_map (keepsShape_insertColumn index name) some
  | deleteColumn index => exact keepsShape_map (keepsShape_deleteColumn index) some
  | resize newCols newRows => exact keepsShape_map (keepsShape_resize newCols newRows) some
  | sort col descending => exact keepsShape_map (keepsShape_sort col descending) some
  | setColumnName col name => exact keepsShape_map (keepsShape_setColumnName col name) _
  | setColumnWidth col width => exact keepsShape_map (keepsShape_setColumnWidth col width) _
  | fitColumnWidth col => exact keepsShape_map (keepsShape_fitColumnWidth col) _
  | fixRows count => exact keepsShape_map (keepsShape_fixRows count) _

/-! ## New sheets -/

theorem Options.columnWidth_pos {marker : String} {decimals columnWidth : Int} {options : Options}
    (h : Options.make marker decimals columnWidth = .ok options) : 1 ≤ options.columnWidth := by
  unfold Options.make at h
  split at h
  · split at h
    · cases h
    · split at h
      · cases h
      · next hwidth =>
        cases h
        have hpos : 1 ≤ columnWidth.toNat := by omega
        exact hpos
  · cases h

namespace Sheet

variable {s t : Sheet} {functions : Registry} {options : Options}

theorem wellShaped_blank (nRows nCols : Nat) (functions : Registry)
    (hwidth : 1 ≤ options.columnWidth) : (blank nRows nCols options functions).WellShaped where
  rectangular := rectangular_blank nRows nCols options functions
  fixedRows_le := Nat.zero_le _
  columnWidth_pos := hwidth
  formed column hcolumn := by
    rw [List.eq_of_mem_replicate hcolumn]
    exact ⟨hwidth, nofun⟩
  apart := List.pairwise_replicate.2 (.inr nofun)

theorem WellShaped.setColumnName (h : s.WellShaped) {col : Int} {name : String}
    (hname : s.setColumnName col name = .ok t) : t.WellShaped := by
  have hrun : (Procedure.setColumnName col name).run s = .ok () t := by
    rw [does_setColumnName s col name, hname]
    rfl
  exact stateAfter_of_ok hrun ▸ keepsShape_setColumnName col name s h

/-- A new sheet is well-shaped if its options can be made. -/
theorem wellShaped_of_make {nRows nCols : Int} {names : List (Option String)}
    (hwidth : 1 ≤ options.columnWidth) (h : make nRows nCols names options functions = .ok s) :
    s.WellShaped :=
  nameColumns_induction (wellShaped_blank nRows.toNat nCols.toNat functions hwidth)
    (fun hu hname => hu.setColumnName hname) (nameColumns_of_make h)

end Sheet

end Spreadsheet

import Spreadsheet.Proofs.Sheet.Lines
import Spreadsheet.Proofs.Sheet.Sound
import Spreadsheet.Sheet.Sort

/-!
# Sheets with other rows and columns

Inserting and deleting rows and columns, growing and sorting a sheet each make another sheet, link
it anew and compute all of its formulas. `Restructured` says what the other sheet is: its cells are
those of the sheet and blank ones (`Regrown`), and where rows or columns come or go the formulas
follow. It is sound if the sheet was (`Sound.restructured`).
-/

namespace Spreadsheet.Sheet

variable {s t base : Sheet} {r : Recalc}

/-- What is linked anew and computed when rows and columns of a sheet come, go or move. -/
inductive Restructured (s : Sheet) : Sheet → Prop
  /-- A row or column comes or goes, and the formulas follow. -/
  | adjusted {grown : Sheet} (edit : LineEdit) (hedit : s.grammar.Allows edit)
      (hgrown : s.Regrown grown) (hgrammar : grown.grammar = s.grammar.after edit) :
      Restructured s (grown.adjustFormulas edit)
  /-- Rows and columns are added at the end, or rows change places. -/
  | grown {grown : Sheet} (hgrown : s.Regrown grown) (hrows : s.nRows ≤ grown.nRows)
      (hcols : s.nCols ≤ grown.nCols) : Restructured s grown

/-! ## Rows and columns -/

theorem Relined.restructured {grown : Sheet} {edit : LineEdit} (h : s.Relined grown edit)
    (hs : s.Rectangular) : s.Restructured (grown.adjustFormulas edit) :=
  .adjusted edit h.allows (h.regrown hs) h.grammar

theorem restructured_of_insertRow (h : s.Rectangular) {index : Int}
    (hrun : s.insertRow index = .ok (t, r)) :
    ∃ base, s.Restructured base ∧ base.rebuild = (t, r) := by
  by_cases hindex : 0 ≤ index ∧ index ≤ s.nRows
  · obtain ⟨grown, hrelined, hspec⟩ := insertRow_spec hindex
    exact ⟨_, hrelined.restructured h, Except.ok.inj (hspec.symm.trans hrun)⟩
  · rw [insertRow, if_neg hindex] at hrun
    cases hrun

theorem restructured_of_deleteRow (h : s.Rectangular) {index : Int}
    (hrun : s.deleteRow index = .ok (t, r)) :
    ∃ base, s.Restructured base ∧ base.rebuild = (t, r) := by
  by_cases hindex : 0 ≤ index ∧ index < s.nRows
  · obtain ⟨grown, hrelined, hspec⟩ := deleteRow_spec hindex
    exact ⟨_, hrelined.restructured h, Except.ok.inj (hspec.symm.trans hrun)⟩
  · rw [deleteRow, if_neg hindex] at hrun
    cases hrun

theorem restructured_of_insertColumn (h : s.Rectangular) {index : Int} {name : Option String}
    (hrun : s.insertColumn index name = .ok (t, r)) :
    ∃ base, s.Restructured base ∧ base.rebuild = (t, r) := by
  by_cases hindex : 0 ≤ index ∧ index ≤ s.nCols
  · have hname : ∀ n ∈ name, s.checkName n none = .ok () := by
      rintro n ⟨⟩
      rw [insertColumn, if_pos hindex] at hrun
      obtain ⟨_, hcheck, -⟩ := bind_eq_ok.1 hrun
      exact hcheck
    obtain ⟨grown, hrelined, hspec⟩ := insertColumn_spec hindex hname
    exact ⟨_, hrelined.restructured h, Except.ok.inj (hspec.symm.trans hrun)⟩
  · rw [insertColumn, if_neg hindex] at hrun
    cases hrun

theorem restructured_of_deleteColumn (h : s.Rectangular) {index : Int}
    (hrun : s.deleteColumn index = .ok (t, r)) :
    ∃ base, s.Restructured base ∧ base.rebuild = (t, r) := by
  by_cases hindex : 0 ≤ index ∧ index < s.nCols
  · obtain ⟨grown, hrelined, hspec⟩ := deleteColumn_spec hindex
    exact ⟨_, hrelined.restructured h, Except.ok.inj (hspec.symm.trans hrun)⟩
  · rw [deleteColumn, if_neg hindex] at hrun
    cases hrun

/-! ## Size and order -/

theorem restructured_extended (h : s.Rectangular) {newCols newRows : Int}
    (hsize : s.nCols ≤ newCols ∧ s.nRows ≤ newRows) :
    s.Restructured (s.extended newCols newRows) := by
  obtain ⟨hregrown, -, hcols, hrows⟩ := extended_spec h hsize
  exact .grown hregrown (by omega) (by omega)

theorem restructured_of_resize (h : s.Rectangular) {newCols newRows : Int}
    (hrun : s.resize newCols newRows = .ok (t, r)) :
    ∃ base, s.Restructured base ∧ base.rebuild = (t, r) := by
  by_cases hsize : newCols < s.nCols ∨ newRows < s.nRows
  · rw [resize, if_pos hsize] at hrun
    cases hrun
  · have hsize : s.nCols ≤ newCols ∧ s.nRows ≤ newRows := by omega
    exact ⟨_, restructured_extended h hsize, Except.ok.inj ((resize_spec hsize).symm.trans hrun)⟩

theorem mem_sortRows {col : Nat} {descending : Bool} {rows : List (List Cell)} {row : List Cell} :
    row ∈ sortRows col descending rows ↔ row ∈ rows := by
  rw [sortRows, List.mem_append, List.mem_mergeSort, List.mem_filter, List.mem_filter]
  cases (rowValue col row).isEmpty <;> simp

theorem length_sortRows (col : Nat) (descending : Bool) (rows : List (List Cell)) :
    (sortRows col descending rows).length = rows.length := by
  have hcount :=
    List.length_eq_countP_add_countP (fun row => !(rowValue col row).isEmpty) (l := rows)
  simp only [List.countP_eq_length_filter] at hcount
  rw [sortRows, List.length_append, List.length_mergeSort, hcount]
  simp

/-- The sheet with its rows that are not fixed in the order of their values in a column. -/
def sorted (s : Sheet) (col : Nat) (descending : Bool) : Sheet :=
  { s with rows := s.rows.take s.fixedRows ++
      sortRows col descending (s.rows.drop s.fixedRows) }

theorem mem_of_mem_sorted {col : Nat} {descending : Bool} {row : List Cell}
    (hrow : row ∈ (s.sorted col descending).rows) : row ∈ s.rows := by
  rcases List.mem_append.1 hrow with hrow | hrow
  · exact List.mem_of_mem_take hrow
  · exact List.mem_of_mem_drop (mem_sortRows.1 hrow)

theorem nRows_sorted (s : Sheet) (col : Nat) (descending : Bool) :
    (s.sorted col descending).nRows = s.nRows := by
  rw [nRows, nRows, sorted, List.length_append, length_sortRows, ← List.length_append,
    List.take_append_drop]

theorem restructured_sorted (h : s.Rectangular) (col : Nat) (descending : Bool) :
    s.Restructured (s.sorted col descending) := by
  refine .grown ⟨rfl, rfl, fun row hrow => h row (mem_of_mem_sorted hrow), fun row hrow c hc => ?_⟩
    (s.nRows_sorted col descending).ge (Nat.le_refl _)
  exact .inr ⟨row, mem_of_mem_sorted hrow, hc⟩

theorem restructured_of_sort (h : s.Rectangular) {col : Int} {descending : Bool}
    (hrun : s.sort col descending = .ok (t, r)) :
    ∃ base, s.Restructured base ∧ base.rebuild = (t, r) := by
  obtain ⟨index, -, hrun⟩ := bind_eq_ok.1 hrun
  exact ⟨_, restructured_sorted h index descending, Except.ok.inj hrun⟩

/-! ## Soundness -/

/-- A sheet is sound if its rows have its width and all their cells are sound. -/
theorem sound_of_rows (hlawful : s.functions.Lawful)
    (hrows : ∀ row ∈ s.rows, row.length = s.nCols ∧ ∀ c ∈ row, c.Sound s.options s.functions) :
    s.Sound where
  lawful := hlawful
  rectangular row hrow := (hrows row hrow).1
  cells := (forall_cellAt (.blank _ _)).2 fun row hrow => (hrows row hrow).2

theorem sound_of_mem_replicate {options : Options} {functions : Registry} {count : Nat} {c : Cell}
    (hc : c ∈ List.replicate count Cell.blank) : c.Sound options functions := by
  rw [List.eq_of_mem_replicate hc]
  exact .blank _ _

theorem sound_adjustCell {edit : LineEdit} {c : Cell} (h : c.Sound s.options s.functions) :
    (s.adjustCell edit c).Sound s.options s.functions := by
  unfold adjustCell
  split
  · next formula hadjusted =>
    obtain ⟨old, hold, hformula⟩ := Option.bind_eq_some_iff.1 hadjusted
    refine ⟨fun hnone => ?_, nofun, fun new hnew => ?_, h.definite⟩
    · rw [Options.formulaBody?_eq_some_iff.2 rfl] at hnone
      contradiction
    · cases hnew
      exact Expr.evaluable_of_afterEdit? (h.evaluable old hold) hformula
  · exact h

theorem Sound.adjustFormulas (h : s.Sound) (edit : LineEdit) : (s.adjustFormulas edit).Sound := by
  refine sound_of_rows h.lawful fun row hrow => ?_
  obtain ⟨old, hold, rfl⟩ := List.mem_map.1 hrow
  refine ⟨(List.length_map _).trans (h.rectangular old hold), fun c hc => ?_⟩
  obtain ⟨before, hbefore, rfl⟩ := List.mem_map.1 hc
  exact sound_adjustCell ((forall_cellAt (.blank _ _)).1 h.cells old hold before hbefore)

theorem Sound.regrown (h : s.Sound) (hbase : s.Regrown base) : base.Sound := by
  have hlawful : base.functions.Lawful := hbase.functions ▸ h.lawful
  refine sound_of_rows hlawful fun row hrow => ⟨hbase.rectangular row hrow, fun c hc => ?_⟩
  rw [hbase.options, hbase.functions]
  obtain rfl | ⟨old, hold, hc⟩ := hbase.cells row hrow c hc
  · exact .blank _ _
  · exact (forall_cellAt (.blank _ _)).1 h.cells old hold c hc

theorem Sound.restructured (h : s.Sound) (hbase : s.Restructured base) : base.Sound := by
  cases hbase with
  | adjusted edit _ hgrown => exact (h.regrown hgrown).adjustFormulas edit
  | grown hgrown => exact h.regrown hgrown

theorem Restructured.functions (h : s.Restructured base) : base.functions = s.functions := by
  cases h with
  | adjusted edit _ hgrown => exact hgrown.functions
  | grown hgrown => exact hgrown.functions

/-- The sheet and the report are those of computing all formulas of a sound and linked sheet with
the same functions. -/
def Recomputed (s t : Sheet) (r : Recalc) : Prop :=
  ∃ base : Sheet, base.Sound ∧ base.Linked ∧ base.functions = s.functions ∧
    base.recalculate = (t, r)

/-- Linking a sound sheet anew makes it linked as well. -/
theorem Sound.recomputed_of_restructured (h : s.Sound) (hbase : s.Restructured base)
    (hrebuild : base.rebuild = (t, r)) : s.Recomputed t r := by
  have hsound := h.restructured hbase
  obtain ⟨links, hlinks, -⟩ := relink_spec hsound.rectangular
  refine ⟨base.relink, hsound.relink.1, hsound.relink.2, ?_, hrebuild⟩
  rw [hlinks]
  exact hbase.functions

end Spreadsheet.Sheet

import Spreadsheet.Proofs.Sheet.Dirty
import Spreadsheet.Proofs.Sheet.SortOrder
import Spreadsheet.Proofs.Sheet.Uncomputed
import Spreadsheet.Proofs.Sheet.Values

/-!
# Sorted sheets

`Sheet.sort` puts the rows of a sheet in another order: `Reordered` says what a sheet has whose rows
are those of another one in the order of some numbers, and `sortedNumbers` are the numbers of the
rows in the order in which sorting puts them. They are all numbers of rows, those of the fixed rows
first and as they were, and the others in the order of the values in the column
(`pairwise_sortNumbered`). What is sorted by a column without formulas has its rows in this order
already (`Reordered.sorted_again`), so it stays as it is when it is sorted again.
-/

namespace Spreadsheet

namespace Sheet

variable {s t : Sheet} {col : Nat} {descending : Bool} {order : List Nat}

/-- A row stands before another one in a sheet that is sorted: its value comes before that of the
other row, or they sort alike and it stood before the other row already. -/
def RowBefore (s : Sheet) (col : Int) (descending : Bool) (row other : Nat) : Prop :=
  (s.valueAt ⟨row, col⟩).Before descending (s.valueAt ⟨other, col⟩) ∨
    (s.valueAt ⟨row, col⟩).Ties (s.valueAt ⟨other, col⟩) ∧ row < other

/-- The rows of a sheet in another order: the texts and the formulas of a row stay together, and so
do its values but those of formulas. -/
structure Reordered (s t : Sheet) (order : List Nat) : Prop where
  perm : order.Perm (List.range s.nRows)
  frame : s.SameFrame t
  raw : ∀ place row : Nat, order[place]? = some row → ∀ col,
    (t.cellAt ⟨place, col⟩).raw = (s.cellAt ⟨row, col⟩).raw
  formula : ∀ place row : Nat, order[place]? = some row → ∀ col,
    (t.cellAt ⟨place, col⟩).formula = (s.cellAt ⟨row, col⟩).formula
  value : ∀ place row : Nat, order[place]? = some row → ∀ col,
    (s.cellAt ⟨row, col⟩).formula = none → t.valueAt ⟨place, col⟩ = s.valueAt ⟨row, col⟩

/-- The numbers of the rows in the order in which sorting puts them. -/
def sortedNumbers (s : Sheet) (col : Nat) (descending : Bool) : List Nat :=
  (List.range s.nRows).take s.fixedRows ++ (s.sortNumbered col descending).map Prod.snd

/-! ## The numbers of the rows -/

theorem perm_sortNumbered (s : Sheet) (col : Nat) (descending : Bool) :
    (s.sortNumbered col descending).Perm ((s.rows.drop s.fixedRows).zipIdx s.fixedRows) := by
  refine ((List.mergeSort_perm ..).append_right _).trans (List.perm_append_comm.trans ?_)
  exact List.filter_append_perm ..

/-- A sorted row has the number that it has on the sheet. -/
theorem getElem?_of_mem_sortNumbered {row : List Cell} {number : Nat}
    (h : (row, number) ∈ s.sortNumbered col descending) : s.rows[number]? = some row := by
  obtain ⟨hle, hrow⟩ := List.mem_zipIdx_iff_le_and_getElem?_sub.1
    ((s.perm_sortNumbered col descending).mem_iff.1 h)
  rwa [List.getElem?_drop, Nat.add_sub_cancel' hle] at hrow

theorem length_sortNumbered (s : Sheet) (col : Nat) (descending : Bool) :
    (s.sortNumbered col descending).length = s.nRows - s.fixedRows := by
  rw [(s.perm_sortNumbered col descending).length_eq, List.length_zipIdx, List.length_drop, nRows]

/-- The numbers begin with those of the fixed rows. -/
theorem sortedNumbers_spec (s : Sheet) (col : Nat) (descending : Bool) :
    (s.sortedNumbers col descending).take s.fixedRows = (List.range s.nRows).take s.fixedRows ∧
      (s.sortedNumbers col descending).drop s.fixedRows =
        (s.sortNumbered col descending).map Prod.snd := by
  unfold sortedNumbers
  rcases Nat.le_total s.fixedRows s.nRows with hle | hle
  · have hlength : ((List.range s.nRows).take s.fixedRows).length = s.fixedRows := by
      rw [List.length_take, List.length_range, Nat.min_eq_left hle]
    exact ⟨List.take_left' hlength, List.drop_left' hlength⟩
  · have hnone : s.sortNumbered col descending = [] := by
      rw [← List.length_eq_zero_iff, length_sortNumbered, Nat.sub_eq_zero_of_le hle]
    simp [hnone, hle]

theorem perm_sortedNumbers (s : Sheet) (col : Nat) (descending : Bool) :
    (s.sortedNumbers col descending).Perm (List.range s.nRows) := by
  have hnumbers := (s.perm_sortNumbered col descending).map Prod.snd
  have hdrop : List.range' s.fixedRows (s.rows.drop s.fixedRows).length =
      (List.range s.nRows).drop s.fixedRows := by
    rw [List.range_eq_range', List.drop_range', List.length_drop, nRows]
    simp
  rw [List.zipIdx_map_snd, hdrop] at hnumbers
  have hall := hnumbers.append_left ((List.range s.nRows).take s.fixedRows)
  rwa [List.take_append_drop] at hall

/-- The rows of the sorted sheet are those with the sorted numbers. -/
theorem map_some_rows_sorted (s : Sheet) (col : Nat) (descending : Bool) :
    (s.sorted col descending).rows.map some =
      (s.sortedNumbers col descending).map (s.rows[·]?) := by
  have hrows : s.rows.map some = (List.range s.nRows).map (s.rows[·]?) := by
    refine List.ext_getElem? fun number => ?_
    rcases Nat.lt_or_ge number s.nRows with hlt | hge
    · simp [List.getElem?_range hlt, List.getElem?_eq_getElem hlt]
    · simp [List.getElem?_eq_none hge, hge]
  have hsorted : (sortRows col descending (s.rows.drop s.fixedRows)).map some =
      ((s.sortNumbered col descending).map Prod.snd).map (s.rows[·]?) := by
    rw [← map_fst_sortNumbered, List.map_map, List.map_map]
    exact List.map_congr_left fun entry hentry => (getElem?_of_mem_sortNumbered hentry).symm
  rw [sorted, sortedNumbers, List.map_append, List.map_append, hsorted, List.map_take, hrows,
    List.map_take]

theorem cellAt_sorted {place row : Nat}
    (h : (s.sortedNumbers col descending)[place]? = some row) (other : Int) :
    (s.sorted col descending).cellAt ⟨place, other⟩ = s.cellAt ⟨row, other⟩ := by
  have hrow : (s.sorted col descending).rows[place]? = s.rows[row]? := by
    have hmap := congrArg (·[place]?) (s.map_some_rows_sorted col descending)
    rw [List.getElem?_map, List.getElem?_map, h] at hmap
    cases hplace : (s.sorted col descending).rows[place]? with
    | none => simp [hplace] at hmap
    | some found => simpa [hplace] using hmap
  simp [cellAt, Table.get?, hrow]

/-! ## The order of the rows -/

/-- The value of a row with a number. -/
theorem rowValue_eq {row : List Cell} {number : Nat} (h : s.rows[number]? = some row) (col : Nat) :
    rowValue col row = s.valueAt ⟨number, col⟩ := by
  simp [rowValue, valueAt, cellAt, Table.get?, h]

theorem Sound.definite_rowValue (hs : s.Sound) {row : List Cell} (hrow : row ∈ s.rows)
    (col : Nat) : (rowValue col row).Definite := by
  obtain ⟨number, hnumber⟩ := List.getElem?_of_mem hrow
  rw [rowValue_eq hnumber]
  exact (hs.cells _).definite

/-- The numbered rows come in the order of their values, and of their numbers where these sort
alike. -/
theorem pairwise_before_sortNumbered (hs : s.Sound) (col : Nat) (descending : Bool) :
    (s.sortNumbered col descending).Pairwise fun a b =>
      (rowValue col a.1).Before descending (rowValue col b.1) ∨
        (rowValue col a.1).Ties (rowValue col b.1) ∧ a.2 < b.2 := by
  have hnumbers :
      ((s.rows.drop s.fixedRows).zipIdx s.fixedRows).Pairwise fun a b => a.2 < b.2 := by
    rw [← List.pairwise_map (f := Prod.snd) (R := (· < ·)), List.zipIdx_map_snd]
    exact List.pairwise_lt_range'
  have hdefinite (entry : List Cell × Nat)
      (hentry : entry ∈ (s.rows.drop s.fixedRows).zipIdx s.fixedRows) :
      (rowValue col entry.1).Definite := by
    have hrow := List.mem_map_of_mem (f := Prod.fst) hentry
    rw [List.zipIdx_map_fst] at hrow
    exact hs.definite_rowValue (List.mem_of_mem_drop hrow) col
  unfold sortNumbered
  refine List.pairwise_append.2 ⟨pairwise_mergeSort_rowAtMost (fun entry hentry => ?_)
    (hnumbers.filter _), (hnumbers.filter _).imp_of_mem fun {a b} ha hb hlt => .inr ?_,
    fun a ha b hb => .inl (.inl ?_)⟩
  · obtain ⟨hmem, hfilled⟩ := List.mem_filter.1 hentry
    exact ⟨hdefinite entry hmem, Value.not_isEmpty_iff.1 hfilled⟩
  · rw [Value.isEmpty_eq_true_iff.1 (List.mem_filter.1 ha).2,
      Value.isEmpty_eq_true_iff.1 (List.mem_filter.1 hb).2]
    exact ⟨.empty, hlt⟩
  · have hfilled := (List.mem_filter.1 (List.mem_mergeSort.1 ha)).2
    exact ⟨Value.not_isEmpty_iff.1 hfilled,
      Value.isEmpty_eq_true_iff.1 (List.mem_filter.1 hb).2⟩

/-- The rows that are not fixed are sorted by the values in the column. -/
theorem pairwise_sortNumbered (hs : s.Sound) (col : Nat) (descending : Bool) :
    ((s.sortNumbered col descending).map Prod.snd).Pairwise (s.RowBefore col descending) := by
  have hvalue (entry : List Cell × Nat) (hentry : entry ∈ s.sortNumbered col descending) :
      rowValue col entry.1 = s.valueAt ⟨entry.2, col⟩ :=
    rowValue_eq (getElem?_of_mem_sortNumbered hentry) col
  rw [List.pairwise_map]
  refine (pairwise_before_sortNumbered hs col descending).imp_of_mem fun {a b} ha hb hab => ?_
  rwa [hvalue a ha, hvalue b hb] at hab

/-- The number of a row that is sorted, at its place among all numbers. -/
theorem getElem?_map_sortNumbered {place row : Nat} (hfixed : s.fixedRows ≤ place)
    (hrow : (s.sortedNumbers col descending)[place]? = some row) :
    ((s.sortNumbered col descending).map Prod.snd)[place - s.fixedRows]? = some row := by
  rw [← (s.sortedNumbers_spec col descending).2, List.getElem?_drop, Nat.add_sub_cancel' hfixed,
    hrow]

theorem fixedRows_le_of_sorted {place row : Nat} (hfixed : s.fixedRows ≤ place)
    (hrow : (s.sortedNumbers col descending)[place]? = some row) :
    s.fixedRows ≤ row ∧ row < s.nRows := by
  have hmem := List.mem_of_getElem? (getElem?_map_sortNumbered hfixed hrow)
  rw [((s.perm_sortNumbered col descending).map Prod.snd).mem_iff, List.zipIdx_map_snd,
    List.mem_range'_1, List.length_drop] at hmem
  rw [nRows]
  omega

theorem rowBefore_of_sorted (hs : s.Sound) {place later row other : Nat}
    (hfixed : s.fixedRows ≤ place) (hlater : place < later)
    (hrow : (s.sortedNumbers col descending)[place]? = some row)
    (hother : (s.sortedNumbers col descending)[later]? = some other) :
    s.RowBefore col descending row other := by
  have hrow := getElem?_map_sortNumbered hfixed hrow
  have hother := getElem?_map_sortNumbered (hfixed.trans hlater.le) hother
  obtain ⟨hplace, rfl⟩ := List.getElem?_eq_some_iff.1 hrow
  obtain ⟨hplace', rfl⟩ := List.getElem?_eq_some_iff.1 hother
  exact List.pairwise_iff_getElem.1 (pairwise_sortNumbered hs col descending) _ _ _ _ (by omega)

/-! ## Sorting again -/

/-- What stands last already is left there. -/
theorem filter_not_append_filter {α : Type} {p : α → Bool} {l : List α}
    (h : l.Pairwise fun a b => p a → p b) : (l.filter fun a => !p a) ++ l.filter p = l := by
  induction l with
  | nil => rfl
  | cons first rest ih =>
    obtain ⟨hfirst, hrest⟩ := List.pairwise_cons.1 h
    cases hp : p first with
    | false => simp [hp, ih hrest]
    | true =>
      have hall : ∀ x ∈ rest, p x := fun x hx => hfirst x hx hp
      have hnone : rest.filter (fun a => !p a) = [] :=
        List.filter_eq_nil_iff.2 fun x hx => by simp [hall x hx]
      simp [hp, hnone, List.filter_eq_self.2 hall]

/-- Rows whose values are in order stay as they are. -/
theorem sortRows_eq_self {rows : List (List Cell)}
    (hdefinite : ∀ row ∈ rows, (rowValue col row).Definite)
    (h : rows.Pairwise fun a b => (rowValue col a).InOrder descending (rowValue col b)) :
    sortRows col descending rows = rows := by
  have hfilled : (rows.filter fun row => !(rowValue col row).isEmpty).Pairwise
      fun a b => rowAtMost col descending a b := by
    refine (h.filter _).imp_of_mem fun {a b} ha hb hab => ?_
    obtain ⟨ha, -⟩ := List.mem_filter.1 ha
    obtain ⟨hb, hfilled⟩ := List.mem_filter.1 hb
    rcases hab with hempty | hab
    · exact absurd hempty (Value.not_isEmpty_iff.1 hfilled)
    · rw [rowAtMost_eq (hdefinite a ha) (hdefinite b hb)]
      exact hab.2
  have hsplit : rows.Pairwise fun a b => (rowValue col a).isEmpty → (rowValue col b).isEmpty := by
    refine h.imp fun {a b} hab ha => ?_
    rcases hab with hempty | hab
    · exact Value.isEmpty_eq_true_iff.2 hempty
    · exact absurd (Value.isEmpty_eq_true_iff.1 ha) hab.1
  rw [sortRows, List.mergeSort_of_pairwise hfilled]
  exact filter_not_append_filter hsplit

/-- A sheet whose rows are in order is sorted. -/
theorem sorted_eq_self (hs : s.Sound)
    (h : (s.rows.drop s.fixedRows).Pairwise fun a b =>
      (rowValue col a).InOrder descending (rowValue col b)) :
    s.sorted col descending = s := by
  have hdefinite : ∀ row ∈ s.rows.drop s.fixedRows, (rowValue col row).Definite :=
    fun row hrow => hs.definite_rowValue (List.mem_of_mem_drop hrow) col
  rw [sorted, sortRows_eq_self hdefinite h, List.take_append_drop]

/-- In a column without formulas the values change places with their rows. -/
theorem Reordered.map_rowValue (h : s.Reordered t order)
    (hnone : ∀ row : Nat, row < s.nRows → (s.cellAt ⟨row, col⟩).formula = none) :
    t.rows.map (rowValue col) = order.map fun row : Nat => s.valueAt ⟨row, col⟩ := by
  have hlength : t.rows.length = order.length := by
    rw [h.perm.length_eq, List.length_range]
    exact h.frame.sameSize.nRows
  refine List.ext_getElem (by simpa using hlength) fun place hplace hplace' => ?_
  rw [List.length_map] at hplace hplace'
  have hrow : order[place]? = some order[place] := List.getElem?_eq_getElem hplace'
  have hlt : order[place] < s.nRows :=
    List.mem_range.1 (h.perm.mem_iff.1 (List.getElem_mem hplace'))
  rw [List.getElem_map, List.getElem_map, rowValue_eq (List.getElem?_eq_getElem hplace),
    h.value place _ hrow col (hnone _ hlt)]

/-- Computing a sheet that is computed already changes nothing. -/
theorem Rebuilt.changes_rebuild (h : s.Rebuilt) (hdefinite : ∀ cell, (s.valueAt cell).Definite) :
    s.rebuild.2.changes = [] := by
  obtain ⟨links, hlinks, -⟩ := revalued_rebuild h.rectangular
  have hbefore (cell : Coord) : s.relink.valueAt cell = s.valueAt cell := by
    rw [hlinks]
    rfl
  have hafter (cell : Coord) : s.rebuild.1.valueAt cell = s.valueAt cell := by
    rw [h.rebuild_eq_self]
  refine List.filterMap_eq_nil_iff.2 fun cell _ => if_pos ?_
  exact (hbefore cell).symm ▸ (hafter cell).symm ▸ (hdefinite cell).same_self

/-! ## The sorted sheet -/

theorem sort_eq (hcol : col < s.nCols) (descending : Bool) :
    s.sort col descending = .ok (s.sorted col descending).rebuild := by
  have hlocate : s.locateColumn col = .ok col := locateColumn_eq_ok.2 ⟨by omega, rfl⟩
  rw [sort, hlocate]
  rfl

theorem rectangular_sorted (h : s.Rectangular) (col : Nat) (descending : Bool) :
    (s.sorted col descending).Rectangular :=
  fun row hrow => h row (mem_of_mem_sorted hrow)

theorem sameFrame_sorted (h : s.Rectangular) (col : Nat) (descending : Bool) :
    s.SameFrame (s.sorted col descending) := by
  have hlengths {u : Sheet} (hu : u.Rectangular) :
      u.rows.map List.length = List.replicate u.nRows u.nCols :=
    List.eq_replicate_iff.2 ⟨List.length_map _, List.forall_mem_map.2 hu⟩
  refine ⟨rfl, ?_⟩
  rw [hlengths h, hlengths (rectangular_sorted h col descending), nRows_sorted]
  rfl

theorem reordered_sorted (h : s.Rectangular) (col : Nat) (descending : Bool) :
    s.Reordered (s.sorted col descending).rebuild.1 (s.sortedNumbers col descending) := by
  have hframe := sameFrame_sorted h col descending
  obtain ⟨hrebuilt, hraw, hformula, hvalue⟩ := rebuild_spec (hframe.rectangular h)
  refine ⟨s.perm_sortedNumbers col descending, hframe.trans hrebuilt,
    fun place row hrow other => ?_, fun place row hrow other => ?_,
    fun place row hrow other hnone => ?_⟩
  · rw [hraw, cellAt_sorted hrow]
  · rw [hformula, cellAt_sorted hrow]
  · rw [hvalue _ (by rw [cellAt_sorted hrow, hnone]), valueAt, cellAt_sorted hrow, valueAt]

/-- A sound sheet can be sorted by each of its columns, and this reorders it. -/
theorem Sound.exists_sort (hs : s.Sound) (hcol : col < s.nCols) (descending : Bool) :
    ∃ t r, s.sort col descending = .ok (t, r) ∧
      s.Reordered t (s.sortedNumbers col descending) ∧ t.Sound ∧ t.Rebuilt := by
  have hreordered := reordered_sorted hs.rectangular col descending
  have hrebuilt := rebuilt_rebuild (rectangular_sorted hs.rectangular col descending)
  have hbase := restructured_sorted hs.rectangular col descending
  obtain ⟨t, r, hrebuild⟩ : ∃ t r, (s.sorted col descending).rebuild = (t, r) := ⟨_, _, rfl⟩
  rw [hrebuild] at hreordered hrebuilt
  exact ⟨t, r, (sort_eq hcol descending).trans (congrArg _ hrebuild), hreordered,
    (hs.recomputed_of_restructured hbase hrebuild).consistent.sound, hrebuilt⟩

/-- What is sorted by a column without formulas is sorted already. -/
theorem Reordered.sorted_again (h : s.Reordered t (s.sortedNumbers col descending))
    (hs : s.Sound) (ht : t.Sound)
    (hnone : ∀ row : Nat, row < s.nRows → (s.cellAt ⟨row, col⟩).formula = none) :
    t.sorted col descending = t := by
  have hrows : (t.rows.drop t.fixedRows).map (rowValue col) =
      ((s.sortNumbered col descending).map Prod.snd).map fun row : Nat => s.valueAt ⟨row, col⟩ := by
    rw [List.map_drop, h.map_rowValue hnone, h.frame.fixedRows, ← List.map_drop,
      (s.sortedNumbers_spec col descending).2]
  have hpairs :
      ((t.rows.drop t.fixedRows).map (rowValue col)).Pairwise (Value.InOrder descending) := by
    rw [hrows, List.pairwise_map]
    refine (pairwise_sortNumbered hs col descending).imp fun hbefore => ?_
    exact Value.inOrder_of_before (hs.cells _).definite (hs.cells _).definite
      (hbefore.imp_right And.left)
  exact sorted_eq_self ht (List.pairwise_map.1 hpairs)

end Sheet

open Sheet

variable {functions : Registry} {s : Sheet}

/-- Sorting a reachable sheet with lawful functions by one of its columns puts its rows in another
order, whole and without changing the rest of the sheet. The rows that are fixed stay where they are,
and the others come in the order of the values that they had in the column, those without one last
and those with values that sort alike as they came before. If the column has no formulas, sorting
again in the same way leaves the sheet as it is and reports no change. -/
theorem Reachable.sort_spec (hlawful : functions.Lawful) (h : Reachable functions s) {col : Int}
    (hcol : 0 ≤ col ∧ col < s.nCols) (descending : Bool) :
    ∃ (t : Sheet) (r : Recalc) (order : List Nat), s.sort col descending = .ok (t, r) ∧
      s.Reordered t order ∧
      order.take s.fixedRows = (List.range s.nRows).take s.fixedRows ∧
      (order.drop s.fixedRows).Pairwise (s.RowBefore col descending) ∧
      ((∀ row : Nat, row < s.nRows → (s.cellAt ⟨row, col⟩).formula = none) →
        ∃ r', t.sort col descending = .ok (t, r') ∧ r'.changes = []) := by
  obtain ⟨index, rfl⟩ := Int.eq_ofNat_of_zero_le hcol.1
  have hs := (h.consistent hlawful).1.sound
  have hindex : index < s.nCols := by omega
  obtain ⟨t, r, hsort, hreordered, ht, hrebuilt⟩ := hs.exists_sort hindex descending
  obtain ⟨htake, hdrop⟩ := s.sortedNumbers_spec index descending
  refine ⟨t, r, _, hsort, hreordered, htake, hdrop ▸ pairwise_sortNumbered hs _ _,
    fun hnone => ⟨t.rebuild.2, ?_, ?_⟩⟩
  · have hsame : t.rebuild = (t, t.rebuild.2) := Prod.ext hrebuilt.rebuild_eq_self rfl
    have hindex : index < t.nCols := hreordered.frame.sameSize.nCols ▸ hindex
    rw [sort_eq hindex, hreordered.sorted_again hs ht hnone, ← hsame]
  · exact hrebuilt.changes_rebuild fun cell => (ht.cells cell).definite

namespace Sheet

/-- Texts that differ by case alone, a number and an empty cell below a fixed row, and a formula in
the second column that reads the number. -/
def unsortedSample : Sheet :=
  let first := ((blank 5 2 .standard .builtin).setTextAt ⟨0, 0⟩ "z").1
  let second := (first.setTextAt ⟨1, 0⟩ "b").1
  let third := (second.setTextAt ⟨3, 0⟩ "B").1
  let fourth := (third.setTextAt ⟨4, 0⟩ "0").1
  { (fourth.setTextAt ⟨1, 1⟩ "=A5").1 with fixedRows := 1 }

theorem reachable_unsortedSample : Reachable .builtin unsortedSample := by
  have hstart : Reachable .builtin (blank 5 2 .standard .builtin) :=
    @Reachable.make .builtin 5 2 [] .standard _ rfl
  have hfirst := hstart.setTextAt ⟨0, 0⟩ (by decide) "z"
  have hsecond := hfirst.setTextAt ⟨1, 0⟩
    (by simp only [nRows_setTextAt, nCols_setTextAt]; decide) "b"
  have hthird := hsecond.setTextAt ⟨3, 0⟩
    (by simp only [nRows_setTextAt, nCols_setTextAt]; decide) "B"
  have hfourth := hthird.setTextAt ⟨4, 0⟩
    (by simp only [nRows_setTextAt, nCols_setTextAt]; decide) "0"
  have hfifth := hfourth.setTextAt ⟨1, 1⟩
    (by simp only [nRows_setTextAt, nCols_setTextAt]; decide) "=A5"
  refine @Reachable.edit .builtin _ unsortedSample none (.fixRows 1) hfifth ?_
  rw [Edit.run, fixRows, if_pos (by simp only [nRows_setTextAt]; decide)]
  rfl

theorem rows_unsortedSample : unsortedSample.rows =
    [[⟨"z", none, .text "z"⟩, .blank],
      [⟨"b", none, .text "b"⟩, ⟨"=A5", some (.cell ⟨4, 0⟩ false), .number (.zero false)⟩],
      [.blank, .blank],
      [⟨"B", none, .text "B"⟩, .blank],
      [⟨"0", none, .number (.zero false)⟩, .blank]] := by
  cbv

theorem size_unsortedSample : unsortedSample.nRows = 5 ∧ unsortedSample.nCols = 2 := by
  refine ⟨?_, by cbv⟩
  rw [nRows, rows_unsortedSample]
  rfl

end Sheet

theorem sort_spec_sample :
    ∃ (t : Sheet) (r : Recalc) (order : List Nat), unsortedSample.sort 0 true = .ok (t, r) ∧
      order.Perm [0, 1, 2, 3, 4] ∧ order.take 1 = [0] ∧
      (order.drop 1).Pairwise (unsortedSample.RowBefore 0 true) ∧
      ∃ r', t.sort 0 true = .ok (t, r') ∧ r'.changes = [] := by
  obtain ⟨t, r, order, hsort, hreordered, htake, hdrop, hagain⟩ :=
    @Reachable.sort_spec .builtin unsortedSample Registry.lawful_builtin reachable_unsortedSample 0
      (by rw [size_unsortedSample.2]; decide) true
  have hperm := hreordered.perm
  rw [size_unsortedSample.1] at hperm htake hagain
  refine ⟨t, r, order, hsort, hperm, htake, hdrop, hagain fun row hrow => ?_⟩
  rw [cellAt, rows_unsortedSample]
  interval_cases row <;> rfl

end Spreadsheet

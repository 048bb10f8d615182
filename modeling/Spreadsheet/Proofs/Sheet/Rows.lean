import Spreadsheet.Proofs.Sheet.EntryOrder
import Spreadsheet.Proofs.Sheet.InStep

/-!
# Sheets of given texts

The sheet that `Sheet.ofRows` makes of rows of texts: it has a row for each of them, it is as wide
as the widest one, and each text stands in its cell (`ofRows_spec`).
-/

namespace Spreadsheet.Sheet

/-- The texts of rows with their places. -/
def placedTexts (rows : Table String) : List (Coord × String) :=
  rows.zipIdx.flatMap fun (texts, row) => texts.zipIdx.map fun (text, col) => (⟨row, col⟩, text)

variable {rows : Table String} {names : List (Option String)} {options : Options}
  {functions : Registry} {start : Sheet}

theorem mem_placedTexts {entry : Coord × String} :
    entry ∈ placedTexts rows ↔ rows.get? entry.1 = some entry.2 := by
  obtain ⟨⟨row, col⟩, text⟩ := entry
  simp only [placedTexts, List.mem_flatMap, List.mem_map, Prod.exists, Prod.mk.injEq, Coord.mk.injEq,
    List.mem_zipIdx_iff_getElem?, Table.get?]
  constructor
  · rintro ⟨texts, r, hr, _, c, hc, ⟨rfl, rfl⟩, rfl⟩
    simp [hr, hc]
  · intro h
    split at h
    · next hplace =>
      obtain ⟨texts, hr, hc⟩ := Option.bind_eq_some_iff.1 h
      exact ⟨texts, row.toNat, hr, text, col.toNat, hc, ⟨Int.toNat_of_nonneg hplace.1,
        Int.toNat_of_nonneg hplace.2⟩, rfl⟩
    · cases h

/-- The places of the members of a list with their numbers are different. -/
theorem pairwise_zipIdx {α : Type} (xs : List α) : xs.zipIdx.Pairwise (·.2 ≠ ·.2) := by
  have hnodup : (xs.zipIdx.map Prod.snd).Nodup := by
    rw [List.zipIdx_map_snd]
    exact List.nodup_range'
  exact List.pairwise_map.1 hnodup

theorem nodup_placedTexts (rows : Table String) : ((placedTexts rows).map Prod.fst).Nodup := by
  rw [placedTexts, List.map_flatMap, List.nodup_flatMap]
  constructor
  · rintro ⟨texts, row⟩ -
    rw [List.map_map]
    refine List.pairwise_map.2 ((pairwise_zipIdx texts).imp ?_)
    rintro ⟨text, col⟩ ⟨other, col'⟩ hne heq
    simp only [Function.comp_apply, Coord.mk.injEq, true_and] at heq
    exact hne (Int.ofNat_inj.1 heq)
  · refine (pairwise_zipIdx rows).imp ?_
    rintro ⟨texts, row⟩ ⟨others, row'⟩ hne cell hcell hcell'
    simp only [List.map_map, List.mem_map, Function.comp_apply, Prod.exists] at hcell hcell'
    obtain ⟨text, col, -, rfl⟩ := hcell
    obtain ⟨other, col', -, heq⟩ := hcell'
    exact hne (Int.ofNat_inj.1 (congrArg Coord.row heq)).symm

/-- The texts of rows are on a sheet that is as high and as wide as the rows. -/
theorem within_of_mem_placedTexts {entry : Coord × String} (h : entry ∈ placedTexts rows)
    {width : Nat} (hwidth : ∀ row ∈ rows, row.length ≤ width) :
    entry.1.Within rows.length width := by
  have hget := mem_placedTexts.1 h
  rw [Table.get?] at hget
  split at hget
  · obtain ⟨texts, hr, hc⟩ := Option.bind_eq_some_iff.1 hget
    have hrow := (List.getElem?_eq_some_iff.1 hr).1
    have hcol := (List.getElem?_eq_some_iff.1 hc).1
    have hle := hwidth texts (List.mem_of_getElem? hr)
    rw [Coord.Within]
    omega
  · cases hget

theorem foldl_max_le_iff {xs : List Nat} {start bound : Nat} :
    xs.foldl max start ≤ bound ↔ start ≤ bound ∧ ∀ x ∈ xs, x ≤ bound := by
  induction xs generalizing start with
  | nil => simp
  | cons x xs ih => rw [List.foldl_cons, ih, max_le_iff, List.forall_mem_cons, and_assoc]

theorem foldl_max_of_forall {xs : List Nat} {width : Nat} (h : ∀ x ∈ xs, x = width) (hne : xs ≠ []) :
    xs.foldl max 0 = width := by
  have hmax {bound : Nat} : xs.foldl max 0 ≤ bound ↔ 0 ≤ bound ∧ ∀ x ∈ xs, x ≤ bound :=
    foldl_max_le_iff
  obtain ⟨x, hx⟩ := List.exists_mem_of_ne_nil xs hne
  apply le_antisymm
  · exact hmax.2 ⟨Nat.zero_le _, fun x hx => (h x hx).le⟩
  · exact h x hx ▸ (hmax.1 le_rfl).2 x hx

theorem size_of_make {nRows nCols : Int}
    (h : make nRows nCols names options functions = .ok start) :
    start.nRows = nRows.toNat ∧ start.nCols = nCols.toNat ∧ ∀ cell, start.cellAt cell = .blank := by
  obtain ⟨columns, hcolumns, rfl⟩ := make_eq_ok h
  exact ⟨List.length_replicate, hcolumns, cellAt_blank _ _ options functions⟩

/-- The sheet of rows of texts is an empty sheet with the texts entered. -/
theorem ofRows_spec (h : make rows.length ((rows.map List.length).foldl max names.length : Nat)
      names options functions = .ok start) :
    ∃ t, ofRows rows names options functions = .ok t ∧ start.SameFrame t ∧
      ∀ cell, (t.cellAt cell).raw = (rows.get? cell).getD "" := by
  obtain ⟨hstep, -⟩ := inStep_of_make h
  obtain ⟨hrows, hcols, hblank⟩ := size_of_make h
  have hperm := List.mergeSort_perm (placedTexts rows) entryAtMost
  have hwithin : ∀ entry ∈ (placedTexts rows).mergeSort entryAtMost,
      entry.1.Within start.nRows start.nCols := by
    intro entry hentry
    have hwidth : ∀ row ∈ rows, row.length ≤ (rows.map List.length).foldl max names.length :=
      List.forall_mem_map.1 (foldl_max_le_iff.1 le_rfl).2
    rw [hrows, hcols]
    exact within_of_mem_placedTexts (hperm.mem_iff.1 hentry) hwidth
  have hload : start.load (placedTexts rows) =
      .ok (start.installAll ((placedTexts rows).mergeSort entryAtMost)).recalculate := by
    rw [load, forM_checkCell_eq_ok.2 hwithin]
    rfl
  have htexts := texts_installAll hstep.rectangular
    ((hperm.map Prod.fst).nodup_iff.2 (nodup_placedTexts rows)) hwithin
  have hrevalued := revalued_recalculate (hstep.installAll hwithin).linked
  refine ⟨_, bind_eq_ok.2 ⟨start, h, ?_⟩,
    (sameFrame_installAll hwithin).trans hrevalued.toSameFrame, fun cell => ?_⟩
  · simp only
    split
    · next heq => exact congrArg _ (congrArg Prod.fst (Except.ok.inj (heq.symm.trans hload)))
    · next heq => cases heq.symm.trans hload
  · rw [hrevalued.raw]
    cases htext : rows.get? cell with
    | some text =>
      exact htexts.entered (cell, text) (hperm.mem_iff.2 (mem_placedTexts.2 htext))
    | none =>
      rw [htexts.other cell, hblank]
      · rfl
      · intro hmem
        obtain ⟨⟨other, text⟩, hentry, rfl⟩ := List.mem_map.1 hmem
        cases htext.symm.trans (mem_placedTexts.1 (hperm.mem_iff.1 hentry))

end Spreadsheet.Sheet

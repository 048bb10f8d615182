import Spreadsheet.Proofs.Sheet.Labels
import Spreadsheet.Proofs.Sheet.Rows

/-!
# Naming the columns of a new sheet

The columns of a new sheet are named one after the other, and each name is compared with those
before it. So names that are not blank are all given to the columns if they differ from each other,
and one of them is refused if they do not (`make_named`). The same goes for a sheet of rows of texts
under such names (`ofRows_named`).
-/

namespace Spreadsheet.Sheet

variable {names done : List String} {name : String} {nRows nCols : Nat} {options : Options}
  {functions : Registry}

theorem modify_length_append {α : Type} (xs : List α) (x : α) (ys : List α) (f : α → α) :
    (xs ++ x :: ys).modify xs.length f = xs ++ f x :: ys := by
  induction xs with
  | nil => rfl
  | cons first xs ih => rw [List.cons_append, List.length_cons, List.modify_succ_cons, ih,
      List.cons_append]

/-- A blank sheet whose first columns have names. -/
def labelled (names : List String) (nRows nCols : Nat) (options : Options) (functions : Registry) :
    Sheet :=
  { blank nRows nCols options functions with
    columns := names.map (⟨some ·, options.columnWidth⟩) ++
      List.replicate (nCols - names.length) ⟨none, options.columnWidth⟩ }

theorem labelled_nil : labelled [] nRows nCols options functions =
    blank nRows nCols options functions := rfl

theorem nCols_labelled (h : names.length ≤ nCols) :
    (labelled names nRows nCols options functions).nCols = nCols := by
  rw [Sheet.nCols, labelled, List.length_append, List.length_map, List.length_replicate]
  omega

/-- The columns are named as asked for if there are as many names as columns. -/
theorem columnNames_labelled (h : names.length = nCols) :
    (labelled names nRows nCols options functions).columnNames = names := by
  apply List.ext_getElem?
  intro col
  rw [getElem?_columnNames, labelled, h, Nat.sub_self, List.replicate_zero, List.append_nil,
    List.getElem?_map, Option.map_map]
  cases names[col]? <;> rfl

/-- The next column may be given a name unless one before it has that name. -/
theorem rejectsName_labelled (hblank : Text.allBlank name.toList = false) :
    (labelled names nRows nCols options functions).RejectsName name (some names.length) ↔
      name ∈ names := by
  rw [RejectsName, hblank, labelled]
  constructor
  · rintro (hblank | ⟨index, column, hcolumn, -, hname⟩)
    · cases hblank
    · rcases List.mem_append.1 (List.mem_of_getElem? hcolumn) with hnamed | hunnamed
      · obtain ⟨given, hgiven, rfl⟩ := List.mem_map.1 hnamed
        exact Option.some.inj hname ▸ hgiven
      · rw [List.eq_of_mem_replicate hunnamed] at hname
        cases hname
  · intro hmem
    obtain ⟨index, hindex⟩ := List.mem_iff_getElem?.1 hmem
    obtain ⟨hlt, -⟩ := List.getElem?_eq_some_iff.1 hindex
    refine .inr ⟨index, ⟨some name, options.columnWidth⟩, ?_, ?_, rfl⟩
    · rw [List.getElem?_append_left (by rwa [List.length_map]), List.getElem?_map, hindex]
      rfl
    · simp only [ne_eq, Option.some.injEq]
      omega

theorem checkName_eq (s : Sheet) (skip : Option Nat) (hblank : Text.allBlank name.toList = false) :
    ¬ s.RejectsName name skip ∧ s.checkName name skip = .ok () ∨
      s.RejectsName name skip ∧ s.checkName name skip = .error (.duplicateName name) := by
  rw [← checkName_eq_error, checkName, if_neg (by simp [hblank])]
  split
  · exact .inr ⟨⟨_, rfl⟩, rfl⟩
  · exact .inl ⟨by simp, rfl⟩

theorem setColumnName_labelled (nRows : Nat) (options : Options) (functions : Registry)
    (hblank : Text.allBlank name.toList = false) (hlt : names.length < nCols) :
    (labelled names nRows nCols options functions).setColumnName names.length name =
      if name ∈ names then .error (.duplicateName name)
      else .ok (labelled (names ++ [name]) nRows nCols options functions) := by
  have hlocate : (labelled names nRows nCols options functions).locateColumn names.length =
      .ok names.length := by
    rw [locateColumn, nCols_labelled hlt.le, if_pos (by omega), Int.toNat_natCast]
  rw [setColumnName, hlocate]
  rcases checkName_eq (labelled names nRows nCols options functions) (some names.length) hblank
    with ⟨hfree, hcheck⟩ | ⟨hused, hcheck⟩
  · rw [rejectsName_labelled hblank] at hfree
    rw [if_neg hfree]
    have hrest : nCols - names.length = nCols - (names ++ [name]).length + 1 := by
      rw [List.length_append, List.length_singleton]
      omega
    have hcolumns :
        (labelled names nRows nCols options functions).columns.modify names.length
            (fun column => { column with name := some name }) =
          (labelled (names ++ [name]) nRows nCols options functions).columns := by
      have hmodify := modify_length_append
        (names.map fun name => (⟨some name, options.columnWidth⟩ : Column))
      rw [List.length_map] at hmodify
      rw [labelled, labelled, hrest, List.replicate_succ]
      simp only [hmodify, List.map_append, List.append_assoc]
      rfl
    refine bind_eq_ok.2 ⟨_, rfl, bind_eq_ok.2 ⟨_, hcheck, congrArg Except.ok ?_⟩⟩
    rw [hcolumns]
    rfl
  · rw [rejectsName_labelled hblank] at hused
    rw [if_pos hused]
    simp only [hcheck, bind, Except.bind]

/-- Going on with more names, all of them are given if they differ from each other and from those
given before. -/
theorem foldlM_labelled {label : Sheet → Option String × Nat → Except EditFault Sheet}
    (hlabel : ∀ s name col, label s (some name, col) = s.setColumnName col name)
    (hblank : ∀ name ∈ names, Text.allBlank name.toList = false)
    (hlength : done.length + names.length ≤ nCols) (hdone : done.Nodup) :
    (done ++ names).Nodup ∧
        ((names.map some).zipIdx done.length).foldlM label
          (labelled done nRows nCols options functions) =
            .ok (labelled (done ++ names) nRows nCols options functions) ∨
      ¬ (done ++ names).Nodup ∧ ∃ name ∈ names,
        ((names.map some).zipIdx done.length).foldlM label
          (labelled done nRows nCols options functions) = .error (.duplicateName name) := by
  induction names generalizing done with
  | nil =>
    rw [List.append_nil]
    exact .inl ⟨hdone, rfl⟩
  | cons name names ih =>
    obtain ⟨hname, hnames⟩ := List.forall_mem_cons.1 hblank
    rw [List.length_cons] at hlength
    have hlt : done.length < nCols := by omega
    have hset := setColumnName_labelled nRows options functions hname hlt
    rw [List.map_cons, List.zipIdx_cons, List.foldlM_cons, hlabel, hset]
    by_cases hmem : name ∈ done
    · refine .inr ⟨fun hnodup => ?_, name, List.mem_cons_self, ?_⟩
      · exact (List.nodup_append.1 hnodup).2.2 name hmem name List.mem_cons_self rfl
      · rw [if_pos hmem]
        rfl
    · have hnext : (done ++ [name]).Nodup := by
        rw [List.nodup_append_comm]
        exact List.nodup_cons.2 ⟨hmem, hdone⟩
      have hlength : (done ++ [name]).length + names.length ≤ nCols := by
        rw [List.length_append, List.length_singleton]
        omega
      have hrest := ih hnames hlength hnext
      rw [List.append_assoc, List.singleton_append, List.length_append, List.length_singleton]
        at hrest
      rw [if_neg hmem]
      refine hrest.imp_right fun h => ⟨h.1, ?_⟩
      obtain ⟨other, hother, hfault⟩ := h.2
      exact ⟨other, List.mem_cons_of_mem _ hother, hfault⟩

theorem nameColumns_blank (nRows : Nat) (options : Options) (functions : Registry)
    (hblank : ∀ name ∈ names, Text.allBlank name.toList = false) (hlength : names.length ≤ nCols) :
    names.Nodup ∧ (blank nRows nCols options functions).nameColumns (names.map some) =
        .ok (labelled names nRows nCols options functions) ∨
      ¬ names.Nodup ∧ ∃ name ∈ names,
        (blank nRows nCols options functions).nameColumns (names.map some) =
          .error (.duplicateName name) := by
  have hlength : ([] : List String).length + names.length ≤ nCols := by simpa using hlength
  rw [nameColumns]
  exact foldlM_labelled (fun _ _ _ => rfl) hblank hlength .nil

/-- A new sheet with names that are not blank: they are all given to the first columns, or one of
them is refused because it comes twice. -/
theorem make_named (nRows : Nat) (options : Options) (functions : Registry)
    (hblank : ∀ name ∈ names, Text.allBlank name.toList = false) (hlength : names.length ≤ nCols) :
    names.Nodup ∧ make nRows nCols (names.map some) options functions =
        .ok (labelled names nRows nCols options functions) ∨
      ¬ names.Nodup ∧ ∃ name ∈ names, make nRows nCols (names.map some) options functions =
        .error (.edit (.duplicateName name)) := by
  have hmake : make nRows nCols (names.map some) options functions =
      ((blank nRows nCols options functions).nameColumns (names.map some)).mapError .edit := by
    rw [make, if_neg (by omega), if_neg (by rw [List.length_map]; omega), Int.toNat_natCast,
      Int.toNat_natCast]
  rw [hmake]
  rcases nameColumns_blank nRows options functions hblank hlength with
    ⟨hnodup, hnames⟩ | ⟨hdup, name, hname, hnames⟩
  · exact .inl ⟨hnodup, by rw [hnames]; rfl⟩
  · exact .inr ⟨hdup, name, hname, by rw [hnames]; rfl⟩

theorem nRows_labelled : (labelled names nRows nCols options functions).nRows = nRows :=
  List.length_replicate

/-- A sheet of rows that are no longer than the names: its columns have these names, or one of them
is refused because it comes twice. -/
theorem ofRows_named (options : Options) (functions : Registry)
    (hblank : ∀ name ∈ names, Text.allBlank name.toList = false) {rows : Table String}
    (hwidth : ∀ row ∈ rows, row.length ≤ names.length) :
    names.Nodup ∧ (∃ t, ofRows rows (names.map some) options functions = .ok t ∧
        (labelled names rows.length names.length options functions).SameFrame t ∧
        ∀ cell, (t.cellAt cell).raw = (rows.get? cell).getD "") ∨
      ¬ names.Nodup ∧ ∃ name ∈ names, ofRows rows (names.map some) options functions =
        .error (.edit (.duplicateName name)) := by
  have hwidest : (rows.map List.length).foldl max (names.map some).length = names.length := by
    rw [List.length_map]
    refine le_antisymm (foldl_max_le_iff.2 ⟨le_rfl, List.forall_mem_map.2 hwidth⟩) ?_
    exact (foldl_max_le_iff.1 le_rfl).1
  rcases make_named rows.length options functions hblank le_rfl with
    ⟨hnodup, hmake⟩ | ⟨hdup, name, hname, hmake⟩
  · exact .inl ⟨hnodup, ofRows_spec (hwidest.symm ▸ hmake)⟩
  · refine .inr ⟨hdup, name, hname, ?_⟩
    rw [ofRows, hwidest, hmake]
    rfl

end Spreadsheet.Sheet

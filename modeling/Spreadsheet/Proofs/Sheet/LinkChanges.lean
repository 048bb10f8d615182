import Spreadsheet.Proofs.Dependency.Adjacency
import Spreadsheet.Proofs.Sheet.InStep

/-!
# The record of a sheet kept both ways

An edit tells the record of reads what the cells read whose formulas it has written or moved
(`Edit.linkChanges`), and the record changes by that alone (`Sheet.InStep.links_of_run`). `Traced`
sheets come with all changes that edits have made to their records, and every reachable sheet is one
(`Reachable.exists_traced`). So the two maps that these changes make are those of the record: they
say what the formulas read on the sheet as it is, and which formulas read a cell
(`Traced.adjacency_spec`).
-/

namespace Spreadsheet

namespace Sheet

variable {s t : Sheet}

/-- What the record is told of a cell. -/
def linkChange (s : Sheet) (cell : Coord) : Links.Change := .set cell (s.readsAt cell)

/-- What the record is told while texts are entered one after the other. -/
def installChanges (s : Sheet) : List (Coord × String) → List Links.Change
  | [] => []
  | (cell, raw) :: entries =>
    (s.install cell raw).linkChange cell :: (s.install cell raw).installChanges entries

/-- What the record is told when it is made anew. -/
def relinkChanges (s : Sheet) : List Links.Change := .clear :: s.formulaCells.map s.linkChange

theorem links_installAll (s : Sheet) (entries : List (Coord × String)) :
    (s.installAll entries).links = (s.installChanges entries).foldl Links.change s.links := by
  induction entries generalizing s with
  | nil => rfl
  | cons entry entries ih => exact ih (s.install entry.1 entry.2)

/-- What the cells read does not depend on the record. -/
theorem links_foldl_link (s : Sheet) (cells : List Coord) :
    (cells.foldl link s).links = (cells.map s.linkChange).foldl Links.change s.links := by
  induction cells generalizing s with
  | nil => rfl
  | cons cell cells ih => exact ih (s.link cell)

theorem links_relink (s : Sheet) : s.relink.links = s.relinkChanges.foldl Links.change s.links :=
  links_foldl_link { s with links := .empty } s.formulaCells

/-! ## New values -/

theorem Revalued.linkChange_eq (h : s.Revalued t) (cell : Coord) :
    t.linkChange cell = s.linkChange cell := by
  rw [linkChange, linkChange, h.readsAt]

theorem Revalued.relinkChanges_eq (h : s.Revalued t) : t.relinkChanges = s.relinkChanges := by
  have hcells : t.formulaCells = s.formulaCells := by
    simp only [formulaCells, cells, h.sameSize.nRows, h.sameSize.nCols, h.formula]
  rw [relinkChanges, relinkChanges, hcells, List.map_congr_left fun cell _ => h.linkChange_eq cell]

end Sheet

open Sheet

/-- What an edit that makes `t` of `s` tells the record. -/
def Edit.linkChanges (s t : Sheet) : Edit → List Links.Change
  | .setText cell _ | .clear cell | .fill _ cell => [t.linkChange cell]
  | .load entries => s.installChanges (entries.mergeSort entryAtMost)
  | .insertRow _ | .deleteRow _ | .insertColumn _ _ | .deleteColumn _ | .resize _ _ | .sort _ _ =>
    t.relinkChanges
  | .recalculate | .setColumnName _ _ | .setColumnWidth _ _ | .fitColumnWidth _ | .fixRows _ => []

namespace Sheet.InStep

variable {s t base : Sheet} {cell : Coord} {raw : String} {report : Option Recalc} {r : Recalc}

theorem links_setTextAt (h : s.InStep) (ht : s.setTextAt cell raw = (t, r)) :
    t.links = s.links.change (t.linkChange cell) := by
  obtain rfl := congrArg Prod.fst ht
  have hrevalued := h.linked.revalued_setTextAt cell raw
  rw [hrevalued.links, hrevalued.linkChange_eq]
  rfl

theorem links_rebuild (h : s.InStep) (hbase : s.Restructured base)
    (ht : base.rebuild = (t, r)) : t.links = t.relinkChanges.foldl Links.change s.links := by
  obtain rfl := congrArg Prod.fst ht
  obtain ⟨links, hlinks, hrevalued⟩ := revalued_rebuild (h.restructured hbase).1
  rw [hrevalued.links, hrevalued.relinkChanges_eq]
  exact (congrArg Sheet.links hlinks).symm.trans (links_relink base)

/-- An edit changes the record by what it tells it. -/
theorem links_of_run (h : s.InStep) {edit : Edit} (hrun : edit.run s = .ok (t, report)) :
    t.links = (edit.linkChanges s t).foldl Links.change s.links := by
  cases edit with
  | setText | clear =>
    obtain ⟨r, -, hset⟩ := Edit.eq_ok_of_reported hrun
    exact h.links_setTextAt (setText_eq_ok hset).2
  | fill origin target =>
    obtain ⟨r, -, hfill⟩ := Edit.eq_ok_of_reported hrun
    obtain ⟨raw, -, hset⟩ := fill_eq_ok hfill
    exact h.links_setTextAt hset
  | load entries =>
    obtain ⟨r, -, hload⟩ := Edit.eq_ok_of_reported hrun
    obtain ⟨hentries, hload⟩ := load_eq_ok hload
    obtain rfl := congrArg Prod.fst hload
    have hall : (s.installAll (entries.mergeSort entryAtMost)).InStep :=
      h.installAll fun entry hentry => hentries entry (List.mem_mergeSort.1 hentry)
    rw [(revalued_recalculate hall.linked).links]
    exact links_installAll s _
  | recalculate =>
    cases hrun
    exact (revalued_recalculate h.linked).links
  | insertRow | deleteRow | insertColumn | deleteColumn | resize | sort =>
    obtain ⟨base, r, -, hbase, hrebuild⟩ := Edit.restructured_of_run h.rectangular rfl hrun
    exact h.links_rebuild hbase hrebuild
  | setColumnName | setColumnWidth | fitColumnWidth | fixRows =>
    obtain ⟨-, columns, fixedRows, -, rfl⟩ := Edit.relabelled_of_run rfl rfl hrun
    rfl

end Sheet.InStep

/-! ## All changes -/

/-- The sheets that edits make of new empty ones, each with all that its record was told. -/
inductive Traced (functions : Registry) : Sheet → List Links.Change → Prop
  | make {nRows nCols : Int} {names : List (Option String)} {options : Options} {s : Sheet}
      (h : Sheet.make nRows nCols names options functions = .ok s) : Traced functions s []
  | edit {s t : Sheet} {changes : List Links.Change} {report : Option Recalc} (edit : Edit)
      (h : Traced functions s changes) (hrun : edit.run s = .ok (t, report)) :
      Traced functions t (changes ++ edit.linkChanges s t)

variable {functions : Registry} {s : Sheet} {changes : List Links.Change}

theorem Reachable.exists_traced (h : Reachable functions s) :
    ∃ changes, Traced functions s changes := by
  refine Reachable.of_make_of_run (p := fun s => ∃ changes, Traced functions s changes)
    (fun hmake => ⟨[], .make hmake⟩) ?_ h
  rintro s t edit report ⟨changes, hs⟩ hrun
  exact ⟨_, .edit edit hs hrun⟩

namespace Traced

theorem reachable (h : Traced functions s changes) : Reachable functions s := by
  induction h with
  | make h => exact .make h
  | edit edit _ hrun ih => exact .edit edit ih hrun

/-- By induction on the edits: the record is what it was told. -/
theorem links_eq (h : Traced functions s changes) : s.links = Links.ofChanges changes := by
  induction h with
  | make h =>
    obtain ⟨columns, -, rfl⟩ := make_eq_ok h
    rfl
  | edit edit h hrun ih =>
    rw [h.reachable.inStep.1.links_of_run hrun, ih, Links.ofChanges, Links.ofChanges,
      List.foldl_append]

theorem keeps (h : Traced functions s changes) : (Adjacency.ofChanges changes).Keeps s.links :=
  h.links_eq ▸ Adjacency.keeps_ofChanges changes

/-- The two maps that the edits of a sheet make are those of its record. The first has an entry for
a cell exactly if the cell has a formula that reads something, and then the entry is what the
formula reads on the sheet as it is; the second is the inverse one. Neither holds an empty list, and
all cells in them lie on the sheet. -/
theorem adjacency_spec (h : Traced functions s changes) :
    let a := Adjacency.ofChanges changes
    (∀ cell, a.reads cell = s.links.entries.lookup cell ∧
      a.readers cell = CellMap.held? (s.links.readers cell)) ∧
    (∀ cell refs, a.reads cell = some refs ↔ refs ≠ [] ∧ ∃ formula,
      (s.cellAt cell).formula = some formula ∧ refs = formula.reads s.nRows (some cell)) ∧
    (∀ cell ref, (∃ readers, a.readers ref = some readers ∧ cell ∈ readers) ↔
      ∃ refs, a.reads cell = some refs ∧ ref ∈ refs) ∧
    (∀ cell, a.reads cell ≠ some [] ∧ a.readers cell ≠ some []) ∧
    ∀ cell refs, a.reads cell = some refs → cell.Within s.nRows s.nCols ∧
      ∀ ref ∈ refs, ref.Within s.nRows s.nCols := by
  intro a
  obtain ⟨hs, -⟩ := h.reachable.inStep
  have hordered : s.links.Ordered := hs.linked.ordered
  have ha : a.Keeps s.links := h.keeps
  have hentries (cell : Coord) (refs : List Coord) : a.reads cell = some refs ↔
      (cell, refs) ∈ s.links.entries := by
    rw [ha.reads, CellMap.held?_eq_some_iff, hordered.mem_entries, eq_comm (a := refs)]
  refine ⟨fun cell => ⟨?_, ha.readers cell⟩, fun cell refs => ?_, fun cell ref => ?_,
    fun cell => ⟨ha.reads.ne_some_nil cell, ha.readers.ne_some_nil cell⟩, fun cell refs hrefs => ?_⟩
  · exact (ha.reads cell).trans (hordered.lists_entries cell).symm
  · rw [hentries, hs.linked.mem_entries]
  · rw [ha.readers.exists_mem, ha.reads.exists_mem, hordered.mem_readers]
  · exact hs.within_of_mem_entries ((hentries cell refs).1 hrefs)

end Traced

end Spreadsheet

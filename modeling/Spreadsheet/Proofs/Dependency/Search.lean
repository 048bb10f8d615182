import Spreadsheet.Proofs.Dependency.Path
import Spreadsheet.Proofs.Dependency.Record

/-!
# The search for dependent cells

`mem_downstream`: the search along readers finds exactly the cells with a path to a root. What it
keeps is `Frontier`: every cell that reads a root or a cell found is itself found, or reads a cell
that is still queued. Each step takes one cell off the queue, and no cell is queued twice after it
is found, so the steps that the search is given are enough.
-/

namespace Spreadsheet.Links

open Relation

variable {links : Links} {roots found queue : List Coord} {cell : Coord}

/-- Where the search for the cells that depend on `roots` has come to. -/
structure Frontier (links : Links) (roots found queue : List Coord) : Prop where
  nodup : found.Nodup
  reading : ∀ cell ∈ found, cell ∈ links.reading
  sound : ∀ cell ∈ found, ∃ root ∈ roots, TransGen links.Reads cell root
  known : ∀ cell ∈ queue, cell ∈ roots ∨ cell ∈ found
  closed : ∀ cell, cell ∈ roots ∨ cell ∈ found →
    cell ∈ queue ∨ ∀ reader, links.Reads reader cell → reader ∈ found

theorem Frontier.start (links : Links) (roots : List Coord) : links.Frontier roots [] roots where
  nodup := List.nodup_nil
  reading := by simp
  sound := by simp
  known := fun _ hcell => .inl hcell
  closed := fun _ hcell => .inl (hcell.resolve_right List.not_mem_nil)

/-- The readers of the first cell of the queue are found, those that are new are queued. -/
theorem Frontier.step (hlinks : links.Ordered) (h : links.Frontier roots found (cell :: queue)) :
    let new := (links.readers cell).filter fun reader => !found.contains reader
    links.Frontier roots (new ++ found) (queue ++ new) := by
  intro new
  have hnew {reader : Coord} : reader ∈ new ↔ links.Reads reader cell ∧ reader ∉ found := by
    simp [new, hlinks.mem_readers, Reads]
  have hreaders : (links.readers cell).Nodup :=
    hlinks.ascends.nodup.sublist (List.filter_sublist.map Prod.fst)
  refine ⟨?_, ?_, ?_, ?_, ?_⟩
  · refine List.nodup_append.2 ⟨hreaders.sublist List.filter_sublist, h.nodup, ?_⟩
    rintro reader hreader _ hfound rfl
    exact (hnew.1 hreader).2 hfound
  · intro reader hreader
    rcases List.mem_append.1 hreader with hreader | hreader
    · exact hlinks.mem_reading.2 (List.ne_nil_of_mem (hnew.1 hreader).1)
    · exact h.reading reader hreader
  · intro reader hreader
    rcases List.mem_append.1 hreader with hreader | hreader
    · have hread := (hnew.1 hreader).1
      rcases h.known cell List.mem_cons_self with hroot | hfound
      · exact ⟨cell, hroot, .single hread⟩
      · obtain ⟨root, hroot, hpath⟩ := h.sound cell hfound
        exact ⟨root, hroot, .head hread hpath⟩
    · exact h.sound reader hreader
  · intro other hother
    rcases List.mem_append.1 hother with hother | hother
    · exact (h.known other (List.mem_cons_of_mem _ hother)).imp_right (List.mem_append_right _)
    · exact .inr (List.mem_append_left _ hother)
  · intro other hother
    by_cases hin : other ∈ new
    · exact .inl (List.mem_append_right _ hin)
    have hother : other ∈ roots ∨ other ∈ found :=
      hother.imp_right fun hmem => (List.mem_append.1 hmem).resolve_left hin
    rcases h.closed other hother with hqueue | hclosed
    · rcases List.mem_cons.1 hqueue with rfl | hqueue
      · refine .inr fun reader hread => ?_
        by_cases hfound : reader ∈ found
        · exact List.mem_append_right _ hfound
        · exact List.mem_append_left _ (hnew.2 ⟨hread, hfound⟩)
      · exact .inl (List.mem_append_left _ hqueue)
    · exact .inr fun reader hread => List.mem_append_right _ (hclosed reader hread)

/-- The search ends with an empty queue, by induction on the steps that it is given. -/
theorem Frontier.search (hlinks : links.Ordered) {fuel : Nat} (h : links.Frontier roots found queue)
    (hfuel : queue.length + links.reading.length ≤ fuel + found.length) :
    links.Frontier roots (links.search found queue fuel) [] := by
  induction fuel generalizing found queue with
  | zero =>
    have hle : found.length ≤ links.reading.length :=
      (h.nodup.subperm fun cell hcell => h.reading cell hcell).length_le
    rw [List.length_eq_zero_iff.1 (show queue.length = 0 by omega)] at h
    exact h
  | succ fuel ih =>
    rw [Links.search.eq_def]
    cases queue with
    | nil => exact h
    | cons cell queue =>
      refine ih (h.step hlinks) ?_
      simp only [List.length_append, List.length_cons] at hfuel ⊢
      omega

/-- With an empty queue, the cells found are those with a path to a root. -/
theorem Frontier.mem_found_iff (h : links.Frontier roots found []) :
    cell ∈ found ↔ ∃ root ∈ roots, TransGen links.Reads cell root := by
  constructor
  · exact h.sound cell
  · rintro ⟨root, hroot, hpath⟩
    have hclosed (other : Coord) (hother : other ∈ roots ∨ other ∈ found) (reader : Coord)
        (hread : links.Reads reader other) :=
      (h.closed other hother).resolve_left List.not_mem_nil reader hread
    -- From the root back along the path every cell is found.
    induction hpath using TransGen.head_induction_on with
    | single hread => exact hclosed root (.inl hroot) _ hread
    | head hread _ ih => exact hclosed _ (.inr ih) _ hread

/-- The search finds exactly the cells with a path to a root. -/
theorem mem_downstream (hlinks : links.Ordered) :
    cell ∈ links.downstream roots ↔ ∃ root ∈ roots, TransGen links.Reads cell root := by
  have hend : links.Frontier roots
      (links.search [] roots (roots.length + links.entries.length)) [] :=
    (Frontier.start links roots).search hlinks (by simp [Links.reading])
  rw [downstream, Coord.mem_ascending, hend.mem_found_iff]

end Spreadsheet.Links

import Spreadsheet.Dependency.Schedule
import Spreadsheet.Proofs.Dependency.Search

/-!
# The order of evaluation

`Schedule.Places` says what a schedule makes of a set of cells: it has all of them, a placed cell
reads none of those that come after it, and a stuck one reads another stuck one. From this follows
which cells are stuck:

* `Places.belowCycle_of_mem_stuck`: only cells below a cycle are;
* `Places.mem_stuck_of_closed`: cells of the set that each read another one of them are;
* `mem_stuck_schedule`, `mem_stuck_scheduleFrom_of_circular`: in a schedule of all cells that read
  something, the cells below a cycle; in one of the cells that depend on some roots, those on a
  cycle.
-/

namespace Spreadsheet

open Relation

namespace Links

/-- Each cell of the list reads neither itself nor a later one nor one of `last`. -/
def InOrder (links : Links) (last : List Coord) : List Coord → Prop
  | [] => True
  | cell :: rest =>
    (∀ ref, links.Reads cell ref → ref ∉ cell :: rest ∧ ref ∉ last) ∧ links.InOrder last rest

/-- If cells each read another one of them, none of them is in order. -/
theorem InOrder.not_mem_of_closed {links : Links} {last order : List Coord} {p : Coord → Prop}
    (h : links.InOrder last order) (hmem : ∀ cell, p cell → cell ∈ order ∨ cell ∈ last)
    (hclosed : ∀ cell, p cell → ∃ ref, links.Reads cell ref ∧ p ref) :
    ∀ cell ∈ order, ¬ p cell := by
  induction order with
  | nil => simp
  | cons first rest ih =>
    obtain ⟨hfirst, hrest⟩ := h
    have hnot : ¬ p first := fun hp => by
      obtain ⟨ref, hread, href⟩ := hclosed first hp
      exact (hmem ref href).elim (hfirst ref hread).1 (hfirst ref hread).2
    intro cell hcell
    rcases List.mem_cons.1 hcell with rfl | hcell
    · exact hnot
    refine ih hrest (fun other hp => ?_) cell hcell
    rcases hmem other hp with hother | hother
    · rcases List.mem_cons.1 hother with rfl | hother
      · exact absurd hp hnot
      · exact .inl hother
    · exact .inr hother

end Links

/-- The schedule has exactly the given cells, those placed in order and those stuck reading each
other. -/
structure Schedule.Places (links : Links) (cells : List Coord) (schedule : Schedule) : Prop where
  perm : schedule.cells.Perm cells
  inOrder : links.InOrder schedule.stuck schedule.order
  blocked : ∀ cell ∈ schedule.stuck, ∃ ref, links.Reads cell ref ∧ ref ∈ schedule.stuck

namespace Waiting

variable {links : Links} {waiting : Waiting} {cell : Coord}

/-- The cells wait for those of the waiting ones that they read. -/
structure Of (links : Links) (waiting : Waiting) : Prop where
  nodup : (waiting.map Prod.fst).Nodup
  mem_refs : ∀ entry ∈ waiting, ∀ ref,
    ref ∈ entry.2 ↔ links.Reads entry.1 ref ∧ ref ∈ waiting.map Prod.fst

theorem map_fst_place (cell : Coord) (waiting : Waiting) :
    (place cell waiting).map Prod.fst = (waiting.map Prod.fst).filter (· != cell) := by
  rw [place, List.map_map, List.filter_map]
  rfl

theorem Of.place (h : waiting.Of links) (cell : Coord) : (place cell waiting).Of links := by
  refine ⟨?_, fun entry hentry ref => ?_⟩
  · rw [map_fst_place]
    exact h.nodup.filter _
  · obtain ⟨old, hold, rfl⟩ := List.mem_map.1 hentry
    have hold := (List.mem_filter.1 hold).1
    rw [map_fst_place, List.mem_filter, List.mem_filter, h.mem_refs old hold, and_assoc]

/-- A ready cell waits, and reads none of the waiting cells. -/
theorem Of.ready (h : waiting.Of links) (hready : waiting.ready? = some cell) :
    cell ∈ waiting.map Prod.fst ∧ ∀ ref, links.Reads cell ref → ref ∉ waiting.map Prod.fst := by
  obtain ⟨entry, hentry, rfl⟩ := Option.map_eq_some_iff.1 hready
  have hmem := List.mem_of_find?_eq_some hentry
  have hfound : entry.2.isEmpty :=
    List.find?_some (p := fun entry : Coord × List Coord => entry.2.isEmpty) hentry
  have hempty : entry.2 = [] := List.isEmpty_iff.1 hfound
  refine ⟨List.mem_map_of_mem hmem, fun ref hread hwaits => ?_⟩
  have := (h.mem_refs entry hmem ref).2 ⟨hread, hwaits⟩
  rw [hempty] at this
  exact List.not_mem_nil this

/-- If no cell is ready, each waiting one reads another. -/
theorem Of.blocked (h : waiting.Of links) (hready : waiting.ready? = none) :
    ∀ cell ∈ waiting.map Prod.fst, ∃ ref, links.Reads cell ref ∧ ref ∈ waiting.map Prod.fst := by
  intro cell hcell
  obtain ⟨entry, hentry, rfl⟩ := List.mem_map.1 hcell
  have hsome := List.find?_eq_none.1 (Option.map_eq_none_iff.1 hready) entry hentry
  obtain ⟨ref, href⟩ := List.exists_mem_of_ne_nil entry.2 fun hnil => hsome (by rw [hnil]; rfl)
  exact ⟨ref, (h.mem_refs entry hentry ref).1 href⟩

/-- By induction on the cells placed: a ready cell reads none of those that are left, and the cells
that are left at the end read each other. -/
theorem Of.places_schedule (h : waiting.Of links) :
    (schedule waiting).Places links (waiting.map Prod.fst) := by
  induction waiting using Waiting.schedule.induct with
  | case1 waiting hready =>
    rw [schedule]
    split
    · exact ⟨.refl _, trivial, h.blocked hready⟩
    · next hcell => cases hready.symm.trans hcell
  | case2 waiting cell hready ih =>
    obtain ⟨hcell, hreads⟩ := h.ready hready
    obtain ⟨hperm, hinOrder, hblocked⟩ := ih (h.place cell)
    have hall : (cell :: (schedule (Waiting.place cell waiting)).cells).Perm
        (waiting.map Prod.fst) := by
      refine .trans (.cons _ hperm) ?_
      rw [map_fst_place, ← h.nodup.erase_eq_filter]
      exact (List.perm_cons_erase hcell).symm
    rw [schedule]
    split
    · next hnone => cases hready.symm.trans hnone
    · next other hother =>
      cases hready.symm.trans hother
      refine ⟨hall, ⟨fun ref hread => ?_, hinOrder⟩, hblocked⟩
      have hleft : ref ∉ cell :: (schedule (Waiting.place cell waiting)).cells :=
        fun hmem => hreads ref hread (hall.mem_iff.1 hmem)
      rw [Schedule.cells, ← List.cons_append, List.mem_append, not_or] at hleft
      exact hleft

end Waiting

/-! ## Schedules of cells -/

namespace Schedule.Places

variable {links : Links} {cells : List Coord} {schedule : Schedule} {cell : Coord}

theorem mem_cells (h : schedule.Places links cells) :
    cell ∈ cells ↔ cell ∈ schedule.order ∨ cell ∈ schedule.stuck := by
  rw [← h.perm.mem_iff, Schedule.cells, List.mem_append]

/-- Stuck cells are below a cycle. -/
theorem belowCycle_of_mem_stuck (h : schedule.Places links cells) (hcell : cell ∈ schedule.stuck) :
    links.BelowCycle cell :=
  Links.belowCycle_of_closed h.blocked hcell

/-- Scheduled cells that each read another one of them are stuck. -/
theorem mem_stuck_of_closed (h : schedule.Places links cells) {p : Coord → Prop}
    (hcells : ∀ cell, p cell → cell ∈ cells)
    (hclosed : ∀ cell, p cell → ∃ ref, links.Reads cell ref ∧ p ref) (hcell : p cell) :
    cell ∈ schedule.stuck := by
  have hmem (other : Coord) (hother : p other) := h.mem_cells.1 (hcells other hother)
  refine (hmem cell hcell).resolve_left fun horder => ?_
  exact h.inOrder.not_mem_of_closed hmem hclosed cell horder hcell

end Schedule.Places

namespace Links

variable {links : Links} {cells roots : List Coord} {cell : Coord}

/-- The cells of a set, each with those of them that it reads. -/
def waiting (links : Links) (cells : List Coord) : Waiting :=
  (Coord.ascending cells).map fun cell =>
    (cell, (links.reads cell).filter (Coord.ascending cells).contains)

theorem map_fst_waiting (links : Links) (cells : List Coord) :
    (links.waiting cells).map Prod.fst = Coord.ascending cells := by
  rw [waiting, List.map_map]
  exact List.map_id _

theorem of_waiting (links : Links) (cells : List Coord) : (links.waiting cells).Of links := by
  refine ⟨?_, fun entry hentry ref => ?_⟩
  · rw [map_fst_waiting]
    exact (Coord.ascends_ascending cells).nodup
  · rw [map_fst_waiting]
    obtain ⟨cell, -, rfl⟩ := List.mem_map.1 hentry
    rw [List.mem_filter, List.contains_iff_mem, Reads]

theorem places_schedule (links : Links) (cells : List Coord) :
    (links.schedule cells).Places links (Coord.ascending cells) := by
  have hplaces := (links.of_waiting cells).places_schedule
  rwa [map_fst_waiting] at hplaces

/-- The schedule lists every cell once. -/
theorem nodup_schedule (links : Links) (cells : List Coord) : (links.schedule cells).cells.Nodup :=
  (links.places_schedule cells).perm.nodup_iff.2 (Coord.ascends_ascending cells).nodup

theorem mem_cells_schedule : cell ∈ (links.schedule cells).cells ↔ cell ∈ cells := by
  rw [(links.places_schedule cells).perm.mem_iff, Coord.mem_ascending]

/-- Where all cells that read something are scheduled, those below a cycle are stuck. -/
theorem mem_stuck_schedule (hcells : ∀ cell, links.reads cell ≠ [] → cell ∈ cells) :
    cell ∈ (links.schedule cells).stuck ↔ links.BelowCycle cell := by
  have hplaces := links.places_schedule cells
  refine ⟨hplaces.belowCycle_of_mem_stuck, fun hbelow => ?_⟩
  refine hplaces.mem_stuck_of_closed (p := links.BelowCycle) (fun other hother => ?_)
    (fun _ hother => hother.exists_reads) hbelow
  obtain ⟨ref, hread, -⟩ := hother.exists_reads
  exact Coord.mem_ascending.2 (hcells other (List.ne_nil_of_mem hread))

/-- The cells scheduled after a change of the roots are those with a path to a root. -/
theorem mem_cells_scheduleFrom (hlinks : links.Ordered) :
    cell ∈ (links.scheduleFrom roots).cells ↔
      ∃ root ∈ roots, ReflTransGen links.Reads cell root := by
  rw [scheduleFrom, mem_cells_schedule, List.mem_append, mem_downstream hlinks]
  constructor
  · rintro (hroot | ⟨root, hroot, hpath⟩)
    · exact ⟨cell, hroot, .refl⟩
    · exact ⟨root, hroot, hpath.to_reflTransGen⟩
  · rintro ⟨root, hroot, hpath⟩
    rcases reflTransGen_iff_eq_or_transGen.1 hpath with rfl | hpath
    · exact .inl hroot
    · exact .inr ⟨root, hroot, hpath⟩

/-- Scheduled cells on a cycle are stuck, as the whole cycle depends on the roots. -/
theorem mem_stuck_scheduleFrom_of_circular (hlinks : links.Ordered)
    (hcell : cell ∈ (links.scheduleFrom roots).cells) (hcycle : links.Circular cell) :
    cell ∈ (links.scheduleFrom roots).stuck := by
  obtain ⟨root, hroot, hpath⟩ := (mem_cells_scheduleFrom hlinks).1 hcell
  have hplaces := links.places_schedule (roots ++ links.downstream roots)
  let onSameCycle (other : Coord) : Prop :=
    ReflTransGen links.Reads cell other ∧ ReflTransGen links.Reads other cell
  refine hplaces.mem_stuck_of_closed (p := onSameCycle) (fun other hother => ?_)
    (fun other hother => ?_) ⟨.refl, .refl⟩
  · rw [← hplaces.perm.mem_iff]
    exact (mem_cells_scheduleFrom hlinks).2 ⟨root, hroot, hother.2.trans hpath⟩
  · have hback : links.Circular other :=
      (TransGen.trans_right hother.2 hcycle).trans_left hother.1
    obtain ⟨ref, hread, hrest⟩ := hback.exists_reads
    exact ⟨ref, hread, hother.1.tail hread, hrest.trans hother.2⟩

end Links

end Spreadsheet

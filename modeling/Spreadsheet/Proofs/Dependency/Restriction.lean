import Spreadsheet.Proofs.Dependency.Order

/-!
# What a schedule makes of some of the cells

A schedule of some cells looks at no more of the record than what these read of each other
(`Links.restrict`):

* `Places.mem_stuck_iff`: the stuck cells are those below a cycle that lies among the scheduled
  cells;
* `ascends_stuck_schedule`: they come in ascending order;
* `Places.mem_before_of_reads`: what a placed cell reads of the scheduled cells is placed before it.
-/

namespace Spreadsheet

namespace Links

/-- What some cells read of each other. -/
def restrict (links : Links) (cells : List Coord) : Links :=
  ⟨cells.map fun cell => (cell, (links.reads cell).filter cells.contains)⟩

variable {links : Links} {cells : List Coord} {cell ref : Coord}

theorem lookup_map_pair {α : Type} (f : Coord → α) (cells : List Coord) (cell : Coord) :
    (cells.map fun cell => (cell, f cell)).lookup cell =
      if cell ∈ cells then some (f cell) else none := by
  induction cells with
  | nil => rfl
  | cons first rest ih =>
    rw [List.map_cons, List.lookup_cons]
    by_cases h : cell = first
    · simp [h]
    · simp [h, beq_eq_false_iff_ne.2 h, ih]

/-- Reads from one of the cells to another are what the restricted record has. -/
theorem reads_restrict : (links.restrict cells).Reads cell ref ↔
    links.Reads cell ref ∧ cell ∈ cells ∧ ref ∈ cells := by
  rw [Reads, Reads, reads, restrict, lookup_map_pair]
  by_cases h : cell ∈ cells
  · simp [h]
  · simp [h]

theorem InOrder.of_append {last before after : List Coord}
    (h : links.InOrder last (before ++ after)) : links.InOrder last after := by
  induction before with
  | nil => exact h
  | cons first before ih => exact ih h.2

end Links

namespace Schedule.Places

variable {links : Links} {cells : List Coord} {schedule : Schedule} {cell ref : Coord}

/-- The stuck cells are those below a cycle of scheduled cells. -/
theorem mem_stuck_iff (h : schedule.Places links cells) :
    cell ∈ schedule.stuck ↔ (links.restrict schedule.cells).BelowCycle cell := by
  have hstuck {other : Coord} (hother : other ∈ schedule.stuck) : other ∈ schedule.cells :=
    List.mem_append_right _ hother
  constructor
  · refine Links.belowCycle_of_closed (p := (· ∈ schedule.stuck)) fun other hother => ?_
    obtain ⟨ref, hread, href⟩ := h.blocked other hother
    exact ⟨ref, Links.reads_restrict.2 ⟨hread, hstuck hother, hstuck href⟩, href⟩
  · refine h.mem_stuck_of_closed (p := (links.restrict schedule.cells).BelowCycle)
      (fun other hother => ?_) fun other hother => ?_
    · obtain ⟨ref, hread, -⟩ := hother.exists_reads
      exact h.perm.mem_iff.1 (Links.reads_restrict.1 hread).2.1
    · obtain ⟨ref, hread, href⟩ := hother.exists_reads
      exact ⟨ref, (Links.reads_restrict.1 hread).1, href⟩

/-- What a placed cell reads of the scheduled cells is placed before it. -/
theorem mem_before_of_reads (h : schedule.Places links cells) {before after : List Coord}
    (horder : schedule.order = before ++ cell :: after) (hread : links.Reads cell ref)
    (href : ref ∈ schedule.cells) : ref ∈ before := by
  have hinOrder := h.inOrder
  rw [horder] at hinOrder
  obtain ⟨hlater, hstuck⟩ := hinOrder.of_append.1 ref hread
  rw [Schedule.cells, horder, List.mem_append, List.mem_append] at href
  exact (href.resolve_right hstuck).resolve_right hlater

end Schedule.Places

namespace Waiting

/-- Cells that are left over keep their order. -/
theorem stuck_sublist (waiting : Waiting) :
    (schedule waiting).stuck.Sublist (waiting.map Prod.fst) := by
  induction waiting using Waiting.schedule.induct with
  | case1 waiting hready =>
    rw [schedule]
    split
    · exact .refl _
    · next hcell => cases hready.symm.trans hcell
  | case2 waiting cell hready ih =>
    rw [schedule]
    split
    · next hnone => cases hready.symm.trans hnone
    · next other hother =>
      cases hready.symm.trans hother
      rw [map_fst_place] at ih
      exact ih.trans List.filter_sublist

end Waiting

/-- The stuck cells of a schedule come in ascending order. -/
theorem Links.ascends_stuck_schedule (links : Links) (cells : List Coord) :
    Coord.Ascends (links.schedule cells).stuck := by
  have hsublist := Waiting.stuck_sublist (links.waiting cells)
  rw [map_fst_waiting] at hsublist
  exact (Coord.ascends_ascending cells).sublist hsublist

end Spreadsheet

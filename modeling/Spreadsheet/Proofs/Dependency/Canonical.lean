import Spreadsheet.Proofs.Dependency.Restriction

/-!
# The canonical order

`Schedule.Canonical` says which schedule of a set of cells is the one to follow. Step by step it
places the first cell, by place on the sheet, of those that read no cell of the set but placed ones
(`Links.Ready`), and it leaves over the cells that are below a cycle of cells of the set.

* `Canonical.ext`: there is at most one such schedule of a set of cells;
* `canonical_schedule`: the schedule of the cells is canonical;
* `canonical_scheduleFrom`: so is that of some roots with all cells that depend on them.
-/

namespace Spreadsheet

open Relation

namespace Links

/-- One of the cells reads another one of them. -/
def ReadsAmong (links : Links) (p : Coord → Prop) (cell ref : Coord) : Prop :=
  links.Reads cell ref ∧ p cell ∧ p ref

/-- The cell is on a cycle of some of the cells, or below one by reads of the cells. -/
def BelowCycleAmong (links : Links) (p : Coord → Prop) (cell : Coord) : Prop :=
  ∃ last, ReflTransGen (links.ReadsAmong p) cell last ∧ TransGen (links.ReadsAmong p) last last

/-- The cell is one of the cells, and of these it reads no more than the placed ones. -/
def Ready (links : Links) (p : Coord → Prop) (placed : List Coord) (cell : Coord) : Prop :=
  p cell ∧ ∀ ref, p ref → links.Reads cell ref → ref ∈ placed

end Links

/-- The schedule has each of the cells once. At every step it places the first one that is ready,
and the cells that are stuck are those below a cycle of the cells. -/
structure Schedule.Canonical (links : Links) (p : Coord → Prop) (s : Schedule) : Prop where
  nodup : s.cells.Nodup
  mem_cells : ∀ cell, cell ∈ s.cells ↔ p cell
  ready : ∀ before cell after, s.order = before ++ cell :: after → links.Ready p before cell
  first : ∀ before cell after, s.order = before ++ cell :: after →
    ∀ other, links.Ready p before other → other ∉ before → other = cell ∨ cell.before other
  mem_stuck : ∀ cell, cell ∈ s.stuck ↔ links.BelowCycleAmong p cell
  ascends : Coord.Ascends s.stuck

variable {links : Links} {p : Coord → Prop} {s s' : Schedule} {cell : Coord}

/-! ## There is one canonical schedule -/

/-- A cell below a cycle of the cells reads one that is, too. -/
theorem Links.BelowCycleAmong.exists_readsAmong (h : links.BelowCycleAmong p cell) :
    ∃ ref, links.ReadsAmong p cell ref ∧ links.BelowCycleAmong p ref := by
  obtain ⟨last, hpath, hcycle⟩ := h
  rcases hpath.cases_head with rfl | ⟨ref, hread, hrest⟩
  · obtain ⟨ref, hread, hback⟩ := TransGen.head'_iff.1 hcycle
    exact ⟨ref, hread, cell, hback, hcycle⟩
  · exact ⟨ref, hread, last, hrest, hcycle⟩

namespace Schedule.Canonical

variable {before after : List Coord}

theorem disjoint (h : s.Canonical links p) (hcell : cell ∈ s.order) : cell ∉ s.stuck :=
  fun hstuck => (List.nodup_append.1 h.nodup).2.2 cell hcell cell hstuck rfl

/-- As long as a cell is ready, the order goes on. -/
theorem order_ne_of_ready (h : s.Canonical links p) (hready : links.Ready p before cell)
    (hcell : cell ∉ before) : s.order ≠ before := by
  rintro rfl
  obtain ⟨hp, hreads⟩ := hready
  have hstuck : cell ∈ s.stuck :=
    (List.mem_append.1 ((h.mem_cells cell).2 hp)).resolve_left hcell
  obtain ⟨ref, ⟨hread, -, href⟩, hbelow⟩ := ((h.mem_stuck cell).1 hstuck).exists_readsAmong
  exact h.disjoint (hreads ref href hread) ((h.mem_stuck ref).2 hbelow)

theorem not_mem_before (h : s.Canonical links p) (horder : s.order = before ++ cell :: after) :
    cell ∉ before := by
  have hnodup := (List.nodup_append.1 h.nodup).1
  rw [horder] at hnodup
  exact fun hcell => (List.nodup_append.1 hnodup).2.2 cell hcell cell List.mem_cons_self rfl

/-- A ready cell that does not come after the next one is the next one. -/
theorem eq_next (h : s.Canonical links p) {next : Coord}
    (horder : s.order = before ++ next :: after) (hready : links.Ready p before cell)
    (hnew : cell ∉ before)
    (hleast : next = cell ∨ cell.before next) : cell = next := by
  rcases hleast with rfl | hlater
  · rfl
  rcases h.first before next after horder cell hready hnew with rfl | hearlier
  · rfl
  have hcycle := Coord.before_trans hlater hearlier
  rw [Coord.before_irrefl] at hcycle
  contradiction

/-- After the same cells two canonical schedules go on with the same one. -/
theorem exists_order_eq (h : s.Canonical links p) (h' : s'.Canonical links p)
    (horder : s.order = before ++ cell :: after) {rest : List Coord}
    (horder' : s'.order = before ++ rest) : ∃ after', rest = cell :: after' := by
  have hready := h.ready before cell after horder
  have hnew := h.not_mem_before horder
  cases rest with
  | nil => exact absurd (by simpa using horder') (h'.order_ne_of_ready hready hnew)
  | cons cell' after' =>
    have hleast := h.first before cell after horder cell'
      (h'.ready before cell' after' horder') (h'.not_mem_before horder')
    rw [h'.eq_next horder' hready hnew hleast]
    exact ⟨after', rfl⟩

/-- By induction on what is left of the one order: the other one goes on with the same cell. -/
theorem order_eq (h : s.Canonical links p) (h' : s'.Canonical links p) {rest rest' : List Coord}
    (horder : s.order = before ++ rest) (horder' : s'.order = before ++ rest') : rest = rest' := by
  induction rest generalizing before rest' with
  | nil =>
    cases rest' with
    | nil => rfl
    | cons cell after =>
      obtain ⟨_, hnil⟩ := h'.exists_order_eq h horder' horder
      cases hnil
  | cons cell after ih =>
    obtain ⟨after', rfl⟩ := h.exists_order_eq h' horder horder'
    rw [List.append_cons] at horder horder'
    rw [ih horder horder']

/-- A set of cells has one canonical schedule. -/
theorem ext (h : s.Canonical links p) (h' : s'.Canonical links p) : s = s' := by
  have horder : s.order = s'.order :=
    h.order_eq h' (List.nil_append s.order).symm (List.nil_append s'.order).symm
  have hstuck : s.stuck = s'.stuck :=
    h.ascends.ext h'.ascends fun cell => by rw [h.mem_stuck, h'.mem_stuck]
  obtain ⟨order, stuck⟩ := s
  exact congrArg₂ Schedule.mk horder hstuck

/-- It does not matter how the set of cells is given. -/
theorem congr {q : Coord → Prop} (h : s.Canonical links p) (hpq : ∀ cell, p cell ↔ q cell) :
    s.Canonical links q :=
  funext (fun cell => propext (hpq cell)) ▸ h

end Schedule.Canonical

/-! ## The schedule of some cells -/

namespace Waiting

variable {waiting : Waiting} {before after : List Coord}

/-- A cell that waits for nothing does not come before the ready one. -/
theorem Of.eq_or_before (h : waiting.Of links) (hascends : Coord.Ascends (waiting.map Prod.fst))
    (hready : waiting.ready? = some cell) {other : Coord} (hother : other ∈ waiting.map Prod.fst)
    (hreads : ∀ ref ∈ waiting.map Prod.fst, ¬ links.Reads other ref) :
    other = cell ∨ cell.before other := by
  obtain ⟨entry, hentry, rfl⟩ := Option.map_eq_some_iff.1 hready
  obtain ⟨found, hfound, rfl⟩ := List.mem_map.1 hother
  obtain ⟨-, front, rest, rfl, hfront⟩ := List.find?_eq_some_iff_append.1 hentry
  have hempty : found.2.isEmpty := by
    refine List.isEmpty_iff.2 (List.eq_nil_iff_forall_not_mem.2 fun ref href => ?_)
    obtain ⟨hread, hwaits⟩ := (h.mem_refs found hfound ref).1 href
    exact hreads ref hwaits hread
  rcases List.mem_append.1 hfound with hfound | hfound
  · simpa [hempty] using hfront found hfound
  · rcases List.mem_cons.1 hfound with rfl | hfound
    · exact .inl rfl
    · rw [List.map_append, List.map_cons] at hascends
      have hlater := (List.pairwise_cons.1 (List.pairwise_append.1 hascends).2.1).1
      exact .inr (hlater found.1 (List.mem_map_of_mem hfound))

/-- By induction on the cells placed: those that wait still ascend when one is placed. -/
theorem Of.first_schedule (h : waiting.Of links)
    (hascends : Coord.Ascends (waiting.map Prod.fst))
    (horder : (schedule waiting).order = before ++ cell :: after) {other : Coord}
    (hready : links.Ready (· ∈ waiting.map Prod.fst) before other) (hother : other ∉ before) :
    other = cell ∨ cell.before other := by
  induction waiting using Waiting.schedule.induct generalizing before with
  | case1 waiting hnone =>
    rw [schedule] at horder
    split at horder
    · simp at horder
    · next hsome => cases hnone.symm.trans hsome
  | case2 waiting placed hplaced ih =>
    rw [schedule] at horder
    split at horder
    · next hnone => cases hplaced.symm.trans hnone
    next other' hother' =>
    cases hplaced.symm.trans hother'
    cases before with
    | nil =>
      obtain ⟨rfl, -⟩ := List.cons_eq_cons.1 horder
      exact h.eq_or_before hascends hplaced hready.1 fun ref href hread =>
        List.not_mem_nil (hready.2 ref href hread)
    | cons first before =>
      obtain ⟨rfl, hrest⟩ := List.cons_eq_cons.1 horder
      rw [List.mem_cons, not_or] at hother
      have hleft {ref : Coord} : ref ∈ (Waiting.place placed waiting).map Prod.fst ↔
          ref ∈ waiting.map Prod.fst ∧ ref ≠ placed := by
        rw [map_fst_place, List.mem_filter, bne_iff_ne]
      refine ih (h.place placed) ?_ hrest ⟨hleft.2 ⟨hready.1, hother.1⟩, ?_⟩ hother.2
      · rw [map_fst_place]
        exact hascends.filter _
      · intro ref href hread
        obtain ⟨href, hne⟩ := hleft.1 href
        exact (List.mem_cons.1 (hready.2 ref href hread)).resolve_left hne

end Waiting

namespace Links

theorem readsAmong_restrict (cells : List Coord) :
    (links.restrict cells).Reads = links.ReadsAmong (· ∈ cells) :=
  funext fun _ => funext fun _ => propext reads_restrict

/-- The schedule of the cells is canonical. -/
theorem canonical_schedule (links : Links) (cells : List Coord) :
    (links.schedule cells).Canonical links (· ∈ cells) := by
  have hplaces := links.places_schedule cells
  have hmem (cell : Coord) : cell ∈ (links.schedule cells).cells ↔ cell ∈ cells :=
    mem_cells_schedule
  refine ⟨links.nodup_schedule cells, hmem, fun before cell after horder => ?_,
    fun before cell after horder other hready hother => ?_, fun cell => ?_,
    links.ascends_stuck_schedule cells⟩
  · have hcell : cell ∈ (links.schedule cells).order := by simp [horder]
    refine ⟨(hmem cell).1 (List.mem_append_left _ hcell), fun ref href hread => ?_⟩
    exact hplaces.mem_before_of_reads horder hread ((hmem ref).2 href)
  · have hascends : Coord.Ascends ((links.waiting cells).map Prod.fst) :=
      links.map_fst_waiting cells ▸ Coord.ascends_ascending cells
    refine (links.of_waiting cells).first_schedule hascends horder ?_ hother
    simpa [Ready, map_fst_waiting] using hready
  · rw [hplaces.mem_stuck_iff, BelowCycle, BelowCycleAmong]
    simp only [Circular, readsAmong_restrict, hmem]

/-- The schedule of some roots with all cells that depend on them is canonical. -/
theorem canonical_scheduleFrom (hlinks : links.Ordered) (roots : List Coord) :
    (links.scheduleFrom roots).Canonical links
      fun cell => cell ∈ roots ∨ ∃ root ∈ roots, TransGen links.Reads cell root :=
  (links.canonical_schedule (roots ++ links.downstream roots)).congr fun cell => by
    rw [List.mem_append, mem_downstream hlinks]

end Links

end Spreadsheet

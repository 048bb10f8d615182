import Mathlib.Data.List.Nodup
import Mathlib.Logic.Function.Basic
import Spreadsheet.Proofs.Dependency.Canonical

/-!
# Counting down

A schedule can be made without a look at all waiting cells in each step. A `Tally` counts for each
cell how many of the cells that it reads are still to be placed, and lists the cells for which there
are none of them left. One step places the first of these and counts its readers down
(`Tally.step?`). `Tally.Counts` is what a step keeps; the steps come to an end, and what they have
placed by then is the order of the schedule (`Tally.finds_schedule`). So the schedules of a record
that was made by any changes are canonical, and found by counting down (`Links.schedule_spec`).
-/

namespace Spreadsheet

open Relation

/-- How far the cells of a schedule are placed. -/
structure Tally where
  /-- How many of the cells that a cell reads are still to be placed. -/
  left : Coord → Int
  /-- The cells to be placed that read none of those. -/
  ready : List Coord
  /-- The cells placed, the first of them first. -/
  order : List Coord

namespace Tally

/-- None of the cells is placed. -/
def start (links : Links) (cells : List Coord) : Tally :=
  let left cell : Int := ((links.reads cell).filter cells.contains).length
  ⟨left, (Coord.ascending cells).filter fun cell => left cell = 0, []⟩

/-- A cell that a reader reads is placed, which is of no interest unless the reader is one of the
cells. -/
def countDown (cells : List Coord) (t : Tally) (reader : Coord) : Tally :=
  if reader ∈ cells then
    let left := t.left reader - 1
    { t with
      left := Function.update t.left reader left
      ready := if left = 0 then t.ready ++ [reader] else t.ready }
  else t

/-- Places the first of the ready cells and counts its readers down. -/
def step? (links : Links) (cells : List Coord) (t : Tally) : Option Tally :=
  match Coord.ascending t.ready with
  | [] => none
  | cell :: _ => some ((links.readers cell).foldl (countDown cells)
      { t with ready := t.ready.erase cell, order := t.order ++ [cell] })

/-- Step by step all cells are placed that can be, and this makes the schedule. -/
def Finds (links : Links) (cells : List Coord) (s : Schedule) : Prop :=
  ∃ last, ReflTransGen (fun t u => step? links cells t = some u) (start links cells) last ∧
    step? links cells last = none ∧
    s = ⟨last.order, (Coord.ascending cells).filter (!last.order.contains ·)⟩

variable {links : Links} {cells readers : List Coord} {t : Tally} {cell reader : Coord}

/-! ## Counting readers down -/

theorem order_foldl_countDown (t : Tally) :
    (readers.foldl (countDown cells) t).order = t.order := by
  induction readers generalizing t with
  | nil => rfl
  | cons first rest ih =>
    rw [List.foldl_cons, ih, countDown]
    split <;> rfl

/-- Each reader is counted down once. -/
theorem left_foldl_countDown (hnodup : readers.Nodup) (t : Tally) (cell : Coord) :
    (readers.foldl (countDown cells) t).left cell =
      t.left cell - if cell ∈ readers ∧ cell ∈ cells then 1 else 0 := by
  induction readers generalizing t with
  | nil => simp
  | cons first rest ih =>
    obtain ⟨hfirst, hrest⟩ := List.nodup_cons.1 hnodup
    rw [List.foldl_cons, ih hrest, countDown]
    by_cases hcell : cell = first
    · subst hcell
      by_cases hcells : cell ∈ cells <;> simp [hfirst, hcells]
    · by_cases hcells : first ∈ cells <;> simp [hcell, hcells]

/-- The readers that are ready now are those for which one cell was left. -/
theorem mem_ready_foldl_countDown (hnodup : readers.Nodup) (t : Tally) (cell : Coord) :
    cell ∈ (readers.foldl (countDown cells) t).ready ↔
      cell ∈ t.ready ∨ cell ∈ readers ∧ cell ∈ cells ∧ t.left cell = 1 := by
  induction readers generalizing t with
  | nil => simp
  | cons first rest ih =>
    obtain ⟨hfirst, hrest⟩ := List.nodup_cons.1 hnodup
    rw [List.foldl_cons, ih hrest, countDown]
    have hone : t.left first - 1 = 0 ↔ t.left first = 1 := by omega
    by_cases hcells : first ∈ cells
    · by_cases hcell : cell = first
      · subst hcell
        by_cases hleft : t.left cell = 1 <;> simp [hfirst, hcells, hone, hleft]
      · by_cases hleft : t.left first = 1 <;> simp [hcell, hcells, hone, hleft]
    · by_cases hcell : cell = first
      · subst hcell
        simp [hfirst, hcells]
      · simp [hcell, hcells]

theorem nodup_ready_foldl_countDown (hnodup : readers.Nodup) (hready : t.ready.Nodup)
    (hnew : ∀ reader ∈ readers, t.left reader = 1 → reader ∉ t.ready) :
    (readers.foldl (countDown cells) t).ready.Nodup := by
  induction readers generalizing t with
  | nil => exact hready
  | cons first rest ih =>
    obtain ⟨hfirst, hrest⟩ := List.nodup_cons.1 hnodup
    obtain ⟨hnewFirst, hnewRest⟩ := List.forall_mem_cons.1 hnew
    have hne {reader : Coord} (hreader : reader ∈ rest) : reader ≠ first :=
      fun heq => hfirst (heq ▸ hreader)
    rw [List.foldl_cons, countDown]
    split
    · refine ih hrest ?_ fun reader hreader hleft => ?_
      · dsimp only
        split
        · next hzero =>
          exact List.nodup_append_comm.1 (List.nodup_cons.2 ⟨hnewFirst (by omega), hready⟩)
        · exact hready
      · dsimp only at hleft
        rw [Function.update_of_ne (hne hreader)] at hleft
        have hnot := hnewRest reader hreader hleft
        dsimp only
        split
        · simp [hnot, hne hreader]
        · exact hnot
    · exact ih hrest hready hnewRest

/-! ## What a step keeps -/

/-- The cells placed are the first ones of the schedule, the numbers are those of the cells still to
be placed, and the cells are ready for which the number is zero. -/
structure Counts (links : Links) (cells : List Coord) (t : Tally) : Prop where
  begins : ∃ rest, (links.schedule cells).order = t.order ++ rest
  left : ∀ cell ∈ cells, t.left cell =
    ((links.reads cell).filter fun ref => cells.contains ref && !t.order.contains ref).length
  mem_ready : ∀ cell, cell ∈ t.ready ↔ cell ∈ cells ∧ cell ∉ t.order ∧ t.left cell = 0
  nodup : t.ready.Nodup

theorem counts_start (links : Links) (cells : List Coord) : Counts links cells (start links cells)
    where
  begins := ⟨_, rfl⟩
  left cell _ := by
    simp only [start, List.contains_nil, Bool.not_false, Bool.and_true]
  mem_ready cell := by simp [start]
  nodup := (Coord.ascends_ascending cells).nodup.filter _

namespace Counts

/-- A ready cell reads none of the cells that are still to be placed. -/
theorem left_eq_zero_iff (h : t.Counts links cells) (hcell : cell ∈ cells) :
    t.left cell = 0 ↔ links.Ready (· ∈ cells) t.order cell := by
  rw [h.left cell hcell, Int.natCast_eq_zero, List.length_eq_zero_iff, List.filter_eq_nil_iff]
  simp only [Bool.and_eq_true, List.contains_iff_mem, Bool.not_eq_true', Links.Ready, hcell,
    true_and, Links.Reads, not_and, Bool.not_eq_false]
  exact forall_congr' fun ref => ⟨fun h hcells hread => by simpa using h hread hcells,
    fun h hread hcells => by simpa using h hcells hread⟩

theorem mem_ready_iff (h : t.Counts links cells) :
    cell ∈ t.ready ↔ links.Ready (· ∈ cells) t.order cell ∧ cell ∉ t.order := by
  rw [h.mem_ready, and_comm (a := cell ∉ t.order), ← and_assoc]
  refine and_congr_left fun _ => ⟨fun ⟨hcell, hleft⟩ => (h.left_eq_zero_iff hcell).1 hleft,
    fun hready => ⟨hready.1, (h.left_eq_zero_iff hready.1).2 hready⟩⟩

/-- What a placed cell reads of the cells is placed. -/
theorem mem_order_of_reads (h : t.Counts links cells) (hcell : cell ∈ t.order) {ref : Coord}
    (href : ref ∈ cells) (hread : links.Reads cell ref) : ref ∈ t.order := by
  obtain ⟨rest, horder⟩ := h.begins
  obtain ⟨before, after, hsplit⟩ := List.append_of_mem hcell
  rw [hsplit, List.append_assoc, List.cons_append] at horder
  have hready := (links.canonical_schedule cells).ready before cell (after ++ rest) horder
  rw [hsplit]
  exact List.mem_append_left _ (hready.2 ref href hread)

/-- The first of the ready cells is the one that comes next in the schedule. -/
theorem begins_append (h : t.Counts links cells) {ready : List Coord}
    (hfirst : Coord.ascending t.ready = cell :: ready) :
    ∃ rest, (links.schedule cells).order = t.order ++ [cell] ++ rest := by
  have hcanonical := links.canonical_schedule cells
  have hmem {other : Coord} : other ∈ cell :: ready ↔
      links.Ready (· ∈ cells) t.order other ∧ other ∉ t.order := by
    rw [← hfirst, Coord.mem_ascending, h.mem_ready_iff]
  obtain ⟨hready, hnew⟩ := hmem.1 List.mem_cons_self
  obtain ⟨rest, horder⟩ := h.begins
  cases rest with
  | nil => exact absurd (by simpa using horder) (hcanonical.order_ne_of_ready hready hnew)
  | cons next rest =>
    have hnext := hmem.2 ⟨hcanonical.ready t.order next rest horder,
      hcanonical.not_mem_before horder⟩
    have hleast := (List.pairwise_cons.1 (hfirst ▸ Coord.ascends_ascending t.ready)).1
    rw [hcanonical.eq_next horder hready hnew ((List.mem_cons.1 hnext).imp_right (hleast next))]
    exact ⟨rest, by rw [horder, List.append_assoc, List.singleton_append]⟩

/-- A cell that is placed is one fewer for each cell that reads it. -/
theorem left_append (h : t.Counts links cells) (hreads : (links.reads reader).Nodup)
    (hreader : reader ∈ cells) (hcell : cell ∈ cells) (hnew : cell ∉ t.order) :
    (((links.reads reader).filter fun ref =>
        cells.contains ref && !(t.order ++ [cell]).contains ref).length : Int) =
      t.left reader - if links.Reads reader cell then 1 else 0 := by
  have hsplit : ((links.reads reader).filter fun ref =>
      cells.contains ref && !(t.order ++ [cell]).contains ref) =
      ((links.reads reader).filter fun ref =>
        cells.contains ref && !t.order.contains ref).erase cell := by
    rw [(hreads.filter _).erase_eq_filter, List.filter_filter]
    refine List.filter_congr fun ref _ => ?_
    by_cases heq : ref = cell <;> simp [heq]
  have hmem : cell ∈ ((links.reads reader).filter fun ref =>
      cells.contains ref && !t.order.contains ref) ↔ links.Reads reader cell := by
    simp [hcell, hnew, Links.Reads]
  rw [hsplit, h.left reader hreader]
  by_cases hread : links.Reads reader cell
  · have hpos := List.length_pos_of_mem (hmem.2 hread)
    rw [List.length_erase_of_mem (hmem.2 hread), if_pos hread]
    omega
  · rw [List.erase_of_not_mem (mt hmem.1 hread), if_neg hread, Int.sub_zero]

/-- A step keeps the numbers right and places the next cell of the schedule. -/
theorem step (h : t.Counts links cells) (hlinks : links.Ordered)
    (hreads : ∀ cell, (links.reads cell).Nodup) {u : Tally} (hstep : step? links cells t = some u) :
    u.Counts links cells ∧ ∃ cell, u.order = t.order ++ [cell] := by
  rw [step?] at hstep
  split at hstep
  · cases hstep
  next cell rest hfirst =>
  cases hstep
  have hplaced : cell ∈ t.ready := by
    rw [← Coord.mem_ascending, hfirst]
    exact List.mem_cons_self
  obtain ⟨hcell, hnew, hzero⟩ := (h.mem_ready cell).1 hplaced
  have hnodup : (links.readers cell).Nodup :=
    hlinks.ascends.nodup.sublist (List.filter_sublist.map Prod.fst)
  have hreader {reader : Coord} : reader ∈ links.readers cell ↔ links.Reads reader cell :=
    hlinks.mem_readers
  -- A reader of the cell still has to wait for it.
  have hwaits {reader : Coord} (hcells : reader ∈ cells) (hread : links.Reads reader cell) :
      0 < t.left reader := by
    rw [h.left reader hcells]
    refine Int.natCast_pos.2 (List.length_pos_of_mem (List.mem_filter.2 ⟨hread, ?_⟩))
    simp [hcell, hnew]
  refine ⟨⟨?_, fun reader hcells => ?_, fun reader => ?_, ?_⟩, cell, order_foldl_countDown _⟩
  · rw [order_foldl_countDown]
    exact h.begins_append hfirst
  · rw [order_foldl_countDown, left_foldl_countDown hnodup,
      h.left_append (hreads reader) hcells hcell hnew]
    simp [hreader, hcells]
  · rw [mem_ready_foldl_countDown hnodup, order_foldl_countDown, left_foldl_countDown hnodup]
    simp only [h.nodup.mem_erase_iff, h.mem_ready, hreader, List.mem_append, List.mem_singleton,
      not_or]
    constructor
    · rintro (⟨hne, hcells, hnew, hleft⟩ | ⟨hread, hcells, hleft⟩)
      · have hnot : ¬ links.Reads reader cell := fun hread => by
          have hpos := hwaits hcells hread
          omega
        simp [hne, hcells, hnew, hleft, hnot]
      · refine ⟨hcells, ⟨fun hplaced => ?_, fun heq => ?_⟩, by simp [hread, hcells, hleft]⟩
        · exact hnew (h.mem_order_of_reads hplaced hcell hread)
        · rw [heq] at hleft
          omega
    · rintro ⟨hcells, ⟨hnew, hne⟩, hleft⟩
      by_cases hread : links.Reads reader cell
      · rw [if_pos ⟨hread, hcells⟩] at hleft
        exact .inr ⟨hread, hcells, by omega⟩
      · rw [if_neg (fun hand => hread hand.1), Int.sub_zero] at hleft
        exact .inl ⟨hne, hcells, hnew, hleft⟩
  · refine nodup_ready_foldl_countDown hnodup (h.nodup.erase cell) fun reader _ hleft hmem => ?_
    have hzero := ((h.mem_ready reader).1 (List.mem_of_mem_erase hmem)).2.2
    dsimp only at hleft
    omega

/-- Where no step is left the whole schedule is placed. -/
theorem order_eq (h : t.Counts links cells) (hend : step? links cells t = none) :
    t.order = (links.schedule cells).order := by
  rw [step?] at hend
  have hnone (cell : Coord) : cell ∉ t.ready := fun hcell => by
    rw [← Coord.mem_ascending] at hcell
    split at hend
    · next hready =>
      rw [hready] at hcell
      cases hcell
    · cases hend
  have hcanonical := links.canonical_schedule cells
  obtain ⟨rest, horder⟩ := h.begins
  cases rest with
  | nil => simpa using horder.symm
  | cons next rest =>
    have hready := hcanonical.ready t.order next rest horder
    exact absurd (h.mem_ready_iff.2 ⟨hready, hcanonical.not_mem_before horder⟩) (hnone next)

/-- By recursion on the cells of the schedule that are still to be placed. -/
theorem exists_last {t : Tally} (h : t.Counts links cells) (hlinks : links.Ordered)
    (hreads : ∀ cell, (links.reads cell).Nodup) :
    ∃ last, ReflTransGen (fun t u => step? links cells t = some u) t last ∧
      step? links cells last = none ∧ last.Counts links cells := by
  cases hstep : step? links cells t with
  | none => exact ⟨t, .refl, hstep, h⟩
  | some u =>
    obtain ⟨hu, cell, horder⟩ := h.step hlinks hreads hstep
    obtain ⟨rest, hrest⟩ := hu.begins
    have hlength : (links.schedule cells).order.length = t.order.length + 1 + rest.length := by
      rw [hrest, horder, List.length_append, List.length_append, List.length_singleton]
    obtain ⟨last, hrun, hlast⟩ := exists_last hu hlinks hreads
    exact ⟨last, .head hstep hrun, hlast⟩
termination_by (links.schedule cells).order.length - t.order.length
decreasing_by
  rw [horder, List.length_append, List.length_singleton]
  omega

end Counts

/-- Counting down finds the schedule of the cells. -/
theorem finds_schedule (hlinks : links.Ordered) (hreads : ∀ cell, (links.reads cell).Nodup)
    (cells : List Coord) : Finds links cells (links.schedule cells) := by
  obtain ⟨last, hrun, hend, hcounts⟩ := (counts_start links cells).exists_last hlinks hreads
  have horder := hcounts.order_eq hend
  have hcanonical := links.canonical_schedule cells
  have hstuck : (links.schedule cells).stuck =
      (Coord.ascending cells).filter (!last.order.contains ·) := by
    refine hcanonical.ascends.ext ((Coord.ascends_ascending cells).filter _) fun cell => ?_
    have hmem := hcanonical.mem_cells cell
    rw [Schedule.cells, List.mem_append] at hmem
    simp only [List.mem_filter, Coord.mem_ascending, horder, ← hmem, List.contains_eq_mem,
      Bool.not_eq_true', decide_eq_false_iff_not]
    exact ⟨fun h => ⟨.inr h, fun h' => hcanonical.disjoint h' h⟩, fun h => h.1.resolve_left h.2⟩
  refine ⟨last, hrun, hend, ?_⟩
  rw [← hstuck, horder]

end Tally

/-- Whatever the record was made by, the schedule of any cells is the canonical one and found by
counting down, and so is that of any roots with all cells that depend on them. -/
theorem Links.schedule_spec (changes : List Links.Change) :
    let links := Links.ofChanges changes
    (∀ cells : List Coord, (links.schedule cells).Canonical links (· ∈ cells) ∧
      Tally.Finds links cells (links.schedule cells)) ∧
    ∀ roots : List Coord,
      (links.scheduleFrom roots).Canonical links
        (fun cell => cell ∈ roots ∨ ∃ root ∈ roots, TransGen links.Reads cell root) ∧
      Tally.Finds links (roots ++ links.downstream roots) (links.scheduleFrom roots) := by
  intro links
  have hlinks : links.Ordered := Links.ordered_ofChanges changes
  have hreads (cell : Coord) : (links.reads cell).Nodup :=
    (Links.ascends_reads_ofChanges changes cell).nodup
  exact ⟨fun cells => ⟨links.canonical_schedule cells, Tally.finds_schedule hlinks hreads cells⟩,
    fun roots => ⟨Links.canonical_scheduleFrom hlinks roots,
      Tally.finds_schedule hlinks hreads (roots ++ links.downstream roots)⟩⟩

end Spreadsheet

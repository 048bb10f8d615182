import Mathlib
import Spreadsheet.Proofs.Dependency.Order

/-!
# The depth of a change

How far a change of some cells reaches: `Links.depth` takes the cells that depend on the roots in
their order of evaluation and gives each of them one more than the deepest cell that it reads.

* `InOrder.depthAfter_le_iff`: in the end this holds of all cells, whatever is placed after them;
* `Depths.deepest_ofOrder`: it comes to the same to go through the order once and to make the
  readers of each cell one deeper than the cell, where they are not that deep yet;
* `depth_spec`: without cycles the depth is the length of a longest path that starts at a root.
-/

namespace Spreadsheet

open Relation

namespace Links

/-- Each of the cells is read by the next one. -/
def Path (links : Links) (cells : List Coord) : Prop :=
  cells.IsChain fun ref cell => links.Reads cell ref

/-- The depth of a cell, given those of the cells of an order of evaluation. -/
def depthAfter (links : Links) (order : List Coord) (cell : Coord) : Nat :=
  links.depthOver (links.depths order) cell

variable {links : Links} {known : List (Coord × Nat)} {order last roots : List Coord}
  {cell ref other : Coord} {below n : Nat}

/-! ## Depths over known depths -/

theorem depthOver_le_iff : links.depthOver known cell ≤ n ↔
    ∀ ref, links.Reads cell ref → ∀ below ∈ known.lookup ref, below + 1 ≤ n := by
  have hstart : (∀ ref, links.Reads cell ref → ∀ below ∈ known.lookup ref, below + 1 ≤ n) ↔
      0 ≤ n ∧ ∀ ref ∈ links.reads cell, ∀ below ∈ known.lookup ref, below + 1 ≤ n := by
    simp [Reads]
  rw [hstart, depthOver]
  generalize links.reads cell = refs
  generalize 0 = start
  induction refs generalizing start with
  | nil => simp
  | cons first rest ih =>
    rw [List.foldl_cons, List.forall_mem_cons, ← and_assoc]
    refine (ih _).trans (and_congr_left fun _ => ?_)
    cases known.lookup first with
    | none => simp
    | some below => simp

/-- A cell that is not read adds nothing. -/
theorem depthOver_cons_of_not_reads (h : ¬ links.Reads cell ref) (below : Nat) :
    links.depthOver ((ref, below) :: known) cell = links.depthOver known cell := by
  refine eq_of_forall_ge_iff fun n => ?_
  rw [depthOver_le_iff, depthOver_le_iff]
  refine forall_congr' fun other => imp_congr_right fun hread => ?_
  have hne : other ≠ ref := fun heq => h (heq ▸ hread)
  rw [List.lookup_cons, beq_eq_false_iff_ne.2 hne]

/-- A cell that is read adds one more than its depth. -/
theorem depthOver_cons_of_reads (h : links.Reads cell ref) (hnew : known.lookup ref = none)
    (below : Nat) :
    links.depthOver ((ref, below) :: known) cell = max (links.depthOver known cell) (below + 1) := by
  refine eq_of_forall_ge_iff fun n => ?_
  rw [max_le_iff, depthOver_le_iff, depthOver_le_iff]
  constructor
  · intro hall
    refine ⟨fun other hread depth hdepth => ?_, hall ref h below (by simp)⟩
    have hne : other ≠ ref := by
      rintro rfl
      rw [hnew] at hdepth
      cases hdepth
    exact hall other hread depth (by simpa [List.lookup_cons, beq_eq_false_iff_ne.2 hne])
  · rintro ⟨hall, hbelow⟩ other hread depth hdepth
    by_cases hother : other = ref
    · obtain rfl : below = depth := by simpa [hother] using hdepth
      exact hbelow
    · exact hall other hread depth
        (by simpa [List.lookup_cons, beq_eq_false_iff_ne.2 hother] using hdepth)

/-! ## Depths along an order -/

theorem depths_append_singleton (links : Links) (order : List Coord) (cell : Coord) :
    links.depths (order ++ [cell]) = (cell, links.depthAfter order cell) :: links.depths order := by
  rw [depths, List.foldl_append]
  rfl

theorem lookup_depths_of_not_mem (h : cell ∉ order) : (links.depths order).lookup cell = none := by
  induction order using List.reverseRecOn with
  | nil => rfl
  | append_singleton order placed ih =>
    rw [List.mem_append, List.mem_singleton, not_or] at h
    rw [depths_append_singleton, List.lookup_cons, beq_eq_false_iff_ne.2 h.2]
    exact ih h.1

theorem depthAfter_append_of_not_reads (h : ¬ links.Reads cell other) :
    links.depthAfter (order ++ [other]) cell = links.depthAfter order cell := by
  rw [depthAfter, depths_append_singleton, depthOver_cons_of_not_reads h, depthAfter]

theorem depthAfter_append_of_reads (h : links.Reads cell other) (hnew : other ∉ order) :
    links.depthAfter (order ++ [other]) cell =
      max (links.depthAfter order cell) (links.depthAfter order other + 1) := by
  rw [depthAfter, depths_append_singleton,
    depthOver_cons_of_reads h (lookup_depths_of_not_mem hnew)]
  rfl

namespace InOrder

/-- Of cells in order none reads itself, and none reads a later one. -/
theorem pairwise (h : links.InOrder last order) :
    order.Pairwise (fun cell later => ¬ links.Reads cell later) ∧
      ∀ cell ∈ order, ¬ links.Reads cell cell := by
  induction order with
  | nil => exact ⟨.nil, nofun⟩
  | cons first rest ih =>
    obtain ⟨hfirst, hrest⟩ := h
    obtain ⟨hpairwise, hself⟩ := ih hrest
    refine ⟨List.pairwise_cons.2 ⟨fun later hlater hread => ?_, hpairwise⟩,
      List.forall_mem_cons.2 ⟨fun hread => ?_, hself⟩⟩
    · exact (hfirst later hread).1 (List.mem_cons_of_mem first hlater)
    · exact (hfirst first hread).1 List.mem_cons_self

/-- A placed cell has the depth that it gets over all depths: none of its reads is placed later. By
induction on the cells placed, the last one first. -/
theorem lookup_depths (h : links.InOrder last order) (hcell : cell ∈ order) :
    (links.depths order).lookup cell = some (links.depthAfter order cell) := by
  obtain ⟨hpairwise, hself⟩ := h.pairwise
  clear h
  induction order using List.reverseRecOn with
  | nil => cases hcell
  | append_singleton order placed ih =>
    obtain ⟨hbefore, -, hlater⟩ := List.pairwise_append.1 hpairwise
    have hselfBefore : ∀ cell ∈ order, ¬ links.Reads cell cell :=
      fun cell hcell => hself cell (List.mem_append_left _ hcell)
    rw [depths_append_singleton, List.lookup_cons]
    by_cases heq : cell = placed
    · subst heq
      rw [beq_self_eq_true, depthAfter_append_of_not_reads (hself cell hcell)]
    · have hcell : cell ∈ order :=
        (List.mem_append.1 hcell).resolve_right fun hmem => heq (List.mem_singleton.1 hmem)
      rw [beq_eq_false_iff_ne.2 heq, ih hcell hbefore hselfBefore,
        depthAfter_append_of_not_reads (hlater cell hcell placed List.mem_cons_self)]

/-- The depth of a cell is one more than the greatest of the placed cells that it reads. -/
theorem depthAfter_le_iff (h : links.InOrder last order) : links.depthAfter order cell ≤ n ↔
    ∀ ref ∈ order, links.Reads cell ref → links.depthAfter order ref < n := by
  rw [depthAfter, depthOver_le_iff]
  constructor
  · intro hall ref href hread
    exact hall ref hread _ (h.lookup_depths href)
  · intro hall ref hread below hbelow
    by_cases href : ref ∈ order
    · rw [h.lookup_depths href] at hbelow
      cases hbelow
      exact hall ref href hread
    · rw [lookup_depths_of_not_mem href] at hbelow
      cases hbelow

theorem depthAfter_lt (h : links.InOrder last order) (href : ref ∈ order)
    (hread : links.Reads cell ref) : links.depthAfter order ref < links.depthAfter order cell :=
  h.depthAfter_le_iff.1 le_rfl ref href hread

/-- A cell that is not of depth zero reads a placed one whose depth is one less. -/
theorem exists_reads_of_depthAfter (h : links.InOrder last order)
    (hdepth : links.depthAfter order cell = n + 1) :
    ∃ ref ∈ order, links.Reads cell ref ∧ links.depthAfter order ref = n := by
  by_contra hnone
  have hle : links.depthAfter order cell ≤ n := h.depthAfter_le_iff.2 fun ref href hread => by
    have hlt := h.depthAfter_lt href hread
    have hne : links.depthAfter order ref ≠ n := fun heq => hnone ⟨ref, href, hread, heq⟩
    omega
  omega

end InOrder

/-- The depth of a change bounds the depths of all cells that depend on the roots. -/
theorem depth_le_iff : links.depth roots ≤ n ↔
    ∀ cell ∈ (links.scheduleFrom roots).cells,
      links.depthAfter (links.scheduleFrom roots).order cell ≤ n := by
  have hmax : (0 :: (links.scheduleFrom roots).cells.map
      (links.depthAfter (links.scheduleFrom roots).order)).max? = some (links.depth roots) :=
    List.max?_cons'
  rw [List.max?_le_iff hmax, List.forall_mem_cons, List.forall_mem_map]
  exact and_iff_right (Nat.zero_le n)

/-- Where a change has a depth but zero, a cell that depends on the roots has it. -/
theorem exists_depthAfter_of_depth (hdepth : links.depth roots = n + 1) :
    ∃ cell ∈ (links.scheduleFrom roots).cells,
      links.depthAfter (links.scheduleFrom roots).order cell = n + 1 := by
  by_contra hnone
  have hle : links.depth roots ≤ n := depth_le_iff.2 fun cell hcell => by
    have hbound := depth_le_iff.1 hdepth.le cell hcell
    have hne : links.depthAfter (links.scheduleFrom roots).order cell ≠ n + 1 :=
      fun heq => hnone ⟨cell, hcell, heq⟩
    omega
  omega

end Links

/-! ## Depths pushed forward -/

/-- How deep cells are known to be, and the greatest depth. -/
structure Depths where
  depth : Coord → Nat
  deepest : Nat

namespace Depths

/-- A reader is at least as deep as `next`. -/
def raise (next : Nat) (d : Depths) (reader : Coord) : Depths :=
  if d.depth reader < next then ⟨Function.update d.depth reader next, max d.deepest next⟩ else d

/-- The readers of a cell are deeper than the cell. -/
def push (links : Links) (d : Depths) (cell : Coord) : Depths :=
  (links.readers cell).foldl (raise (d.depth cell + 1)) d

/-- The depths found by going once through an order of evaluation. -/
def ofOrder (links : Links) (order : List Coord) : Depths :=
  order.foldl (push links) ⟨fun _ => 0, 0⟩

/-- The greatest depth is that of the deepest cell. -/
def Bounded (d : Depths) : Prop := ∀ n, d.deepest ≤ n ↔ ∀ cell, d.depth cell ≤ n

variable {d : Depths} {links : Links} {order roots readers : List Coord} {cell : Coord} {next : Nat}

theorem depth_raise (next : Nat) (d : Depths) (reader cell : Coord) :
    (d.raise next reader).depth cell =
      if cell = reader then max (d.depth cell) next else d.depth cell := by
  unfold raise
  by_cases hcell : cell = reader
  · subst hcell
    split
    · next hlt => simp [max_eq_right hlt.le]
    · next hle => simp [max_eq_left (Nat.le_of_not_lt hle)]
  · split <;> simp [hcell]

theorem Bounded.raise (h : d.Bounded) (next : Nat) (reader : Coord) :
    (d.raise next reader).Bounded := by
  intro n
  unfold Depths.raise
  split
  · next hlt =>
    rw [max_le_iff, h n]
    constructor
    · rintro ⟨hall, hnext⟩ cell
      by_cases hcell : cell = reader
      · simpa [hcell] using hnext
      · simpa [hcell] using hall cell
    · intro hall
      have hnext : next ≤ n := by simpa using hall reader
      refine ⟨fun cell => ?_, hnext⟩
      by_cases hcell : cell = reader
      · exact hcell ▸ hlt.le.trans hnext
      · simpa [hcell] using hall cell
  · exact h n

theorem depth_foldl_raise (next : Nat) (readers : List Coord) (d : Depths) (cell : Coord) :
    (readers.foldl (raise next) d).depth cell =
      if cell ∈ readers then max (d.depth cell) next else d.depth cell := by
  induction readers generalizing d with
  | nil => rfl
  | cons first rest ih =>
    rw [List.foldl_cons, ih, depth_raise]
    by_cases hfirst : cell = first <;> by_cases hrest : cell ∈ rest <;> simp [hfirst, hrest]

theorem Bounded.push (h : d.Bounded) (links : Links) (cell : Coord) : (d.push links cell).Bounded :=
  List.foldlRecOn (links.readers cell) (Depths.raise (d.depth cell + 1)) h
    fun _ hd reader _ => hd.raise _ reader

theorem bounded_ofOrder (links : Links) (order : List Coord) : (ofOrder links order).Bounded := by
  refine List.foldlRecOn order (push links) (fun n => ?_) fun _ hd cell _ => hd.push links cell
  simp

/-- Pushed along an order each cell gets its depth, by induction on the cells placed, the last one
first. -/
theorem depth_ofOrder (hlinks : links.Ordered) (horder : order.Nodup) (cell : Coord) :
    (ofOrder links order).depth cell = links.depthAfter order cell := by
  induction order using List.reverseRecOn generalizing cell with
  | nil =>
    refine (Nat.le_zero.1 (Links.depthOver_le_iff.2 fun ref _ below hbelow => ?_)).symm
    cases hbelow
  | append_singleton order placed ih =>
    obtain ⟨hnodup, -, hnew⟩ := List.nodup_append.1 horder
    have hplaced : placed ∉ order := fun hmem => hnew placed hmem placed List.mem_cons_self rfl
    rw [ofOrder, List.foldl_append, List.foldl_cons, List.foldl_nil, ← ofOrder, push,
      depth_foldl_raise, ih hnodup, ih hnodup]
    split
    · next hreader =>
      rw [Links.depthAfter_append_of_reads (hlinks.mem_readers.1 hreader) hplaced]
    · next hreader =>
      rw [Links.depthAfter_append_of_not_reads (mt hlinks.mem_readers.2 hreader)]

/-- The greatest depth that is found is the depth of the change. -/
theorem deepest_ofOrder (hlinks : links.Ordered) (roots : List Coord) :
    (ofOrder links (links.scheduleFrom roots).order).deepest = links.depth roots := by
  have hnodup : (links.scheduleFrom roots).order.Nodup :=
    (List.nodup_append.1 (links.nodup_schedule (roots ++ links.downstream roots))).1
  refine eq_of_forall_ge_iff fun n => ?_
  rw [bounded_ofOrder links _ n, Links.depth_le_iff]
  simp only [depth_ofOrder hlinks hnodup]
  refine ⟨fun hall cell _ => hall cell, fun hall cell => ?_⟩
  by_cases hcell : cell ∈ (links.scheduleFrom roots).cells
  · exact hall cell hcell
  -- A cell that reads a placed one depends on the roots itself.
  refine le_trans (Links.depthOver_le_iff.2 fun ref hread below hbelow => ?_) (Nat.zero_le n)
  have href : ref ∈ (links.scheduleFrom roots).order := by
    by_contra hnot
    rw [Links.lookup_depths_of_not_mem hnot] at hbelow
    cases hbelow
  obtain ⟨root, hroot, hpath⟩ :=
    (Links.mem_cells_scheduleFrom hlinks).1 (List.mem_append_left _ href)
  exact absurd ((Links.mem_cells_scheduleFrom hlinks).2 ⟨root, hroot, .head hread hpath⟩) hcell

end Depths

namespace Links

variable {links : Links} {roots : List Coord} {cell : Coord}

/-! ## Longest paths -/

/-- Without cycles all cells that depend on the roots are placed. -/
theorem mem_order_scheduleFrom (hlinks : links.Ordered) (hacyclic : links.Acyclic) :
    cell ∈ (links.scheduleFrom roots).order ↔
      ∃ root ∈ roots, ReflTransGen links.Reads cell root := by
  rw [← mem_cells_scheduleFrom hlinks, Schedule.cells, List.mem_append]
  refine ⟨.inl, fun hcell => hcell.resolve_right fun hstuck => ?_⟩
  have hplaces := links.places_schedule (roots ++ links.downstream roots)
  exact hacyclic.not_belowCycle cell (hplaces.belowCycle_of_mem_stuck hstuck)

theorem inOrder_scheduleFrom (links : Links) (roots : List Coord) :
    links.InOrder (links.scheduleFrom roots).stuck (links.scheduleFrom roots).order :=
  (links.places_schedule (roots ++ links.downstream roots)).inOrder

/-- Along a path from a placed cell the depth grows with each step, by induction on the path. -/
theorem depthAfter_add_length_le (hlinks : links.Ordered) (hacyclic : links.Acyclic)
    {rest : List Coord} (hcell : cell ∈ (links.scheduleFrom roots).order)
    (hpath : links.Path (cell :: rest)) :
    links.depthAfter (links.scheduleFrom roots).order cell + rest.length ≤ links.depth roots := by
  induction rest generalizing cell with
  | nil => exact depth_le_iff.1 le_rfl cell (List.mem_append_left _ hcell)
  | cons next rest ih =>
    obtain ⟨hread, hrest⟩ := List.isChain_cons_cons.1 hpath
    obtain ⟨root, hroot, hback⟩ := (mem_order_scheduleFrom hlinks hacyclic).1 hcell
    have hnext : next ∈ (links.scheduleFrom roots).order :=
      (mem_order_scheduleFrom hlinks hacyclic).2 ⟨root, hroot, .head hread hback⟩
    have hlt := (links.inOrder_scheduleFrom roots).depthAfter_lt hcell hread
    have hle := ih hnext hrest
    rw [List.length_cons]
    omega

/-- To each placed cell a path from a root leads that is as long as the cell is deep, by induction
on the depth. -/
theorem exists_path (hlinks : links.Ordered) (hacyclic : links.Acyclic) {n : Nat}
    (hcell : cell ∈ (links.scheduleFrom roots).order)
    (hdepth : links.depthAfter (links.scheduleFrom roots).order cell = n) :
    ∃ root ∈ roots, ∃ rest, links.Path (root :: rest) ∧ rest.length = n ∧
      (root :: rest).getLast? = some cell := by
  have hinOrder := links.inOrder_scheduleFrom roots
  induction n generalizing cell with
  | zero =>
    obtain ⟨root, hroot, hback⟩ := (mem_order_scheduleFrom hlinks hacyclic).1 hcell
    rcases hback.cases_head with rfl | ⟨ref, hread, hrest⟩
    · exact ⟨cell, hroot, [], .singleton cell, rfl, rfl⟩
    · have href : ref ∈ (links.scheduleFrom roots).order :=
        (mem_order_scheduleFrom hlinks hacyclic).2 ⟨root, hroot, hrest⟩
      have hlt := hinOrder.depthAfter_lt href hread
      omega
  | succ n ih =>
    obtain ⟨ref, href, hread, hbelow⟩ := hinOrder.exists_reads_of_depthAfter hdepth
    obtain ⟨root, hroot, rest, hpath, hlength, hlast⟩ := ih href hbelow
    refine ⟨root, hroot, rest ++ [cell], ?_, by simp [hlength], ?_⟩
    · refine List.IsChain.append hpath (.singleton cell) fun x hx y hy => ?_
      cases hlast.symm.trans hx
      cases hy
      exact hread
    · rw [← List.cons_append, List.getLast?_append]
      rfl

/-- Whatever changes without a cycle made the record, no path that starts at a root has more steps
than the depth says, and one has as many, unless there are no roots. Pushing the depths forward along
the order of evaluation finds the same depth, with cycles or without. -/
theorem depth_spec (changes : List Change) (hacyclic : (ofChanges changes).Acyclic)
    (roots : List Coord) :
    let links := ofChanges changes
    (∀ root ∈ roots, ∀ rest, links.Path (root :: rest) → rest.length ≤ links.depth roots) ∧
    (roots ≠ [] → ∃ root ∈ roots, ∃ rest, links.Path (root :: rest) ∧
      rest.length = links.depth roots) ∧
    (roots = [] → links.depth roots = 0) ∧
    (Depths.ofOrder links (links.scheduleFrom roots).order).deepest = links.depth roots := by
  intro links
  have hlinks : links.Ordered := ordered_ofChanges changes
  refine ⟨fun root hroot rest hpath => ?_, fun hroots => ?_, fun hroots => ?_,
    Depths.deepest_ofOrder hlinks roots⟩
  · have hplaced : root ∈ (links.scheduleFrom roots).order :=
      (mem_order_scheduleFrom hlinks hacyclic).2 ⟨root, hroot, .refl⟩
    exact (Nat.le_add_left ..).trans (depthAfter_add_length_le hlinks hacyclic hplaced hpath)
  · obtain ⟨first, hfirst⟩ := List.exists_mem_of_ne_nil roots hroots
    cases hdepth : links.depth roots with
    | zero => exact ⟨first, hfirst, [], .singleton first, rfl⟩
    | succ n =>
      obtain ⟨cell, hcell, hdeep⟩ := exists_depthAfter_of_depth hdepth
      have hplaced : cell ∈ (links.scheduleFrom roots).order :=
        (mem_order_scheduleFrom hlinks hacyclic).2 ((mem_cells_scheduleFrom hlinks).1 hcell)
      obtain ⟨root, hroot, rest, hpath, hlength, -⟩ := exists_path hlinks hacyclic hplaced hdeep
      exact ⟨root, hroot, rest, hpath, hlength⟩
  · refine Nat.le_zero.1 (depth_le_iff.2 fun cell hcell => ?_)
    obtain ⟨root, hroot, -⟩ := (mem_cells_scheduleFrom hlinks).1 hcell
    rw [hroots] at hroot
    cases hroot

/-- A record is acyclic if every cell has a higher rank than those that it reads. -/
theorem acyclic_of_lt (hlinks : links.Ordered) (rank : Coord → Int)
    (h : ∀ entry ∈ links.entries, ∀ ref ∈ entry.2, rank ref < rank entry.1) : links.Acyclic := by
  intro cell hcycle
  have hlt (ref : Coord) (hpath : TransGen links.Reads cell ref) : rank ref < rank cell := by
    have hstep {cell ref : Coord} (hread : links.Reads cell ref) : rank ref < rank cell := by
      obtain ⟨refs, hentry, href⟩ := mem_readers_iff_entries.1 (hlinks.mem_readers.2 hread)
      exact h (cell, refs) hentry ref href
    induction hpath with
    | single hread => exact hstep hread
    | tail _ hread hbefore => exact (hstep hread).trans hbefore
  exact lt_irrefl _ (hlt cell hcycle)

/-- `B1` reads `A1`, `C1` reads both, and `D1` reads `C1`: from `A1` three steps lead to `D1`, though
`B1` is a root as well and `C1` reads the other one directly. -/
theorem depth_spec_sample :
    let links := ofChanges
      [.set ⟨0, 1⟩ [⟨0, 0⟩], .set ⟨0, 2⟩ [⟨0, 0⟩, ⟨0, 1⟩], .set ⟨0, 3⟩ [⟨0, 2⟩]]
    links.Acyclic ∧ links.depth [⟨0, 0⟩, ⟨0, 1⟩] = 3 ∧
      ∃ root ∈ [⟨0, 0⟩, ⟨0, 1⟩], ∃ rest, links.Path (root :: rest) ∧ rest.length = 3 := by
  intro links
  have hentries : links = ⟨[(⟨0, 1⟩, [⟨0, 0⟩]), (⟨0, 2⟩, [⟨0, 0⟩, ⟨0, 1⟩]), (⟨0, 3⟩, [⟨0, 2⟩])]⟩ :=
    by cbv
  have hacyclic : links.Acyclic := acyclic_of_lt (ordered_ofChanges _) Coord.col (by
    rw [hentries]
    decide)
  have hdepth : links.depth [⟨0, 0⟩, ⟨0, 1⟩] = 3 := by cbv
  obtain ⟨-, hexists, -⟩ := depth_spec _ hacyclic [⟨0, 0⟩, ⟨0, 1⟩]
  exact ⟨hacyclic, hdepth, hdepth ▸ hexists (by simp)⟩

end Links

end Spreadsheet

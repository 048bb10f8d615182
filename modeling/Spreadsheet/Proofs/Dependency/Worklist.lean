import Mathlib.Data.List.Perm.Basic
import Spreadsheet.Proofs.Dependency.Adjacency
import Spreadsheet.Proofs.Dependency.Search

/-!
# Turns of the search

The search for the cells that depend on others keeps a queue: each turn takes a cell off it and
looks at its readers one by one, in whatever order they come (`Adjacency.Turn`); a reader that has
not been found yet is found and queued. The roots are not found when they are queued, so that one
which is on a cycle is queued again.

Each turn keeps `Links.Frontier` (`Turn.frontier`), and every cell is taken off the queue once for
being a root and once for being found (`Run.frontier`). So the search ends, in whatever order it goes
on, and finds what a path leads to (`reachability_spec`).
-/

namespace Spreadsheet

open Relation

/-- The cells found, the last one first, and those whose readers have not been looked at, the next
one first. -/
structure Worklist where
  found : List Coord
  queue : List Coord

namespace Worklist

/-- A reader is looked at: it is found and queued, unless it was found before. -/
def visit (w : Worklist) (reader : Coord) : Worklist :=
  if reader ∈ w.found then w else ⟨reader :: w.found, w.queue ++ [reader]⟩

/-- After a row of different readers, those are found and queued that were not found before. -/
theorem foldl_visit {order : List Coord} (horder : order.Nodup) (w : Worklist) :
    order.foldl visit w =
      ⟨(order.filter fun reader => !w.found.contains reader).reverse ++ w.found,
        w.queue ++ order.filter fun reader => !w.found.contains reader⟩ := by
  induction order generalizing w with
  | nil => simp
  | cons reader order ih =>
    obtain ⟨hreader, horder⟩ := List.nodup_cons.1 horder
    rw [List.foldl_cons, ih horder, visit]
    by_cases hfound : reader ∈ w.found
    · simp [hfound]
    · have hsame : (order.filter fun other => !(reader :: w.found).contains other) =
          order.filter fun other => !w.found.contains other := by
        refine List.filter_congr fun other hother => ?_
        have hne : other ≠ reader := fun heq => hreader (heq ▸ hother)
        simp [hne]
      rw [if_neg hfound, hsame]
      simp [hfound]

end Worklist

namespace Links.Frontier

variable {links : Links} {roots found found' queue queue' : List Coord}

/-- In which order the cells were found and are queued does not matter. -/
theorem perm (h : links.Frontier roots found queue) (hfound : found.Perm found')
    (hqueue : queue.Perm queue') : links.Frontier roots found' queue' where
  nodup := hfound.nodup_iff.1 h.nodup
  reading := fun cell hcell => h.reading cell (hfound.mem_iff.2 hcell)
  sound := fun cell hcell => h.sound cell (hfound.mem_iff.2 hcell)
  known := fun cell hcell => (h.known cell (hqueue.mem_iff.2 hcell)).imp_right hfound.mem_iff.1
  closed := fun cell hcell => (h.closed cell (hcell.imp_right hfound.mem_iff.2)).imp
    hqueue.mem_iff.1 fun hreaders reader hread => hfound.mem_iff.1 (hreaders reader hread)

theorem length_found_le (h : links.Frontier roots found queue) :
    found.length ≤ links.reading.length :=
  (h.nodup.subperm fun cell hcell => h.reading cell hcell).length_le

end Links.Frontier

namespace Adjacency

variable {a : Adjacency} {links : Links} {roots : List Coord} {n : Nat} {w w' : Worklist}

/-- An edge leads from a cell to each of its readers. -/
def Edge (a : Adjacency) (ref cell : Coord) : Prop := cell ∈ (a.readers ref).getD []

/-- A turn of the search takes the next cell off the queue and looks at its readers, in some
order. -/
inductive Turn (a : Adjacency) : Worklist → Worklist → Prop
  | next {found queue order : List Coord} {cell : Coord}
    (h : order.Perm ((a.readers cell).getD [])) :
    Turn a ⟨found, cell :: queue⟩ (order.foldl Worklist.visit ⟨found, queue⟩)

/-- The search has come to the worklist after so many turns. -/
inductive Run (a : Adjacency) (roots : List Coord) : Nat → Worklist → Prop
  | start : Run a roots 0 ⟨[], roots⟩
  | turn {n : Nat} {w w' : Worklist} (h : Run a roots n w) (hturn : a.Turn w w') :
    Run a roots (n + 1) w'

/-- As long as cells are queued, the search goes on. -/
theorem exists_turn (a : Adjacency) (h : w.queue ≠ []) : ∃ w', a.Turn w w' := by
  obtain ⟨found, queue⟩ := w
  obtain ⟨cell, queue, rfl⟩ := List.exists_cons_of_ne_nil h
  exact ⟨_, .next (List.Perm.refl _)⟩

theorem Keeps.edge_iff (h : a.Keeps links) (hlinks : links.Ordered) {ref cell : Coord} :
    a.Edge ref cell ↔ links.Reads cell ref := by
  rw [Edge, h.readers.getD, hlinks.mem_readers, Links.Reads]

theorem Keeps.transGen_edge_iff (h : a.Keeps links) (hlinks : links.Ordered) {ref cell : Coord} :
    TransGen a.Edge ref cell ↔ TransGen links.Reads cell ref := by
  have hedge : a.Edge = Function.swap links.Reads := by
    funext ref cell
    exact propext (h.edge_iff hlinks)
  rw [hedge, transGen_swap]

/-- A turn keeps what the search knows, and queues as many cells as it finds. -/
theorem Turn.frontier (hturn : a.Turn w w') (ha : a.Keeps links) (hlinks : links.Ordered)
    (h : links.Frontier roots w.found w.queue) :
    links.Frontier roots w'.found w'.queue ∧
      w'.queue.length + w.found.length + 1 = w.queue.length + w'.found.length := by
  cases hturn with
  | @next found queue order cell horder =>
    rw [ha.readers.getD] at horder
    have hnodup : order.Nodup := horder.nodup_iff.2 (hlinks.ascends_readers cell).nodup
    rw [Worklist.foldl_visit hnodup]
    have hnew := horder.filter fun reader => !found.contains reader
    refine ⟨(h.step hlinks).perm ?_ (hnew.symm.append_left queue), ?_⟩
    · exact (hnew.symm.trans (List.reverse_perm _).symm).append_right found
    · simp only [List.length_append, List.length_cons, List.length_reverse]
      omega

/-- By induction on the turns. -/
theorem Run.frontier (h : a.Run roots n w) (ha : a.Keeps links) (hlinks : links.Ordered) :
    links.Frontier roots w.found w.queue ∧
      n + w.queue.length = roots.length + w.found.length := by
  induction h with
  | start => exact ⟨.start links roots, by simp⟩
  | turn _ hturn ih =>
    obtain ⟨hfrontier, hlength⟩ := hturn.frontier ha hlinks ih.1
    exact ⟨hfrontier, by omega⟩

/-- Whatever changes a record was made by, the cells that depend on the roots are those that a path
of one edge or more leads to from a root, and a cell is on a cycle just if such a path leads back to
it. The search finds them one by one: in whatever order it looks at readers, it goes on until no
cell is queued, each turn is for a root or for a cell found, no cell is found twice and only cells
that read something are found, so that the turns are bounded; and in the end it has found exactly
the cells that depend on the roots. -/
theorem reachability_spec (changes : List Links.Change) (roots : List Coord) :
    let a := ofChanges changes
    let links := Links.ofChanges changes
    (∀ cell, cell ∈ links.downstream roots ↔ ∃ root ∈ roots, TransGen a.Edge root cell) ∧
    (∀ cell, links.onCycle cell ↔ TransGen a.Edge cell cell) ∧
    ∀ n w, a.Run roots n w →
      (w.queue ≠ [] → ∃ w', a.Turn w w') ∧
      n + w.queue.length = roots.length + w.found.length ∧
      w.found.Nodup ∧ (∀ cell ∈ w.found, a.reads cell ≠ none) ∧
      n ≤ roots.length + links.reading.length ∧
      (w.queue = [] → ∀ cell, cell ∈ w.found ↔ cell ∈ links.downstream roots) := by
  intro a links
  have hlinks : links.Ordered := Links.ordered_ofChanges changes
  have ha : a.Keeps links := keeps_ofChanges changes
  have hdownstream (roots : List Coord) (cell : Coord) :
      cell ∈ links.downstream roots ↔ ∃ root ∈ roots, TransGen a.Edge root cell := by
    simp only [Links.mem_downstream hlinks, ha.transGen_edge_iff hlinks]
  refine ⟨hdownstream roots, fun cell => ?_, fun n w hrun => ?_⟩
  · rw [Links.onCycle, List.contains_iff_mem, hdownstream]
    simp
  · obtain ⟨hfrontier, hlength⟩ := hrun.frontier ha hlinks
    have hle := hfrontier.length_found_le
    refine ⟨exists_turn a, hlength, hfrontier.nodup, fun cell hcell => ?_, by omega, fun hend => ?_⟩
    · rw [ha.reads, CellMap.held?_of_ne (hlinks.mem_reading.1 (hfrontier.reading cell hcell))]
      exact Option.some_ne_none _
    · intro cell
      rw [hend] at hfrontier
      rw [hfrontier.mem_found_iff, Links.mem_downstream hlinks]

/-- `A1` and `B1` read each other, and `C1` reads `B1`. The search from `A1` comes back to it, also
where it looks at `C1` first. -/
theorem reachability_spec_sample :
    let changes : List Links.Change := [.set ⟨0, 0⟩ [⟨0, 1⟩], .set ⟨0, 1⟩ [⟨0, 0⟩],
      .set ⟨0, 2⟩ [⟨0, 1⟩]]
    let w : Worklist := ⟨[⟨0, 0⟩, ⟨0, 2⟩, ⟨0, 1⟩], []⟩
    (ofChanges changes).Run [⟨0, 0⟩] 4 w ∧
      ⟨0, 0⟩ ∈ (Links.ofChanges changes).downstream [⟨0, 0⟩] := by
  intro changes w
  have hfirst : (ofChanges changes).Turn ⟨[], [⟨0, 0⟩]⟩ ⟨[⟨0, 1⟩], [⟨0, 1⟩]⟩ :=
    .next (show [⟨0, 1⟩].Perm _ by decide)
  have hsecond : (ofChanges changes).Turn ⟨[⟨0, 1⟩], [⟨0, 1⟩]⟩
      ⟨[⟨0, 0⟩, ⟨0, 2⟩, ⟨0, 1⟩], [⟨0, 2⟩, ⟨0, 0⟩]⟩ :=
    .next (show [⟨0, 2⟩, ⟨0, 0⟩].Perm _ by decide)
  have hthird : (ofChanges changes).Turn ⟨[⟨0, 0⟩, ⟨0, 2⟩, ⟨0, 1⟩], [⟨0, 2⟩, ⟨0, 0⟩]⟩
      ⟨[⟨0, 0⟩, ⟨0, 2⟩, ⟨0, 1⟩], [⟨0, 0⟩]⟩ :=
    .next (show [].Perm _ by decide)
  have hlast : (ofChanges changes).Turn ⟨[⟨0, 0⟩, ⟨0, 2⟩, ⟨0, 1⟩], [⟨0, 0⟩]⟩ w :=
    .next (show [⟨0, 1⟩].Perm _ by decide)
  have hrun : (ofChanges changes).Run [⟨0, 0⟩] 4 w :=
    (((Run.start.turn hfirst).turn hsecond).turn hthird).turn hlast
  obtain ⟨-, -, -, -, -, hend⟩ := (reachability_spec changes [⟨0, 0⟩]).2.2 4 w hrun
  exact ⟨hrun, (hend rfl _).1 List.mem_cons_self⟩

end Adjacency

end Spreadsheet

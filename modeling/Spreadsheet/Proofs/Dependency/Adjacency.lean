import Mathlib.Data.List.Induction
import Mathlib.Logic.Function.Basic
import Spreadsheet.Proofs.Dependency.Record

/-!
# The record kept both ways

An `Adjacency` keeps who reads whom in two maps, one for each direction, and a change of what a cell
reads touches the readers of those cells only that it reads no longer or did not read before
(`Adjacency.set`). `Keeps` ties the two maps to a record of reads, whose reverse relation is found
by looking through its entries; every change keeps it (`Keeps.change`).

So whatever changes were made, the two maps are inverse to each other and hold no empty lists, and
they say for each cell what the last change said that concerns it (`Links.lastRefs`,
`Adjacency.ofChanges_spec`). In which order the changes of different cells came does not matter.
-/

namespace Spreadsheet

/-- Cells with a list of cells each. -/
abbrev CellMap := Coord → Option (List Coord)

namespace CellMap

/-- What a map holds for a cell: one that has no cells has no entry. -/
def held? (cells : List Coord) : Option (List Coord) := if cells = [] then none else some cells

/-- A cell is not read by `reader` any more, and loses its entry if no other one reads it. -/
def unlist (reader : Coord) (readers : CellMap) (cell : Coord) : CellMap :=
  match readers cell with
  | none => readers
  | some found => Function.update readers cell (held? (found.filter (· != reader)))

/-- A cell is read by `reader`, too. -/
def enlist (reader : Coord) (readers : CellMap) (cell : Coord) : CellMap :=
  Function.update readers cell (some (Coord.insert reader ((readers cell).getD [])))

/-- The map has the lists for its entries that are not empty. -/
def Lists (m : CellMap) (lists : Coord → List Coord) : Prop := ∀ cell, m cell = held? (lists cell)

variable {m : CellMap} {lists : Coord → List Coord} {cell ref : Coord} {refs : List Coord}

/-! ## Entries -/

theorem getD_held? (cells : List Coord) : (held? cells).getD [] = cells := by
  unfold held?
  split
  · next h => exact h.symm
  · rfl

theorem held?_of_ne {cells : List Coord} (h : cells ≠ []) : held? cells = some cells := if_neg h

theorem held?_eq_some_iff {cells others : List Coord} :
    held? cells = some others ↔ others ≠ [] ∧ others = cells := by
  unfold held?
  split
  · next h =>
    constructor
    · exact nofun
    · rintro ⟨hne, rfl⟩
      exact absurd h hne
  · next h =>
    rw [Option.some.injEq]
    constructor
    · rintro rfl
      exact ⟨h, rfl⟩
    · exact fun heq => heq.2.symm

namespace Lists

theorem getD (h : m.Lists lists) (cell : Coord) : (m cell).getD [] = lists cell := by
  rw [h, getD_held?]

theorem ne_some_nil (h : m.Lists lists) (cell : Coord) : m cell ≠ some [] := by
  rw [h, Ne, held?_eq_some_iff]
  exact fun heq => heq.1 rfl

theorem exists_mem (h : m.Lists lists) :
    (∃ cells, m cell = some cells ∧ ref ∈ cells) ↔ ref ∈ lists cell := by
  simp only [h cell, held?_eq_some_iff]
  constructor
  · rintro ⟨_, ⟨-, rfl⟩, href⟩
    exact href
  · intro href
    exact ⟨lists cell, ⟨List.ne_nil_of_mem href, rfl⟩, href⟩

/-- A list is put in the place of another one. -/
theorem update (h : m.Lists lists) (cell : Coord) (cells : List Coord) :
    Lists (Function.update m cell (held? cells)) (Function.update lists cell cells) := by
  intro other
  by_cases hother : other = cell
  · rw [hother, Function.update_self, Function.update_self]
  · rw [Function.update_of_ne hother, Function.update_of_ne hother, h]

/-! ## Readers that come and go -/

theorem unlist (h : m.Lists lists) (reader cell : Coord) :
    (m.unlist reader cell).Lists
      (Function.update lists cell ((lists cell).filter (· != reader))) := by
  unfold CellMap.unlist
  split
  · next hnone =>
    have hnil : (lists cell).filter (· != reader) = lists cell := by
      rw [← h.getD, hnone]
      rfl
    rwa [hnil, Function.update_eq_self]
  · next found hsome =>
    have hfound : found = lists cell := by rw [← h.getD, hsome]; rfl
    exact hfound ▸ h.update cell _

theorem enlist (h : m.Lists lists) (reader cell : Coord) :
    (m.enlist reader cell).Lists
      (Function.update lists cell (Coord.insert reader (lists cell))) := by
  have hne : Coord.insert reader (lists cell) ≠ [] :=
    List.ne_nil_of_mem (Coord.mem_insert.2 (.inl rfl))
  have hupdate := h.update cell (Coord.insert reader (lists cell))
  rw [held?_of_ne hne] at hupdate
  rwa [CellMap.enlist, h.getD]

/-- Steps that each change the list of one cell change those of the cells they are made for, by
induction on these. -/
theorem foldl {g : CellMap → Coord → CellMap} {f : List Coord → List Coord}
    (hstep : ∀ {m : CellMap} {lists : Coord → List Coord}, m.Lists lists → ∀ cell,
      (g m cell).Lists (Function.update lists cell (f (lists cell))))
    (h : m.Lists lists) (hrefs : refs.Nodup) :
    Lists (refs.foldl g m) fun ref => if ref ∈ refs then f (lists ref) else lists ref := by
  induction refs generalizing m lists with
  | nil => simpa using h
  | cons first rest ih =>
    obtain ⟨hfirst, hrest⟩ := List.nodup_cons.1 hrefs
    intro ref
    rw [List.foldl_cons, ih (hstep h first) hrest]
    by_cases href : ref = first
    · simp [href, hfirst]
    · simp [href]

end Lists

end CellMap

namespace Links

/-- What a cell reads by a change, if the change has a say in it. -/
def Change.refs? (cell : Coord) : Change → Option (List Coord)
  | .set other refs => if other = cell then some refs else none
  | .remove other => if other = cell then some [] else none
  | .clear => some []

/-- What a cell reads by the last change that has a say in it, nothing if there is none. -/
def lastRefs (changes : List Change) (cell : Coord) : List Coord :=
  (changes.reverse.findSome? (Change.refs? cell)).getD []

variable {links : Links} {cell ref : Coord} {refs : List Coord}

theorem reads_change (links : Links) (c : Change) (cell : Coord) :
    (links.change c).reads cell =
      ((c.refs? cell).map Coord.ascending).getD (links.reads cell) := by
  cases c with
  | set other refs =>
    rw [change, reads_set, Change.refs?]
    by_cases h : other = cell
    · rw [if_pos h.symm, if_pos h]
      rfl
    · rw [if_neg (Ne.symm h), if_neg h]
      rfl
  | remove other =>
    rw [change, reads_remove, Change.refs?]
    by_cases h : other = cell
    · rw [if_pos h.symm, if_pos h]
      rfl
    · rw [if_neg (Ne.symm h), if_neg h]
      rfl
  | clear => rfl

/-- By induction on the changes, the last one first. -/
theorem reads_ofChanges (changes : List Change) (cell : Coord) :
    (ofChanges changes).reads cell = Coord.ascending (lastRefs changes cell) := by
  induction changes using List.reverseRecOn with
  | nil => rfl
  | append_singleton changes c ih =>
    rw [ofChanges, List.foldl_append, List.foldl_cons, List.foldl_nil, reads_change, lastRefs,
      List.reverse_append, List.reverse_singleton, List.singleton_append, List.findSome?_cons]
    cases c.refs? cell with
    | some refs => rfl
    | none => exact ih

/-- The readers of a cell ascend. -/
theorem Ordered.ascends_readers (h : links.Ordered) (cell : Coord) :
    Coord.Ascends (links.readers cell) :=
  h.ascends.sublist (List.filter_sublist.map Prod.fst)

/-- The readers change of those cells only that are read by `cell` from now on or not any more. -/
theorem Ordered.readers_set (h : links.Ordered) (cell : Coord) (refs : List Coord) (ref : Coord) :
    (links.set cell refs).readers ref =
      if ref ∈ refs ∧ ref ∉ links.reads cell then Coord.insert cell (links.readers ref)
      else if ref ∈ links.reads cell ∧ ref ∉ refs then (links.readers ref).filter (· != cell)
      else links.readers ref := by
  have hold := h.ascends_readers ref
  refine ((h.set cell refs).ascends_readers ref).ext ?_ fun reader => ?_
  · split
    · exact hold.insert
    · split
      · exact hold.filter _
      · exact hold
  · rw [(h.set cell refs).mem_readers, reads_set]
    by_cases hreader : reader = cell
    · by_cases hnew : ref ∈ refs <;> by_cases hread : ref ∈ links.reads cell <;>
        simp [hreader, hnew, hread, h.mem_readers]
    · by_cases hnew : ref ∈ refs <;> by_cases hread : ref ∈ links.reads cell <;>
        simp [hreader, hnew, hread, h.mem_readers]

/-- The record has an entry for the cells that read something. -/
theorem Ordered.lists_entries (h : links.Ordered) :
    CellMap.Lists (List.lookup · links.entries) links.reads := by
  intro cell
  cases hlook : List.lookup cell links.entries with
  | none =>
    rw [reads, hlook]
    exact hlook
  | some refs =>
    obtain ⟨before, after, hentries, -⟩ := List.lookup_eq_some_iff.1 hlook
    have hne : refs ≠ [] := h.nonempty (cell, refs) (by simp [hentries])
    rw [reads, hlook, Option.getD_some, CellMap.held?_of_ne hne]
    exact hlook

end Links

/-- What the cells read and which cells read them, each in a map of its own. -/
structure Adjacency where
  reads : CellMap
  readers : CellMap

namespace Adjacency

open Links

/-- No cell reads anything. -/
def empty : Adjacency := ⟨fun _ => none, fun _ => none⟩

/-- The cell reads exactly the given cells. Of the cells that it reads both before and after it
stays a reader. -/
def set (a : Adjacency) (cell : Coord) (refs : List Coord) : Adjacency :=
  let new := Coord.ascending refs
  let old := (a.reads cell).getD []
  let readers := (old.filter (!new.contains ·)).foldl (CellMap.unlist cell) a.readers
  if new = [] then ⟨Function.update a.reads cell none, readers⟩
  else
    ⟨Function.update a.reads cell (some new),
      (new.filter (!old.contains ·)).foldl (CellMap.enlist cell) readers⟩

/-- Both maps after a change. -/
def change (a : Adjacency) : Change → Adjacency
  | .set cell refs => a.set cell refs
  | .remove cell => a.set cell []
  | .clear => empty

/-- The maps that the changes make of the empty ones, the first of them first. -/
def ofChanges (changes : List Change) : Adjacency := changes.foldl change empty

/-- The maps are those of the record. -/
structure Keeps (a : Adjacency) (links : Links) : Prop where
  reads : a.reads.Lists links.reads
  readers : a.readers.Lists links.readers

variable {a : Adjacency} {links : Links}

theorem keeps_empty : empty.Keeps .empty := ⟨fun _ => rfl, fun _ => rfl⟩

theorem Keeps.set (h : a.Keeps links) (hlinks : links.Ordered)
    (hreads : ∀ cell, (links.reads cell).Nodup) (cell : Coord) (refs : List Coord) :
    (a.set cell refs).Keeps (links.set cell refs) := by
  have hnew : (Coord.ascending refs).Nodup := (Coord.ascends_ascending refs).nodup
  have hupdate : (links.set cell refs).reads =
      Function.update links.reads cell (Coord.ascending refs) := by
    funext other
    rw [reads_set, Function.update_apply]
  have hdropped := CellMap.Lists.foldl (fun hold => hold.unlist cell) h.readers
    ((hreads cell).filter (!(Coord.ascending refs).contains ·))
  have hread := h.reads.update cell (Coord.ascending refs)
  rw [Adjacency.set, h.reads.getD]
  split
  · next hnil =>
    have hnone : ∀ ref, ref ∉ refs := fun ref href => by
      rw [← Coord.mem_ascending, hnil] at href
      exact List.not_mem_nil href
    constructor
    · rw [hupdate, hnil]
      rwa [hnil] at hread
    · intro ref
      rw [hlinks.readers_set]
      refine (hdropped ref).trans ?_
      simp [hnone]
  · next hne =>
    constructor
    · rw [hupdate]
      rwa [CellMap.held?_of_ne hne] at hread
    · intro ref
      rw [hlinks.readers_set]
      refine (hdropped.foldl (fun hold => hold.enlist cell) (hnew.filter _) ref).trans ?_
      by_cases href : ref ∈ refs <;> by_cases hread : ref ∈ links.reads cell <;>
        simp [href, hread]

/-- Every change keeps the maps right. -/
theorem Keeps.change (h : a.Keeps links) (hlinks : links.Ordered)
    (hreads : ∀ cell, (links.reads cell).Nodup) (c : Change) :
    (a.change c).Keeps (links.change c) := by
  cases c with
  | set cell refs => exact h.set hlinks hreads cell refs
  | remove cell => exact h.set hlinks hreads cell []
  | clear => exact keeps_empty

/-- By induction on the changes, the last one first. -/
theorem keeps_ofChanges (changes : List Change) :
    (ofChanges changes).Keeps (Links.ofChanges changes) := by
  induction changes using List.reverseRecOn with
  | nil => exact keeps_empty
  | append_singleton changes c ih =>
    rw [ofChanges, Links.ofChanges, List.foldl_append, List.foldl_append]
    exact ih.change (ordered_ofChanges changes)
      (fun cell => (ascends_reads_ofChanges changes cell).nodup) c

/-- Of one record there are no two such pairs of maps. -/
theorem Keeps.unique {b : Adjacency} (h : a.Keeps links) (h' : b.Keeps links) : a = b := by
  obtain ⟨reads, readers⟩ := a
  obtain ⟨reads', readers'⟩ := b
  have hreads : reads = reads' := funext fun cell => (h.reads cell).trans (h'.reads cell).symm
  have hreaders : readers = readers' :=
    funext fun cell => (h.readers cell).trans (h'.readers cell).symm
  rw [hreads, hreaders]

/-- Whatever changes were made, a cell has an entry for what it reads exactly if it reads something
by the last change that concerns it, and the entry is that; the other map is the inverse one, and
neither holds an empty list. The record has the same entries and the same readers. Other changes
that say the same of each cell in the end make the same maps and the same record. -/
theorem ofChanges_spec (changes : List Change) :
    let a := ofChanges changes
    let links := Links.ofChanges changes
    (∀ cell refs, a.reads cell = some refs ↔
      refs ≠ [] ∧ refs = Coord.ascending (lastRefs changes cell)) ∧
    (∀ cell ref, (∃ readers, a.readers ref = some readers ∧ cell ∈ readers) ↔
      ∃ refs, a.reads cell = some refs ∧ ref ∈ refs) ∧
    (∀ cell, a.reads cell ≠ some [] ∧ a.readers cell ≠ some []) ∧
    (∀ cell, a.reads cell = links.entries.lookup cell ∧
      a.readers cell = CellMap.held? (links.readers cell)) ∧
    ∀ others : List Change,
      (∀ cell ref, ref ∈ lastRefs others cell ↔ ref ∈ lastRefs changes cell) →
      ofChanges others = a ∧ Links.ofChanges others = links := by
  intro a links
  have hlinks : links.Ordered := ordered_ofChanges changes
  have ha : a.Keeps links := keeps_ofChanges changes
  refine ⟨fun cell refs => ?_, fun cell ref => ?_, fun cell => ?_, fun cell => ?_,
    fun others hothers => ?_⟩
  · rw [ha.reads, CellMap.held?_eq_some_iff, reads_ofChanges]
  · rw [ha.readers.exists_mem, ha.reads.exists_mem, hlinks.mem_readers]
  · exact ⟨ha.reads.ne_some_nil cell, ha.readers.ne_some_nil cell⟩
  · exact ⟨(ha.reads cell).trans (hlinks.lists_entries cell).symm, ha.readers cell⟩
  · have hsame : Links.ofChanges others = links := by
      refine (ordered_ofChanges others).ext hlinks fun cell => ?_
      rw [reads_ofChanges, reads_ofChanges]
      refine (Coord.ascends_ascending _).ext (Coord.ascends_ascending _) fun ref => ?_
      rw [Coord.mem_ascending, Coord.mem_ascending, hothers]
    have hothers : (ofChanges others).Keeps links := hsame ▸ keeps_ofChanges others
    exact ⟨hothers.unique ha, hsame⟩

/-- `B1` reads `A1`, and `C1` reads both, by two changes or by changes that are undone in part. -/
theorem ofChanges_spec_sample :
    let changes : List Change := [.set ⟨0, 1⟩ [⟨0, 0⟩], .set ⟨0, 2⟩ [⟨0, 1⟩, ⟨0, 0⟩]]
    let others : List Change := [.set ⟨0, 0⟩ [⟨0, 0⟩], .clear, .set ⟨0, 2⟩ [⟨0, 2⟩, ⟨0, 0⟩],
      .set ⟨0, 3⟩ [⟨0, 0⟩], .set ⟨0, 2⟩ [⟨0, 0⟩, ⟨0, 1⟩], .set ⟨0, 1⟩ [⟨0, 0⟩], .remove ⟨0, 3⟩]
    (ofChanges changes).readers ⟨0, 0⟩ = some [⟨0, 1⟩, ⟨0, 2⟩] ∧
      ofChanges others = ofChanges changes := by
  intro changes others
  refine ⟨rfl, ((ofChanges_spec changes).2.2.2.2 others fun cell ref => ?_).1⟩
  by_cases hone : cell = ⟨0, 1⟩
  · subst hone
    rfl
  by_cases htwo : cell = ⟨0, 2⟩
  · subst htwo
    simp [lastRefs, changes, others, Change.refs?, or_comm]
  have hchanges : lastRefs changes cell = [] := by
    simp [lastRefs, changes, Change.refs?, Ne.symm hone, Ne.symm htwo]
  have hothers : lastRefs others cell = [] := by
    by_cases hthree : cell = ⟨0, 3⟩
    · subst hthree
      rfl
    · simp [lastRefs, others, Change.refs?, List.findSome?_cons, Ne.symm hone, Ne.symm htwo,
        Ne.symm hthree]
  rw [hchanges, hothers]

end Adjacency

end Spreadsheet

import Spreadsheet.Dependency.Graph

/-!
# The record of reads

`Links.Ordered` is what the operations on a record of reads keep (`ordered_empty`, `Ordered.set`):
its cells ascend and none of its entries is empty. So a record is determined by what the cells read
(`Ordered.ext`), and the reverse relation is the reverse one (`Ordered.mem_readers`). Every record
that is made by changes is such a one (`ordered_ofChanges`).
-/

namespace Spreadsheet

namespace Coord

theorem Ascends.nodup {cells : List Coord} (h : Ascends cells) : cells.Nodup :=
  h.imp fun {a b} hbefore heq => by
    rw [heq, before_irrefl] at hbefore
    contradiction

theorem ascending_of_ascends {cells : List Coord} (h : Ascends cells) : ascending cells = cells :=
  (ascends_ascending cells).ext h fun _ => mem_ascending

end Coord

namespace Links

/-- The cells of the record ascend, and each of them reads something. -/
structure Ordered (links : Links) : Prop where
  ascends : Coord.Ascends links.reading
  nonempty : ∀ entry ∈ links.entries, entry.2 ≠ []

variable {links links' : Links} {cell reader : Coord}

theorem ordered_empty : Ordered empty := ⟨List.Pairwise.nil, by simp [empty]⟩

/-! ## Entries and reads -/

theorem Ordered.mem_readers (h : links.Ordered) :
    reader ∈ links.readers cell ↔ cell ∈ links.reads reader :=
  Links.mem_readers h.ascends.nodup

theorem mem_readers_iff_entries :
    reader ∈ links.readers cell ↔ ∃ refs, (reader, refs) ∈ links.entries ∧ cell ∈ refs := by
  simp [readers]

/-- The cells that are read are those with a reader. -/
theorem mem_beingRead : cell ∈ links.beingRead ↔ links.readers cell ≠ [] := by
  rw [beingRead, Coord.mem_ascending, List.mem_flatMap]
  constructor
  · rintro ⟨⟨reader, refs⟩, hentry, hcell⟩
    exact List.ne_nil_of_mem (mem_readers_iff_entries.2 ⟨refs, hentry, hcell⟩)
  · intro hne
    obtain ⟨reader, hreader⟩ := List.exists_mem_of_ne_nil _ hne
    obtain ⟨refs, hentry, hcell⟩ := mem_readers_iff_entries.1 hreader
    exact ⟨(reader, refs), hentry, hcell⟩

/-- What a cell with an entry reads. -/
theorem reads_of_mem (hnodup : links.reading.Nodup) {entry : Coord × List Coord}
    (h : entry ∈ links.entries) : links.reads entry.1 = entry.2 := by
  obtain ⟨before, after, hsplit⟩ := List.append_of_mem h
  rw [reading, hsplit, List.map_append, List.map_cons, List.nodup_append] at hnodup
  have hlook : links.entries.lookup entry.1 = some entry.2 := by
    refine List.lookup_eq_some_iff.2 ⟨before, after, hsplit, fun other hother => ?_⟩
    have := hnodup.2.2 other.1 (List.mem_map_of_mem hother) entry.1 List.mem_cons_self
    exact bne_iff_ne.2 this.symm
  rw [reads, hlook, Option.getD_some]

/-- The cells of the record are those that read something. -/
theorem Ordered.mem_reading (h : links.Ordered) : cell ∈ links.reading ↔ links.reads cell ≠ [] := by
  constructor
  · intro hcell
    obtain ⟨entry, hentry, rfl⟩ := List.mem_map.1 hcell
    rw [reads_of_mem h.ascends.nodup hentry]
    exact h.nonempty entry hentry
  · intro hreads
    cases hlook : links.entries.lookup cell with
    | none => simp [reads, hlook] at hreads
    | some refs =>
      obtain ⟨before, after, hsplit, -⟩ := List.lookup_eq_some_iff.1 hlook
      rw [reading, hsplit]
      simp

/-- The entries of the record are the cells that read something, with what they read. -/
theorem Ordered.mem_entries (h : links.Ordered) {refs : List Coord} :
    (cell, refs) ∈ links.entries ↔ refs ≠ [] ∧ links.reads cell = refs := by
  constructor
  · exact fun hentry => ⟨h.nonempty _ hentry, reads_of_mem h.ascends.nodup hentry⟩
  · rintro ⟨hne, rfl⟩
    obtain ⟨entry, hentry, rfl⟩ := List.mem_map.1 (h.mem_reading.2 hne)
    rwa [reads_of_mem h.ascends.nodup hentry]

/-- Records with the same reads are equal. -/
theorem Ordered.ext (h : links.Ordered) (h' : links'.Ordered)
    (hreads : ∀ cell, links.reads cell = links'.reads cell) : links = links' := by
  have hkeys : links.reading = links'.reading :=
    h.ascends.ext h'.ascends fun cell => by rw [h.mem_reading, h'.mem_reading, hreads]
  have hentries {links : Links} (h : links.Ordered) :
      links.entries = links.reading.map fun cell => (cell, links.reads cell) := by
    rw [reading, List.map_map]
    have hentry : ∀ entry ∈ links.entries, (entry.1, links.reads entry.1) = id entry :=
      fun entry hentry => Prod.ext rfl (reads_of_mem h.ascends.nodup hentry)
    exact ((List.map_congr_left hentry).trans (List.map_id _)).symm
  have heq : links.entries = links'.entries := by
    rw [hentries h, hentries h', hkeys]
    exact List.map_congr_left fun cell _ => by rw [hreads]
  obtain ⟨entries⟩ := links
  exact congrArg Links.mk heq

/-! ## Changes -/

/-- A new entry takes its cell's place by order. -/
theorem map_fst_insertEntry {entries : List (Coord × List Coord)} (refs : List Coord)
    (hnew : cell ∉ entries.map Prod.fst) :
    (insertEntry cell refs entries).map Prod.fst = Coord.insert cell (entries.map Prod.fst) := by
  induction entries with
  | nil => rfl
  | cons entry rest ih =>
    rw [List.map_cons, List.mem_cons, not_or] at hnew
    rw [insertEntry, List.map_cons, Coord.insert]
    split
    · rfl
    · rw [if_neg hnew.1, List.map_cons, ih hnew.2]

theorem mem_insertEntry {refs : List Coord} {entries : List (Coord × List Coord)}
    {entry : Coord × List Coord} :
    entry ∈ insertEntry cell refs entries ↔ entry = (cell, refs) ∨ entry ∈ entries := by
  induction entries with
  | nil => simp [insertEntry]
  | cons other rest ih =>
    rw [insertEntry]
    split
    · rw [List.mem_cons]
    · rw [List.mem_cons, ih, List.mem_cons, or_left_comm]

theorem Ordered.remove (h : links.Ordered) (cell : Coord) : (links.remove cell).Ordered where
  ascends := h.ascends.sublist (List.filter_sublist.map Prod.fst)
  nonempty := fun entry hentry => h.nonempty entry (List.mem_filter.1 hentry).1

theorem Ordered.set (h : links.Ordered) (cell : Coord) (refs : List Coord) :
    (links.set cell refs).Ordered := by
  have hrest := h.remove cell
  have hnew : cell ∉ (links.remove cell).entries.map Prod.fst := by
    simp [Links.remove]
  rw [Links.set]
  split
  · exact hrest
  · next hne =>
    refine ⟨?_, fun entry hentry => ?_⟩
    · rw [reading, map_fst_insertEntry _ hnew]
      exact hrest.ascends.insert
    · rcases mem_insertEntry.1 hentry with rfl | hentry
      · exact hne
      · exact hrest.nonempty entry hentry

/-- What can be done to a record. -/
inductive Change
  /-- The cell reads exactly the given cells. -/
  | set (cell : Coord) (refs : List Coord)
  /-- The cell reads nothing any more. -/
  | remove (cell : Coord)
  /-- No cell reads anything any more. -/
  | clear

/-- The record after a change. -/
def change (links : Links) : Change → Links
  | .set cell refs => links.set cell refs
  | .remove cell => links.remove cell
  | .clear => empty

/-- The record that the changes make of the empty one, the first of them first. -/
def ofChanges (changes : List Change) : Links := changes.foldl change empty

theorem Ordered.change (h : links.Ordered) (c : Change) : (links.change c).Ordered := by
  cases c with
  | set cell refs => exact h.set cell refs
  | remove cell => exact h.remove cell
  | clear => exact ordered_empty

/-- What the cells read is kept in ascending order. -/
theorem ascends_reads_change (h : ∀ cell, Coord.Ascends (links.reads cell)) (c : Change)
    (cell : Coord) : Coord.Ascends ((links.change c).reads cell) := by
  cases c with
  | set other refs =>
    rw [Links.change, reads_set]
    split
    · exact Coord.ascends_ascending refs
    · exact h cell
  | remove other =>
    rw [Links.change, reads_remove]
    split
    · exact List.Pairwise.nil
    · exact h cell
  | clear => exact List.Pairwise.nil

theorem ordered_ofChanges (changes : List Change) : (ofChanges changes).Ordered :=
  List.foldlRecOn changes Links.change ordered_empty fun _ h c _ => h.change c

theorem ascends_reads_ofChanges (changes : List Change) :
    ∀ cell, Coord.Ascends ((ofChanges changes).reads cell) := by
  refine List.foldlRecOn (motive := fun links => ∀ cell, Coord.Ascends (links.reads cell))
    changes Links.change ?_ ?_
  · exact fun _ => List.Pairwise.nil
  · exact fun _ h c _ => ascends_reads_change h c

end Links

end Spreadsheet

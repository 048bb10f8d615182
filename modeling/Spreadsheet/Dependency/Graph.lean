import Spreadsheet.Coord.Ascending
import Spreadsheet.Table

/-!
# Which cells read which

A `Links` value records for each formula cell the cells that the formula reads. The reverse
relation (`Links.readers`) and reachability along it (`Links.downstream`) are derived from the
record. `reads_set` and `reads_remove` say what a change does to the record, and `mem_readers` that
the reverse relation is the reverse one.
-/

namespace Spreadsheet

/-- The reads of formula cells, in ascending order of the cells. A cell that reads nothing has no
entry. -/
structure Links where
  entries : List (Coord × List Coord)
  deriving DecidableEq

namespace Links

/-- No cell reads anything. -/
def empty : Links := ⟨[]⟩

/-- The cells that a cell reads, in ascending order. -/
def reads (links : Links) (cell : Coord) : List Coord := (links.entries.lookup cell).getD []

/-- The cells that read a cell, in ascending order. -/
def readers (links : Links) (cell : Coord) : List Coord :=
  (links.entries.filter fun entry => entry.2.contains cell).map Prod.fst

/-- The cells that read something, in ascending order. -/
def reading (links : Links) : List Coord := links.entries.map Prod.fst

/-- The cells that are read, in ascending order. -/
def beingRead (links : Links) : List Coord :=
  Coord.ascending (links.entries.flatMap Prod.snd)

/-- The cell reads or is read. -/
def mentions (links : Links) (cell : Coord) : Bool :=
  links.entries.any fun entry => entry.1 == cell || entry.2.contains cell

/-- The entries with one more, in its place by order. -/
def insertEntry (cell : Coord) (refs : List Coord) :
    List (Coord × List Coord) → List (Coord × List Coord)
  | [] => [(cell, refs)]
  | entry :: rest =>
    if cell.before entry.1 then (cell, refs) :: entry :: rest
    else entry :: insertEntry cell refs rest

/-- The cell reads nothing any more. -/
def remove (links : Links) (cell : Coord) : Links :=
  ⟨links.entries.filter fun entry => entry.1 != cell⟩

/-- The cell reads exactly the given cells. -/
def set (links : Links) (cell : Coord) (refs : List Coord) : Links :=
  match Coord.ascending refs with
  | [] => links.remove cell
  | refs => ⟨insertEntry cell refs (links.remove cell).entries⟩

/-! ## What is read after a change -/

/-- What is found among the entries with one more, of a cell that had none. -/
theorem lookup_insertEntry {cell : Coord} {entries : List (Coord × List Coord)}
    (hnew : entries.lookup cell = none) (refs : List Coord) (other : Coord) :
    (insertEntry cell refs entries).lookup other =
      if other = cell then some refs else entries.lookup other := by
  induction entries with
  | nil =>
    by_cases h : other = cell
    · simp [insertEntry, h]
    · simp [insertEntry, h, List.lookup_cons, beq_eq_false_iff_ne.2 h]
  | cons entry rest ih =>
    obtain ⟨key, old⟩ := entry
    have hne : cell ≠ key := by
      rintro rfl
      simp at hnew
    have hrest : rest.lookup cell = none := by
      simpa [List.lookup_cons, beq_eq_false_iff_ne.2 hne] using hnew
    rw [insertEntry]
    split
    · by_cases h : other = cell
      · simp [h]
      · simp [h, List.lookup_cons, beq_eq_false_iff_ne.2 h]
    · by_cases hkey : other = key
      · subst hkey
        simp [Ne.symm hne]
      · simp [List.lookup_cons, beq_eq_false_iff_ne.2 hkey, ih hrest]

@[simp] theorem reads_empty (cell : Coord) : empty.reads cell = [] := rfl

/-- What the cells read after one of them reads nothing any more. -/
@[simp] theorem reads_remove (links : Links) (cell other : Coord) :
    (links.remove cell).reads other = if other = cell then [] else links.reads other := by
  simp only [reads, remove, lookup_filter_ne]
  split <;> rfl

/-- What the cells read after one of them is set to read the given cells. -/
@[simp] theorem reads_set (links : Links) (cell : Coord) (refs : List Coord) (other : Coord) :
    (links.set cell refs).reads other =
      if other = cell then Coord.ascending refs else links.reads other := by
  rw [set]
  split
  · next hrefs => rw [reads_remove, hrefs]
  · have hnew : (links.remove cell).entries.lookup cell = none := by
      simp [remove, lookup_filter_ne]
    rw [reads, lookup_insertEntry hnew]
    split
    · rfl
    · next hne => rw [← reads, reads_remove, if_neg hne]

/-- A cell reads another one exactly if that one is read by it. -/
theorem mem_readers {links : Links} {cell reader : Coord} (h : links.reading.Nodup) :
    reader ∈ links.readers cell ↔ cell ∈ links.reads reader := by
  obtain ⟨entries⟩ := links
  simp only [reading, readers, reads, List.mem_map, List.mem_filter, List.contains_iff_mem] at *
  induction entries with
  | nil => simp
  | cons entry rest ih =>
    obtain ⟨key, refs⟩ := entry
    have ⟨hkey, hrest⟩ := List.nodup_cons.1 h
    have ih := ih hrest
    by_cases hreader : reader = key
    · subst hreader
      simp only [List.lookup_cons_self, Option.getD_some]
      constructor
      · rintro ⟨⟨k, r⟩, ⟨hmem, hcell⟩, rfl⟩
        rcases List.mem_cons.1 hmem with heq | hmem
        · cases heq
          exact hcell
        · exact absurd (List.mem_map_of_mem (f := Prod.fst) hmem) hkey
      · intro hcell
        exact ⟨_, ⟨List.mem_cons_self, hcell⟩, rfl⟩
    · rw [List.lookup_cons, beq_eq_false_iff_ne.2 hreader]
      refine Iff.trans ?_ ih
      constructor
      · rintro ⟨⟨k, r⟩, ⟨hmem, hcell⟩, rfl⟩
        rcases List.mem_cons.1 hmem with heq | hmem
        · cases heq
          exact absurd rfl hreader
        · exact ⟨_, ⟨hmem, hcell⟩, rfl⟩
      · rintro ⟨entry, ⟨hmem, hcell⟩, heq⟩
        exact ⟨entry, ⟨List.mem_cons_of_mem _ hmem, hcell⟩, heq⟩

/-! ## Reachability -/

/-- The cells found by following readers from the cells in `queue`, given those found before. Each
step of the search takes a cell off the queue; `fuel` bounds their number. -/
def search (links : Links) (found queue : List Coord) : Nat → List Coord
  | 0 => found
  | fuel + 1 =>
    match queue with
    | [] => found
    | cell :: queue =>
      let new := (links.readers cell).filter fun reader => !found.contains reader
      links.search (new ++ found) (queue ++ new) fuel

/-- The cells that read one of the roots, directly or through other cells, in ascending order. A
root is among them only if it does so itself. -/
def downstream (links : Links) (roots : List Coord) : List Coord :=
  Coord.ascending (links.search [] roots (roots.length + links.entries.length))

/-- The cell reads itself, directly or through other cells. -/
def onCycle (links : Links) (cell : Coord) : Bool := (links.downstream [cell]).contains cell

end Links

end Spreadsheet

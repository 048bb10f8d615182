import Mathlib.Data.Fintype.Card
import Mathlib.Data.Set.Finite.List
import Mathlib.Logic.Relation
import Spreadsheet.Dependency.Graph

/-!
# Paths along reads

A path leads from a cell to one that it reads, and on from there (`Links.Reads`). A cell on a path
back to itself is `Circular`, and one with a path to such a cell is `BelowCycle`:

* `acc_of_not_belowCycle`: from a cell that is not below a cycle, following reads comes to an end,
  because only finitely many cells are read;
* `belowCycle_of_closed`: cells that each read another one of them are below a cycle;
* `circular_congr`, `belowCycle_congr`: a change of what one cell reads makes no difference to the
  cells without a path to it.
-/

namespace Spreadsheet.Links

open Relation

/-- The cell reads the other one. -/
def Reads (links : Links) (cell ref : Coord) : Prop := ref ∈ links.reads cell

instance (links : Links) (cell ref : Coord) : Decidable (links.Reads cell ref) :=
  inferInstanceAs (Decidable (ref ∈ links.reads cell))

/-- The cell is on a cycle: it reads itself, directly or through other cells. -/
def Circular (links : Links) (cell : Coord) : Prop := TransGen links.Reads cell cell

/-- The cell is on a cycle or depends on a cell that is. -/
def BelowCycle (links : Links) (cell : Coord) : Prop :=
  ∃ ref, ReflTransGen links.Reads cell ref ∧ links.Circular ref

/-- No cell is on a cycle. -/
def Acyclic (links : Links) : Prop := ∀ cell, ¬ links.Circular cell

variable {links links' : Links} {cell ref target : Coord}

/-! ## Cells below a cycle -/

theorem Circular.belowCycle (h : links.Circular cell) : links.BelowCycle cell :=
  ⟨cell, .refl, h⟩

theorem BelowCycle.of_reads (hread : links.Reads cell ref) (h : links.BelowCycle ref) :
    links.BelowCycle cell := by
  obtain ⟨last, hpath, hlast⟩ := h
  exact ⟨last, .head hread hpath, hlast⟩

/-- A cell below a cycle reads one that is. -/
theorem BelowCycle.exists_reads (h : links.BelowCycle cell) :
    ∃ ref, links.Reads cell ref ∧ links.BelowCycle ref := by
  obtain ⟨last, hpath, hlast⟩ := h
  rcases ReflTransGen.cases_head hpath with rfl | ⟨ref, hread, hrest⟩
  · obtain ⟨ref, hread, hback⟩ := TransGen.head'_iff.1 hlast
    exact ⟨ref, hread, cell, hback, hlast⟩
  · exact ⟨ref, hread, last, hrest, hlast⟩

theorem Acyclic.not_belowCycle (h : links.Acyclic) (cell : Coord) : ¬ links.BelowCycle cell :=
  fun ⟨last, _, hlast⟩ => h last hlast

/-- A cell on a cycle reads another one on that cycle. -/
theorem Circular.exists_reads (h : links.Circular cell) :
    ∃ ref, links.Reads cell ref ∧ ReflTransGen links.Reads ref cell :=
  TransGen.head'_iff.1 h

/-! ## The end of reading -/

theorem mem_beingRead_of_reads (h : links.Reads cell ref) : ref ∈ links.beingRead := by
  obtain ⟨entries⟩ := links
  rw [Reads, reads] at h
  cases hlook : entries.lookup cell with
  | none => simp [hlook] at h
  | some refs =>
    rw [hlook, Option.getD_some] at h
    obtain ⟨before, after, rfl, -⟩ := List.lookup_eq_some_iff.1 hlook
    rw [beingRead, Coord.mem_ascending, List.mem_flatMap]
    exact ⟨(cell, refs), by simp, h⟩

/-- Paths are single steps where the cells that are read read nothing themselves. -/
theorem reads_of_transGen (h : ∀ ref ∈ links.beingRead, links.reads ref = [])
    (hpath : TransGen links.Reads cell ref) : links.Reads cell ref := by
  induction hpath with
  | single hread => exact hread
  | tail _ hread ih =>
    rw [Reads, h _ (mem_beingRead_of_reads ih)] at hread
    cases hread

/-- A record in which the cells that are read read nothing themselves is acyclic. -/
theorem acyclic_of_beingRead (h : ∀ ref ∈ links.beingRead, links.reads ref = []) :
    links.Acyclic := by
  intro cell hcycle
  have hread := reads_of_transGen h hcycle
  rw [Reads, h cell (mem_beingRead_of_reads hread)] at hread
  cases hread

/-- The cells on the paths from a cell are finitely many. -/
theorem finite_reachable (links : Links) (cell : Coord) :
    Finite { ref // ReflTransGen links.Reads cell ref } := by
  refine Set.Finite.subset (List.finite_toSet (cell :: links.beingRead)) fun ref hpath => ?_
  rcases ReflTransGen.cases_tail hpath with heq | ⟨_, -, hread⟩
  · exact heq ▸ List.mem_cons_self
  · exact List.mem_cons_of_mem _ (mem_beingRead_of_reads hread)

/-- From a cell that is not below a cycle, following reads comes to an end. -/
theorem acc_of_not_belowCycle (h : ¬ links.BelowCycle cell) :
    Acc (fun ref cell => links.Reads cell ref) cell := by
  let Reached := { ref // ReflTransGen links.Reads cell ref }
  let below (a b : Reached) : Prop := TransGen links.Reads b.1 a.1
  have : Finite Reached := finite_reachable links cell
  have : IsTrans Reached below := ⟨fun _ _ _ hab hbc => TransGen.trans hbc hab⟩
  have : Std.Irrefl below := ⟨fun a ha => h ⟨a.1, a.2, ha⟩⟩
  have hwf : WellFounded below := Finite.wellFounded_of_trans_of_irrefl below
  suffices ∀ a : Reached, Acc (fun ref cell => links.Reads cell ref) a.1 from this ⟨cell, .refl⟩
  intro a
  induction a using hwf.induction with
  | _ a ih => exact Acc.intro _ fun ref hread => ih ⟨ref, a.2.tail hread⟩ (.single hread)

/-- Cells that each read another one of them are below a cycle. -/
theorem belowCycle_of_closed {p : Coord → Prop}
    (hclosed : ∀ cell, p cell → ∃ ref, links.Reads cell ref ∧ p ref) (h : p cell) :
    links.BelowCycle cell := by
  by_contra hnot
  induction acc_of_not_belowCycle hnot with
  | intro cell _ ih =>
    obtain ⟨ref, hread, href⟩ := hclosed cell h
    exact ih ref hread href fun hbelow => hnot (.of_reads hread hbelow)

/-! ## A change of what one cell reads -/

/-- Cells without a path to `target` reach the same cells when only the reads of `target`
change. -/
theorem reachable_congr (hreads : ∀ cell, cell ≠ target → links'.reads cell = links.reads cell)
    (h : ¬ ReflTransGen links'.Reads cell target) :
    ReflTransGen links.Reads cell ref ↔ ReflTransGen links'.Reads cell ref := by
  -- A path that exists in both records has not come to the cell that changed.
  have hstep : ∀ last next, ReflTransGen links'.Reads cell last →
      (links.Reads last next ↔ links'.Reads last next) := fun last next hlast => by
    have hne : last ≠ target := fun heq => h (heq ▸ hlast)
    rw [Reads, Reads, hreads last hne]
  constructor
  · intro hpath
    induction hpath with
    | refl => exact .refl
    | tail _ hread ih => exact ih.tail ((hstep _ _ ih).1 hread)
  · intro hpath
    induction hpath with
    | refl => exact .refl
    | tail hinit hread ih => exact ih.tail ((hstep _ _ hinit).2 hread)

theorem circular_congr (hreads : ∀ cell, cell ≠ target → links'.reads cell = links.reads cell)
    (h : ¬ ReflTransGen links'.Reads cell target) : links.Circular cell ↔ links'.Circular cell := by
  rw [Circular, Circular, TransGen.tail'_iff, TransGen.tail'_iff]
  refine exists_congr fun last => ?_
  rw [reachable_congr hreads h]
  refine and_congr_right fun hlast => ?_
  have hne : last ≠ target := fun heq => h (heq ▸ hlast)
  rw [Reads, Reads, hreads last hne]

theorem belowCycle_congr (hreads : ∀ cell, cell ≠ target → links'.reads cell = links.reads cell)
    (h : ¬ ReflTransGen links'.Reads cell target) :
    links.BelowCycle cell ↔ links'.BelowCycle cell := by
  refine exists_congr fun last => ?_
  rw [reachable_congr hreads h]
  refine and_congr_right fun hlast => ?_
  exact circular_congr hreads fun hpath => h (hlast.trans hpath)

end Spreadsheet.Links

import Spreadsheet.Proofs.Sheet.Sound

/-!
# Sheets whose values are current

A sheet is `Computed` if the formulas below a cycle are errors and all others have their values; it
is `UpToDate` if at least the formulas on a cycle are errors and those not below one have their
values. Computing all formulas gives a computed sheet (`computed_recalculate`), and entering a text
keeps a sheet up to date (`UpToDate.setTextAt`), though it computes no more than the cells that
depend on the entered one.

The values of such sheets are determined by the formulas and by the other values: two sheets with
the same inputs have the same values wherever no cycle is above (`SameInputs.valueAt_eq`).
-/

namespace Spreadsheet.Sheet

open Relation

variable {s t : Sheet} {cell : Coord} {formula : Expr}

/-- Formulas below a cycle are errors, and all others have their values. -/
structure Computed (s : Sheet) : Prop where
  circular : ∀ cell, s.links.BelowCycle cell → s.valueAt cell = circularValue
  evaluated : ∀ cell formula, (s.cellAt cell).formula = some formula →
    ¬ s.links.BelowCycle cell → s.evaluate cell formula = s.valueAt cell

/-- Formulas on a cycle are errors, and those not below one have their values. -/
structure UpToDate (s : Sheet) : Prop where
  circular : ∀ cell, s.links.Circular cell → s.valueAt cell = circularValue
  evaluated : ∀ cell formula, (s.cellAt cell).formula = some formula →
    ¬ s.links.BelowCycle cell → s.evaluate cell formula = s.valueAt cell

theorem Computed.upToDate (h : s.Computed) : s.UpToDate :=
  ⟨fun cell hcell => h.circular cell hcell.belowCycle, h.evaluated⟩

/-! ## All formulas -/

theorem Linked.stuckFormulas (h : s.Linked) (cells : List Coord) :
    s.StuckFormulas (s.links.schedule cells) := fun _ hcell =>
  h.exists_formula_of_belowCycle ((s.links.places_schedule cells).belowCycle_of_mem_stuck hcell)

theorem Linked.revalued_schedule (h : s.Linked) (cells : List Coord) :
    s.Revalued (s.settled (s.links.schedule cells)) :=
  revalued_settled (h.stuckFormulas cells)

/-- A scheduled formula that is not below a cycle has its value on the settled sheet. -/
theorem Linked.evaluate_schedule (h : s.Linked) {cells : List Coord}
    (hcell : cell ∈ (s.links.schedule cells).cells)
    (hformula : (s.cellAt cell).formula = some formula) (hnot : ¬ s.links.BelowCycle cell) :
    (s.settled (s.links.schedule cells)).evaluate cell formula =
      (s.settled (s.links.schedule cells)).valueAt cell := by
  have hplaces := s.links.places_schedule cells
  have horder : cell ∈ (s.links.schedule cells).order :=
    (List.mem_append.1 hcell).resolve_right fun hstuck =>
      hnot (hplaces.belowCycle_of_mem_stuck hstuck)
  exact evaluate_settled h (h.stuckFormulas cells) (s.links.nodup_schedule cells) hplaces.inOrder
    horder hformula

/-- The cells with a formula are all that read something. -/
theorem Linked.mem_formulaCells (h : s.Linked) (hrect : s.Rectangular) (cell : Coord)
    (hreads : s.links.reads cell ≠ []) : cell ∈ s.formulaCells := by
  obtain ⟨ref, href⟩ := List.exists_mem_of_ne_nil _ hreads
  obtain ⟨formula, hformula⟩ := h.exists_formula href
  exact hrect.mem_formulaCells.2 (hformula ▸ rfl)

theorem revalued_recalculate (h : s.Linked) : s.Revalued s.recalculate.1 :=
  h.revalued_schedule s.formulaCells

/-- The cells below a cycle are those that a full computation reports as circular. -/
theorem mem_circular_recalculate (h : s.Linked) (hrect : s.Rectangular) :
    cell ∈ s.recalculate.2.circular ↔ s.links.BelowCycle cell :=
  Links.mem_stuck_schedule (h.mem_formulaCells hrect)

theorem computed_recalculate (h : s.Linked) (hrect : s.Rectangular) : s.recalculate.1.Computed := by
  have hrevalued := revalued_recalculate h
  constructor
  · intro cell hcell
    rw [hrevalued.links] at hcell
    exact valueAt_settled_of_mem_stuck (h.stuckFormulas _)
      ((mem_circular_recalculate h hrect).2 hcell)
  · intro cell formula hformula hnot
    rw [hrevalued.formula] at hformula
    rw [hrevalued.links] at hnot
    refine h.evaluate_schedule (Links.mem_cells_schedule.2 ?_) hformula hnot
    exact hrect.mem_formulaCells.2 (hformula ▸ rfl)

/-! ## The formulas that depend on one cell -/

theorem sameFrame_setTextAt (s : Sheet) (cell : Coord) (raw : String) :
    s.SameFrame (s.setTextAt cell raw).1 :=
  (s.sameFrame_install cell raw).trans (sameFrame_settled ..)

@[simp] theorem nRows_setTextAt (s : Sheet) (cell : Coord) (raw : String) :
    (s.setTextAt cell raw).1.nRows = s.nRows := (s.sameFrame_setTextAt cell raw).sameSize.nRows

@[simp] theorem nCols_setTextAt (s : Sheet) (cell : Coord) (raw : String) :
    (s.setTextAt cell raw).1.nCols = s.nCols := (s.sameFrame_setTextAt cell raw).sameSize.nCols

theorem Linked.revalued_setTextAt (h : s.Linked) (cell : Coord) (raw : String) :
    (s.install cell raw).Revalued (s.setTextAt cell raw).1 :=
  (h.install cell raw).revalued_schedule _

/-- Entering a text keeps a sheet up to date. -/
theorem UpToDate.setTextAt (h : s.UpToDate) (hlinked : s.Linked) (cell : Coord) (raw : String) :
    (s.setTextAt cell raw).1.UpToDate := by
  let u := s.install cell raw
  let t := u.settled (u.links.scheduleFrom [cell])
  have hu : u.Linked := hlinked.install cell raw
  have hrevalued : u.Revalued t := hlinked.revalued_setTextAt cell raw
  have hcells {other : Coord} : other ∈ (u.links.scheduleFrom [cell]).cells ↔
      ReflTransGen u.links.Reads other cell := by
    simp [Links.mem_cells_scheduleFrom hu.ordered]
  have hreads (other : Coord) (hne : other ≠ cell) : u.links.reads other = s.links.reads other :=
    reads_install_of_ne hne
  -- The cells that do not depend on `cell` are as they were.
  have hne {other : Coord} (hpath : ¬ ReflTransGen u.links.Reads other cell) : other ≠ cell :=
    fun heq => hpath (heq ▸ .refl)
  have hvalue {other : Coord} (hpath : ¬ ReflTransGen u.links.Reads other cell) :
      t.valueAt other = s.valueAt other := by
    have hsettled : t.valueAt other = u.valueAt other :=
      valueAt_settled_of_not_mem (hcells.not.2 hpath)
    rw [hsettled, valueAt, cellAt_install_of_ne (hne hpath), valueAt]
  change t.UpToDate
  constructor
  · intro other hcycle
    rw [hrevalued.links] at hcycle
    by_cases hpath : ReflTransGen u.links.Reads other cell
    · exact valueAt_settled_of_mem_stuck (hu.stuckFormulas _)
        (Links.mem_stuck_scheduleFrom_of_circular hu.ordered (hcells.2 hpath) hcycle)
    · rw [hvalue hpath]
      exact h.circular other ((Links.circular_congr hreads hpath).2 hcycle)
  · intro other formula hformula hnot
    rw [hrevalued.formula] at hformula
    rw [hrevalued.links] at hnot
    by_cases hpath : ReflTransGen u.links.Reads other cell
    · exact hu.evaluate_schedule (hcells.2 hpath) hformula hnot
    · have hframe : s.SameFrame t := s.sameFrame_setTextAt cell raw
      have hbefore : s.evaluate other formula = s.valueAt other := by
        refine h.evaluated other formula ?_ fun hbelow =>
          hnot ((Links.belowCycle_congr hreads hpath).1 hbelow)
        rwa [cellAt_install_of_ne (hne hpath)] at hformula
      rw [hvalue hpath, ← hbefore]
      refine hframe.sameSize.evaluate_eq fun ref href => hvalue fun hrest => hpath ?_
      rw [← (s.sameFrame_install cell raw).sameSize.nRows] at href
      exact .head ((hu.reads_iff hformula).2 href) hrest

/-! ## The inputs determine the values -/

/-- The sheets have the same formulas and the same values of cells without one. -/
structure SameInputs (s t : Sheet) : Prop extends SameSize s t where
  formula : ∀ cell, (t.cellAt cell).formula = (s.cellAt cell).formula
  value : ∀ cell, (s.cellAt cell).formula = none → t.valueAt cell = s.valueAt cell

theorem Revalued.sameInputs (h : s.Revalued t) : s.SameInputs t :=
  ⟨h.sameSize, h.formula, h.value⟩

namespace SameInputs

theorem links_eq (h : s.SameInputs t) (hs : s.Linked) (ht : t.Linked) : t.links = s.links :=
  ht.links_eq hs fun cell => by rw [readsAt, readsAt, h.formula, h.nRows]

theorem valueAt_eq (h : s.SameInputs t) (hs : s.Linked) (ht : t.Linked) (hsValues : s.UpToDate)
    (htValues : t.UpToDate) (hnot : ¬ s.links.BelowCycle cell) :
    t.valueAt cell = s.valueAt cell := by
  induction Links.acc_of_not_belowCycle hnot with
  | intro cell _ ih =>
    cases hformula : (s.cellAt cell).formula with
    | none => exact h.value cell hformula
    | some formula =>
      have hformula' : (t.cellAt cell).formula = some formula := (h.formula cell).trans hformula
      have hnot' : ¬ t.links.BelowCycle cell := by rwa [h.links_eq hs ht]
      rw [← hsValues.evaluated cell formula hformula hnot,
        ← htValues.evaluated cell formula hformula' hnot']
      refine h.evaluate_eq fun ref href => ?_
      have hread := (hs.reads_iff hformula).2 href
      exact ih ref hread fun hbelow => hnot (.of_reads hread hbelow)

/-- Computed sheets with the same inputs have the same values everywhere. -/
theorem valueAt_eq_of_computed (h : s.SameInputs t) (hs : s.Linked) (ht : t.Linked)
    (hsValues : s.Computed) (htValues : t.Computed) (cell : Coord) :
    t.valueAt cell = s.valueAt cell := by
  by_cases hbelow : s.links.BelowCycle cell
  · rw [hsValues.circular cell hbelow, htValues.circular cell (h.links_eq hs ht ▸ hbelow)]
  · exact h.valueAt_eq hs ht hsValues.upToDate htValues.upToDate hbelow

end SameInputs

end Spreadsheet.Sheet

import Spreadsheet.Proofs.Formula.Lines
import Spreadsheet.Proofs.Sheet.InStep

/-!
# Sheets whose cells have moved

A sheet is `Relocated` to another one if its cells are there, their formulas rewritten to follow the
cells, and all other cells are blank. Then the cells read each other as before
(`Relocated.reads_iff`), no cycle comes in (`Relocated.acyclic`), and a cell from which no path
leads to one that is gone has its value as before (`Relocated.valueAt_eq`).
-/

namespace Spreadsheet.Sheet

open Relation

variable {s t base : Sheet} {place? : Coord → Option Coord} {replace : Expr → Option Expr}
  {cell cell' ref ref' : Coord}

/-- The cells of the first sheet have moved to the second one, all but the values of formulas, and
the other cells there are blank. -/
structure Relocated (s t : Sheet) (place? : Coord → Option Coord)
    (replace : Expr → Option Expr) : Prop where
  functions : t.functions = s.functions
  moves : Moves s.grammar t.grammar place? replace
  formula : ∀ {cell cell'}, place? cell = some cell' →
    (t.cellAt cell').formula = (s.cellAt cell).formula.map (Expr.replaceReferences replace)
  value : ∀ {cell cell'}, place? cell = some cell' → (s.cellAt cell).formula = none →
    t.valueAt cell' = s.valueAt cell
  blank : ∀ {cell'}, (∀ cell : Coord, cell.Within s.nRows s.nCols → place? cell ≠ some cell') →
    t.cellAt cell' = .blank

namespace Relocated

/-- The values of formulas do not matter. -/
theorem revalued (h : s.Relocated base place? replace) (ht : base.Revalued t) :
    s.Relocated t place? replace where
  functions := ht.functions.trans h.functions
  moves := ht.sameSize.grammar ▸ h.moves
  formula hplace := (ht.formula _).trans (h.formula hplace)
  value {cell cell'} hplace hnone := by
    refine (ht.value cell' ?_).trans (h.value hplace hnone)
    rw [h.formula hplace, hnone, Option.map_none]
  blank {cell'} hnew := by
    have hblank := h.blank hnew
    have hvalue : t.valueAt cell' = base.valueAt cell' := ht.value cell' (hblank ▸ rfl)
    calc t.cellAt cell' = ⟨(t.cellAt cell').raw, (t.cellAt cell').formula, t.valueAt cell'⟩ := rfl
      _ = base.cellAt cell' := by rw [ht.raw, ht.formula, hvalue]; rfl
      _ = .blank := hblank

/-- Nor does it matter that the sheet is computed anew. -/
theorem rebuild (h : s.Relocated base place? replace) (hbase : base.Rectangular) :
    s.Relocated base.rebuild.1 place? replace := by
  obtain ⟨links, -, hrevalued⟩ := revalued_rebuild hbase
  have hrelinked : s.Relocated { base with links } place? replace :=
    ⟨h.functions, h.moves, h.formula, h.value, h.blank⟩
  exact hrelinked.revalued hrevalued

/-- A cell with a formula was there before. -/
theorem exists_of_formula (h : s.Relocated t place? replace) {formula : Expr}
    (hformula : (t.cellAt cell').formula = some formula) :
    ∃ cell : Coord, cell.Within s.nRows s.nCols ∧ place? cell = some cell' := by
  by_contra hnone
  rw [h.blank fun cell hcell hplace => hnone ⟨cell, hcell, hplace⟩] at hformula
  cases hformula

/-! ## Reads -/

/-- A cell that is left reads one that is left if it did before. -/
theorem reads_iff (h : s.Relocated t place? replace) (hs : s.InStep) (ht : t.Linked)
    (hcell : place? cell = some cell') (hwithin : ref.Within s.nRows s.nCols)
    (href : place? ref = some ref') : t.links.Reads cell' ref' ↔ s.links.Reads cell ref := by
  have hformula' := h.formula hcell
  cases hformula : (s.cellAt cell).formula with
  | none =>
    rw [hformula] at hformula'
    refine iff_of_false (fun hread => ?_) fun hread => ?_
    · obtain ⟨formula, hsome⟩ := ht.exists_formula hread
      rw [hsome] at hformula'
      cases hformula'
    · obtain ⟨formula, hsome⟩ := hs.linked.exists_formula hread
      rw [hsome] at hformula
      cases hformula
  | some formula =>
    rw [hformula] at hformula'
    obtain ⟨lowercase, hplaced⟩ := hs.exists_placed hformula
    rw [ht.reads_iff hformula', hs.linked.reads_iff hformula]
    exact h.moves.mem_reads hplaced hcell hwithin href

/-- No cycle comes in. -/
theorem acyclic (h : s.Relocated t place? replace) (hs : s.InStep) (ht : t.Linked)
    (hacyclic : s.links.Acyclic) : t.links.Acyclic := by
  have himage {cell' : Coord} (hbelow : t.links.BelowCycle cell') :
      ∃ cell : Coord, cell.Within s.nRows s.nCols ∧ place? cell = some cell' := by
    obtain ⟨formula, hformula⟩ := ht.exists_formula_of_belowCycle hbelow
    exact h.exists_of_formula hformula
  intro cell' hcycle
  obtain ⟨cell, -, hplace⟩ := himage hcycle.belowCycle
  -- The cells that have moved below a cycle each read another one that has.
  refine hacyclic.not_belowCycle cell (Links.belowCycle_of_closed
    (p := fun cell => ∃ cell', place? cell = some cell' ∧ t.links.BelowCycle cell') ?_
    ⟨cell', hplace, hcycle.belowCycle⟩)
  rintro cell ⟨cell', hplace, hbelow⟩
  obtain ⟨ref', hread, hbelow⟩ := hbelow.exists_reads
  obtain ⟨ref, hwithin, href⟩ := himage hbelow
  exact ⟨ref, (h.reads_iff hs ht hplace hwithin href).1 hread, ref', href, hbelow⟩

/-! ## Values -/

/-- A cell has its value as before if all cells are left that its value depends on. -/
theorem valueAt_eq (h : s.Relocated t place? replace) (hs : s.InStep) (ht : t.Linked)
    (hfunctions : s.functions.IgnoresBlanks) (hacyclic : s.links.Acyclic) (hsValues : s.UpToDate)
    (htValues : t.UpToDate) (hplace : place? cell = some cell')
    (hleft : ∀ ref, TransGen s.links.Reads cell ref → (place? ref).isSome) :
    t.valueAt cell' = s.valueAt cell := by
  induction Links.acc_of_not_belowCycle (hacyclic.not_belowCycle cell) generalizing cell' with
  | intro cell _ ih =>
    cases hformula : (s.cellAt cell).formula with
    | none => exact h.value hplace hformula
    | some formula =>
      have hformula' : (t.cellAt cell').formula = some (formula.replaceReferences replace) := by
        rw [h.formula hplace, hformula, Option.map_some]
      have hwithin : cell.Within s.nRows s.nCols :=
        hs.rectangular.within_iff.2 (exists_get?_of_formula hformula)
      obtain ⟨lowercase, hplaced⟩ := hs.exists_placed hformula
      rw [← hsValues.evaluated cell formula hformula (hacyclic.not_belowCycle cell),
        ← htValues.evaluated cell' _ hformula' ((h.acyclic hs ht hacyclic).not_belowCycle cell')]
      have heval : (formula.replaceReferences replace).eval s.functions t.source (some cell') =
          formula.eval s.functions s.source (some cell) := by
        refine h.moves.eval_eq hfunctions hplaced hwithin hplace (fun ref href => ?_)
          fun _ hnew => congrArg Cell.value (h.blank hnew)
        have hread : s.links.Reads cell ref := (hs.linked.reads_iff hformula).2 href
        obtain ⟨ref', href'⟩ := Option.isSome_iff_exists.1 (hleft ref (.single hread))
        rw [href', Option.map_some, ih ref hread href']
        exact fun other hpath => hleft other (.head hread hpath)
      rw [evaluate, evaluate, h.functions, heval]

end Relocated

/-! ## Rows and columns -/

variable {grown : Sheet}

theorem Relined.cellAt_adjustFormulas {edit : LineEdit} (h : s.Relined grown edit)
    (hplace : edit.place? cell = some cell') :
    (grown.adjustFormulas edit).cellAt cell' = grown.adjustCell edit (s.cellAt cell) := by
  rw [grown.cellAt_adjustFormulas, h.carried.cellAt hplace]

/-- When a row or column comes or goes, the cells move and the formulas follow. -/
theorem Relined.relocated {edit : LineEdit} (h : s.Relined grown edit) (hs : s.Rectangular)
    (hrows : ∀ index, edit = .insert .row index → 2 ≤ s.nRows) :
    s.Relocated (grown.adjustFormulas edit) edit.place? edit.reference? where
  functions := h.functions
  moves := by
    rw [grammar_adjustFormulas, h.grammar]
    exact LineEdit.moves h.allows fun index hinsert => Int.ofNat_le.2 (hrows index hinsert)
  formula hplace := by rw [h.cellAt_adjustFormulas hplace, formula_adjustCell]
  value hplace _ := by rw [valueAt, h.cellAt_adjustFormulas hplace, value_adjustCell, valueAt]
  blank hnew := by
    rw [grown.cellAt_adjustFormulas, h.carried.cellAt_eq_blank hs hnew]
    rfl

/-- When a sheet grows at its end, the cells and formulas stay as they are. -/
theorem Carried.relocated (h : s.Carried grown some) (hs : s.Rectangular) (hgrown : s.Regrown grown)
    (hcols : s.nCols ≤ grown.nCols) (hrows : s.nRows ≤ grown.nRows) (htwo : 2 ≤ s.nRows) :
    s.Relocated grown some fun _ => none where
  functions := hgrown.functions
  moves := .of_le (Int.ofNat_le.2 hrows) (Int.ofNat_le.2 hcols) (Int.ofNat_le.2 htwo)
  formula hplace := by
    rw [h.cellAt hplace, funext Expr.replaceReferences_none]
    exact Option.map_id'.symm
  value hplace _ := congrArg Cell.value (h.cellAt hplace)
  blank := h.cellAt_eq_blank hs

end Spreadsheet.Sheet

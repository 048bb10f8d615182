import Mathlib
import Spreadsheet.Proofs.Formula.Builtin
import Spreadsheet.Proofs.Sheet.Edit

/-!
# Reachable sheets

A sheet is `Consistent` if it is sound, linked and up to date. Edits keep this
(`Consistent.effect`) and new sheets have it, so all sheets have it that are `Reachable` from a new
one by edits (`Reachable.consistent`).

`Recomputed.computed` and the lemmas beside it say what an edit that computes all formulas leaves
and reports.
-/

namespace Spreadsheet

namespace Sheet

variable {s t : Sheet} {cell : Coord} {r : Recalc} {report : Option Recalc} {functions : Registry}

/-- The sheet is sound, linked and up to date. -/
structure Consistent (s : Sheet) : Prop where
  sound : s.Sound
  linked : s.Linked
  upToDate : s.UpToDate

/-! ## All formulas computed -/

namespace Recomputed

theorem exists_base (h : s.Recomputed t r) : ∃ base : Sheet, base.Sound ∧ base.Linked ∧
    base.functions = s.functions ∧ base.recalculate.1 = t ∧ base.recalculate.2 = r := by
  obtain ⟨base, hsound, hlinked, hfunctions, hrun⟩ := h
  exact ⟨base, hsound, hlinked, hfunctions, congrArg Prod.fst hrun, congrArg Prod.snd hrun⟩

theorem computed (h : s.Recomputed t r) : t.Computed := by
  obtain ⟨base, hsound, hlinked, -, rfl, -⟩ := h.exists_base
  exact computed_recalculate hlinked hsound.rectangular

theorem consistent (h : s.Recomputed t r) : t.Consistent := by
  obtain ⟨base, hsound, hlinked, -, rfl, -⟩ := h.exists_base
  exact ⟨hsound.settled (hlinked.stuckFormulas _), (revalued_recalculate hlinked).linked hlinked,
    h.computed.upToDate⟩

theorem functions_eq (h : s.Recomputed t r) : t.functions = s.functions := by
  obtain ⟨base, -, hlinked, hfunctions, rfl, -⟩ := h.exists_base
  exact (revalued_recalculate hlinked).functions.trans hfunctions

/-- The circular cells of the report are those below a cycle. -/
theorem mem_circular (h : s.Recomputed t r) : cell ∈ r.circular ↔ t.links.BelowCycle cell := by
  obtain ⟨base, hsound, hlinked, -, rfl, rfl⟩ := h.exists_base
  rw [mem_circular_recalculate hlinked hsound.rectangular, (revalued_recalculate hlinked).links]

/-- The computed cells of the report are those with a formula. -/
theorem mem_recomputed (h : s.Recomputed t r) :
    cell ∈ r.recomputed ↔ (t.cellAt cell).formula.isSome := by
  obtain ⟨base, hsound, hlinked, -, rfl, rfl⟩ := h.exists_base
  rw [(revalued_recalculate hlinked).formula, ← hsound.rectangular.mem_formulaCells]
  exact Links.mem_cells_schedule

theorem nodup_recomputed (h : s.Recomputed t r) : r.recomputed.Nodup := by
  obtain ⟨base, -, -, -, -, rfl⟩ := h.exists_base
  exact base.links.nodup_schedule _

/-- Computing all formulas leaves the same values wherever the inputs are the same. -/
theorem valueAt_eq {s' t' : Sheet} {r' : Recalc} (h : s.Recomputed t r) (h' : s'.Recomputed t' r')
    (hinputs : t.SameInputs t') (cell : Coord) : t'.valueAt cell = t.valueAt cell :=
  hinputs.valueAt_eq_of_computed h.consistent.linked h'.consistent.linked h.computed h'.computed
    cell

end Recomputed

/-! ## Edits -/

namespace Consistent

/-- Names and widths of columns and fixed rows do not matter. -/
theorem relabel (h : s.Consistent) {columns : List Column} (fixedRows : Nat)
    (hcolumns : columns.length = s.columns.length) :
    Consistent { s with columns, fixedRows } := by
  have hsize : s.SameSize { s with columns, fixedRows } := ⟨rfl, hcolumns, rfl⟩
  refine ⟨⟨h.sound.lawful, fun row hrow => ?_, h.sound.cells⟩, ⟨h.linked.ordered, h.linked.reads⟩,
    h.upToDate.circular, fun cell formula hformula hnot => ?_⟩
  · exact (h.sound.rectangular row hrow).trans hcolumns.symm
  · exact (hsize.evaluate_eq fun _ _ => rfl).trans (h.upToDate.evaluated cell formula hformula hnot)

theorem setTextAt (h : s.Consistent) (hcell : cell.Within s.nRows s.nCols) (raw : String) :
    (s.setTextAt cell raw).1.Consistent := by
  have hlinked := h.linked.install cell raw
  have hsound : (s.install cell raw).Sound :=
    h.sound.install (h.sound.rectangular.within_iff.1 hcell)
  exact ⟨hsound.settled (hlinked.stuckFormulas _),
    (h.linked.revalued_setTextAt cell raw).linked hlinked,
    h.upToDate.setTextAt h.linked cell raw⟩

/-- What an edit makes of a consistent sheet is consistent. -/
theorem effect (h : s.Consistent) (heffect : Edit.Effect s t report) :
    t.Consistent ∧ t.functions = s.functions := by
  cases heffect with
  | entered cell raw hcell =>
    exact ⟨h.setTextAt hcell raw, (s.sameFrame_setTextAt cell raw).functions⟩
  | computed hrecomputed => exact ⟨hrecomputed.consistent, hrecomputed.functions_eq⟩
  | relabelled columns fixedRows hcolumns => exact ⟨h.relabel fixedRows hcolumns, rfl⟩

theorem run (h : s.Consistent) {edit : Edit} (hrun : edit.run s = .ok (t, report)) :
    t.Consistent ∧ t.functions = s.functions :=
  h.effect (Edit.effect h.sound h.linked hrun)

end Consistent

/-! ## New sheets -/

theorem cellAt_blank (nRows nCols : Nat) (options : Options) (functions : Registry) (cell : Coord) :
    (blank nRows nCols options functions).cellAt cell = .blank := by
  refine (forall_cellAt (p := (· = .blank)) rfl).2 (fun row hrow c hc => ?_) cell
  obtain rfl := List.eq_of_mem_replicate hrow
  exact List.eq_of_mem_replicate hc

theorem consistent_blank (nRows nCols : Nat) (options : Options) (hlawful : functions.Lawful) :
    (blank nRows nCols options functions).Consistent where
  sound := by
    refine sound_of_rows hlawful fun row hrow => ?_
    obtain rfl := List.eq_of_mem_replicate hrow
    refine ⟨?_, fun c => sound_of_mem_replicate⟩
    exact List.length_replicate.trans List.length_replicate.symm
  linked := by
    refine ⟨Links.ordered_empty, fun cell => ?_⟩
    rw [readsAt, cellAt_blank]
    rfl
  upToDate := by
    constructor
    · intro cell hcycle
      obtain ⟨ref, hread, -⟩ := hcycle.exists_reads
      cases hread
    · intro cell formula hformula
      rw [cellAt_blank] at hformula
      cases hformula

/-- What naming a column keeps, naming some of them keeps. -/
theorem nameColumns_induction {p : Sheet → Prop} {names : List (Option String)} (hp : p s)
    (hname : ∀ {u v : Sheet} {col : Int} {name : String}, p u →
      u.setColumnName col name = .ok v → p v) (h : s.nameColumns names = .ok t) : p t := by
  rw [nameColumns] at h
  generalize names.zipIdx = labels at h
  induction labels generalizing s with
  | nil =>
    cases h
    exact hp
  | cons label labels ih =>
    obtain ⟨name, col⟩ := label
    obtain ⟨u, hfirst, hrest⟩ := bind_eq_ok.1 h
    cases name with
    | none =>
      cases hfirst
      exact ih hp hrest
    | some name => exact ih (hname hp hfirst) hrest

theorem nameColumns_eq_ok {names : List (Option String)} (h : s.nameColumns names = .ok t) :
    ∃ columns : List Column, columns.length = s.columns.length ∧ { s with columns } = t := by
  refine nameColumns_induction (p := fun u => ∃ columns : List Column,
    columns.length = s.columns.length ∧ { s with columns } = u) ⟨s.columns, rfl, rfl⟩ ?_ h
  rintro u v col name ⟨columns, hcolumns, rfl⟩ hname
  obtain ⟨others, hothers, rfl⟩ := setColumnName_eq_ok hname
  exact ⟨others, hothers.trans hcolumns, rfl⟩

/-- A new sheet is a blank one some of whose columns were named. -/
theorem nameColumns_of_make {nRows nCols : Int} {names : List (Option String)} {options : Options}
    (h : make nRows nCols names options functions = .ok s) :
    (blank nRows.toNat nCols.toNat options functions).nameColumns names = .ok s := by
  unfold make at h
  split at h
  · cases h
  split at h
  · cases h
  cases hnames : (blank nRows.toNat nCols.toNat options functions).nameColumns names with
  | error fault =>
    rw [hnames] at h
    cases h
  | ok t =>
    rw [hnames] at h
    cases h
    rfl

/-- A new sheet is a blank one whose columns have names. -/
theorem make_eq_ok {nRows nCols : Int} {names : List (Option String)} {options : Options}
    (h : make nRows nCols names options functions = .ok s) :
    ∃ columns : List Column, columns.length = nCols.toNat ∧
      { blank nRows.toNat nCols.toNat options functions with columns } = s := by
  obtain ⟨columns, hcolumns, hs⟩ := nameColumns_eq_ok (nameColumns_of_make h)
  exact ⟨columns, hcolumns.trans List.length_replicate, hs⟩

theorem make_unnamed (nRows nCols : Nat) (options : Options) (functions : Registry) :
    make nRows nCols [] options functions = .ok (blank nRows nCols options functions) := by
  rw [make, if_neg (by omega), if_neg (by simp), Int.toNat_natCast, Int.toNat_natCast]
  rfl

theorem consistent_of_make {nRows nCols : Int} {names : List (Option String)} {options : Options}
    (hlawful : functions.Lawful) (h : make nRows nCols names options functions = .ok s) :
    s.Consistent ∧ s.functions = functions := by
  obtain ⟨columns, hcolumns, rfl⟩ := make_eq_ok h
  have hblank := consistent_blank nRows.toNat nCols.toNat options hlawful
  exact ⟨hblank.relabel 0 (hcolumns.trans List.length_replicate.symm), rfl⟩

end Sheet

/-- The sheets that edits make of new ones. -/
inductive Reachable (functions : Registry) : Sheet → Prop
  | make {nRows nCols : Int} {names : List (Option String)} {options : Options} {s : Sheet}
      (h : Sheet.make nRows nCols names options functions = .ok s) : Reachable functions s
  | ofRows {rows : List (List String)} {names : List (Option String)} {options : Options}
      {s : Sheet} (h : Sheet.ofRows rows names options functions = .ok s) : Reachable functions s
  | edit {s t : Sheet} {report : Option Recalc} (edit : Edit) (h : Reachable functions s)
      (hrun : edit.run s = .ok (t, report)) : Reachable functions t

/-- What new empty sheets have and edits keep, all reachable sheets have: texts are loaded into an
empty sheet as by an edit. -/
theorem Reachable.of_make_of_run {functions : Registry} {p : Sheet → Prop}
    (hmake : ∀ {nRows nCols : Int} {names : List (Option String)} {options : Options} {s : Sheet},
      Sheet.make nRows nCols names options functions = .ok s → p s)
    (hrun : ∀ {s t : Sheet} {edit : Edit} {report : Option Recalc}, p s →
      edit.run s = .ok (t, report) → p t) {s : Sheet} (h : Reachable functions s) : p s := by
  induction h with
  | make h => exact hmake h
  | edit edit _ hedit ih => exact hrun ih hedit
  | @ofRows rows names options s h =>
    obtain ⟨start, hstart, h⟩ := bind_eq_ok.1 h
    simp only at h
    split at h
    · next t r hload =>
      cases h
      have hedit : Edit.run start (.load _) = .ok (s, some r) := congrArg (Except.map _) hload
      exact hrun (hmake hstart) hedit
    · cases h

/-- With lawful functions all reachable sheets are consistent. -/
theorem Reachable.consistent {functions : Registry} {s : Sheet} (hlawful : functions.Lawful)
    (h : Reachable functions s) : s.Consistent ∧ s.functions = functions := by
  refine h.of_make_of_run (Sheet.consistent_of_make hlawful) fun hs hrun => ?_
  obtain ⟨ht, htFunctions⟩ := hs.1.run hrun
  exact ⟨ht, htFunctions.trans hs.2⟩

theorem Reachable.setTextAt {functions : Registry} {s : Sheet} (h : Reachable functions s)
    (cell : Coord) (hcell : cell.Within s.nRows s.nCols) (raw : String) :
    Reachable functions (s.setTextAt cell raw).1 := .edit _ h (Edit.run_setText hcell raw)

/-! ## A sheet with a cycle -/

namespace Sheet

/-- A sheet of two rows and two columns: `A1` is on a cycle, `B1` was entered after it and reads it,
`A2` has a text and `B2` reads that. -/
def sample : Sheet :=
  let first := ((blank 2 2 .standard .builtin).setTextAt ⟨0, 0⟩ "=A1").1
  let second := (first.setTextAt ⟨0, 1⟩ "=A1:A2").1
  let third := (second.setTextAt ⟨1, 0⟩ "x").1
  (third.setTextAt ⟨1, 1⟩ "=A2").1

theorem reachable_sample : Reachable .builtin sample := by
  have hstart : Reachable .builtin (blank 2 2 .standard .builtin) :=
    @Reachable.make .builtin 2 2 [] .standard _ rfl
  have hfirst := hstart.setTextAt ⟨0, 0⟩ (by decide) "=A1"
  have hsecond := hfirst.setTextAt ⟨0, 1⟩ (by simp only [nRows_setTextAt, nCols_setTextAt]; decide)
    "=A1:A2"
  have hthird := hsecond.setTextAt ⟨1, 0⟩
    (by simp only [nRows_setTextAt, nCols_setTextAt]; decide) "x"
  exact hthird.setTextAt ⟨1, 1⟩ (by simp only [nRows_setTextAt, nCols_setTextAt]; decide) "=A2"

theorem options_sample : sample.options = .standard := by
  cbv

theorem rows_sample : sample.rows =
    [[⟨"=A1", some (.cell ⟨0, 0⟩ false), circularValue⟩,
      ⟨"=A1:A2", some (.range 0 0 1 0 false),
        .error (.of .type "range used where a single value is expected")⟩],
      [⟨"x", none, .text "x"⟩, ⟨"=A2", some (.cell ⟨1, 0⟩ false), .text "x"⟩]] := by
  cbv

theorem formula_sample : (sample.cellAt ⟨0, 0⟩).formula = some (.cell ⟨0, 0⟩ false) ∧
    (sample.cellAt ⟨0, 1⟩).formula = some (.range 0 0 1 0 false) ∧
    (sample.cellAt ⟨1, 1⟩).formula = some (.cell ⟨1, 0⟩ false) := by
  rw [cellAt, cellAt, cellAt, rows_sample]
  exact ⟨rfl, rfl, rfl⟩

theorem links_sample : sample.links =
    ⟨[(⟨0, 0⟩, [⟨0, 0⟩]), (⟨0, 1⟩, [⟨0, 0⟩, ⟨1, 0⟩]), (⟨1, 1⟩, [⟨1, 0⟩])]⟩ := by
  cbv

theorem circular_sample : sample.links.Circular ⟨0, 0⟩ := by
  rw [links_sample]
  exact .single (by decide)

theorem belowCycle_sample : sample.links.BelowCycle ⟨0, 1⟩ := by
  refine circular_sample.belowCycle.of_reads ?_
  rw [links_sample]
  decide

theorem not_belowCycle_sample : ¬ sample.links.BelowCycle ⟨1, 1⟩ := by
  rw [links_sample]
  intro h
  obtain ⟨ref, hread, hbelow⟩ := h.exists_reads
  obtain rfl : ref = ⟨1, 0⟩ := List.mem_singleton.1 hread
  obtain ⟨_, hread, -⟩ := hbelow.exists_reads
  cases hread

end Sheet

end Spreadsheet

import Mathlib
import Spreadsheet.Proofs.Formula.Position
import Spreadsheet.Proofs.Formula.Totality
import Spreadsheet.Proofs.Sheet.InStep
import Spreadsheet.Proofs.Sheet.Values

/-!
# Entering a text does not fail

`Sheet.cellAt` has a blank cell where the table has none, and `Sheet.evaluate` an error for a tree
without value. `Sheet.settled?` settles a schedule without either: it fails where a cell is missing
or a formula has no value. On a reachable sheet it never does when a text is entered
(`Reachable.setText_total`).
-/

namespace Spreadsheet

open Relation

namespace Sheet

variable {s : Sheet} {cell other : Coord} {formula : Expr} {schedule : Schedule} {raw : String}

/-! ## Settling with checks -/

/-- The sheet as its formulas see it, without values where there is no cell. -/
def storedSource (s : Sheet) : Source where
  nRows := s.nRows
  nCols := s.nCols
  valueAt cell :=
    match s.rows.get? cell with
    | some c => .ok c.value
    | none => .error .outside

/-- The sheet with the value of a cell computed, if there is such a cell and its formula, if it has
one, has a value. -/
def evaluateCell? (s : Sheet) (cell : Coord) : Except EvalFault Sheet :=
  match s.rows.get? cell with
  | some c =>
    match c.formula with
    | some formula => do
      return s.setValue cell (← formula.eval s.functions s.storedSource (some cell))
    | none => .ok s
  | none => .error (.missingCell .outside)

/-- The sheet with a cell marked as circular, if there is such a cell. -/
def markCircular? (s : Sheet) (cell : Coord) : Except EvalFault Sheet :=
  match s.rows.get? cell with
  | some _ => .ok (s.setValue cell circularValue)
  | none => .error (.missingCell .outside)

/-- The sheet with the cells of a schedule computed, if all of them are there and all of their
formulas have values. -/
def settled? (s : Sheet) (schedule : Schedule) : Except EvalFault Sheet := do
  schedule.stuck.foldlM markCircular? (← schedule.order.foldlM evaluateCell? s)

/-- The stored values of cells on the sheet are those that its formulas see. -/
theorem Rectangular.valueAt_storedSource (h : s.Rectangular)
    (hcell : cell.Within s.nRows s.nCols) : s.storedSource.valueAt cell = .ok (s.valueAt cell) := by
  obtain ⟨c, hc⟩ := h.within_iff.1 hcell
  rw [storedSource, valueAt, cellAt_of_get? hc]
  simp only [hc]

/-- The formulas of a sheet that is in step read nothing but its cells. -/
theorem InStep.eval_storedSource (h : s.InStep)
    (hformula : (s.cellAt cell).formula = some formula) :
    formula.eval s.functions s.storedSource (some cell) =
      formula.eval s.functions s.source (some cell) := by
  obtain ⟨lowercase, hplaced⟩ := h.exists_placed hformula
  refine Expr.eval_congr ⟨rfl, rfl, fun ref href => ?_⟩
  exact h.rectangular.valueAt_storedSource (within_of_mem_reads hplaced href)

theorem evaluateCell?_eq_ok (hs : s.Sound) (h : s.InStep) (hcell : cell.Within s.nRows s.nCols) :
    s.evaluateCell? cell = .ok (s.evaluateCell cell) := by
  obtain ⟨c, hc⟩ := h.rectangular.within_iff.1 hcell
  have hcellAt := cellAt_of_get? hc
  rw [evaluateCell?, evaluateCell, hc, hcellAt]
  cases hformula : c.formula with
  | none => simp only [hformula]
  | some formula =>
    rw [← hcellAt] at hformula
    have hvalue := (hs.eval_eq_ok hformula).1
    rw [← h.eval_storedSource hformula] at hvalue
    rw [hcellAt] at hformula
    simp only [hformula, hvalue]
    rfl

theorem foldlM_markCircular? {stuck : List Coord} (h : s.Rectangular)
    (hcells : ∀ cell ∈ stuck, cell.Within s.nRows s.nCols) :
    stuck.foldlM markCircular? s = .ok (s.settled ⟨[], stuck⟩) := by
  induction stuck generalizing s with
  | nil => rfl
  | cons first stuck ih =>
    obtain ⟨hfirst, hcells⟩ := List.forall_mem_cons.1 hcells
    obtain ⟨c, hc⟩ := h.within_iff.1 hfirst
    have hmark : s.markCircular? first = .ok (s.setValue first circularValue) := by
      rw [markCircular?, hc]
    have hframe : s.SameFrame (s.setValue first circularValue) := s.sameFrame_modifyCell first _
    rw [← hframe.sameSize.nRows, ← hframe.sameSize.nCols] at hcells
    rw [List.foldlM_cons, hmark]
    exact ih (hframe.rectangular h) hcells

/-- Settling with checks does not fail on a sound sheet that is in step, with cells of the sheet on
the schedule. -/
theorem settled?_eq_ok (hs : s.Sound) (h : s.InStep)
    (hcells : ∀ cell ∈ schedule.cells, cell.Within s.nRows s.nCols) :
    s.settled? schedule = .ok (s.settled schedule) := by
  obtain ⟨order, stuck⟩ := schedule
  induction order generalizing s with
  | nil => exact foldlM_markCircular? h.rectangular hcells
  | cons first order ih =>
    obtain ⟨hfirst, hcells⟩ := List.forall_mem_cons.1 hcells
    have hrevalued := s.revalued_evaluateCell first
    rw [← hrevalued.sameSize.nRows, ← hrevalued.sameSize.nCols] at hcells
    rw [settled?, List.foldlM_cons, evaluateCell?_eq_ok hs h hfirst]
    exact ih (hs.evaluateCell first) (h.revalued hrevalued) hcells

/-! ## Entering a text -/

/-- The cells that depend on a cell of the sheet lie on the sheet. -/
theorem InStep.within_of_path (h : s.InStep) (hcell : cell.Within s.nRows s.nCols)
    (hpath : ReflTransGen s.links.Reads other cell) : other.Within s.nRows s.nCols := by
  rcases ReflTransGen.cases_head hpath with rfl | ⟨ref, hread, -⟩
  · exact hcell
  · obtain ⟨formula, hformula⟩ := h.linked.exists_formula hread
    exact h.rectangular.within_iff.2 (exists_get?_of_formula hformula)

/-- Nothing fails when the cells that depend on an entered text are settled. -/
theorem InStep.settled?_install (h : s.InStep) (hs : s.Sound)
    (hcell : cell.Within s.nRows s.nCols) (raw : String) :
    (s.install cell raw).settled? ((s.install cell raw).links.scheduleFrom [cell]) =
      .ok (s.setTextAt cell raw).1 := by
  have hstep : (s.install cell raw).InStep := h.install hcell
  have hsound : (s.install cell raw).Sound := hs.install (h.rectangular.within_iff.1 hcell)
  have hsize := (s.sameFrame_install cell raw).sameSize
  refine settled?_eq_ok hsound hstep fun other hother => ?_
  obtain ⟨root, hroot, hpath⟩ := (Links.mem_cells_scheduleFrom hstep.linked.ordered).1 hother
  rw [List.mem_singleton.1 hroot] at hpath
  rw [← hsize.nRows, ← hsize.nCols] at hcell
  exact hstep.within_of_path hcell hpath

end Sheet

open Sheet

variable {s : Sheet} {cell : Coord}

/-- No formula makes an edit fail. Any text can be entered in any cell of a reachable sheet, and
every cell that is then computed is there and has a value. Whatever text is read, on a sheet of any
size and with any functions, either a formula is read or a fault is reported at a character of the
text or at its end; the words that are taken for numbers spell numbers, those of digits alone whole
ones. A formula that was read has a value on every source that has the cells its size promises,
wherever it stands. -/
theorem Reachable.setText_total (h : Reachable .builtin s) (hcell : cell.Within s.nRows s.nCols) :
    (∀ raw, ∃ t r, s.setText cell raw = .ok (t, r) ∧
      (s.install cell raw).settled? ((s.install cell raw).links.scheduleFrom [cell]) = .ok t) ∧
    (∀ (g : Grammar) (text : String), (∃ e, g.parse text = .ok e) ∨
      ∃ fault, g.parse text = .error fault ∧ fault.position ≤ text.length) ∧
    (∀ (text : String) (tokens : List Token), tokenize text = .ok tokens →
      ∀ token ∈ tokens, ∀ spelling, token.lexeme = .number spelling →
        (Numeral.read? spelling.toList).isSome ∧
          (Text.allDigits spelling.toList → ∀ c ∈ spelling.toList, Text.isDecimal c)) ∧
    (∀ (nRows nCols : Int) (text : String) (e : Expr),
      (⟨nRows, nCols, .builtin⟩ : Grammar).parse text = .ok e →
        ∀ source : Source, source.Complete → ∀ origin,
          ∃ value, e.eval .builtin source origin = .ok value) := by
  obtain ⟨hs, -⟩ := h.consistent Registry.lawful_builtin
  obtain ⟨hstep, -⟩ := h.inStep
  refine ⟨fun raw => ?_, fun g text => ?_, fun text tokens htokens token ht spelling hlexeme => ?_,
    fun nRows nCols text e hparse source hsource origin => ?_⟩
  · exact ⟨_, _, setText_of_within hcell raw, hstep.settled?_install hs.sound hcell raw⟩
  · cases hparse : g.parse text with
    | ok e => exact .inl ⟨e, rfl⟩
    | error fault => exact .inr ⟨fault, rfl, Grammar.position_le_of_parse hparse⟩
  · have hformed := formed_of_tokensFrom htokens token ht
    rw [hlexeme] at hformed
    exact ⟨hformed.isSome_read?, fun hdigits => (Grammar.isDecimal_of_allDigits hformed hdigits).2⟩
  · exact Grammar.exists_eval_of_parse hparse Registry.keeps_builtin hsource origin

theorem setText_total_sample :
    (∃ t r, sample.setText ⟨1, 0⟩ "=B1" = .ok (t, r) ∧
      (sample.install ⟨1, 0⟩ "=B1").settled?
        ((sample.install ⟨1, 0⟩ "=B1").links.scheduleFrom [⟨1, 0⟩]) = .ok t) ∧
    ∃ value, Expr.eval .builtin sample.source none (.cell ⟨1, 0⟩ false) = .ok value := by
  have hcell : Coord.Within ⟨1, 0⟩ sample.nRows sample.nCols :=
    reachable_sample.inStep.1.rectangular.within_iff.2 ⟨_, by rw [rows_sample]; rfl⟩
  obtain ⟨htext, -, -, heval⟩ := reachable_sample.setText_total hcell
  refine ⟨htext "=B1", heval 2 2 "A2" _ (by cbv) sample.source (fun cell _ => ⟨_, rfl⟩) none⟩

end Spreadsheet

import Spreadsheet.Proofs.Formula.Definite
import Spreadsheet.Proofs.Sheet.Settle
import Spreadsheet.Sheet.Structure

/-!
# Sound sheets

A cell is `Sound` if its formula and its value are such as its text allows: a text that is no
formula has no tree and the value of a literal, a formula that cannot be read has an error for
value, and all formulas that can are evaluable. On a `Sound` sheet with lawful functions every
formula has a value (`Sound.eval_eq_ok`), so settling keeps the sheet sound (`Sound.settled`).

Entering a text keeps a sheet sound and linked (`Sound.install`, `Linked.install`), and linking all
cells anew makes a rectangular sheet linked (`relink_spec`).
-/

namespace Spreadsheet

/-- The formula and the value of a cell are such as its text allows. -/
structure Cell.Sound (options : Options) (functions : Registry) (c : Cell) : Prop where
  literal : options.formulaBody? c.raw = none → c.formula = none ∧ c.value = .ofLiteral c.raw
  unreadable : options.isFormula c.raw → c.formula = none →
    ∃ e : CellError, e.kind = .parse ∧ c.value = .error e
  evaluable : ∀ formula, c.formula = some formula → formula.Evaluable functions
  definite : c.value.Definite

namespace Cell.Sound

variable {options : Options} {functions : Registry} {c : Cell} {formula : Expr}

theorem blank (options : Options) (functions : Registry) : Cell.blank.Sound options functions where
  literal _ := ⟨rfl, by simp [Cell.blank, Value.ofLiteral, Text.allBlank]⟩
  unreadable h := by simp [Cell.blank, Options.isFormula, Options.formulaBody?] at h
  evaluable _ h := by cases h
  definite := trivial

/-- A cell with a formula has the text of one. -/
theorem exists_formulaBody? (h : c.Sound options functions) (hformula : c.formula = some formula) :
    ∃ body, options.formulaBody? c.raw = some body := by
  refine Option.ne_none_iff_exists'.1 fun hnone => ?_
  rw [(h.literal hnone).1] at hformula
  contradiction

theorem setValue (h : c.Sound options functions) (hformula : c.formula = some formula)
    {value : Value} (hvalue : value.Definite) : Cell.Sound options functions { c with value } where
  literal hnone := by
    obtain ⟨body, hbody⟩ := h.exists_formulaBody? hformula
    exact absurd (hbody.symm.trans hnone) (Option.some_ne_none body)
  unreadable _ hnone := absurd (hformula.symm.trans hnone) (Option.some_ne_none formula)
  evaluable := h.evaluable
  definite := hvalue

end Cell.Sound

namespace Sheet

variable {s t : Sheet} {cell other : Coord} {formula : Expr} {schedule : Schedule} {raw : String}

/-- The cells of the sheet are sound and stand in a rectangle. -/
structure Sound (s : Sheet) : Prop where
  lawful : s.functions.Lawful
  rectangular : s.Rectangular
  cells : ∀ cell, (s.cellAt cell).Sound s.options s.functions

namespace Sound

theorem definite_source (h : s.Sound) : s.source.Definite :=
  fun cell => ⟨s.valueAt cell, rfl, (h.cells cell).definite⟩

/-- On a sound sheet every formula has a value. -/
theorem eval_eq_ok (h : s.Sound) (hformula : (s.cellAt cell).formula = some formula) :
    formula.eval s.functions s.source (some cell) = .ok (s.evaluate cell formula) ∧
      (s.evaluate cell formula).Definite := by
  obtain ⟨value, hvalue, hdefinite⟩ := Expr.exists_eval h.lawful h.definite_source (some cell)
    ((h.cells cell).evaluable formula hformula)
  have hevaluate : s.evaluate cell formula = value := by rw [evaluate, hvalue]
  exact hevaluate ▸ ⟨hvalue, hdefinite⟩

/-! ## Values -/

theorem setValue (h : s.Sound) (hformula : (s.cellAt cell).formula = some formula) {value : Value}
    (hvalue : value.Definite) : (s.setValue cell value).Sound where
  lawful := h.lawful
  rectangular := (revalued_setValue hformula value).rectangular h.rectangular
  cells other := by
    by_cases hother : other = cell
    · rw [hother, cellAt_setValue hformula]
      exact (h.cells cell).setValue hformula hvalue
    · rw [Sheet.setValue, cellAt_modifyCell_of_ne hother]
      exact h.cells other

theorem evaluateCell (h : s.Sound) (cell : Coord) : (s.evaluateCell cell).Sound := by
  unfold Sheet.evaluateCell
  split
  · next hformula => exact h.setValue hformula (h.eval_eq_ok hformula).2
  · exact h

theorem settled (h : s.Sound) (hstuck : s.StuckFormulas schedule) : (s.settled schedule).Sound := by
  obtain ⟨order, stuck⟩ := schedule
  induction order generalizing s with
  | nil =>
    induction stuck generalizing s with
    | nil => exact h
    | cons first stuck ih =>
      obtain ⟨formula, hformula⟩ := hstuck first List.mem_cons_self
      refine ih (h.setValue hformula trivial) ?_
      exact (revalued_setValue hformula _).stuckFormulas fun cell hcell =>
        hstuck cell (List.mem_cons_of_mem _ hcell)
  | cons first order ih =>
    exact ih (h.evaluateCell first) ((s.revalued_evaluateCell first).stuckFormulas hstuck)

end Sound

/-! ## Entering a text -/

theorem sound_enter (s : Sheet) (raw : String) {c : Cell} (hvalue : c.value.Definite) :
    (s.enter raw c).Sound s.options s.functions := by
  unfold Sheet.enter
  split
  · next hbody =>
    refine ⟨fun _ => ⟨rfl, rfl⟩, fun hformula => ?_, nofun, Value.definite_ofLiteral raw⟩
    rw [Options.isFormula, hbody] at hformula
    contradiction
  · next body hbody =>
    have hliteral : s.options.formulaBody? raw ≠ none := hbody ▸ Option.some_ne_none body
    split
    · next formula hparse =>
      refine ⟨fun hnone => absurd hnone hliteral, nofun, fun formula hformula => ?_, hvalue⟩
      cases hformula
      exact Grammar.evaluable_of_parse hparse
    · exact ⟨fun hnone => absurd hnone hliteral, fun _ _ => ⟨_, rfl, rfl⟩, nofun, trivial⟩

theorem sameFrame_install (s : Sheet) (cell : Coord) (raw : String) :
    s.SameFrame (s.install cell raw) :=
  ⟨rfl, Table.map_length_modify ..⟩

theorem cellAt_install (hcell : ∃ c, s.rows.get? cell = some c) :
    (s.install cell raw).cellAt cell = s.enter raw (s.cellAt cell) := by
  obtain ⟨old, hold⟩ := hcell
  exact cellAt_modifyCell hold _

theorem cellAt_install_of_ne (h : other ≠ cell) :
    (s.install cell raw).cellAt other = s.cellAt other :=
  cellAt_modifyCell_of_ne h _

theorem Sound.install (h : s.Sound) (hcell : ∃ c, s.rows.get? cell = some c) :
    (s.install cell raw).Sound where
  lawful := h.lawful
  rectangular := (s.sameFrame_install cell raw).rectangular h.rectangular
  cells other := by
    by_cases hother : other = cell
    · rw [hother, cellAt_install hcell]
      exact s.sound_enter raw (h.cells cell).definite
    · rw [cellAt_install_of_ne hother]
      exact h.cells other

/-- What the other cells read stays as it is when a text is entered. -/
theorem reads_install_of_ne (h : other ≠ cell) :
    (s.install cell raw).links.reads other = s.links.reads other := by
  rw [Sheet.install, link_eq, Links.reads_set, if_neg h]
  rfl

theorem Linked.install (h : s.Linked) (cell : Coord) (raw : String) :
    (s.install cell raw).Linked where
  ordered := h.ordered.set ..
  reads other := by
    by_cases hother : other = cell
    · rw [hother, Sheet.install, link_eq, Links.reads_set, if_pos rfl, ascending_readsAt]
      rfl
    · rw [reads_install_of_ne hother, h.reads, readsAt, readsAt, cellAt_install_of_ne hother,
        (s.sameFrame_install cell raw).sameSize.nRows]

/-! ## Linking all cells -/

theorem foldl_link (s : Sheet) (cells : List Coord) : ∃ links : Links,
    cells.foldl link s = { s with links } ∧ (s.links.Ordered → links.Ordered) ∧
      ∀ cell, links.reads cell = if cell ∈ cells then s.readsAt cell else s.links.reads cell := by
  induction cells generalizing s with
  | nil => exact ⟨s.links, rfl, id, fun cell => by rw [if_neg List.not_mem_nil]⟩
  | cons first cells ih =>
    obtain ⟨links, hfold, hordered, hreads⟩ := ih (s.link first)
    refine ⟨links, hfold, fun h => hordered (h.set ..), fun cell => ?_⟩
    rw [hreads, link_eq, Links.reads_set, ascending_readsAt]
    by_cases hmem : cell ∈ cells
    · rw [if_pos hmem, if_pos (List.mem_cons_of_mem _ hmem)]
      rfl
    · by_cases hfirst : cell = first
      · rw [if_neg hmem, if_pos hfirst, if_pos (hfirst ▸ List.mem_cons_self), hfirst]
      · rw [if_neg hmem, if_neg hfirst, if_neg (by simp [hmem, hfirst])]

/-- Linking all cells anew changes only the record of reads, and makes it right. -/
theorem relink_spec (h : s.Rectangular) :
    ∃ links : Links, s.relink = { s with links } ∧ Linked { s with links } := by
  obtain ⟨links, hfold, hordered, hreads⟩ := foldl_link { s with links := .empty } s.formulaCells
  refine ⟨links, hfold, hordered Links.ordered_empty, fun cell => (hreads cell).trans ?_⟩
  split
  · rfl
  · next hnone =>
    have hformula : (s.cellAt cell).formula = none :=
      Option.not_isSome_iff_eq_none.1 fun hsome => hnone (h.mem_formulaCells.2 hsome)
    have hreads : Sheet.readsAt { s with links } cell = s.readsAt cell := rfl
    rw [Links.reads_empty, hreads, readsAt, hformula]

theorem Sound.relink (h : s.Sound) : s.relink.Sound ∧ s.relink.Linked := by
  obtain ⟨links, hlinks, hlinked⟩ := relink_spec h.rectangular
  rw [hlinks]
  exact ⟨⟨h.lawful, h.rectangular, h.cells⟩, hlinked⟩

end Sheet

end Spreadsheet

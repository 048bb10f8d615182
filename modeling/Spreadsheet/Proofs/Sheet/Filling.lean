import Mathlib
import Spreadsheet.Proofs.Formula.Translation
import Spreadsheet.Proofs.Number.Reading
import Spreadsheet.Proofs.Sheet.EntryOrder
import Spreadsheet.Proofs.Sheet.Lines
import Spreadsheet.Proofs.Sheet.Refusal

/-!
# Copies of cells

A cell is copied by its text: a formula is printed with its references moved and read again, a whole
number is counted on, and any other text stays (`Sheet.filledText`). A copy of a copy has the text
of a copy to the same place at once (`filledText_copy`), if the first copy loses no reference and
the text is not one that can be read again since the sheet has grown (`Cell.Stale`). So filling in
steps is filling at once (`Reachable.fill_fill`).
-/

namespace Spreadsheet

/-- The text of the cell is that of a formula which was not read when it was entered, and could be
on a sheet of the grammar. -/
def Cell.Stale (options : Options) (g : Grammar) (c : Cell) : Prop :=
  c.formula = none ∧ ∃ body e, options.formulaBody? c.raw = some body ∧ g.parse body = .ok e

namespace Sheet

variable {s : Sheet} {c : Cell} {origin target cell : Coord} {raw : String} {formula : Expr}
  {rows cols rows' cols' : Int}

/-! ## The text of a copy -/

theorem filledText_of_formula (h : c.formula = some formula) (rows cols : Int) :
    s.filledText c rows cols =
      .ok (s.options.formulaText (formula.copied rows cols s.nRows s.nCols).print) := by
  rw [filledText, h]
  rfl

theorem filledText_of_integer {n : Int} (h : c.formula = none)
    (hliteral : s.options.isFormula c.raw = false) (hplain : Text.isPlainInteger c.raw.toList)
    (hn : Text.integer? c.raw.toList = some n) (rows cols : Int) :
    s.filledText c rows cols = .ok (Binary64.integerText (n + rows + cols)) := by
  rw [filledText, h]
  simp only [hliteral, hplain, hn, Bool.not_false, Bool.and_self, if_true]

theorem filledText_of_other (h : c.formula = none)
    (hother : s.options.isFormula c.raw ∨ Text.isPlainInteger c.raw.toList = false)
    (rows cols : Int) : s.filledText c rows cols = .ok c.raw := by
  rw [filledText, h]
  rcases hother with hformula | hplain
  · simp only [hformula, Bool.not_true, Bool.false_and, Bool.false_eq_true, if_false]
  · simp only [hplain, Bool.and_false, Bool.false_eq_true, if_false]

/-- The text of a copy does not depend on more of the sheet than its size and options. -/
theorem SameFrame.filledText_eq {t : Sheet} (h : s.SameFrame t) (c : Cell) (rows cols : Int) :
    t.filledText c rows cols = s.filledText c rows cols := by
  rw [filledText, filledText, h.options, h.sameSize.nRows, h.sameSize.nCols]

/-! ## Entered texts -/

/-- A cell gets the formula that its text is read as, if that is one. -/
theorem formula_enter_eq_some : (s.enter raw c).formula = some formula ↔
    ∃ body, s.options.formulaBody? raw = some body ∧ s.grammar.parse body = .ok formula := by
  rw [enter]
  cases s.options.formulaBody? raw with
  | none => simp
  | some body => cases hparse : s.grammar.parse body <;> simp [hparse]

theorem formula_enter_of_not_isFormula (h : s.options.isFormula raw = false) :
    (s.enter raw c).formula = none := by
  refine Option.eq_none_iff_forall_ne_some.2 fun formula hformula => ?_
  obtain ⟨body, hbody, -⟩ := formula_enter_eq_some.1 hformula
  rw [Options.isFormula, hbody] at h
  cases h

/-- After a text is entered its cell has the text, and the formula that it is read as. -/
theorem InStep.cellAt_setTextAt (h : s.InStep) (hcell : cell.Within s.nRows s.nCols) (raw : String)
    (c : Cell) : ((s.setTextAt cell raw).1.cellAt cell).raw = raw ∧
      ((s.setTextAt cell raw).1.cellAt cell).formula = (s.enter raw c).formula := by
  have hrevalued := h.linked.revalued_setTextAt cell raw
  rw [hrevalued.raw, hrevalued.formula, cellAt_install (h.rectangular.within_iff.1 hcell),
    raw_enter, formula_enter s raw _ c]
  exact ⟨rfl, rfl⟩

/-- A fill leaves at its target the text of the copy, and the formula that it is read as. -/
theorem InStep.exists_fill (h : s.InStep) (horigin : origin.Within s.nRows s.nCols)
    (htarget : target.Within s.nRows s.nCols)
    (hraw : s.filledText (s.cellAt origin) (target.row - origin.row) (target.col - origin.col) =
      .ok raw) :
    ∃ t r, s.fill origin target = .ok (t, r) ∧ t.InStep ∧ s.SameFrame t ∧
      (t.cellAt target).raw = raw ∧
      ∀ c, (t.cellAt target).formula = (s.enter raw c).formula := by
  refine ⟨(s.setTextAt target raw).1, (s.setTextAt target raw).2, ?_, h.setTextAt htarget,
    s.sameFrame_setTextAt target raw, (h.cellAt_setTextAt htarget raw .blank).1,
    fun c => (h.cellAt_setTextAt htarget raw c).2⟩
  rw [fill, checkCell_eq_ok.2 horigin, checkCell_eq_ok.2 htarget, hraw]
  rfl

/-! ## Copies of copies -/

theorem isFormula_integerText (hmarker : s.options.marker = '=') (n : Int) :
    s.options.isFormula (Binary64.integerText n) = false := by
  rw [Options.isFormula, Option.isSome_eq_false_iff, Option.isNone_iff_eq_none]
  refine Option.eq_none_iff_forall_ne_some.2 fun body hbody => ?_
  rw [Options.formulaBody?_eq_some_iff, Options.formulaText, hmarker] at hbody
  have hmem : '=' ∈ (Binary64.integerText n).toList := by
    rw [hbody, String.toList_ofList]
    exact List.mem_cons_self
  rcases Binary64.mem_integerText hmem with hminus | hdecimal
  · cases hminus
  · exact absurd hdecimal (by decide)

/-- The text of a copy of a formula is read as the formula with its references moved. -/
theorem formula_enter_copied (h : c.InStep s.options s.grammar)
    (hformula : c.formula = some formula) (c' : Cell) : (s.enter (s.options.formulaText
      (formula.copied rows cols s.nRows s.nCols).print) c').formula =
        some (formula.copied rows cols s.nRows s.nCols) := by
  obtain ⟨body, -, hparse⟩ := h formula hformula
  obtain ⟨lowercase, hprintable⟩ := Grammar.exists_printable_of_parse hparse
  exact formula_enter_eq_some.2 ⟨_, Options.formulaBody?_eq_some_iff.2 rfl,
    Expr.parse_print_of_printable (Expr.printable_shifted hprintable rows cols)⟩

/-- A copy of a copy has the text of a copy by both distances at once. -/
theorem filledText_copy (h : c.InStep s.options s.grammar) (hmarker : s.options.marker = '=')
    (hstale : ¬c.Stale s.options s.grammar) (hmisread : ¬c.Misread s.options)
    (hkept : ∀ formula, c.formula = some formula →
      (formula.copied rows cols s.nRows s.nCols).deletedReferences = formula.deletedReferences) :
    ∃ raw raw', s.filledText c rows cols = .ok raw ∧
      s.filledText c (rows + rows') (cols + cols') = .ok raw' ∧
      ∀ copy : Cell, copy.raw = raw → copy.formula = (s.enter raw c).formula →
        s.filledText copy rows' cols' = .ok raw' := by
  cases hformula : c.formula with
  | some formula =>
    obtain ⟨body, -, hparse⟩ := h formula hformula
    obtain ⟨lowercase, hprintable⟩ := Grammar.exists_printable_of_parse hparse
    have hbounds : formula.Throughout (Expr.InBounds s.nRows s.nCols) :=
      hprintable.mono fun node hnode => hnode.placed.inBounds
    have hmoved := Expr.inBounds_of_deletedReferences hbounds (hkept formula hformula)
    refine ⟨_, _, filledText_of_formula hformula _ _, filledText_of_formula hformula _ _,
      fun copy _ hcopy => ?_⟩
    rw [formula_enter_copied h hformula] at hcopy
    rw [filledText_of_formula hcopy, Expr.copied_copied hbounds hmoved]
  | none =>
    by_cases hinteger : s.options.isFormula c.raw = false ∧ Text.isPlainInteger c.raw.toList
    · obtain ⟨hliteral, hplain⟩ := hinteger
      obtain ⟨n, hn⟩ : ∃ n, Text.integer? c.raw.toList = some n := by
        refine Option.isSome_iff_exists.1 (Option.isSome_iff_ne_none.2 fun hnone => ?_)
        exact hmisread ⟨hformula, hliteral, hplain, (Text.integer?_eq_none_iff hplain).1 hnone⟩
      refine ⟨_, _, filledText_of_integer hformula hliteral hplain hn _ _,
        filledText_of_integer hformula hliteral hplain hn _ _, fun copy hraw hcopy => ?_⟩
      have hliteral' := isFormula_integerText hmarker (n + rows + cols)
      rw [formula_enter_of_not_isFormula hliteral'] at hcopy
      have htotal : n + rows + cols + rows' + cols' = n + (rows + rows') + (cols + cols') := by
        omega
      rw [filledText_of_integer hcopy (hraw ▸ hliteral')
        (hraw ▸ Binary64.isPlainInteger_integerText _)
        (hraw ▸ Binary64.integer?_integerText (n + rows + cols)), htotal]
    · have hother : s.options.isFormula c.raw ∨ Text.isPlainInteger c.raw.toList = false := by
        simpa [or_iff_not_imp_left] using hinteger
      refine ⟨c.raw, c.raw, filledText_of_other hformula hother _ _,
        filledText_of_other hformula hother _ _, fun copy hraw hcopy => ?_⟩
      have hnone : (s.enter c.raw c).formula = none := by
        refine Option.eq_none_iff_forall_ne_some.2 fun formula hsome => hstale ⟨hformula, ?_⟩
        obtain ⟨body, hbody, hparse⟩ := formula_enter_eq_some.1 hsome
        exact ⟨body, formula, hbody, hparse⟩
      rw [filledText_of_other (hcopy.trans hnone) (hraw ▸ hother), hraw]

/-- The copy of a cell whose text is read as a formula, to any place, is read as a formula. -/
theorem exists_filledText_of_parse (h : c.InStep s.options s.grammar) {body : String} {e : Expr}
    (hbody : s.options.formulaBody? c.raw = some body) (hparse : s.grammar.parse body = .ok e)
    (rows cols : Int) : ∃ raw, s.filledText c rows cols = .ok raw ∧
      ∀ c' : Cell, (s.enter raw c').formula.isSome := by
  cases hformula : c.formula with
  | some formula =>
    refine ⟨_, filledText_of_formula hformula rows cols, fun c' => ?_⟩
    rw [formula_enter_copied h hformula]
    rfl
  | none =>
    have hmarked : s.options.isFormula c.raw := by
      rw [Options.isFormula, hbody]
      rfl
    refine ⟨_, filledText_of_other hformula (.inl hmarked) rows cols, fun c' => ?_⟩
    rw [formula_enter_eq_some.2 ⟨body, hbody, hparse⟩]
    rfl

/-- The number that a whole number is copied as. -/
theorem raw_of_filledText (h : c.InStep s.options s.grammar) {n : Int}
    (hliteral : s.options.isFormula c.raw = false) (hplain : Text.isPlainInteger c.raw.toList)
    (hn : Text.integer? c.raw.toList = some n) (hraw : s.filledText c rows cols = .ok raw) :
    raw = Binary64.integerText (n + rows + cols) := by
  have hnone : c.formula = none := by
    refine Option.eq_none_iff_forall_ne_some.2 fun formula hformula => ?_
    obtain ⟨body, hbody, -⟩ := h formula hformula
    rw [Options.isFormula, hbody] at hliteral
    cases hliteral
  rw [filledText_of_integer hnone hliteral hplain hn] at hraw
  exact (Except.ok.inj hraw).symm

end Sheet

open Sheet

/-- On a reachable sheet whose formulas are marked by `=`, a cell that is copied to a second place
and from there to a third one leaves there the text that a copy to the third place leaves at once;
whole numbers count on by both distances. So it is where the first copy loses no reference, unless
the text is one that is read again since the sheet has grown. (Nothing is said of texts that look
like whole numbers and are none.) What is copied from a text that is read as a formula, to any
place, is read as a formula too. -/
theorem Reachable.fill_fill {functions : Registry} {s : Sheet} (h : Reachable functions s)
    (hmarker : s.options.marker = '=') {origin via target : Coord}
    (horigin : origin.Within s.nRows s.nCols) (hvia : via.Within s.nRows s.nCols)
    (htarget : target.Within s.nRows s.nCols) :
    (¬(s.cellAt origin).Stale s.options s.grammar → ¬(s.cellAt origin).Misread s.options →
      (∀ formula, (s.cellAt origin).formula = some formula →
        (formula.copied (via.row - origin.row) (via.col - origin.col)
          s.nRows s.nCols).deletedReferences = formula.deletedReferences) →
      ∃ t u v r r' r'', s.fill origin via = .ok (t, r) ∧ t.fill via target = .ok (u, r') ∧
        s.fill origin target = .ok (v, r'') ∧
        (u.cellAt target).raw = (v.cellAt target).raw ∧
        ∀ n, s.options.isFormula (s.cellAt origin).raw = false →
          Text.isPlainInteger (s.cellAt origin).raw.toList →
          Text.integer? (s.cellAt origin).raw.toList = some n →
          (v.cellAt target).raw =
            Binary64.integerText (n + (target.row - origin.row) + (target.col - origin.col))) ∧
    ∀ body e, s.options.formulaBody? (s.cellAt origin).raw = some body →
      s.grammar.parse body = .ok e →
      ∃ v r, s.fill origin target = .ok (v, r) ∧ (v.cellAt target).formula.isSome := by
  obtain ⟨hs, -⟩ := h.inStep
  have hcell := hs.cells origin
  constructor
  · intro hstale hmisread hkept
    obtain ⟨raw, raw', hfirst, hboth, hcopy⟩ := @filledText_copy s (s.cellAt origin)
      (via.row - origin.row) (via.col - origin.col) (target.row - via.row) (target.col - via.col)
      hcell hmarker hstale hmisread hkept
    have hrows : via.row - origin.row + (target.row - via.row) = target.row - origin.row := by omega
    have hcols : via.col - origin.col + (target.col - via.col) = target.col - origin.col := by omega
    rw [hrows, hcols] at hboth
    obtain ⟨t, r, ht, hstep, hframe, hraw, hread⟩ := hs.exists_fill horigin hvia hfirst
    have hsecond : t.filledText (t.cellAt via) (target.row - via.row) (target.col - via.col) =
        .ok raw' := (hframe.filledText_eq _ _ _).trans (hcopy _ hraw (hread _))
    obtain ⟨u, r', hu, -, -, hraw', -⟩ := hstep.exists_fill (hframe.sameSize.within_iff.2 hvia)
      (hframe.sameSize.within_iff.2 htarget) hsecond
    obtain ⟨v, r'', hv, -, -, hrawAt, -⟩ := hs.exists_fill horigin htarget hboth
    refine ⟨t, u, v, r, r', r'', ht, hu, hv, hraw'.trans hrawAt.symm,
      fun n hliteral hplain hn => ?_⟩
    exact hrawAt.trans (raw_of_filledText hcell hliteral hplain hn hboth)
  · intro body e hbody hparse
    obtain ⟨raw, hraw, hsome⟩ := exists_filledText_of_parse hcell hbody hparse
      (target.row - origin.row) (target.col - origin.col)
    obtain ⟨v, r, hv, -, -, -, hread⟩ := hs.exists_fill horigin htarget hraw
    exact ⟨v, r, hv, (hread .blank).symm ▸ hsome .blank⟩

/-! ## Sheets that have grown -/

theorem Edit.run_resize {s : Sheet} {newCols newRows : Int}
    (hsize : s.nCols ≤ newCols ∧ s.nRows ≤ newRows) :
    (Edit.resize newCols newRows).run s =
      .ok ((s.extended newCols newRows).rebuild.1, some (s.extended newCols newRows).rebuild.2) :=
  congrArg (Except.map _) (resize_spec hsize)

namespace Sheet

/-- A sheet that has grown keeps its texts and formulas. -/
theorem InStep.cellAt_resized {s t : Sheet} (h : s.InStep) {newCols newRows : Int}
    (hsize : s.nCols ≤ newCols ∧ s.nRows ≤ newRows)
    (ht : (s.extended newCols newRows).rebuild.1 = t) :
    (t.nRows = newRows ∧ t.nCols = newCols) ∧ t.options = s.options ∧
      ∀ cell, (t.cellAt cell).raw = (s.cellAt cell).raw ∧
        (t.cellAt cell).formula = (s.cellAt cell).formula := by
  subst ht
  obtain ⟨hregrown, hcarried, hcols, hrows⟩ := extended_spec h.rectangular hsize
  obtain ⟨links, -, hrevalued⟩ := revalued_rebuild hregrown.rectangular
  refine ⟨⟨?_, ?_⟩, hrevalued.options.trans hregrown.options, fun cell => ?_⟩
  · rw [hrevalued.sameSize.nRows]
    exact hrows
  · rw [hrevalued.sameSize.nCols]
    exact hcols
  · rw [hrevalued.raw, hrevalued.formula, ← @Carried.cellAt _ _ _ hcarried cell cell rfl]
    exact ⟨rfl, rfl⟩

/-! ## Samples -/

/-- A sheet of three rows and two columns with a reference to its first cell beside that. -/
def copySample : Sheet := ((blank 3 2 .standard .builtin).setTextAt ⟨0, 1⟩ "=A1").1

theorem reachable_copySample : Reachable .builtin copySample :=
  (@Reachable.make .builtin 3 2 [] .standard _ rfl).setTextAt ⟨0, 1⟩ (by decide) "=A1"

theorem options_copySample : copySample.options = .standard :=
  (sameFrame_setTextAt ..).options

theorem size_copySample : copySample.nRows = 3 ∧ copySample.nCols = 2 := by
  rw [copySample, nRows_setTextAt, nCols_setTextAt]
  exact ⟨rfl, rfl⟩

theorem cellAt_copySample : (copySample.cellAt ⟨0, 1⟩).raw = "=A1" ∧
    (copySample.cellAt ⟨0, 1⟩).formula = some (.cell ⟨0, 0⟩ false) := by
  have hbody : Options.standard.formulaBody? "=A1" = some "A1" := by cbv
  have hparse : (blank 3 2 .standard .builtin).grammar.parse "A1" = .ok (.cell ⟨0, 0⟩ false) := by
    cbv
  have hcell : Coord.Within ⟨0, 1⟩ (blank 3 2 .standard .builtin).nRows
      (blank 3 2 .standard .builtin).nCols := by decide
  obtain ⟨hraw, hformula⟩ :=
    (inStep_blank 3 2 .standard .builtin).cellAt_setTextAt hcell "=A1" .blank
  exact ⟨hraw, hformula.trans (formula_enter_eq_some.2 ⟨"A1", hbody, hparse⟩)⟩

end Sheet

/-- A reference copied down twice, by one row each time, is one copied down by two rows. -/
theorem fill_fill_copySample : ∃ t u v r r' r'',
    copySample.fill ⟨0, 1⟩ ⟨1, 1⟩ = .ok (t, r) ∧ t.fill ⟨1, 1⟩ ⟨2, 1⟩ = .ok (u, r') ∧
      copySample.fill ⟨0, 1⟩ ⟨2, 1⟩ = .ok (v, r'') ∧
      (u.cellAt ⟨2, 1⟩).raw = (v.cellAt ⟨2, 1⟩).raw ∧ (v.cellAt ⟨2, 1⟩).formula.isSome := by
  have hwithin {cell : Coord} (h : cell.Within 3 2) :
      cell.Within copySample.nRows copySample.nCols := by
    rwa [size_copySample.1, size_copySample.2]
  obtain ⟨hraw, hformula⟩ := cellAt_copySample
  obtain ⟨hsteps, hread⟩ := reachable_copySample.fill_fill (congrArg Options.marker
    options_copySample) (hwithin (by decide : (⟨0, 1⟩ : Coord).Within 3 2))
    (hwithin (by decide : (⟨1, 1⟩ : Coord).Within 3 2))
    (hwithin (by decide : (⟨2, 1⟩ : Coord).Within 3 2))
  obtain ⟨t, u, v, r, r', r'', hfirst, hsecond, hboth, heq, -⟩ := hsteps
    (fun hstale => by cases hformula.symm.trans hstale.1)
    (fun hmisread => by cases hformula.symm.trans hmisread.1) fun formula hsome => by
      obtain rfl := Option.some.inj (hformula.symm.trans hsome)
      rw [size_copySample.1, size_copySample.2]
      decide
  obtain ⟨body, hbody, hparse⟩ := reachable_copySample.inStep.1.cells ⟨0, 1⟩ _ hformula
  obtain ⟨v', report, hboth', hsome⟩ := hread body _ hbody hparse
  obtain ⟨rfl, -⟩ := Prod.mk.inj (Except.ok.inj (hboth.symm.trans hboth'))
  exact ⟨t, u, v, r, r', r'', hfirst, hsecond, hboth, heq, hsome⟩

namespace Sheet

/-- A sheet of one column: `A1` was read when the sheet had no second row. -/
def staleSample : Sheet :=
  (((blank 1 1 .standard .builtin).setTextAt ⟨0, 0⟩ "=A2").1.extended 1 4).rebuild.1

theorem reachable_staleSample : Reachable .builtin staleSample := by
  let first := ((blank 1 1 .standard .builtin).setTextAt ⟨0, 0⟩ "=A2").1
  have hfirst : Reachable .builtin first :=
    (@Reachable.make .builtin 1 1 [] .standard _ rfl).setTextAt ⟨0, 0⟩ (by decide) "=A2"
  have hsize : (first.nCols : Int) ≤ 1 ∧ (first.nRows : Int) ≤ 4 := by
    rw [nRows_setTextAt, nCols_setTextAt]
    decide
  exact .edit _ hfirst (Edit.run_resize hsize)

theorem staleSample_spec : (staleSample.nRows = 4 ∧ staleSample.nCols = 1) ∧
    staleSample.options = .standard ∧ (staleSample.cellAt ⟨0, 0⟩).raw = "=A2" ∧
    (staleSample.cellAt ⟨0, 0⟩).formula = none := by
  let start := blank 1 1 .standard .builtin
  have hstart : start.InStep := inStep_blank 1 1 .standard .builtin
  have hcell : Coord.Within ⟨0, 0⟩ start.nRows start.nCols := by decide
  have hsize : ((start.setTextAt ⟨0, 0⟩ "=A2").1.nCols : Int) ≤ 1 ∧
      ((start.setTextAt ⟨0, 0⟩ "=A2").1.nRows : Int) ≤ 4 := by
    rw [nRows_setTextAt, nCols_setTextAt]
    decide
  obtain ⟨⟨hrows, hcols⟩, hoptions, hcells⟩ := (@InStep.setTextAt start ⟨0, 0⟩ "=A2" hstart
    hcell).cellAt_resized hsize rfl
  obtain ⟨hraw, hformula⟩ := hstart.cellAt_setTextAt hcell "=A2" .blank
  have hnone : (start.enter "=A2" .blank).formula = none := by
    refine Option.eq_none_iff_forall_ne_some.2 fun formula hsome => ?_
    obtain ⟨body, hbody, hparse⟩ := formula_enter_eq_some.1 hsome
    have hbody' : start.options.formulaBody? "=A2" = some "A2" := by cbv
    have hparse' : start.grammar.parse "A2" = .error ⟨.rowOutside "2" 1, 0⟩ := by cbv
    obtain rfl := Option.some.inj (hbody'.symm.trans hbody)
    cases hparse'.symm.trans hparse
  exact ⟨⟨Int.ofNat_inj.1 hrows, Int.ofNat_inj.1 hcols⟩,
    hoptions.trans (sameFrame_setTextAt ..).options, (hcells _).1.trans hraw,
    (hcells _).2.trans (hformula.trans hnone)⟩

end Sheet

/-- The text of `A1` could not be read before the sheet had a second row. It is copied as it is, but
read at its new place, so a copy from there moves its reference. -/
theorem not_fill_fill_staleSample : Reachable .builtin staleSample ∧
    staleSample.options.marker = '=' ∧ Coord.Within ⟨0, 0⟩ staleSample.nRows staleSample.nCols ∧
    Coord.Within ⟨2, 0⟩ staleSample.nRows staleSample.nCols ∧
    Coord.Within ⟨3, 0⟩ staleSample.nRows staleSample.nCols ∧
    (staleSample.cellAt ⟨0, 0⟩).formula = none ∧
    ∃ t u v r r' r'', staleSample.fill ⟨0, 0⟩ ⟨2, 0⟩ = .ok (t, r) ∧
      t.fill ⟨2, 0⟩ ⟨3, 0⟩ = .ok (u, r') ∧ staleSample.fill ⟨0, 0⟩ ⟨3, 0⟩ = .ok (v, r'') ∧
      (u.cellAt ⟨3, 0⟩).raw = "=A3" ∧ (v.cellAt ⟨3, 0⟩).raw = "=A2" := by
  have hprinted : Options.standard.formulaText
      ((Expr.cell ⟨1, 0⟩ false).copied 1 0 (4 : Nat) (1 : Nat)).print = "=A3" := by cbv
  obtain ⟨⟨hrows, hcols⟩, hoptions, hraw, hformula⟩ := staleSample_spec
  obtain ⟨hs, hfunctions⟩ := reachable_staleSample.inStep
  have hwithin {cell : Coord} (h : cell.Within 4 1) :
      cell.Within staleSample.nRows staleSample.nCols := by
    rwa [hrows, hcols]
  have hfirst : (⟨0, 0⟩ : Coord).Within staleSample.nRows staleSample.nCols := hwithin (by decide)
  have hthird : (⟨2, 0⟩ : Coord).Within staleSample.nRows staleSample.nCols := hwithin (by decide)
  have hlast : (⟨3, 0⟩ : Coord).Within staleSample.nRows staleSample.nCols := hwithin (by decide)
  have hbody : staleSample.options.formulaBody? "=A2" = some "A2" := by
    rw [hoptions]
    cbv
  have hmarked : staleSample.options.isFormula (staleSample.cellAt ⟨0, 0⟩).raw := by
    rw [hraw, Options.isFormula, hbody]
    rfl
  have hparse : staleSample.grammar.parse "A2" = .ok (.cell ⟨1, 0⟩ false) := by
    rw [grammar, hrows, hcols, hfunctions]
    cbv
  have hcopied (rows cols : Int) : staleSample.filledText (staleSample.cellAt ⟨0, 0⟩) rows cols =
      .ok "=A2" := by
    rw [filledText_of_other hformula (.inl hmarked), hraw]
  obtain ⟨t, r, ht, hstep, hframe, -, hread⟩ := hs.exists_fill hfirst hthird (hcopied _ _)
  have hreread : (t.cellAt ⟨2, 0⟩).formula = some (.cell ⟨1, 0⟩ false) :=
    (hread .blank).trans (formula_enter_eq_some.2 ⟨"A2", hbody, hparse⟩)
  have hmoved : t.filledText (t.cellAt ⟨2, 0⟩) 1 0 = .ok "=A3" := by
    rw [filledText_of_formula hreread, hframe.options, hframe.sameSize.nRows,
      hframe.sameSize.nCols, hoptions, hrows, hcols, hprinted]
  obtain ⟨u, r', hu, -, -, hraw', -⟩ := hstep.exists_fill (hframe.sameSize.within_iff.2 hthird)
    (hframe.sameSize.within_iff.2 hlast) hmoved
  obtain ⟨v, r'', hv, -, -, hraw'', -⟩ := hs.exists_fill hfirst hlast (hcopied _ _)
  exact ⟨reachable_staleSample, congrArg Options.marker hoptions, hfirst, hthird, hlast, hformula,
    t, u, v, r, r', r'', ht, hu, hv, hraw', hraw''⟩

end Spreadsheet

import Spreadsheet.Proofs.Formula.Area
import Spreadsheet.Proofs.Formula.Rereading
import Spreadsheet.Proofs.Sheet.Reachable

/-!
# Sheets whose formulas are in step with their texts

A sheet is `InStep` if the formula of each cell is what the text of the cell is read as on the sheet
as it is now, and if its record of reads says what the formulas read. Edits keep this
(`InStep.run`), whatever the functions: a text that is entered is read at once, a formula that moves
is written anew as a text that is read as the formula, and the texts of those that do not move are
still read as they were. So all reachable sheets are in step (`Reachable.inStep`), and so are the
formulas (`Reachable.formula_spec`) and the record (`Reachable.links_spec`).
-/

namespace Spreadsheet

/-- The formula of a cell is what its text is read as on a sheet of the grammar. -/
def Cell.InStep (options : Options) (g : Grammar) (c : Cell) : Prop :=
  ∀ formula, c.formula = some formula →
    ∃ body, options.formulaBody? c.raw = some body ∧ g.parse body = .ok formula

theorem Cell.inStep_blank (options : Options) (g : Grammar) : Cell.blank.InStep options g := nofun

namespace Sheet

variable {s t base : Sheet} {cell : Coord} {raw : String} {report : Option Recalc}

/-- The formulas are what the texts are read as, and the record says what they read. -/
structure InStep (s : Sheet) : Prop where
  rectangular : s.Rectangular
  linked : s.Linked
  cells : ∀ cell, (s.cellAt cell).InStep s.options s.grammar

/-! ## Texts and values -/

theorem inStep_enter (s : Sheet) (raw : String) (c : Cell) :
    (s.enter raw c).InStep s.options s.grammar := by
  unfold enter
  split
  · exact nofun
  · next body hbody =>
    split
    · next formula hparse =>
      rintro _ ⟨⟩
      exact ⟨body, hbody, hparse⟩
    · exact nofun

namespace InStep

theorem install (h : s.InStep) (hcell : cell.Within s.nRows s.nCols) :
    (s.install cell raw).InStep where
  rectangular := (s.sameFrame_install cell raw).rectangular h.rectangular
  linked := h.linked.install cell raw
  cells other := by
    have hframe := s.sameFrame_install cell raw
    rw [hframe.options, hframe.sameSize.grammar]
    by_cases hother : other = cell
    · rw [hother, cellAt_install (h.rectangular.within_iff.1 hcell)]
      exact s.inStep_enter raw _
    · rw [cellAt_install_of_ne hother]
      exact h.cells other

theorem installAll (h : s.InStep) {entries : List (Coord × String)}
    (hentries : ∀ entry ∈ entries, entry.1.Within s.nRows s.nCols) :
    (s.installAll entries).InStep :=
  installAll_induction (p := InStep) h hentries fun _ _ _ _ hcell hu => hu.install hcell

/-- New values do not matter. -/
theorem revalued (h : s.InStep) (ht : s.Revalued t) : t.InStep where
  rectangular := ht.rectangular h.rectangular
  linked := ht.linked h.linked
  cells cell formula hformula := by
    rw [ht.formula] at hformula
    rw [ht.raw, ht.options, ht.sameSize.grammar]
    exact h.cells cell formula hformula

theorem setTextAt (h : s.InStep) (hcell : cell.Within s.nRows s.nCols) :
    (s.setTextAt cell raw).1.InStep :=
  (h.install hcell).revalued (h.linked.revalued_setTextAt cell raw)

theorem recalculate (h : s.InStep) : s.recalculate.1.InStep :=
  h.revalued (revalued_recalculate h.linked)

theorem relabel (h : s.InStep) {columns : List Column} (fixedRows : Nat)
    (hcolumns : columns.length = s.columns.length) : InStep { s with columns, fixedRows } := by
  have hsize : s.SameSize { s with columns, fixedRows } := ⟨rfl, hcolumns, rfl⟩
  refine ⟨fun row hrow => (h.rectangular row hrow).trans hcolumns.symm,
    ⟨h.linked.ordered, h.linked.reads⟩, fun cell => ?_⟩
  rw [hsize.grammar]
  exact h.cells cell

end InStep

/-! ## Rows and columns -/

/-- A cell is in step with its row or column moved and its formula after it. -/
theorem inStep_adjustCell {edit : LineEdit} (hedit : s.grammar.Allows edit) {c : Cell}
    (h : c.InStep s.options s.grammar) :
    (s.adjustCell edit c).InStep s.options (s.grammar.after edit) := by
  intro formula hformula
  unfold adjustCell at hformula ⊢
  split at hformula
  · next new hnew =>
    cases hformula
    obtain ⟨old, hold, hadjusted⟩ := Option.bind_eq_some_iff.1 hnew
    obtain ⟨body, -, hparse⟩ := h old hold
    exact ⟨_, Options.formulaBody?_eq_some_iff.2 rfl,
      Grammar.parse_print_of_afterEdit hedit hparse hadjusted⟩
  · next hnone =>
    obtain ⟨body, hbody, hparse⟩ := h formula hformula
    rw [hformula, Option.bind_some] at hnone
    exact ⟨body, hbody, Grammar.parse_of_afterEdit hedit hparse hnone⟩

theorem Regrown.inStep (h : s.Regrown base) (hs : s.InStep) {row : List Cell}
    (hrow : row ∈ base.rows) {c : Cell} (hc : c ∈ row) : c.InStep s.options s.grammar := by
  obtain rfl | ⟨old, hold, hc⟩ := h.cells row hrow c hc
  · exact Cell.inStep_blank _ _
  · exact (forall_cellAt (Cell.inStep_blank _ _)).1 hs.cells old hold c hc

/-- The cells of a sheet with other rows and columns are in step. -/
theorem InStep.restructured (h : s.InStep) (hbase : s.Restructured base) :
    base.Rectangular ∧ ∀ cell, (base.cellAt cell).InStep base.options base.grammar := by
  cases hbase with
  | @adjusted grown edit hedit hgrown hgrammar =>
    have hadjusted := (grown.grammar_adjustFormulas edit).trans hgrammar
    have hadjust : grown.adjustCell edit = s.adjustCell edit := by
      funext c
      rw [adjustCell, adjustCell, hgrown.options]
    refine ⟨hgrown.rectangular.adjustFormulas edit,
      (forall_cellAt (Cell.inStep_blank _ _)).2 fun row hrow c hc => ?_⟩
    obtain ⟨old, hold, rfl⟩ := List.mem_map.1 hrow
    obtain ⟨before, hbefore, rfl⟩ := List.mem_map.1 hc
    rw [hadjusted, hadjust]
    exact hgrown.options ▸ inStep_adjustCell hedit (hgrown.inStep h hold hbefore)
  | grown hgrown hrows hcols =>
    refine ⟨hgrown.rectangular, (forall_cellAt (Cell.inStep_blank _ _)).2 fun row hrow c hc => ?_⟩
    intro formula hformula
    obtain ⟨body, hbody, hparse⟩ := hgrown.inStep h hrow hc formula hformula
    exact ⟨body, hgrown.options ▸ hbody, Grammar.parse_of_le (Int.ofNat_le.2 hrows)
      (Int.ofNat_le.2 hcols) hgrown.functions hparse⟩

theorem InStep.rebuild (h : s.InStep) (hbase : s.Restructured base) : base.rebuild.1.InStep := by
  obtain ⟨hrectangular, hcells⟩ := h.restructured hbase
  obtain ⟨links, hlinks, hlinked⟩ := relink_spec hrectangular
  have hrelinked : base.relink.InStep := by
    rw [hlinks]
    exact ⟨hrectangular, hlinked, hcells⟩
  exact hrelinked.recalculate

/-- Computing a sheet anew changes no more than the record of reads and the values of formulas. -/
theorem revalued_rebuild (h : base.Rectangular) :
    ∃ links : Links, base.relink = { base with links } ∧
      Revalued { base with links } base.rebuild.1 := by
  obtain ⟨links, hlinks, hlinked⟩ := relink_spec h
  refine ⟨links, hlinks, ?_⟩
  rw [Sheet.rebuild, hlinks]
  exact revalued_recalculate hlinked

theorem functions_rebuild (h : base.Rectangular) : base.rebuild.1.functions = base.functions := by
  obtain ⟨links, -, hrevalued⟩ := revalued_rebuild h
  exact hrevalued.functions

/-! ## Edits -/

/-- An edit keeps a sheet in step. -/
theorem InStep.run (h : s.InStep) {edit : Edit} (hrun : edit.run s = .ok (t, report)) :
    t.InStep ∧ t.functions = s.functions := by
  by_cases htexts : edit.entersTexts
  · obtain ⟨cell, raw, r, hcell, -, htext⟩ | ⟨entries, r, hentries, -, hload⟩ :=
      Edit.texts_of_run htexts hrun
    · obtain rfl := congrArg Prod.fst htext
      exact ⟨h.setTextAt hcell, (s.sameFrame_setTextAt cell raw).functions⟩
    · obtain rfl := congrArg Prod.fst hload
      have hall := h.installAll hentries
      exact ⟨hall.recalculate, (revalued_recalculate hall.linked).functions.trans
        (sameFrame_installAll hentries).functions⟩
  by_cases hrestructures : edit.restructures
  · obtain ⟨base, r, -, hbase, hrebuild⟩ :=
      Edit.restructured_of_run h.rectangular hrestructures hrun
    obtain rfl := congrArg Prod.fst hrebuild
    exact ⟨h.rebuild hbase,
      (functions_rebuild (h.restructured hbase).1).trans hbase.functions⟩
  obtain ⟨-, columns, fixedRows, hcolumns, rfl⟩ := Edit.relabelled_of_run
    (Bool.eq_false_iff.2 htexts) (Bool.eq_false_iff.2 hrestructures) hrun
  exact ⟨h.relabel fixedRows hcolumns, rfl⟩

/-! ## New sheets -/

theorem rectangular_blank (nRows nCols : Nat) (options : Options) (functions : Registry) :
    (blank nRows nCols options functions).Rectangular := by
  intro row hrow
  obtain rfl := List.eq_of_mem_replicate hrow
  exact List.length_replicate.trans List.length_replicate.symm

theorem inStep_blank (nRows nCols : Nat) (options : Options) (functions : Registry) :
    (blank nRows nCols options functions).InStep where
  rectangular := rectangular_blank nRows nCols options functions
  linked := by
    refine ⟨Links.ordered_empty, fun cell => ?_⟩
    rw [readsAt, cellAt_blank]
    rfl
  cells cell := by
    rw [cellAt_blank]
    exact Cell.inStep_blank _ _

theorem inStep_of_make {nRows nCols : Int} {names : List (Option String)} {options : Options}
    {functions : Registry} (h : make nRows nCols names options functions = .ok s) :
    s.InStep ∧ s.functions = functions := by
  obtain ⟨columns, hcolumns, rfl⟩ := make_eq_ok h
  have hblank := inStep_blank nRows.toNat nCols.toNat options functions
  exact ⟨hblank.relabel 0 (hcolumns.trans List.length_replicate.symm), rfl⟩

/-! ## References -/

/-- The references of a formula lie on the sheet, in one case. -/
theorem InStep.exists_placed (h : s.InStep) {formula : Expr}
    (hformula : (s.cellAt cell).formula = some formula) :
    ∃ lowercase, formula.Throughout (Expr.Placed s.nRows s.nCols lowercase) := by
  obtain ⟨body, -, hparse⟩ := h.cells cell formula hformula
  obtain ⟨lowercase, hprintable⟩ := Grammar.exists_printable_of_parse hparse
  exact ⟨lowercase, hprintable.mono fun node hnode => hnode.placed⟩

/-- A formula whose references lie on the sheet reads no cell outside it. -/
theorem within_of_mem_reads {nRows nCols : Int} {lowercase : Bool} {origin : Option Coord}
    {formula : Expr} {ref : Coord} (h : formula.Throughout (Expr.Placed nRows nCols lowercase))
    (href : ref ∈ formula.reads nRows origin) : ref.Within nRows nCols := by
  obtain ⟨node, hnode, href⟩ := List.mem_flatMap.1 (Coord.mem_ascending.1 href)
  exact (h node hnode).within_of_mem href

/-- The entries of the record are those of the cells whose formulas read something. -/
theorem Linked.mem_entries (h : s.Linked) {refs : List Coord} :
    (cell, refs) ∈ s.links.entries ↔ refs ≠ [] ∧ ∃ formula,
      (s.cellAt cell).formula = some formula ∧ refs = formula.reads s.nRows (some cell) := by
  rw [h.ordered.mem_entries, h.reads]
  refine and_congr_right fun hne => ⟨fun hreads => ?_, fun ⟨formula, hformula, hreads⟩ => ?_⟩
  · cases hformula : (s.cellAt cell).formula with
    | none =>
      rw [readsAt, hformula] at hreads
      exact absurd hreads.symm hne
    | some formula => exact ⟨formula, rfl, hreads ▸ readsAt_of_formula hformula⟩
  · rw [readsAt_of_formula hformula, hreads]

/-- The cells of the record lie on the sheet. -/
theorem InStep.within_of_mem_entries (h : s.InStep) {refs : List Coord}
    (hentry : (cell, refs) ∈ s.links.entries) :
    cell.Within s.nRows s.nCols ∧ ∀ ref ∈ refs, ref.Within s.nRows s.nCols := by
  obtain ⟨-, formula, hformula, rfl⟩ := h.linked.mem_entries.1 hentry
  obtain ⟨lowercase, hplaced⟩ := h.exists_placed hformula
  exact ⟨h.rectangular.within_iff.2 (exists_get?_of_formula hformula),
    fun ref href => within_of_mem_reads hplaced href⟩

end Sheet

open Sheet

variable {functions : Registry} {s : Sheet}

/-- All reachable sheets are in step. -/
theorem Reachable.inStep (h : Reachable functions s) : s.InStep ∧ s.functions = functions := by
  refine h.of_make_of_run inStep_of_make fun hs hrun => ?_
  obtain ⟨ht, htFunctions⟩ := hs.1.run hrun
  exact ⟨ht, htFunctions.trans hs.2⟩

/-- On a reachable sheet the text of a cell with a formula is that of a formula: it is read, on the
sheet as it is, as the formula of the cell. The references of the formula lie on the sheet, their
corners in order, and have letters of one case. -/
theorem Reachable.formula_spec (h : Reachable functions s) {cell : Coord} {formula : Expr}
    (hformula : (s.cellAt cell).formula = some formula) :
    (∃ body, (s.cellAt cell).raw = s.options.formulaText body ∧
      (⟨s.nRows, s.nCols, functions⟩ : Grammar).parse body = .ok formula) ∧
    ∃ lowercase, ∀ node ∈ formula.nodes, node.Placed s.nRows s.nCols lowercase := by
  obtain ⟨hs, rfl⟩ := h.inStep
  obtain ⟨body, hbody, hparse⟩ := hs.cells cell formula hformula
  exact ⟨⟨body, Options.formulaBody?_eq_some_iff.1 hbody, hparse⟩, hs.exists_placed hformula⟩

theorem formula_spec_sample :
    (∃ body, (sample.cellAt ⟨0, 1⟩).raw = sample.options.formulaText body ∧
      (⟨sample.nRows, sample.nCols, .builtin⟩ : Grammar).parse body = .ok (.range 0 0 1 0 false)) ∧
    ∃ lowercase, (Expr.range 0 0 1 0 false).Placed sample.nRows sample.nCols lowercase := by
  obtain ⟨-, hformula, -⟩ := formula_sample
  obtain ⟨htext, lowercase, hplaced⟩ := reachable_sample.formula_spec hformula
  exact ⟨htext, lowercase, hplaced _ List.mem_cons_self⟩

/-- On a reachable sheet the record of reads has an entry for a cell exactly if the cell has a
formula that reads something, and then the entry is what the formula reads on the sheet as it is.
The reverse relation is the reverse one, no cell of the record is without an entry that is not
empty or a reader, and all cells of the record lie on the sheet. -/
theorem Reachable.links_spec (h : Reachable functions s) :
    (∀ cell refs, (cell, refs) ∈ s.links.entries ↔ refs ≠ [] ∧ ∃ formula,
      (s.cellAt cell).formula = some formula ∧ refs = formula.reads s.nRows (some cell)) ∧
    s.links.reading.Nodup ∧
    (∀ cell reader, reader ∈ s.links.readers cell ↔
      ∃ refs, (reader, refs) ∈ s.links.entries ∧ cell ∈ refs) ∧
    (∀ cell, cell ∈ s.links.beingRead ↔ s.links.readers cell ≠ []) ∧
    ∀ entry ∈ s.links.entries, entry.1.Within s.nRows s.nCols ∧
      ∀ ref ∈ entry.2, ref.Within s.nRows s.nCols := by
  obtain ⟨hs, -⟩ := h.inStep
  exact ⟨fun _ _ => hs.linked.mem_entries, hs.linked.ordered.ascends.nodup,
    fun _ _ => Links.mem_readers_iff_entries, fun _ => Links.mem_beingRead,
    fun _ hentry => hs.within_of_mem_entries hentry⟩

theorem links_spec_sample :
    (∃ formula, (sample.cellAt ⟨0, 1⟩).formula = some formula ∧
      [⟨0, 0⟩, ⟨1, 0⟩] = formula.reads sample.nRows (some ⟨0, 1⟩)) ∧
    ⟨0, 1⟩ ∈ sample.links.readers ⟨1, 0⟩ ∧ Coord.Within ⟨1, 0⟩ sample.nRows sample.nCols := by
  have hentry : (⟨0, 1⟩, [⟨0, 0⟩, ⟨1, 0⟩]) ∈ sample.links.entries := by
    rw [links_sample]
    decide
  obtain ⟨hentries, -, hreaders, -, hwithin⟩ := reachable_sample.links_spec
  exact ⟨((hentries _ _).1 hentry).2, (hreaders _ _).2 ⟨_, hentry, by decide⟩,
    (hwithin _ hentry).2 _ (by decide)⟩

end Spreadsheet

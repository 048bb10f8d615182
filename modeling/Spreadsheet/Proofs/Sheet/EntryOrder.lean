import Spreadsheet.Proofs.Sheet.Reachable

/-!
# The order of entry does not matter

A sheet into which nothing but texts were entered is determined by its texts, if no formula is on a
cycle (`Entered.eq_of_raw`): its formulas are those that the texts are read as, and their values are
determined by the formulas. So it does not matter which texts were entered before and in which order
(`entry_order_irrelevant`).
-/

namespace Spreadsheet

/-- The sheet after an edit; one that is refused leaves it as it is. -/
def Edit.apply (s : Sheet) (edit : Edit) : Sheet :=
  match edit.run s with
  | .ok (t, _) => t
  | .error _ => s

attribute [ext] Cell

theorem Table.ext {α : Type} {table table' : Table α} (hlength : table.length = table'.length)
    (hget : ∀ cell, table.get? cell = table'.get? cell) : table = table' := by
  refine List.ext_getElem hlength fun row hrow hrow' => List.ext_getElem? fun col => ?_
  have h := hget ⟨row, col⟩
  simpa [get?, hrow, hrow'] using h

namespace Sheet

variable {start s t : Sheet} {cell : Coord} {raw : String} {c : Cell} {formula : Expr}

theorem SameFrame.eq_with (h : start.SameFrame s) :
    s = { start with rows := s.rows, links := s.links } :=
  congrArg (fun u : Sheet => { u with rows := s.rows, links := s.links }) h.frame

/-- Sheets of one frame with equal cells and reads are equal. -/
theorem SameFrame.eq_of_cellAt (hs : start.SameFrame s) (ht : start.SameFrame t)
    (hrect : start.Rectangular) (hlinks : t.links = s.links)
    (hcells : ∀ cell, t.cellAt cell = s.cellAt cell) : t = s := by
  have hget {u : Sheet} (hu : start.SameFrame u) (cell : Coord) : u.rows.get? cell =
      if cell.Within start.nRows start.nCols then some (u.cellAt cell) else none := by
    rw [(hu.rectangular hrect).get?_eq, hu.sameSize.nRows, hu.sameSize.nCols]
  have hlength : t.rows.length = s.rows.length := ht.sameSize.nRows.trans hs.sameSize.nRows.symm
  have hrows : t.rows = s.rows :=
    Table.ext hlength fun cell => by rw [hget ht, hget hs, hcells]
  rw [ht.eq_with, hs.eq_with, hrows, hlinks]

/-! ## Entered texts -/

@[simp] theorem raw_enter (s : Sheet) (raw : String) (c : Cell) : (s.enter raw c).raw = raw := by
  unfold enter
  split
  · rfl
  · split <;> rfl

/-- What a text is read as does not depend on what the cell held before. -/
theorem formula_enter (s : Sheet) (raw : String) (c c' : Cell) :
    (s.enter raw c).formula = (s.enter raw c').formula := by
  unfold enter
  split
  · rfl
  · split <;> rfl

/-- A text that is not read as a formula has a value that does not depend on it either. -/
theorem value_enter (hformula : (s.enter raw c).formula = none) (c' : Cell) :
    (s.enter raw c).value = (s.enter raw c').value := by
  unfold enter at *
  split at hformula
  · rfl
  · split at hformula
    · cases hformula
    · rfl

/-- The sheet enters texts like another one of its frame. -/
theorem SameFrame.enter_eq (h : s.SameFrame t) (raw : String) (c : Cell) :
    t.enter raw c = s.enter raw c := by
  rw [enter, enter, h.options, h.sameSize.grammar]

/-- The formulas, and the values of cells without one, are those that the texts are read as. -/
structure AsEntered (s : Sheet) : Prop where
  formula : ∀ cell, (s.cellAt cell).formula = (s.enter (s.cellAt cell).raw .blank).formula
  value : ∀ cell, (s.cellAt cell).formula = none →
    s.valueAt cell = (s.enter (s.cellAt cell).raw .blank).value

namespace AsEntered

theorem revalued (h : s.AsEntered) (hrevalued : s.Revalued t) : t.AsEntered where
  formula cell := by
    rw [hrevalued.enter_eq, hrevalued.raw, hrevalued.formula, h.formula]
  value cell hnone := by
    rw [hrevalued.formula] at hnone
    rw [hrevalued.enter_eq, hrevalued.raw, hrevalued.value cell hnone, h.value cell hnone]

theorem install (h : s.AsEntered) (hcell : ∃ c, s.rows.get? cell = some c) (raw : String) :
    (s.install cell raw).AsEntered where
  formula other := by
    rw [(s.sameFrame_install cell raw).enter_eq]
    by_cases hother : other = cell
    · rw [hother, cellAt_install hcell, raw_enter]
      exact formula_enter ..
    · rw [cellAt_install_of_ne hother]
      exact h.formula other
  value other hnone := by
    rw [(s.sameFrame_install cell raw).enter_eq, valueAt]
    by_cases hother : other = cell
    · rw [hother, cellAt_install hcell] at hnone
      rw [hother, cellAt_install hcell, raw_enter]
      exact value_enter hnone _
    · rw [cellAt_install_of_ne hother] at hnone
      rw [cellAt_install_of_ne hother]
      exact h.value other hnone

end AsEntered

/-! ## Sheets into which texts were entered -/

/-- The sheet is one into which nothing but texts were entered, from another one of its frame. -/
structure Entered (start s : Sheet) : Prop where
  frame : start.SameFrame s
  consistent : s.Consistent
  asEntered : s.AsEntered

theorem Entered.setTextAt (h : start.Entered s) (hcell : cell.Within s.nRows s.nCols)
    (raw : String) : start.Entered (s.setTextAt cell raw).1 where
  frame := h.frame.trans (s.sameFrame_setTextAt cell raw)
  consistent := h.consistent.setTextAt hcell raw
  asEntered := by
    have hget := h.consistent.sound.rectangular.within_iff.1 hcell
    exact (h.asEntered.install hget raw).revalued (h.consistent.linked.revalued_setTextAt cell raw)

theorem Entered.load (h : start.Entered s) {entries : List (Coord × String)}
    (hentries : ∀ entry ∈ entries, entry.1.Within s.nRows s.nCols) :
    start.Entered (s.installAll entries).recalculate.1 := by
  have hlinked := (h.consistent.sound.installAll h.consistent.linked hentries).2
  have hrevalued := revalued_recalculate hlinked
  have hall : (s.installAll entries).AsEntered :=
    (installAll_induction (p := fun u => u.Rectangular ∧ u.AsEntered)
      ⟨h.consistent.sound.rectangular, h.asEntered⟩ hentries fun u cell raw _ hcell hu =>
        ⟨(u.sameFrame_install cell raw).rectangular hu.1,
          hu.2.install (hu.1.within_iff.1 hcell) raw⟩).2
  refine ⟨(h.frame.trans (sameFrame_installAll hentries)).trans hrevalued.toSameFrame, ?_,
    hall.revalued hrevalued⟩
  exact (h.consistent.sound.recomputed_of_installAll h.consistent.linked hentries rfl).consistent

theorem Entered.cellAt_eq_blank (h : start.Entered s)
    (hcell : ¬ cell.Within start.nRows start.nCols) : s.cellAt cell = .blank := by
  exact h.consistent.sound.rectangular.cellAt_eq_blank (hcell ∘ h.frame.sameSize.within_iff.1)

/-- Sheets into which the same texts were entered are equal, if no formula is on a cycle. -/
theorem Entered.eq_of_raw (hs : start.Entered s) (ht : start.Entered t)
    (hrect : start.Rectangular) (hraw : ∀ cell, cell.Within start.nRows start.nCols →
      (t.cellAt cell).raw = (s.cellAt cell).raw) (hacyclic : s.links.Acyclic) : t = s := by
  have hraw (cell : Coord) : (t.cellAt cell).raw = (s.cellAt cell).raw := by
    by_cases hcell : cell.Within start.nRows start.nCols
    · exact hraw cell hcell
    · rw [ht.cellAt_eq_blank hcell, hs.cellAt_eq_blank hcell]
  have henter (cell : Coord) : t.enter (t.cellAt cell).raw .blank =
      s.enter (s.cellAt cell).raw .blank := by
    rw [ht.frame.enter_eq, hs.frame.enter_eq, hraw]
  have hformula (cell : Coord) : (t.cellAt cell).formula = (s.cellAt cell).formula := by
    rw [ht.asEntered.formula, hs.asEntered.formula, henter]
  have hsize : s.SameSize t :=
    ⟨ht.frame.sameSize.nRows.trans hs.frame.sameSize.nRows.symm,
      ht.frame.sameSize.nCols.trans hs.frame.sameSize.nCols.symm,
      ht.frame.functions.trans hs.frame.functions.symm⟩
  have hinputs : s.SameInputs t := ⟨hsize, hformula, fun cell hnone => by
    rw [ht.asEntered.value cell ((hformula cell).trans hnone), hs.asEntered.value cell hnone,
      henter]⟩
  have hlinks := hinputs.links_eq hs.consistent.linked ht.consistent.linked
  refine hs.frame.eq_of_cellAt ht.frame hrect hlinks fun cell => ?_
  exact Cell.ext (hraw cell) (hformula cell) <|
    hinputs.valueAt_eq hs.consistent.linked ht.consistent.linked hs.consistent.upToDate
      ht.consistent.upToDate (hacyclic.not_belowCycle cell)

/-- An edit that enters texts leaves a sheet into which nothing else was entered. -/
theorem Entered.apply (h : start.Entered s) {edit : Edit} (hedit : edit.entersTexts) :
    start.Entered (edit.apply s) := by
  unfold Edit.apply
  split
  · next t report hrun =>
    obtain ⟨cell, raw, r, hcell, -, htext⟩ | ⟨entries, r, hentries, -, hload⟩ :=
      Edit.texts_of_run hedit hrun
    · obtain rfl : (s.setTextAt cell raw).1 = t := congrArg Prod.fst htext
      exact h.setTextAt hcell raw
    · obtain rfl : (s.installAll entries).recalculate.1 = t := congrArg Prod.fst hload
      exact h.load hentries
  · exact h

theorem Entered.foldl_apply (h : start.Entered s) {edits : List Edit}
    (hedits : ∀ edit ∈ edits, edit.entersTexts) : start.Entered (edits.foldl Edit.apply s) := by
  induction edits generalizing s with
  | nil => exact h
  | cons edit edits ih =>
    obtain ⟨hedit, hedits⟩ := List.forall_mem_cons.1 hedits
    exact ih (h.apply hedit) hedits

/-! ## The texts of the cells -/

/-- The texts of some cells are those of the entries, and the others have those of before. -/
structure Texts (start : Sheet) (entries : List (Coord × String)) (s : Sheet) : Prop where
  entered : ∀ entry ∈ entries, (s.cellAt entry.1).raw = entry.2
  other : ∀ cell, cell ∉ entries.map Prod.fst → (s.cellAt cell).raw = (start.cellAt cell).raw

variable {entries order : List (Coord × String)}

theorem Texts.raw_eq (hs : Texts start entries s) (ht : Texts start order t)
    (hperm : order.Perm entries) (cell : Coord) : (t.cellAt cell).raw = (s.cellAt cell).raw := by
  by_cases hcell : cell ∈ entries.map Prod.fst
  · obtain ⟨entry, hentry, rfl⟩ := List.mem_map.1 hcell
    rw [hs.entered entry hentry, ht.entered entry (hperm.mem_iff.2 hentry)]
  · have hcell' : cell ∉ order.map Prod.fst := (hperm.map Prod.fst).mem_iff.not.2 hcell
    rw [hs.other cell hcell, ht.other cell hcell']

/-- Entering texts in different cells one after the other enters all of them. -/
theorem texts_foldl {enter : Sheet → Coord × String → Sheet} {p : Sheet → Prop}
    (hstep : ∀ u entry, p u → entry ∈ entries → p (enter u entry) ∧ ∀ cell,
      ((enter u entry).cellAt cell).raw = if cell = entry.1 then entry.2 else (u.cellAt cell).raw)
    (hp : p s) (hnodup : (entries.map Prod.fst).Nodup) :
    Texts s entries (entries.foldl enter s) := by
  induction entries generalizing s with
  | nil => exact ⟨by simp, fun _ _ => rfl⟩
  | cons first entries ih =>
    obtain ⟨hnew, hnodup⟩ := List.nodup_cons.1 hnodup
    obtain ⟨hfirst, hraw⟩ := hstep s first hp List.mem_cons_self
    have hrest := ih (fun u entry hu hentry => hstep u entry hu (List.mem_cons_of_mem _ hentry))
      hfirst hnodup
    refine ⟨List.forall_mem_cons.2 ⟨?_, hrest.entered⟩, fun cell hcell => ?_⟩
    · rw [List.foldl_cons, hrest.other _ hnew, hraw, if_pos rfl]
    · obtain ⟨hne, hcell⟩ := not_or.1 (List.mem_cons.not.1 hcell)
      rw [List.foldl_cons, hrest.other cell hcell, hraw, if_neg hne]

theorem raw_install (hcell : ∃ c, s.rows.get? cell = some c) (raw : String) (other : Coord) :
    ((s.install cell raw).cellAt other).raw =
      if other = cell then raw else (s.cellAt other).raw := by
  split
  · next hother => rw [hother, cellAt_install hcell, raw_enter]
  · next hother => rw [cellAt_install_of_ne hother]

theorem texts_installAll (hrect : s.Rectangular) (hnodup : (entries.map Prod.fst).Nodup)
    (hentries : ∀ entry ∈ entries, entry.1.Within s.nRows s.nCols) :
    Texts s entries (s.installAll entries) := by
  refine texts_foldl (p := s.SameFrame) (fun u entry hu hentry => ?_) (.refl s) hnodup
  have hcell := (hu.rectangular hrect).within_iff.1
    (hu.sameSize.within_iff.2 (hentries entry hentry))
  exact ⟨hu.trans (u.sameFrame_install ..), raw_install hcell entry.2⟩

theorem apply_setText (hcell : cell.Within s.nRows s.nCols) (raw : String) :
    (Edit.setText cell raw).apply s = (s.setTextAt cell raw).1 := by
  rw [Edit.apply, Edit.run, setText, checkCell_eq_ok.2 hcell]
  rfl

theorem apply_load (hentries : ∀ entry ∈ entries, entry.1.Within s.nRows s.nCols) :
    (Edit.load entries).apply s =
      (s.installAll (entries.mergeSort entryAtMost)).recalculate.1 := by
  have hcells : ((entries.mergeSort entryAtMost).forM fun entry => s.checkCell entry.1) = .ok () :=
    forM_checkCell_eq_ok.2 fun entry hentry => hentries entry (List.mem_mergeSort.1 hentry)
  rw [Edit.apply, Edit.run, load, hcells]
  rfl

theorem Entered.texts_setText (h : start.Entered start) (hnodup : (entries.map Prod.fst).Nodup)
    (hentries : ∀ entry ∈ entries, entry.1.Within start.nRows start.nCols) :
    Texts start entries
      (entries.foldl (fun s entry => (Edit.setText entry.1 entry.2).apply s) start) := by
  refine texts_foldl (p := start.Entered) (fun u entry hu hentry => ?_) h hnodup
  have hcell := hu.frame.sameSize.within_iff.2 (hentries entry hentry)
  refine ⟨hu.apply rfl, fun cell => ?_⟩
  rw [apply_setText hcell, (hu.consistent.linked.revalued_setTextAt entry.1 entry.2).raw]
  exact raw_install (hu.consistent.sound.rectangular.within_iff.1 hcell) entry.2 cell

theorem Entered.texts_load (h : start.Entered start) (hnodup : (entries.map Prod.fst).Nodup)
    (hentries : ∀ entry ∈ entries, entry.1.Within start.nRows start.nCols) :
    Texts start (entries.mergeSort entryAtMost) ((Edit.load entries).apply start) := by
  have hperm := List.mergeSort_perm entries entryAtMost
  have hsorted : ∀ entry ∈ entries.mergeSort entryAtMost,
      entry.1.Within start.nRows start.nCols := fun entry hentry =>
    hentries entry (hperm.mem_iff.1 hentry)
  have hlinked := (h.consistent.sound.installAll h.consistent.linked hsorted).2
  have htexts := texts_installAll h.consistent.sound.rectangular
    ((hperm.map Prod.fst).nodup_iff.2 hnodup) hsorted
  rw [apply_load hentries]
  have hraw := (revalued_recalculate hlinked).raw
  exact ⟨fun entry hentry => (hraw _).trans (htexts.entered entry hentry),
    fun cell hcell => (hraw cell).trans (htexts.other cell hcell)⟩

/-! ## Equal texts, equal sheets -/

theorem entered_of_make {functions : Registry} {nRows nCols : Int} {names : List (Option String)}
    {options : Options} (hlawful : functions.Lawful)
    (h : make nRows nCols names options functions = .ok start) : start.Entered start := by
  have hconsistent := (consistent_of_make hlawful h).1
  obtain ⟨columns, -, rfl⟩ := make_eq_ok h
  have hcells (cell : Coord) :
      cellAt { blank nRows.toNat nCols.toNat options functions with columns } cell = .blank :=
    cellAt_blank nRows.toNat nCols.toNat options functions cell
  have henter (s : Sheet) : s.enter "" .blank = .blank := by
    simp [enter, Options.formulaBody?, Cell.blank, Value.ofLiteral, Text.allBlank]
  refine ⟨.refl _, hconsistent, fun cell => ?_, fun cell _ => ?_⟩
  · rw [hcells]
    exact (congrArg Cell.formula (henter _)).symm
  · rw [valueAt, hcells]
    exact (congrArg Cell.value (henter _)).symm

end Sheet

open Sheet

/-- Of a new sheet with the builtin functions, two ways of entering texts that leave the same texts
in all cells leave equal sheets, if no formula is on a cycle in the end. In particular, entering
texts in different cells one by one, in any order, leaves the sheet that loading all of them
does. -/
theorem entry_order_irrelevant {nRows nCols : Int} {names : List (Option String)}
    {options : Options} {start : Sheet} (h : make nRows nCols names options .builtin = .ok start) :
    (∀ edits edits' : List Edit, (∀ edit ∈ edits, edit.entersTexts) →
      (∀ edit ∈ edits', edit.entersTexts) →
      (∀ cell : Coord, cell.Within start.nRows start.nCols →
        ((edits'.foldl Edit.apply start).cellAt cell).raw =
          ((edits.foldl Edit.apply start).cellAt cell).raw) →
      (edits.foldl Edit.apply start).links.Acyclic →
      edits'.foldl Edit.apply start = edits.foldl Edit.apply start) ∧
    (∀ entries order : List (Coord × String), (entries.map Prod.fst).Nodup →
      (∀ entry ∈ entries, entry.1.Within start.nRows start.nCols) → order.Perm entries →
      ((Edit.load entries).apply start).links.Acyclic →
      (order.map fun entry => Edit.setText entry.1 entry.2).foldl Edit.apply start =
        (Edit.load entries).apply start) := by
  have hstart := entered_of_make Registry.lawful_builtin h
  have hrect := hstart.consistent.sound.rectangular
  refine ⟨fun edits edits' hedits hedits' hraw hacyclic => ?_,
    fun entries order hnodup hentries hperm hacyclic => ?_⟩
  · exact (hstart.foldl_apply hedits).eq_of_raw (hstart.foldl_apply hedits') hrect hraw hacyclic
  · have hload : start.Entered ((Edit.load entries).apply start) := hstart.apply rfl
    have hone : ∀ edit ∈ order.map fun entry => Edit.setText entry.1 entry.2, edit.entersTexts :=
      List.forall_mem_map.2 fun _ _ => rfl
    refine hload.eq_of_raw (hstart.foldl_apply hone) hrect (fun cell _ => ?_) hacyclic
    rw [List.foldl_map]
    have hnodup' : (order.map Prod.fst).Nodup := (hperm.map Prod.fst).nodup_iff.2 hnodup
    have horder : ∀ entry ∈ order, entry.1.Within start.nRows start.nCols :=
      fun entry hentry => hentries entry (hperm.mem_iff.1 hentry)
    exact (hstart.texts_load hnodup hentries).raw_eq (hstart.texts_setText hnodup' horder)
      (hperm.trans (List.mergeSort_perm entries entryAtMost).symm) cell

namespace Sheet

/-- A sheet of one row and two columns, loaded with a text in `B1` and a formula in `A1` that reads
it. -/
def loadedSample : Sheet :=
  (Edit.load [(⟨0, 0⟩, "=B1"), (⟨0, 1⟩, "x")]).apply (blank 1 2 .standard .builtin)

/-- The same texts, entered by way of a cycle. -/
def enteredSample : Sheet :=
  [Edit.setText ⟨0, 0⟩ "=B1", .setText ⟨0, 1⟩ "=A1", .setText ⟨0, 1⟩ "x"].foldl Edit.apply
    (blank 1 2 .standard .builtin)

theorem rows_enteredSample : enteredSample.rows = loadedSample.rows := by
  cbv

theorem links_loadedSample : loadedSample.links = ⟨[(⟨0, 0⟩, [⟨0, 1⟩])]⟩ := by
  cbv

theorem acyclic_loadedSample : loadedSample.links.Acyclic := by
  rw [links_loadedSample]
  exact Links.acyclic_of_beingRead (by decide)

end Sheet

theorem entry_order_irrelevant_sample :
    enteredSample = loadedSample ∧
      [Edit.setText ⟨0, 1⟩ "x", .setText ⟨0, 0⟩ "=B1"].foldl Edit.apply
        (blank 1 2 .standard .builtin) = loadedSample := by
  have hstart : make 1 2 [] .standard .builtin = .ok (blank 1 2 .standard .builtin) := rfl
  obtain ⟨hraw, hload⟩ := entry_order_irrelevant hstart
  refine ⟨hraw [_] _ ?_ ?_ (fun cell _ => ?_) acyclic_loadedSample,
    hload _ [(⟨0, 1⟩, "x"), (⟨0, 0⟩, "=B1")] ?_ ?_ ?_ acyclic_loadedSample⟩
  · simp [Edit.entersTexts]
  · simp [Edit.entersTexts]
  · change (enteredSample.cellAt cell).raw = (loadedSample.cellAt cell).raw
    rw [cellAt, rows_enteredSample, cellAt]
  · decide
  · decide
  · exact .swap ..

end Spreadsheet

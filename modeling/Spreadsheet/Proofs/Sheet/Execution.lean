import Mathlib
import Spreadsheet.Proofs.Sheet.Procedure
import Spreadsheet.Proofs.Sheet.Succession

/-!
# Edits step by step do what the operations say

On a sheet that is sound and in step, `Edit.procedure` makes the sheet and the report of `Edit.run`,
or is refused as that is and leaves the sheet as it was (`Edit.does`). The checks of an edit stand
before its first write, and no step after that fails: the cells that are looked up are on the sheet,
the words of formulas that are taken for numbers spell numbers, the formulas that are computed have
values, and those that are written have texts.
-/

namespace Spreadsheet

namespace Sheet

variable {s : Sheet} {cell : Coord} {change change' : Cell → Cell}

theorem modifyCell_modifyCell (s : Sheet) (cell : Coord) (change change' : Cell → Cell) :
    (s.modifyCell cell change).modifyCell cell change' =
      s.modifyCell cell (change' ∘ change) := by
  have hrow (row : List Cell) : (row.modify cell.col.toNat change).modify cell.col.toNat change' =
      row.modify cell.col.toNat (change' ∘ change) :=
    List.modify_modify_eq ..
  rw [modifyCell, modifyCell, modifyCell, Table.modify, Table.modify, Table.modify]
  split
  · rw [List.modify_modify_eq]
    simp only [Function.comp_def, hrow]
  · rfl

/-- Changes that agree on the cell at a place have the same result. -/
theorem modifyCell_congr
    (h : ∀ c, s.rows.get? cell = some c → change c = change' c) :
    s.modifyCell cell change = s.modifyCell cell change' := by
  have hrows : s.rows.modify cell change = s.rows.modify cell change' := by
    refine Table.ext (by simp) fun other => ?_
    rw [Table.get?_modify, Table.get?_modify]
    split
    · next hother =>
      subst hother
      exact Option.map_congr h
    · rfl
  rw [modifyCell, modifyCell, hrows]

/-- Where a text is entered it does not matter what the text and the formula were. -/
theorem install_modifyCell (s : Sheet) (cell : Coord) (raw text : String) :
    (s.modifyCell cell ({ · with raw := text, formula := none })).install cell raw =
      s.install cell raw := by
  rw [install, install, modifyCell_modifyCell]
  refine congrArg (fun enter => (s.modifyCell cell enter).link cell) (funext fun c => ?_)
  exact (SameFrame.enter_eq (sameFrame_modifyCell s cell _) raw _).trans rfl

theorem modifyCell_id (s : Sheet) (cell : Coord) : s.modifyCell cell id = s := by
  have hrow : (fun row : List Cell => row.modify cell.col.toNat id) = id :=
    funext fun row => List.modify_id ..
  rw [modifyCell, Table.modify, hrow, List.modify_id, ite_self]

end Sheet

namespace Procedure

open Sheet

variable {s t base grown : Sheet} {cell : Coord} {edit : LineEdit}

theorem run_lookUp_of_within (hs : s.Rectangular) (hcell : cell.Within s.nRows s.nCols) :
    (lookUp cell).run s = .ok (s.cellAt cell) s := by
  obtain ⟨c, hc⟩ := hs.within_iff.1 hcell
  rw [run_lookUp hc, cellAt_of_get? hc]

theorem run_discard_lookUp (hcell : ∃ c, s.rows.get? cell = some c) :
    (discard (lookUp cell)).run s = .ok () s := by
  obtain ⟨c, hc⟩ := hcell
  exact run_map (fun _ => ()) (run_lookUp hc)

/-! ## Computing -/

/-- Computing the cells of a schedule does not fail on a sound sheet that is in step, with cells of
the sheet on the schedule. -/
theorem run_settle (hs : s.Sound) (h : s.InStep) {schedule : Schedule}
    (hcells : ∀ cell ∈ schedule.cells, cell.Within s.nRows s.nCols) (before : Sheet) (depth : Nat) :
    (settle schedule before depth).run s =
      .ok (s.settle schedule before depth).2 (s.settle schedule before depth).1 := by
  have hread : (schedule.cells.forM fun cell => discard (lookUp cell)).run s = .ok () s :=
    run_forM_of_read fun cell hcell =>
      run_discard_lookUp (h.rectangular.within_iff.1 (hcells cell hcell))
  obtain ⟨u, horder, hstuck⟩ := bind_eq_ok.1 (settled?_eq_ok hs h hcells)
  exact (run_bind hread).trans
    ((run_bind (run_forM_compute horder)).trans (run_bind (run_forM_compute hstuck)))

theorem run_recalculate (hs : s.Sound) (h : s.InStep) :
    recalculate.run s = .ok s.recalculate.2 s.recalculate.1 := by
  refine (run_get _).trans (run_settle hs h (fun cell hcell => ?_) s 0)
  have hformula := h.rectangular.mem_formulaCells.1 (Links.mem_cells_schedule.1 hcell)
  obtain ⟨formula, hformula⟩ := Option.isSome_iff_exists.1 hformula
  exact h.rectangular.within_iff.2 (exists_get?_of_formula hformula)

theorem run_recalculateFrom (hs : s.Sound) (h : s.InStep) (hcell : cell.Within s.nRows s.nCols)
    (before : Sheet) : (recalculateFrom [cell] before).run s =
      .ok (s.recalculateFrom [cell] before).2 (s.recalculateFrom [cell] before).1 := by
  refine (run_get _).trans (run_settle hs h (fun other hother => ?_) before _)
  obtain ⟨root, hroot, hpath⟩ := (Links.mem_cells_scheduleFrom h.linked.ordered).1 hother
  rw [List.mem_singleton.1 hroot] at hpath
  exact h.within_of_path hcell hpath

/-- Linking cells of the sheet anew does not fail. -/
theorem run_link {cells : List Coord} (hcells : ∀ cell ∈ cells, ∃ c, s.rows.get? cell = some c) :
    (cells.forM fun cell => do
      discard (lookUp cell)
      write (·.link cell)).run s = .ok () (cells.foldl link s) := by
  induction cells generalizing s with
  | nil => rfl
  | cons cell cells ih =>
    obtain ⟨hfirst, hrest⟩ := List.forall_mem_cons.1 hcells
    exact (run_bind ((run_bind (run_discard_lookUp hfirst)).trans (run_write _))).trans (ih hrest)

/-- Computing anew does not fail on a sheet that is made of a sound one that is in step. -/
theorem run_rebuild (hs : s.Sound) (h : s.InStep) (hbase : s.Restructured base) :
    rebuild.run base = .ok base.rebuild.2 base.rebuild.1 := by
  obtain ⟨hrectangular, hcells⟩ := h.restructured hbase
  obtain ⟨links, hlinks, hlinked⟩ := relink_spec hrectangular
  have hrelinked : base.relink.InStep := by
    rw [hlinks]
    exact ⟨hrectangular, hlinked, hcells⟩
  have hlink : (base.formulaCells.forM fun cell => do
      discard (lookUp cell)
      write (·.link cell)).run { base with links := .empty } = .ok () base.relink := by
    refine run_link fun cell hcell => ?_
    obtain ⟨formula, hformula⟩ :=
      Option.isSome_iff_exists.1 (hrectangular.mem_formulaCells.1 hcell)
    exact exists_get?_of_formula hformula
  exact (run_bind (run_write _)).trans
    ((run_bind hlink).trans (run_recalculate (hs.restructured hbase).relink.1 hrelinked))

/-! ## Entering texts -/

/-- The words of a formula that are taken for numbers spell numbers. -/
theorem run_checkWords (s : Sheet) (body : String) : (checkWords body).run s = .ok () s := by
  unfold checkWords
  split
  · next tokens htokens =>
    refine run_forM_of_read fun token ht => ?_
    have hformed := formed_of_tokensFrom htokens token ht
    split
    · next spelling hlexeme =>
      rw [hlexeme] at hformed
      rw [checkNumber, if_pos ⟨hformed.isSome_read?, fun hdigits =>
        (Grammar.isDecimal_of_allDigits hformed hdigits).2⟩]
      rfl
    · rfl
  · rfl

theorem run_install (hs : s.Rectangular) (hcell : cell.Within s.nRows s.nCols) (raw : String) :
    (install cell raw).run s = .ok () (s.install cell raw) := by
  let cleared := s.modifyCell cell ({ · with raw, formula := none })
  have hwrite : (write (·.install cell raw)).run cleared = .ok () (s.install cell raw) := by
    rw [← install_modifyCell s cell raw raw]
    rfl
  refine (run_bind (run_discard_lookUp (hs.within_iff.1 hcell))).trans
    ((run_bind (run_write _)).trans ((run_get _).trans ?_))
  cases cleared.options.formulaBody? raw with
  | none => exact hwrite
  | some body => exact (run_bind (run_checkWords _ body)).trans hwrite

theorem run_installAll {entries : List (Coord × String)} (hs : s.Rectangular)
    (hentries : ∀ entry ∈ entries, entry.1.Within s.nRows s.nCols) :
    (entries.forM fun entry => install entry.1 entry.2).run s = .ok () (s.installAll entries) := by
  induction entries generalizing s with
  | nil => rfl
  | cons entry entries ih =>
    obtain ⟨hfirst, hrest⟩ := List.forall_mem_cons.1 hentries
    have hframe := s.sameFrame_install entry.1 entry.2
    rw [← hframe.sameSize.nRows, ← hframe.sameSize.nCols] at hrest
    exact (run_bind (run_install hs hfirst entry.2)).trans (ih (hframe.rectangular hs) hrest)

theorem does_setText (hs : s.Sound) (h : s.InStep) (cell : Coord) (raw : String) :
    (setText cell raw).Does s (s.setText cell raw) := by
  refine does_check fun _ hcheck => ?_
  have hcell := checkCell_eq_ok.1 hcheck
  have hget := h.rectangular.within_iff.1 hcell
  have hsize := (s.sameFrame_install cell raw).sameSize
  have hcell' : cell.Within (s.install cell raw).nRows (s.install cell raw).nCols := by
    rwa [hsize.nRows, hsize.nCols]
  exact (run_bind (run_install h.rectangular hcell raw)).trans
    (run_recalculateFrom (hs.install hget) (h.install hcell) hcell' s)

/-- The text of a formula that is copied is there. -/
theorem run_checkText_shifted (h : s.InStep) {formula : Expr}
    (hformula : (s.cellAt cell).formula = some formula) (rows cols : Int) :
    (checkText ((formula.shifted? rows cols s.nRows s.nCols).getD formula)).run s = .ok () s := by
  obtain ⟨body, -, hparse⟩ := h.cells cell formula hformula
  obtain ⟨lowercase, hprintable⟩ := Grammar.exists_printable_of_parse hparse
  exact run_checkText (Expr.printFault?_eq_none (Expr.printable_shifted hprintable rows cols))

theorem does_fill (hs : s.Sound) (h : s.InStep) (origin target : Coord) :
    (fill origin target).Does s (s.fill origin target) := by
  refine does_check fun _ horigin => does_check fun _ htarget => ?_
  have htarget := checkCell_eq_ok.1 htarget
  have hlookUp := run_lookUp_of_within h.rectangular (checkCell_eq_ok.1 horigin)
  have hrest (rows cols : Int) :
      (check (·.filledText (s.cellAt origin) rows cols) >>= setText target).Does s
        (s.filledText (s.cellAt origin) rows cols >>= fun raw => .ok (s.setTextAt target raw)) := by
    refine does_check fun raw _ => ?_
    rw [← setText_of_within htarget]
    exact does_setText hs h target raw
  refine does_bind hlookUp ?_
  refine (run_get _).trans ?_
  cases hformula : (s.cellAt origin).formula with
  | none => exact hrest _ _
  | some formula => exact does_bind (run_checkText_shifted h hformula _ _) (hrest _ _)

/-- A loop of checks is refused by the first that refuses. -/
theorem does_forM_check {α β : Type} {result : Sheet → α → Except EditFault Unit} {xs : List α}
    {k : Procedure β} {rest : Except EditFault (Sheet × β)}
    (h : (xs.forM (result s)) = .ok () → k.Does s rest) :
    ((xs.forM fun x => check (result · x)) >>= fun _ => k).Does s
      (xs.forM (result s) >>= fun _ => rest) := by
  induction xs with
  | nil => exact h rfl
  | cons x xs ih =>
    rw [List.forM, List.forM, bind_assoc, bind_assoc]
    exact does_check fun _ hfirst => ih fun hrest => h (bind_eq_ok.2 ⟨(), hfirst, hrest⟩)

theorem does_load (hs : s.Sound) (h : s.InStep) (entries : List (Coord × String)) :
    (load entries).Does s (s.load entries) := by
  refine does_forM_check fun hcells => ?_
  have hentries := forM_checkCell_eq_ok.1 hcells
  obtain ⟨hsound, -⟩ := hs.installAll h.linked hentries
  exact (run_bind (run_installAll h.rectangular hentries)).trans
    (run_recalculate hsound (h.installAll hentries))

/-! ## Rows and columns -/

/-- A formula that follows a row or column is written, if it has a text. -/
theorem run_adjustCell {c : Cell} (hc : s.rows.get? cell = some c)
    (htext : ∀ formula, c.formula.bind (·.afterEdit? edit) = some formula →
      formula.printFault? = none) :
    (adjustCell edit cell).run s = .ok () (s.modifyCell cell (s.adjustCell edit)) := by
  refine (run_bind (run_lookUp hc)).trans ?_
  cases hnew : c.formula.bind (·.afterEdit? edit) with
  | none =>
    have hkept : s.modifyCell cell (s.adjustCell edit) = s.modifyCell cell id := by
      refine modifyCell_congr fun c' hc' => ?_
      obtain rfl := Option.some.inj (hc.symm.trans hc')
      rw [Sheet.adjustCell, hnew]
      rfl
    rw [hkept, modifyCell_id]
    rfl
  | some formula =>
    refine (run_bind (run_write _)).trans ((run_bind (run_checkText (htext formula hnew))).trans ?_)
    refine (run_write _).trans (congrArg (EStateM.Result.ok ()) ?_)
    rw [modifyCell_modifyCell]
    refine modifyCell_congr fun c' hc' => ?_
    obtain rfl := Option.some.inj (hc.symm.trans hc')
    rw [Sheet.adjustCell, hnew]
    rfl

theorem exists_run_adjustCells {cells : List Coord} (hnodup : cells.Nodup)
    (hcells : ∀ cell ∈ cells, ∃ c, s.rows.get? cell = some c ∧
      ∀ formula, c.formula.bind (·.afterEdit? edit) = some formula → formula.printFault? = none) :
    ∃ t, (cells.forM (adjustCell edit)).run s = .ok () t ∧ s.SameFrame t ∧ t.links = s.links ∧
      ∀ other, t.cellAt other =
        if other ∈ cells then s.adjustCell edit (s.cellAt other) else s.cellAt other := by
  induction cells generalizing s with
  | nil => exact ⟨s, rfl, .refl s, rfl, fun _ => rfl⟩
  | cons cell cells ih =>
    obtain ⟨hnew, hnodup⟩ := List.nodup_cons.1 hnodup
    obtain ⟨⟨c, hc, htext⟩, hrest⟩ := List.forall_mem_cons.1 hcells
    let u := s.modifyCell cell (s.adjustCell edit)
    have hadjust : u.adjustCell edit = s.adjustCell edit := adjustCell_congr rfl edit
    obtain ⟨t, hrun, hframe, hlinks, ht⟩ := @ih u hnodup fun other hother => by
      obtain ⟨c', hc', htext'⟩ := hrest other hother
      refine ⟨c', ?_, htext'⟩
      have hne : other ≠ cell := fun heq => hnew (heq ▸ hother)
      exact (Table.get?_modify ..).trans ((if_neg hne).trans hc')
    refine ⟨t, (run_bind (run_adjustCell hc htext)).trans hrun,
      (sameFrame_modifyCell ..).trans hframe, hlinks, fun other => ?_⟩
    rw [ht, hadjust]
    by_cases hother : other = cell
    · subst hother
      rw [if_neg hnew, if_pos List.mem_cons_self]
      exact cellAt_modifyCell hc _
    · have hcell : u.cellAt other = s.cellAt other := cellAt_modifyCell_of_ne hother _
      rw [hcell]
      exact if_congr (by simp [hother]) rfl rfl

theorem sameFrame_adjustFormulas (s : Sheet) (edit : LineEdit) :
    s.SameFrame (s.adjustFormulas edit) := by
  refine ⟨rfl, ?_⟩
  rw [Sheet.adjustFormulas, List.map_map]
  exact List.map_congr_left fun _ _ => List.length_map _

/-- The formulas that follow a row or column are written, if they have texts. -/
theorem run_adjustFormulas (hs : s.Rectangular)
    (htext : ∀ cell formula, (s.cellAt cell).formula.bind (·.afterEdit? edit) = some formula →
      formula.printFault? = none) :
    (adjustFormulas edit).run s = .ok () (s.adjustFormulas edit) := by
  have hmem {cell : Coord} : cell ∈ s.cells ↔ cell.Within s.nRows s.nCols := by
    rw [cells, Coord.mem_block_zero]
  have hnodup : s.cells.Nodup := (Coord.ascends_block ..).nodup
  obtain ⟨t, hrun, hframe, hlinks, ht⟩ := exists_run_adjustCells hnodup fun cell hcell => by
    obtain ⟨c, hc⟩ := hs.within_iff.1 (hmem.1 hcell)
    exact ⟨c, hc, cellAt_of_get? hc ▸ htext cell⟩
  have heq : t = s.adjustFormulas edit := by
    refine (sameFrame_adjustFormulas s edit).eq_of_cellAt hframe hs hlinks fun cell => ?_
    rw [ht, cellAt_adjustFormulas]
    split
    · rfl
    · next hcell =>
      rw [hs.cellAt_eq_blank (mt hmem.2 hcell), adjustCell_of_none rfl]
  exact (run_get _).trans (heq ▸ hrun)

/-- After a row or column of a sheet has come or gone, neither writing the formulas nor computing
them fails. -/
theorem run_follow (hs : s.Sound) (h : s.InStep) (hfits : edit.Fits (s.grammar.lines edit.axis))
    (column : Column) :
    (do adjustFormulas edit; rebuild : Procedure Recalc).run (s.relined edit column) =
      .ok (s.follow edit column).rebuild.2 (s.follow edit column).rebuild.1 := by
  have hrelined := relined_relined hfits column
  have hcells : ∀ cell, ((s.relined edit column).cellAt cell).InStep s.options s.grammar :=
    (forall_cellAt (Cell.inStep_blank _ _)).2 fun row hrow c hc =>
      (hrelined.regrown h.rectangular).inStep h hrow hc
  refine (run_bind (run_adjustFormulas (hrelined.rectangular h.rectangular) ?_)).trans
    (run_rebuild hs h (hrelined.restructured h.rectangular))
  intro cell new hnew
  obtain ⟨formula, hformula, hadjusted⟩ := Option.bind_eq_some_iff.1 hnew
  obtain ⟨body, -, hparse⟩ := hcells cell formula hformula
  obtain ⟨lowercase, hprintable⟩ := Grammar.exists_printable_of_parse hparse
  have hafter := Expr.printable_afterEdit hrelined.allows hprintable
  rw [hadjusted] at hafter
  exact Expr.printFault?_eq_none hafter

theorem does_insertRow (hs : s.Sound) (h : s.InStep) (index : Int) :
    (insertRow index).Does s (s.insertRow index) := by
  by_cases hindex : 0 ≤ index ∧ index ≤ s.nRows
  · have hfits : (LineEdit.insert .row index).Fits s.nRows := hindex
    rw [insertRow_eq_follow hindex ⟨none, 0⟩]
    exact (run_bind (run_check (if_pos hindex))).trans ((run_bind (run_write _)).trans
      ((run_bind (run_write _)).trans (run_follow hs h hfits ⟨none, 0⟩)))
  · rw [Sheet.insertRow, if_neg hindex]
    exact does_of_refused (if_neg hindex)

theorem does_deleteRow (hs : s.Sound) (h : s.InStep) (index : Int) :
    (deleteRow index).Does s (s.deleteRow index) := by
  by_cases hindex : 0 ≤ index ∧ index < s.nRows
  · have hfits : (LineEdit.delete .row index).Fits s.nRows := hindex
    rw [deleteRow_eq_follow hindex ⟨none, 0⟩]
    exact (run_bind (run_check (if_pos hindex))).trans ((run_bind (run_write _)).trans
      ((run_bind (run_write _)).trans (run_follow hs h hfits ⟨none, 0⟩)))
  · rw [Sheet.deleteRow, if_neg hindex]
    exact does_of_refused (if_neg hindex)

theorem does_placeColumn (hs : s.Sound) (h : s.InStep) {index : Int} {name : Option String}
    (hindex : 0 ≤ index ∧ index ≤ s.nCols) (hname : ∀ n ∈ name, s.checkName n none = .ok ()) :
    (placeColumn index name).Does s (s.insertColumn index name) := by
  have hfits : (LineEdit.insert .column index).Fits s.nCols := hindex
  rw [insertColumn_eq_follow hindex hname]
  exact (run_bind (run_write _)).trans
    ((run_bind (run_write _)).trans (run_follow hs h hfits ⟨name, s.options.columnWidth⟩))

theorem does_insertColumn (hs : s.Sound) (h : s.InStep) (index : Int) (name : Option String) :
    (insertColumn index name).Does s (s.insertColumn index name) := by
  by_cases hindex : 0 ≤ index ∧ index ≤ s.nCols
  · refine does_bind (run_check (if_pos hindex)) ?_
    cases name with
    | none => exact does_placeColumn hs h hindex (by simp)
    | some name =>
      cases hname : s.checkName name none with
      | ok =>
        exact does_bind (run_check hname) (does_placeColumn hs h hindex (by simpa using hname))
      | error fault =>
        rw [Sheet.insertColumn, if_pos hindex]
        simp only [hname]
        exact does_of_refused hname
  · rw [Sheet.insertColumn, if_neg hindex]
    exact does_of_refused (if_neg hindex)

/-- Rows that have a cell in a column lose it. -/
theorem run_eraseCells {col : Nat} {done rest : List (List Cell)}
    (hrest : ∀ row ∈ rest, col < row.length) (hrows : s.rows = done ++ rest) :
    (eraseCells col done rest).run s =
      .ok () { s with rows := done ++ rest.map (·.eraseIdx col) } := by
  induction rest generalizing s done with
  | nil =>
    rw [List.map_nil, ← hrows]
    rfl
  | cons row rest ih =>
    obtain ⟨hrow, hrest⟩ := List.forall_mem_cons.1 hrest
    have hcheck : (checkColumn col row).run s = .ok () s := by
      rw [checkColumn, if_pos hrow]
      rfl
    refine (run_bind hcheck).trans ((run_bind (run_write _)).trans ((ih hrest ?_).trans ?_))
    · exact List.append_cons ..
    · simp only [List.map_cons, List.append_assoc, List.singleton_append]

theorem does_deleteColumn (hs : s.Sound) (h : s.InStep) (index : Int) :
    (deleteColumn index).Does s (s.deleteColumn index) := by
  by_cases hindex : 0 ≤ index ∧ index < s.nCols
  · have hfits : (LineEdit.delete .column index).Fits s.nCols := hindex
    have hcol : ∀ row ∈ s.rows, index.toNat < row.length := by
      intro row hrow
      rw [h.rectangular row hrow]
      exact (Int.toNat_lt hindex.1).2 hindex.2
    rw [deleteColumn_eq_follow hindex ⟨none, 0⟩]
    exact (run_bind (run_check (if_pos hindex))).trans ((run_bind (run_write _)).trans
      ((run_bind (run_eraseCells hcol rfl)).trans (run_follow hs h hfits ⟨none, 0⟩)))
  · rw [Sheet.deleteColumn, if_neg hindex]
    exact does_of_refused (if_neg hindex)

/-! ## Size and order -/

theorem does_resize (hs : s.Sound) (h : s.InStep) (newCols newRows : Int) :
    (resize newCols newRows).Does s (s.resize newCols newRows) := by
  by_cases hsize : newCols < s.nCols ∨ newRows < s.nRows
  · rw [Sheet.resize, if_pos hsize]
    exact does_of_refused (if_pos hsize)
  · have hsize' : s.nCols ≤ newCols ∧ s.nRows ≤ newRows := by omega
    rw [resize_spec hsize']
    refine (run_bind (run_check (if_neg hsize))).trans ((run_bind (run_write _)).trans
      ((run_bind (run_write _)).trans ?_))
    refine Eq.trans ?_ (run_rebuild hs h (restructured_extended h.rectangular hsize'))
    simp only [extended, Table.extended, nRows, List.length_map]

/-- The rows that are sorted have a cell in each column of the sheet. -/
theorem run_checkColumns (hs : s.Rectangular) {col : Int} {index : Nat}
    (hindex : s.locateColumn col = .ok index) :
    ((s.rows.drop s.fixedRows).forM (checkColumn index)).run s = .ok () s := by
  obtain ⟨⟨hnonneg, hlt⟩, rfl⟩ := locateColumn_eq_ok.1 hindex
  refine run_forM_of_read fun row hrow => ?_
  have hcol : col.toNat < row.length := by
    rw [hs row (List.mem_of_mem_drop hrow)]
    exact (Int.toNat_lt hnonneg).2 hlt
  rw [checkColumn, if_pos hcol]
  rfl

theorem does_sort (hs : s.Sound) (h : s.InStep) (col : Int) (descending : Bool) :
    (sort col descending).Does s (s.sort col descending) :=
  does_check fun index hindex => (run_bind (run_checkColumns h.rectangular hindex)).trans
    ((run_bind (run_write _)).trans
      (run_rebuild hs h (restructured_sorted h.rectangular index descending)))

/-! ## Columns and fixed rows -/

theorem does_setColumnName (s : Sheet) (col : Int) (name : String) :
    (setColumnName col name).Does s ((·, ()) <$> s.setColumnName col name) := by
  rw [Sheet.setColumnName, map_bind]
  refine does_check fun index _ => ?_
  rw [map_bind]
  exact does_check fun _ _ => run_write _

theorem does_setColumnWidth (s : Sheet) (col width : Int) :
    (setColumnWidth col width).Does s ((·, ()) <$> s.setColumnWidth col width) := by
  rw [Sheet.setColumnWidth, map_bind]
  refine does_check fun index _ => ?_
  by_cases hwidth : width < 1
  · simp only [if_pos hwidth]
    exact does_of_refused rfl
  · simp only [if_neg hwidth]
    exact does_bind (run_check rfl) (run_write _)

theorem does_fitColumnWidth (s : Sheet) (col : Int) :
    (fitColumnWidth col).Does s (s.fitColumnWidth col) := by
  refine does_check fun index _ => does_check fun widest _ => ?_
  have hwidth := does_map (fun _ => widest + 1) (does_setColumnWidth s col (widest + 1 : Nat))
  rw [map_eq_pure_bind] at hwidth
  convert hwidth using 1
  dsimp only
  cases s.setColumnWidth col (widest + 1 : Nat) <;> rfl

/-- The columns are described anew, and nothing is reported. -/
theorem does_unreported {p : Procedure Unit} {result : Except EditFault Sheet}
    (h : p.Does s ((·, ()) <$> result)) :
    ((fun _ => (none : Option Recalc)) <$> p).Does s (result.map (·, none)) := by
  have hdoes := does_map (fun _ => (none : Option Recalc)) h
  cases result <;> exact hdoes

theorem does_fixRows (s : Sheet) (count : Int) :
    (fixRows count).Does s ((·, ()) <$> s.fixRows count) := by
  by_cases hcount : 0 ≤ count ∧ count ≤ s.nRows
  · rw [Sheet.fixRows, if_pos hcount]
    exact does_bind (run_check (if_pos hcount)) (run_write _)
  · rw [Sheet.fixRows, if_neg hcount]
    exact does_of_refused (if_neg hcount)

/-! ## Finding a text -/

theorem run_findAmong {cells : List Coord} (hs : s.Rectangular)
    (hcells : ∀ cell ∈ cells, cell.Within s.nRows s.nCols) (text : String) :
    (findAmong text cells).run s = .ok (cells.find? (s.showsText text)) s := by
  induction cells with
  | nil => rfl
  | cons cell cells ih =>
    obtain ⟨hfirst, hrest⟩ := List.forall_mem_cons.1 hcells
    refine (run_bind (run_discard_lookUp (hs.within_iff.1 hfirst))).trans ((run_get _).trans ?_)
    rw [List.find?_cons]
    cases s.showsText text cell with
    | true => rfl
    | false => exact ih hrest

theorem does_find (h : s.Rectangular) (text : String) (start : Coord) :
    (find text start).Does s ((s, ·) <$> s.find? text start) := by
  refine (run_get _).trans ?_
  rw [Sheet.find?]
  cases hempty : s.cells.isEmpty with
  | true => rfl
  | false =>
    rw [if_neg Bool.false_ne_true, if_neg Bool.false_ne_true, map_bind]
    simp only [List.partition_eq_filter_filter]
    refine does_check fun _ _ => run_findAmong h (fun cell hcell => ?_) text
    rw [List.mem_append, List.mem_filter, List.mem_filter] at hcell
    exact Coord.mem_block_zero.1 (hcell.elim And.left And.left)

end Procedure

open Sheet Procedure

/-- On a sheet that is sound and in step an edit does step by step what its operation says. -/
theorem Edit.does {s : Sheet} (hs : s.Sound) (h : s.InStep) (edit : Edit) :
    edit.procedure.Does s (edit.run s) := by
  cases edit with
  | setText cell raw => exact does_map some (does_setText hs h cell raw)
  | clear cell => exact does_map some (does_setText hs h cell "")
  | fill origin target => exact does_map some (does_fill hs h origin target)
  | load entries => exact does_map some (does_load hs h entries)
  | recalculate => exact run_map some (run_recalculate hs h)
  | insertRow index => exact does_map some (does_insertRow hs h index)
  | deleteRow index => exact does_map some (does_deleteRow hs h index)
  | insertColumn index name => exact does_map some (does_insertColumn hs h index name)
  | deleteColumn index => exact does_map some (does_deleteColumn hs h index)
  | resize newCols newRows => exact does_map some (does_resize hs h newCols newRows)
  | sort col descending => exact does_map some (does_sort hs h col descending)
  | setColumnName col name => exact does_unreported (does_setColumnName s col name)
  | setColumnWidth col width => exact does_unreported (does_setColumnWidth s col width)
  | fitColumnWidth col => exact does_map (fun _ => none) (does_fitColumnWidth s col)
  | fixRows count => exact does_unreported (does_fixRows s count)

end Spreadsheet

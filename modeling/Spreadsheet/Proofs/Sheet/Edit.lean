import Spreadsheet.Proofs.Sheet.Current
import Spreadsheet.Proofs.Sheet.Structure
import Spreadsheet.Sheet.Build

/-!
# Edits

An `Edit` is a call of one of the operations that change a sheet, and `Edit.run` carries it out.
Whatever the operation, it does one of three things to a sound and linked sheet (`Edit.effect`): it
enters a text in a cell, it computes all formulas of another such sheet, or it changes nothing but
the names and widths of columns and the number of fixed rows.
-/

namespace Spreadsheet

/-- A call of an operation that changes a sheet. -/
inductive Edit where
  | setText (cell : Coord) (raw : String)
  | clear (cell : Coord)
  | fill (origin target : Coord)
  | load (entries : List (Coord × String))
  | recalculate
  | insertRow (index : Int)
  | deleteRow (index : Int)
  | insertColumn (index : Int) (name : Option String)
  | deleteColumn (index : Int)
  | resize (newCols newRows : Int)
  | sort (col : Int) (descending : Bool)
  | setColumnName (col : Int) (name : String)
  | setColumnWidth (col width : Int)
  | fitColumnWidth (col : Int)
  | fixRows (count : Int)

namespace Edit

/-- The sheet after the edit, with the report of what was computed if the edit makes one. -/
def run (s : Sheet) : Edit → Except EditFault (Sheet × Option Recalc)
  | .setText cell raw => (s.setText cell raw).map (·.map id some)
  | .clear cell => (s.clear cell).map (·.map id some)
  | .fill origin target => (s.fill origin target).map (·.map id some)
  | .load entries => (s.load entries).map (·.map id some)
  | .recalculate => .ok (s.recalculate.map id some)
  | .insertRow index => (s.insertRow index).map (·.map id some)
  | .deleteRow index => (s.deleteRow index).map (·.map id some)
  | .insertColumn index name => (s.insertColumn index name).map (·.map id some)
  | .deleteColumn index => (s.deleteColumn index).map (·.map id some)
  | .resize newCols newRows => (s.resize newCols newRows).map (·.map id some)
  | .sort col descending => (s.sort col descending).map (·.map id some)
  | .setColumnName col name => (s.setColumnName col name).map (·, none)
  | .setColumnWidth col width => (s.setColumnWidth col width).map (·, none)
  | .fitColumnWidth col => (s.fitColumnWidth col).map (·.map id fun _ => none)
  | .fixRows count => (s.fixRows count).map (·, none)

/-- The edit computes all formulas. -/
def computesAll : Edit → Bool
  | .load _ | .recalculate | .insertRow _ | .deleteRow _ | .insertColumn _ _ | .deleteColumn _
  | .resize _ _ | .sort _ _ => true
  | _ => false

/-- The edit enters texts and computes, in a sheet of one size. -/
def entersTexts : Edit → Bool
  | .setText _ _ | .clear _ | .fill _ _ | .load _ | .recalculate => true
  | _ => false

/-- The edit makes rows and columns come, go or move. -/
def restructures : Edit → Bool
  | .insertRow _ | .deleteRow _ | .insertColumn _ _ | .deleteColumn _ | .resize _ _
  | .sort _ _ => true
  | _ => false

/-- What an edit does to a sheet: the sheet afterwards and the report. -/
inductive Effect (s : Sheet) : Sheet → Option Recalc → Prop
  /-- A text is entered in a cell, and what depends on it is computed. -/
  | entered (cell : Coord) (raw : String) (hcell : cell.Within s.nRows s.nCols) :
      Effect s (s.setTextAt cell raw).1 (some (s.setTextAt cell raw).2)
  /-- All formulas of another sheet are computed. -/
  | computed {t : Sheet} {r : Recalc} (h : s.Recomputed t r) : Effect s t (some r)
  /-- Columns are described anew, and rows fixed. -/
  | relabelled (columns : List Column) (fixedRows : Nat)
      (hcolumns : columns.length = s.columns.length) :
      Effect s { s with columns, fixedRows } none

end Edit

namespace Sheet

variable {s t : Sheet} {cell : Coord} {r : Recalc} {entries : List (Coord × String)}

/-! ## Texts -/

theorem checkCell_eq_ok : s.checkCell cell = .ok () ↔ cell.Within s.nRows s.nCols := by
  unfold checkCell
  split <;> simp [*]

theorem locateColumn_eq_ok {col : Int} {index : Nat} :
    s.locateColumn col = .ok index ↔ (0 ≤ col ∧ col < s.nCols) ∧ col.toNat = index := by
  unfold locateColumn
  split <;> simp [*]

theorem setText_eq_ok {raw : String} (h : s.setText cell raw = .ok (t, r)) :
    cell.Within s.nRows s.nCols ∧ s.setTextAt cell raw = (t, r) := by
  obtain ⟨_, hcell, h⟩ := bind_eq_ok.1 h
  exact ⟨checkCell_eq_ok.1 hcell, Except.ok.inj h⟩

theorem setText_of_within (hcell : cell.Within s.nRows s.nCols) (raw : String) :
    s.setText cell raw = .ok (s.setTextAt cell raw) := by
  rw [setText, checkCell_eq_ok.2 hcell]
  rfl

theorem fill_eq_ok {origin target : Coord} (h : s.fill origin target = .ok (t, r)) :
    ∃ raw, target.Within s.nRows s.nCols ∧ s.setTextAt target raw = (t, r) := by
  obtain ⟨_, -, h⟩ := bind_eq_ok.1 h
  obtain ⟨_, htarget, h⟩ := bind_eq_ok.1 h
  obtain ⟨raw, -, h⟩ := bind_eq_ok.1 h
  exact ⟨raw, checkCell_eq_ok.1 htarget, Except.ok.inj h⟩

/-- The sheet with texts entered one after the other and nothing computed. -/
def installAll (s : Sheet) (entries : List (Coord × String)) : Sheet :=
  entries.foldl (fun s (cell, raw) => s.install cell raw) s

theorem forM_checkCell_eq_ok : (entries.forM fun entry => s.checkCell entry.1) = .ok () ↔
    ∀ entry ∈ entries, entry.1.Within s.nRows s.nCols := by
  induction entries with
  | nil => exact iff_of_true rfl (by simp)
  | cons entry entries ih =>
    rw [List.forM, bind_eq_ok, List.forall_mem_cons, ← ih, ← checkCell_eq_ok]
    exact ⟨fun ⟨_, hfirst, hrest⟩ => ⟨hfirst, hrest⟩, fun ⟨hfirst, hrest⟩ => ⟨(), hfirst, hrest⟩⟩

theorem load_eq_ok (h : s.load entries = .ok (t, r)) :
    (∀ entry ∈ entries, entry.1.Within s.nRows s.nCols) ∧
      (s.installAll (entries.mergeSort entryAtMost)).recalculate = (t, r) := by
  obtain ⟨_, hcells, h⟩ := bind_eq_ok.1 h
  refine ⟨fun entry hentry => ?_, Except.ok.inj h⟩
  exact forM_checkCell_eq_ok.1 hcells entry (List.mem_mergeSort.2 hentry)

/-- What entering a text in a cell of the sheet keeps, entering many keeps. -/
theorem installAll_induction {p : Sheet → Prop} (hp : p s)
    (hentries : ∀ entry ∈ entries, entry.1.Within s.nRows s.nCols)
    (hinstall : ∀ u cell raw, s.SameFrame u → cell.Within u.nRows u.nCols → p u →
      p (u.install cell raw)) : p (s.installAll entries) := by
  induction entries generalizing s with
  | nil => exact hp
  | cons entry entries ih =>
    obtain ⟨cell, raw⟩ := entry
    obtain ⟨hcell, hentries⟩ := List.forall_mem_cons.1 hentries
    have hframe := s.sameFrame_install cell raw
    refine ih (hinstall s cell raw (.refl s) hcell hp) ?_ fun u other text hu =>
      hinstall u other text (hframe.trans hu)
    rw [hframe.sameSize.nRows, hframe.sameSize.nCols]
    exact hentries

theorem sameFrame_installAll (hentries : ∀ entry ∈ entries, entry.1.Within s.nRows s.nCols) :
    s.SameFrame (s.installAll entries) :=
  installAll_induction (p := s.SameFrame) (.refl s) hentries
    fun u cell raw hframe _ _ => hframe.trans (u.sameFrame_install cell raw)

theorem Sound.installAll (h : s.Sound) (hlinked : s.Linked)
    (hentries : ∀ entry ∈ entries, entry.1.Within s.nRows s.nCols) :
    (s.installAll entries).Sound ∧ (s.installAll entries).Linked :=
  installAll_induction (p := fun u => u.Sound ∧ u.Linked) ⟨h, hlinked⟩ hentries
    fun _ cell raw _ hcell hu =>
      ⟨hu.1.install (hu.1.rectangular.within_iff.1 hcell), hu.2.install cell raw⟩

theorem Sound.recomputed_of_installAll (h : s.Sound) (hlinked : s.Linked)
    (hentries : ∀ entry ∈ entries, entry.1.Within s.nRows s.nCols)
    (hrun : (s.installAll entries).recalculate = (t, r)) : s.Recomputed t r := by
  obtain ⟨hsound, hlinked⟩ := h.installAll hlinked hentries
  exact ⟨_, hsound, hlinked, (sameFrame_installAll hentries).functions, hrun⟩

/-! ## Columns and fixed rows -/

theorem setColumnName_eq_ok {col : Int} {name : String} (h : s.setColumnName col name = .ok t) :
    ∃ columns : List Column, columns.length = s.columns.length ∧ { s with columns } = t := by
  obtain ⟨index, -, h⟩ := bind_eq_ok.1 h
  obtain ⟨_, -, h⟩ := bind_eq_ok.1 h
  exact ⟨_, List.length_modify .., Except.ok.inj h⟩

theorem setColumnWidth_eq_ok {col width : Int} (h : s.setColumnWidth col width = .ok t) :
    ∃ columns : List Column, columns.length = s.columns.length ∧ { s with columns } = t := by
  obtain ⟨index, -, h⟩ := bind_eq_ok.1 h
  split at h
  · cases h
  · exact ⟨_, List.length_modify .., Except.ok.inj h⟩

theorem fitColumnWidth_eq_ok {col : Int} {width : Nat} (h : s.fitColumnWidth col = .ok (t, width)) :
    ∃ columns : List Column, columns.length = s.columns.length ∧ { s with columns } = t := by
  obtain ⟨index, -, h⟩ := bind_eq_ok.1 h
  obtain ⟨widest, -, h⟩ := bind_eq_ok.1 h
  obtain ⟨u, hu, h⟩ := bind_eq_ok.1 h
  cases h
  exact setColumnWidth_eq_ok hu

theorem fixRows_eq_ok {count : Int} (h : s.fixRows count = .ok t) :
    { s with fixedRows := count.toNat } = t := by
  unfold fixRows at h
  split at h
  · exact Except.ok.inj h
  · cases h

end Sheet

namespace Edit

open Sheet

variable {s t : Sheet} {edit : Edit} {report : Option Recalc}

/-- A text is entered in a cell that is on the sheet. -/
theorem run_setText {cell : Coord} (hcell : cell.Within s.nRows s.nCols) (raw : String) :
    run s (.setText cell raw) = .ok ((s.setTextAt cell raw).1, some (s.setTextAt cell raw).2) := by
  rw [run, Sheet.setText_of_within hcell]
  rfl

theorem Effect.of_setTextAt {cell : Coord} {raw : String} {r : Recalc}
    (hcell : cell.Within s.nRows s.nCols) (h : s.setTextAt cell raw = (t, r)) :
    Effect s t (some r) := by
  have heffect := Effect.entered cell raw hcell
  rwa [h] at heffect

theorem eq_ok_of_reported {result : Except EditFault (Sheet × Recalc)}
    (h : result.map (·.map id some) = .ok (t, report)) :
    ∃ r, report = some r ∧ result = .ok (t, r) := by
  obtain ⟨⟨t, r⟩, hresult, heq⟩ := map_eq_ok.1 h
  cases heq
  exact ⟨r, rfl, hresult⟩

theorem eq_ok_of_unreported {result : Except EditFault Sheet}
    (h : result.map (·, none) = .ok (t, report)) : report = none ∧ result = .ok t := by
  obtain ⟨t, hresult, heq⟩ := map_eq_ok.1 h
  cases heq
  exact ⟨rfl, hresult⟩

/-- An edit that enters texts enters one in a cell and computes what depends on it, or enters some
in many cells and computes all formulas. -/
theorem texts_of_run (hedit : edit.entersTexts) (h : edit.run s = .ok (t, report)) :
    (∃ cell raw r, cell.Within s.nRows s.nCols ∧ report = some r ∧
      s.setTextAt cell raw = (t, r)) ∨
    (∃ entries r, (∀ entry ∈ entries, entry.1.Within s.nRows s.nCols) ∧ report = some r ∧
      (s.installAll entries).recalculate = (t, r)) := by
  cases edit with
  | setText cell raw =>
    obtain ⟨r, hreport, hrun⟩ := eq_ok_of_reported h
    obtain ⟨hcell, htext⟩ := setText_eq_ok hrun
    exact .inl ⟨cell, raw, r, hcell, hreport, htext⟩
  | clear cell =>
    obtain ⟨r, hreport, hrun⟩ := eq_ok_of_reported h
    obtain ⟨hcell, htext⟩ := setText_eq_ok hrun
    exact .inl ⟨cell, "", r, hcell, hreport, htext⟩
  | fill origin target =>
    obtain ⟨r, hreport, hrun⟩ := eq_ok_of_reported h
    obtain ⟨raw, htarget, htext⟩ := fill_eq_ok hrun
    exact .inl ⟨target, raw, r, htarget, hreport, htext⟩
  | load entries =>
    obtain ⟨r, hreport, hrun⟩ := eq_ok_of_reported h
    obtain ⟨hentries, hload⟩ := load_eq_ok hrun
    exact .inr ⟨_, r, fun entry hentry => hentries entry (List.mem_mergeSort.1 hentry), hreport,
      hload⟩
  | recalculate =>
    cases h
    exact .inr ⟨[], _, by simp, rfl, rfl⟩
  | _ => cases hedit

/-- An edit that makes rows and columns come, go or move links another sheet anew and computes
it. -/
theorem restructured_of_run (hs : s.Rectangular) (hedit : edit.restructures)
    (h : edit.run s = .ok (t, report)) :
    ∃ base r, report = some r ∧ s.Restructured base ∧ base.rebuild = (t, r) := by
  have hrun {result : Except EditFault (Sheet × Recalc)}
      (h : result.map (·.map id some) = .ok (t, report))
      (hresult : ∀ {t r}, result = .ok (t, r) →
        ∃ base, s.Restructured base ∧ base.rebuild = (t, r)) :
      ∃ base r, report = some r ∧ s.Restructured base ∧ base.rebuild = (t, r) := by
    obtain ⟨r, hreport, hok⟩ := eq_ok_of_reported h
    obtain ⟨base, hbase, hrebuild⟩ := hresult hok
    exact ⟨base, r, hreport, hbase, hrebuild⟩
  cases edit with
  | insertRow index => exact hrun h (restructured_of_insertRow hs)
  | deleteRow index => exact hrun h (restructured_of_deleteRow hs)
  | insertColumn index name => exact hrun h (restructured_of_insertColumn hs)
  | deleteColumn index => exact hrun h (restructured_of_deleteColumn hs)
  | resize newCols newRows => exact hrun h (restructured_of_resize hs)
  | sort col descending => exact hrun h (restructured_of_sort hs)
  | _ => cases hedit

/-- An edit that neither enters texts nor restructures changes nothing but names and widths of
columns and the number of fixed rows. -/
theorem relabelled_of_run (htexts : edit.entersTexts = false)
    (hrestructures : edit.restructures = false) (h : edit.run s = .ok (t, report)) :
    report = none ∧ ∃ (columns : List Column) (fixedRows : Nat),
      columns.length = s.columns.length ∧ t = { s with columns, fixedRows } := by
  cases edit with
  | setColumnName col name =>
    obtain ⟨rfl, hrun⟩ := eq_ok_of_unreported h
    obtain ⟨columns, hcolumns, hlabels⟩ := setColumnName_eq_ok hrun
    exact ⟨rfl, columns, s.fixedRows, hcolumns, hlabels.symm⟩
  | setColumnWidth col width =>
    obtain ⟨rfl, hrun⟩ := eq_ok_of_unreported h
    obtain ⟨columns, hcolumns, hlabels⟩ := setColumnWidth_eq_ok hrun
    exact ⟨rfl, columns, s.fixedRows, hcolumns, hlabels.symm⟩
  | fitColumnWidth col =>
    obtain ⟨⟨u, width⟩, hfit, heq⟩ := map_eq_ok.1 h
    cases heq
    obtain ⟨columns, hcolumns, hlabels⟩ := fitColumnWidth_eq_ok hfit
    exact ⟨rfl, columns, s.fixedRows, hcolumns, hlabels.symm⟩
  | fixRows count =>
    obtain ⟨rfl, hrun⟩ := eq_ok_of_unreported h
    exact ⟨rfl, s.columns, count.toNat, rfl, (fixRows_eq_ok hrun).symm⟩
  | setText | clear | fill | load | recalculate => cases htexts
  | _ => cases hrestructures

/-- What an edit that computes all formulas does to a sound and linked sheet. -/
theorem recomputed (hs : s.Sound) (hl : s.Linked) (hall : edit.computesAll)
    (h : edit.run s = .ok (t, report)) : ∃ r, report = some r ∧ s.Recomputed t r := by
  by_cases hrestructures : edit.restructures
  · obtain ⟨base, r, hreport, hbase, hrebuild⟩ :=
      restructured_of_run hs.rectangular hrestructures h
    exact ⟨r, hreport, hs.recomputed_of_restructured hbase hrebuild⟩
  cases edit with
  | load entries =>
    obtain ⟨r, hreport, hrun⟩ := eq_ok_of_reported h
    obtain ⟨hentries, hload⟩ := load_eq_ok hrun
    refine ⟨r, hreport, hs.recomputed_of_installAll hl (fun entry hentry => ?_) hload⟩
    exact hentries entry (List.mem_mergeSort.1 hentry)
  | recalculate =>
    cases h
    exact ⟨_, rfl, s, hs, hl, rfl, rfl⟩
  | insertRow | deleteRow | insertColumn | deleteColumn | resize | sort =>
    exact absurd rfl hrestructures
  | _ => cases hall

/-- What an edit does to a sound and linked sheet. -/
theorem effect (hs : s.Sound) (hl : s.Linked) (h : edit.run s = .ok (t, report)) :
    Effect s t report := by
  by_cases hall : edit.computesAll
  · obtain ⟨r, rfl, hrecomputed⟩ := recomputed hs hl hall h
    exact .computed hrecomputed
  by_cases htexts : edit.entersTexts
  · obtain ⟨cell, raw, r, hcell, rfl, htext⟩ | ⟨entries, r, hentries, rfl, hload⟩ :=
      texts_of_run htexts h
    · exact .of_setTextAt hcell htext
    · exact .computed (hs.recomputed_of_installAll hl hentries hload)
  have hrestructures : edit.restructures = false := by
    cases edit <;> first | rfl | exact absurd rfl hall
  obtain ⟨rfl, columns, fixedRows, hcolumns, rfl⟩ :=
    relabelled_of_run (Bool.eq_false_iff.2 htexts) hrestructures h
  exact .relabelled columns fixedRows hcolumns

end Edit

end Spreadsheet

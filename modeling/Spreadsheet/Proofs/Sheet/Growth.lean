import Mathlib
import Spreadsheet.Proofs.Sheet.Relocation
import Spreadsheet.Proofs.Sheet.Values

/-!
# Growing and shrinking sheets

Rows and columns that come disturb nothing: no value changes, and no reference is lost
(`Reachable.growth_spec`). A row or column that goes disturbs no more than the cells that read one
of its cells, directly or through others (`Reachable.deletion_spec`). In both cases the sheet is
relocated to the one that is linked anew and computed (`Edit.Rebuilds`).
-/

namespace Spreadsheet

open Relation

namespace Edit

/-- The row or column that comes or goes. -/
def lineEdit? : Edit → Option LineEdit
  | .insertRow index => some (.insert .row index)
  | .deleteRow index => some (.delete .row index)
  | .insertColumn index _ => some (.insert .column index)
  | .deleteColumn index => some (.delete .column index)
  | _ => none

/-- Where a cell is after rows or columns come or go, if it still is. -/
def place? (edit : Edit) (cell : Coord) : Option Coord :=
  match edit.lineEdit? with
  | some line => line.place? cell
  | none => some cell

/-- What a reference is after rows or columns come or go, if it is written anew. -/
def reference? (edit : Edit) (ref : Expr) : Option Expr :=
  match edit.lineEdit? with
  | some line => line.reference? ref
  | none => none

/-- The numbers of rows and columns after rows or columns come or go. -/
def sizeAfter (s : Sheet) : Edit → Int × Int
  | .insertRow _ => (s.nRows + 1, s.nCols)
  | .deleteRow _ => (s.nRows - 1, s.nCols)
  | .insertColumn _ _ => (s.nRows, s.nCols + 1)
  | .deleteColumn _ => (s.nRows, s.nCols - 1)
  | .resize newCols newRows => (newRows, newCols)
  | _ => (s.nRows, s.nCols)

/-- The edit inserts a row or column at a place of the sheet, under a name that a column may have if
it gives one, or makes the sheet no smaller. -/
def Grows (s : Sheet) : Edit → Prop
  | .insertRow index => 0 ≤ index ∧ index ≤ s.nRows
  | .insertColumn index name =>
    (0 ≤ index ∧ index ≤ s.nCols) ∧ ∀ n ∈ name, s.checkName n none = .ok ()
  | .resize newCols newRows => s.nCols ≤ newCols ∧ s.nRows ≤ newRows
  | _ => False

/-- The edit deletes a row or column of the sheet. -/
def Deletes (s : Sheet) : Edit → Prop
  | .deleteRow index => 0 ≤ index ∧ index < s.nRows
  | .deleteColumn index => 0 ≤ index ∧ index < s.nCols
  | _ => False

variable {s t base grown : Sheet} {edit : Edit} {line : LineEdit} {cell cell' : Coord}

/-- The edit links the second sheet anew and computes it, to which the first one is relocated. -/
structure Rebuilds (edit : Edit) (s base : Sheet) : Prop where
  rectangular : base.Rectangular
  relocated : s.Relocated base edit.place? edit.reference?
  value : ∀ {cell cell'}, edit.place? cell = some cell' → base.valueAt cell' = s.valueAt cell
  size : ((base.nRows : Int), (base.nCols : Int)) = edit.sizeAfter s
  run : edit.run s = .ok (base.rebuild.map id some)

theorem rebuilds_of_relined (hs : s.Rectangular) (h : s.Relined grown line)
    (hline : edit.lineEdit? = some line)
    (hrows : ∀ index, line = .insert .row index → 2 ≤ s.nRows)
    (hsize : ((s.grammar.after line).nRows, (s.grammar.after line).nCols) = edit.sizeAfter s)
    (hrun : edit.run s = .ok ((grown.adjustFormulas line).rebuild.map id some)) :
    edit.Rebuilds s (grown.adjustFormulas line) := by
  have hplace : edit.place? = line.place? := by
    funext cell
    rw [place?, hline]
  have hreference : edit.reference? = line.reference? := by
    funext ref
    rw [reference?, hline]
  refine ⟨(h.rectangular hs).adjustFormulas line, ?_, fun hmoved => ?_, ?_, hrun⟩
  · rw [hplace, hreference]
    exact h.relocated hs hrows
  · rw [hplace] at hmoved
    rw [Sheet.valueAt, h.cellAt_adjustFormulas hmoved, Sheet.value_adjustCell, Sheet.valueAt]
  · rw [← hsize, ← h.grammar, ← grown.grammar_adjustFormulas line]
    rfl

/-- Growing a sheet of two rows at least, or deleting a row or column of it, is computing another
sheet to which it is relocated. -/
theorem exists_rebuilds (hs : s.Rectangular)
    (hedit : edit.Grows s ∧ 2 ≤ s.nRows ∨ edit.Deletes s) : ∃ base, edit.Rebuilds s base := by
  obtain ⟨hedit, htwo⟩ | hedit := hedit
  · cases edit with
    | insertRow index =>
      obtain ⟨grown, hrelined, hspec⟩ := Sheet.insertRow_spec hedit
      exact ⟨_, rebuilds_of_relined hs hrelined rfl (fun _ _ => htwo) rfl
        (congrArg (Except.map _) hspec)⟩
    | insertColumn index name =>
      obtain ⟨grown, hrelined, hspec⟩ := Sheet.insertColumn_spec hedit.1 hedit.2
      exact ⟨_, rebuilds_of_relined hs hrelined rfl (fun _ _ => htwo) rfl
        (congrArg (Except.map _) hspec)⟩
    | resize newCols newRows =>
      obtain ⟨hregrown, hcarried, hcols, hrows⟩ := Sheet.extended_spec hs hedit
      have hspec := Sheet.resize_spec hedit
      obtain ⟨hnCols, hnRows⟩ := hedit
      refine ⟨_, hregrown.rectangular, ?_, ?_, Prod.ext hrows hcols,
        congrArg (Except.map _) hspec⟩
      · exact hcarried.relocated hs hregrown (by omega) (by omega) htwo
      · exact fun hplace => congrArg Cell.value (hcarried.cellAt hplace)
    | _ => cases hedit
  · cases edit with
    | deleteRow index =>
      obtain ⟨grown, hrelined, hspec⟩ := Sheet.deleteRow_spec hedit
      exact ⟨_, rebuilds_of_relined hs hrelined rfl nofun rfl (congrArg (Except.map _) hspec)⟩
    | deleteColumn index =>
      obtain ⟨grown, hrelined, hspec⟩ := Sheet.deleteColumn_spec hedit
      exact ⟨_, rebuilds_of_relined hs hrelined rfl nofun rfl (congrArg (Except.map _) hspec)⟩
    | _ => cases hedit

theorem Grows.exists_place? (h : edit.Grows s) (cell : Coord) :
    ∃ cell', edit.place? cell = some cell' := by
  cases edit with
  | insertRow | insertColumn | resize => exact ⟨_, rfl⟩
  | _ => cases h

namespace Rebuilds

/-- The sheet after the edit. -/
theorem run_eq (h : edit.Rebuilds s base) :
    edit.run s = .ok (base.rebuild.1, some base.rebuild.2) := h.run

theorem size_rebuild (h : edit.Rebuilds s base) :
    ((base.rebuild.1.nRows : Int), (base.rebuild.1.nCols : Int)) = edit.sizeAfter s := by
  obtain ⟨links, -, hrevalued⟩ := Sheet.revalued_rebuild h.rectangular
  rw [hrevalued.sameSize.nRows, hrevalued.sameSize.nCols]
  exact h.size

theorem relocated_rebuild (h : edit.Rebuilds s base) :
    s.Relocated base.rebuild.1 edit.place? edit.reference? :=
  h.relocated.rebuild h.rectangular

theorem acyclic (h : edit.Rebuilds s base) (hs : Reachable .builtin s)
    (hacyclic : s.links.Acyclic) : base.rebuild.1.links.Acyclic :=
  h.relocated_rebuild.acyclic hs.inStep.1 (hs.edit edit h.run_eq).inStep.1.linked hacyclic

/-- A cell has its value as before if all cells are left that it depends on. -/
theorem valueAt_eq (h : edit.Rebuilds s base) (hs : Reachable .builtin s)
    (hacyclic : s.links.Acyclic) (hplace : edit.place? cell = some cell')
    (hleft : ∀ ref, TransGen s.links.Reads cell ref → (edit.place? ref).isSome) :
    base.rebuild.1.valueAt cell' = s.valueAt cell := by
  have hsConsistent := (hs.consistent Registry.lawful_builtin).1
  have htConsistent := ((hs.edit edit h.run_eq).consistent Registry.lawful_builtin).1
  have hfunctions : s.functions.IgnoresBlanks := by
    rw [(hs.consistent Registry.lawful_builtin).2]
    exact Registry.ignoresBlanks_builtin
  exact h.relocated_rebuild.valueAt_eq hs.inStep.1 htConsistent.linked hfunctions hacyclic
    hsConsistent.upToDate htConsistent.upToDate hplace hleft

/-- Nothing changes if all cells are left. -/
theorem changes_eq_nil (h : edit.Rebuilds s base) (hs : Reachable .builtin s)
    (hacyclic : s.links.Acyclic) (hleft : ∀ cell, (edit.place? cell).isSome) :
    base.rebuild.2.changes = [] := by
  have hsame (cell' : Coord) : base.relink.valueAt cell' = base.rebuild.1.valueAt cell' := by
    obtain ⟨links, hlinks, -⟩ := Sheet.revalued_rebuild h.rectangular
    have hrelinked : base.relink.valueAt cell' = base.valueAt cell' := by
      rw [hlinks]
      rfl
    rw [hrelinked]
    by_cases hold : ∃ cell : Coord, cell.Within s.nRows s.nCols ∧ edit.place? cell = some cell'
    · obtain ⟨cell, -, hplace⟩ := hold
      rw [h.valueAt_eq hs hacyclic hplace fun ref _ => hleft ref, h.value hplace]
    · have hnew : ∀ cell : Coord, cell.Within s.nRows s.nCols → edit.place? cell ≠ some cell' :=
        fun cell hcell hplace => hold ⟨cell, hcell, hplace⟩
      rw [Sheet.valueAt, h.relocated.blank hnew, Sheet.valueAt, h.relocated_rebuild.blank hnew]
  have ht := ((hs.edit edit h.run_eq).consistent Registry.lawful_builtin).1
  refine List.filterMap_eq_nil_iff.2 fun cell' _ => if_pos ?_
  have hdefinite : (base.rebuild.1.valueAt cell').Definite := (ht.sound.cells cell').definite
  exact (hsame cell').symm ▸ hdefinite.same_self

end Rebuilds

end Edit

open Sheet

variable {s : Sheet} {edit : Edit}

/-! ## Growth -/

namespace Sheet

/-- A sheet of two rows and two columns: `A1` and `A2` have texts, `B1` reads `A1`, and `B2` the
range of both. -/
def rangeSample : Sheet :=
  let first := ((blank 2 2 .standard .builtin).setTextAt ⟨0, 0⟩ "x").1
  let second := (first.setTextAt ⟨0, 1⟩ "=A1").1
  let third := (second.setTextAt ⟨1, 0⟩ "y").1
  (third.setTextAt ⟨1, 1⟩ "=A1:A2").1

theorem reachable_rangeSample : Reachable .builtin rangeSample := by
  have hstart : Reachable .builtin (blank 2 2 .standard .builtin) :=
    @Reachable.make .builtin 2 2 [] .standard _ rfl
  have hfirst := hstart.setTextAt ⟨0, 0⟩ (by decide) "x"
  have hsecond := hfirst.setTextAt ⟨0, 1⟩ (by simp only [nRows_setTextAt, nCols_setTextAt]; decide)
    "=A1"
  have hthird := hsecond.setTextAt ⟨1, 0⟩
    (by simp only [nRows_setTextAt, nCols_setTextAt]; decide) "y"
  exact hthird.setTextAt ⟨1, 1⟩ (by simp only [nRows_setTextAt, nCols_setTextAt]; decide) "=A1:A2"

theorem size_rangeSample : rangeSample.nRows = 2 ∧ rangeSample.nCols = 2 := by
  simp only [rangeSample, nRows_setTextAt, nCols_setTextAt]
  exact ⟨rfl, rfl⟩

theorem links_rangeSample : rangeSample.links =
    ⟨[(⟨0, 1⟩, [⟨0, 0⟩]), (⟨1, 1⟩, [⟨0, 0⟩, ⟨1, 0⟩])]⟩ := by
  cbv

theorem valueAt_rangeSample : rangeSample.valueAt ⟨0, 1⟩ = .text "x" := by
  cbv

theorem reads_of_read_rangeSample :
    ∀ ref ∈ rangeSample.links.beingRead, rangeSample.links.reads ref = [] := by
  rw [links_rangeSample]
  decide

theorem acyclic_rangeSample : rangeSample.links.Acyclic :=
  Links.acyclic_of_beingRead reads_of_read_rangeSample

theorem within_rangeSample {cell : Coord} (hcell : cell.Within 2 2) :
    cell.Within rangeSample.nRows rangeSample.nCols := by
  rwa [size_rangeSample.1, size_rangeSample.2]

end Sheet

/-- Inserting a row or column anywhere and growing at the end change no value of a reachable sheet
of two rows at least on which no formula is on a cycle: each cell has its value in its new place and
its formula no more references to cells that are gone, the new cells are blank, and no change is
reported. -/
theorem Reachable.growth_spec (h : Reachable .builtin s) (hrows : 2 ≤ s.nRows)
    (hacyclic : s.links.Acyclic) (hedit : edit.Grows s) :
    ∃ t r, edit.run s = .ok (t, some r) ∧ r.changes = [] ∧
      ((t.nRows : Int), (t.nCols : Int)) = edit.sizeAfter s ∧
      (∀ cell : Coord, cell.Within s.nRows s.nCols →
        ∃ cell', edit.place? cell = some cell' ∧ cell'.Within t.nRows t.nCols ∧
          t.valueAt cell' = s.valueAt cell ∧
          (t.cellAt cell').formula.map Expr.deletedReferences =
            (s.cellAt cell).formula.map Expr.deletedReferences) ∧
      ∀ cell' : Coord,
        (∀ cell : Coord, cell.Within s.nRows s.nCols → edit.place? cell ≠ some cell') →
        t.cellAt cell' = .blank := by
  obtain ⟨base, hbase⟩ := Edit.exists_rebuilds h.inStep.1.rectangular (.inl ⟨hedit, hrows⟩)
  have hleft (cell : Coord) : (edit.place? cell).isSome :=
    Option.isSome_iff_exists.2 (hedit.exists_place? cell)
  have hrelocated := hbase.relocated_rebuild
  refine ⟨_, _, hbase.run_eq, hbase.changes_eq_nil h hacyclic hleft, hbase.size_rebuild,
    fun cell hcell => ?_, fun _ => hrelocated.blank⟩
  obtain ⟨cell', hplace⟩ := hedit.exists_place? cell
  refine ⟨cell', hplace, hrelocated.moves.within hcell hplace,
    hbase.valueAt_eq h hacyclic hplace fun ref _ => hleft ref, ?_⟩
  rw [hrelocated.formula hplace]
  cases hformula : (s.cellAt cell).formula with
  | none => rfl
  | some formula =>
    obtain ⟨lowercase, hplaced⟩ := h.inStep.1.exists_placed hformula
    exact congrArg some
      (hrelocated.moves.deletedReferences_eq hplaced hcell hplace fun ref _ => hleft ref)

theorem growth_spec_sample :
    ∃ t r, (Edit.insertRow 1).run rangeSample = .ok (t, some r) ∧ r.changes = [] ∧
      t.valueAt ⟨0, 1⟩ = .text "x" ∧ t.valueAt ⟨2, 1⟩ = rangeSample.valueAt ⟨1, 1⟩ ∧
      t.cellAt ⟨1, 0⟩ = .blank := by
  have hedit : (Edit.insertRow 1).Grows rangeSample := by
    rw [Edit.Grows, size_rangeSample.1]
    decide
  obtain ⟨t, r, hrun, hchanges, -, hcells, hblank⟩ := reachable_rangeSample.growth_spec
    size_rangeSample.1.ge acyclic_rangeSample hedit
  obtain ⟨_, hfirst, -, hvalue, -⟩ := hcells ⟨0, 1⟩ (within_rangeSample (by decide))
  obtain ⟨_, hsecond, -, hmoved, -⟩ := hcells ⟨1, 1⟩ (within_rangeSample (by decide))
  cases hfirst
  cases hsecond
  refine ⟨t, r, hrun, hchanges, hvalue.trans valueAt_rangeSample, hmoved, hblank _ ?_⟩
  intro cell _ hplace
  have hline : lineAfterInsert 1 cell.row = 1 :=
    Option.some.inj (LineEdit.place?_eq_some.1 hplace).1
  rw [lineAfterInsert] at hline
  split at hline <;> omega

/-! ## Deletion -/

/-- Deleting a row or column of a reachable sheet on which no formula is on a cycle brings none, and
each cell that is left has its value in its new place, if it reads no cell that goes, directly or
through other formulas. -/
theorem Reachable.deletion_spec (h : Reachable .builtin s) (hacyclic : s.links.Acyclic)
    (hedit : edit.Deletes s) :
    ∃ t r, edit.run s = .ok (t, some r) ∧ t.links.Acyclic ∧
      ((t.nRows : Int), (t.nCols : Int)) = edit.sizeAfter s ∧
      ∀ cell cell' : Coord, cell.Within s.nRows s.nCols → edit.place? cell = some cell' →
        cell'.Within t.nRows t.nCols ∧
        ((∀ ref, TransGen s.links.Reads cell ref → (edit.place? ref).isSome) →
          t.valueAt cell' = s.valueAt cell) := by
  obtain ⟨base, hbase⟩ := Edit.exists_rebuilds h.inStep.1.rectangular (.inr hedit)
  refine ⟨_, _, hbase.run_eq, hbase.acyclic h hacyclic, hbase.size_rebuild,
    fun cell cell' hcell hplace => ⟨hbase.relocated_rebuild.moves.within hcell hplace, ?_⟩⟩
  exact hbase.valueAt_eq h hacyclic hplace

theorem deletion_spec_sample :
    ∃ t r, (Edit.deleteRow 1).run rangeSample = .ok (t, some r) ∧ t.links.Acyclic ∧
      t.valueAt ⟨0, 1⟩ = .text "x" := by
  have hedit : (Edit.deleteRow 1).Deletes rangeSample := by
    rw [Edit.Deletes, size_rangeSample.1]
    decide
  obtain ⟨t, r, hrun, hacyclic, -, hcells⟩ := reachable_rangeSample.deletion_spec
    acyclic_rangeSample hedit
  have hleft (ref : Coord) (hpath : TransGen rangeSample.links.Reads ⟨0, 1⟩ ref) :
      ((Edit.deleteRow 1).place? ref).isSome := by
    have hread := Links.reads_of_transGen reads_of_read_rangeSample hpath
    rw [Links.Reads, links_rangeSample] at hread
    rw [List.mem_singleton.1 hread]
    rfl
  have hvalue := (hcells ⟨0, 1⟩ ⟨0, 1⟩ (within_rangeSample (by decide)) rfl).2 hleft
  exact ⟨t, r, hrun, hacyclic, hvalue.trans valueAt_rangeSample⟩

end Spreadsheet

import Spreadsheet.Proofs.Reference.Name
import Spreadsheet.Proofs.Sheet.Visited

/-!
# Labels of columns

A column has the name that it was given for a label, or the letters of its place. Labels are never
blank. A new name is compared with the names that other columns were given, and not with letters, so
the labels differ from each other as long as no column has the letters of one without a name for its
name (`Visited.labels_spec`).
-/

namespace Spreadsheet

open Sheet Procedure

namespace Sheet

variable {s : Sheet} {i j : Nat} {column column' : Column} {label : String}

/-- A column was given the letters of another one, which has no name. -/
def LettersTaken (s : Sheet) : Prop :=
  ∃ (col : Nat) (column : Column), s.columns[col]? = some column ∧ column.name = none ∧
    ColumnName.text col ∈ s.columns.filterMap Column.name

theorem getElem?_columnNames (s : Sheet) (col : Nat) :
    s.columnNames[col]? = s.columns[col]?.map (columnLabel · col) := List.getElem?_mapIdx

theorem columnLabel_of_name {name : String} (h : column.name = some name) (col : Nat) :
    columnLabel column col = name := by
  rw [columnLabel, h, Option.getD_some]

theorem columnLabel_of_unnamed (h : column.name = none) (col : Nat) :
    columnLabel column col = ColumnName.text col := by
  rw [columnLabel, h, Option.getD_none]

/-- A label is a name that was given, or letters. -/
theorem WellShaped.allBlank_columnNames (h : s.WellShaped) (hlabel : label ∈ s.columnNames) :
    Text.allBlank label.toList = false := by
  obtain ⟨col, hcol⟩ := List.mem_iff_getElem?.1 hlabel
  rw [getElem?_columnNames] at hcol
  obtain ⟨column, hcolumn, rfl⟩ := Option.map_eq_some_iff.1 hcol
  cases hname : column.name with
  | none =>
    rw [columnLabel_of_unnamed hname]
    exact ColumnName.allBlank_text col
  | some name =>
    rw [columnLabel_of_name hname]
    exact (h.formed column (List.mem_of_getElem? hcolumn)).2 name hname

/-- Columns with the same label are the same, unless one has the letters of the other. -/
theorem WellShaped.eq_of_columnLabel_eq (h : s.WellShaped) (hfree : ¬ s.LettersTaken)
    (hi : s.columns[i]? = some column) (hj : s.columns[j]? = some column')
    (hlabel : columnLabel column i = columnLabel column' j) : i = j := by
  by_contra hne
  cases hname : column.name with
  | none =>
    rw [columnLabel_of_unnamed hname] at hlabel
    cases hname' : column'.name with
    | none =>
      rw [columnLabel_of_unnamed hname'] at hlabel
      exact hne (ColumnName.text_inj.1 hlabel)
    | some name =>
      rw [columnLabel_of_name hname'] at hlabel
      subst hlabel
      exact hfree ⟨i, column, hi, hname, List.mem_filterMap.2
        ⟨column', List.mem_of_getElem? hj, hname'⟩⟩
  | some name =>
    rw [columnLabel_of_name hname] at hlabel
    cases hname' : column'.name with
    | none =>
      rw [columnLabel_of_unnamed hname'] at hlabel
      subst hlabel
      exact hfree ⟨j, column', hj, hname', List.mem_filterMap.2
        ⟨column, List.mem_of_getElem? hi, hname⟩⟩
    | some name' =>
      rw [columnLabel_of_name hname'] at hlabel
      exact h.apart_of_ne hi hj hne name hname (hlabel ▸ hname')

/-- The labels differ from each other unless the letters of an unnamed column are taken. -/
theorem WellShaped.nodup_columnNames_iff (h : s.WellShaped) :
    s.columnNames.Nodup ↔ ¬ s.LettersTaken := by
  constructor
  · rintro hnodup ⟨col, column, hcol, hnone, htaken⟩
    obtain ⟨column', hcolumn', hname⟩ := List.mem_filterMap.1 htaken
    obtain ⟨other, hother⟩ := List.mem_iff_getElem?.1 hcolumn'
    have hlabel : s.columnNames[col]? = some (ColumnName.text col) := by
      rw [getElem?_columnNames, hcol, Option.map_some, columnLabel_of_unnamed hnone]
    have hlabel' : s.columnNames[other]? = some (ColumnName.text col) := by
      rw [getElem?_columnNames, hother, Option.map_some, columnLabel_of_name hname]
    obtain ⟨hlt, -⟩ := List.getElem?_eq_some_iff.1 hlabel
    obtain rfl := (List.getElem?_inj hlt hnodup).1 (hlabel.trans hlabel'.symm)
    cases hcol.symm.trans hother
    cases hnone.symm.trans hname
  · intro hfree
    refine List.nodup_iff_getElem?_ne_getElem?.2 fun i j hlt hj heq => ?_
    rw [columnNames, List.length_mapIdx] at hj
    have hi := List.getElem?_eq_getElem (hlt.trans hj)
    have hj := List.getElem?_eq_getElem hj
    rw [getElem?_columnNames, getElem?_columnNames, hi, hj] at heq
    exact hlt.ne (h.eq_of_columnLabel_eq hfree hi hj (Option.some.inj heq))

end Sheet

namespace Visited

variable {functions : Registry} {st : Marked}

/-- Whatever edits were made of a new sheet, there is a label for each column, none of them is
blank, and they differ from each other exactly if no column was given the letters of one without a
name. -/
theorem labels_spec (h : Visited functions st) :
    st.sheet.columnNames.length = st.sheet.nCols ∧
    (∀ label ∈ st.sheet.columnNames, Text.allBlank label.toList = false) ∧
    (st.sheet.columnNames.Nodup ↔ ¬ st.sheet.LettersTaken) :=
  ⟨List.length_mapIdx, fun _ => h.wellShaped.allBlank_columnNames,
    h.wellShaped.nodup_columnNames_iff⟩

end Visited

theorem ColumnName.text_one : ColumnName.text 1 = "B" := by
  rw [text, letters]
  rfl

/-- The first of two columns is given a name that is not the letter of the second one. -/
theorem labels_spec_sample :
    let start : Marked := ⟨blank 1 2 .standard .builtin, []⟩
    let st := stateAfter (Edit.setColumnName 0 "x").tracked start
    st.sheet.columnNames = ["x", "B"] ∧ ¬ st.sheet.LettersTaken := by
  intro start st
  have hst : Visited .builtin st := .edit _ (.blank 1 2 .builtin)
  have hnames : st.sheet.columnNames = ["x", "B"] := by
    rw [← ColumnName.text_one]
    rfl
  obtain ⟨-, -, hnodup⟩ := hst.labels_spec
  exact ⟨hnames, hnodup.1 (hnames ▸ by decide)⟩

/-- An empty sheet of two columns, the first one named with the letter of the second one. -/
def letterSample : Marked :=
  stateAfter (Edit.setColumnName 0 "B").tracked ⟨blank 1 2 .standard .builtin, []⟩

/-- The name is taken, and both columns have one label then. -/
theorem columnNames_letterSample : Visited .builtin letterSample ∧
    letterSample.sheet.columnNames = ["B", "B"] ∧ ¬ letterSample.sheet.columnNames.Nodup := by
  have hnames : letterSample.sheet.columnNames = ["B", ColumnName.text 1] := rfl
  rw [ColumnName.text_one] at hnames
  exact ⟨.edit _ (.blank 1 2 .builtin), hnames, hnames ▸ by decide⟩

end Spreadsheet

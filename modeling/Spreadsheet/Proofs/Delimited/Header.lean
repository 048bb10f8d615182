import Spreadsheet.Proofs.Delimited.Limit
import Spreadsheet.Proofs.Sheet.Naming

/-!
# Names of columns in delimited text

The names of the columns are written as the first row and read back without the white space around
them. So a sheet is loaded with its names where these differ from each other without that white
space, and not at all where two of them are the same then (`Visited.load_dump_header`).
-/

namespace Spreadsheet

open Delimited

namespace Text

/-- A name that is not blank is not blank without the white space around it. -/
theorem allBlank_stripped {name : String} (h : allBlank name.toList = false) :
    allBlank (stripped name).toList = false := by
  obtain ⟨c, hc, hblank⟩ := List.all_eq_false.1 h
  have hblank : isBlank c = false := by simpa using hblank
  have hmem : c ∈ strip name.toList := mem_stripWhere hc hblank
  rw [stripped, String.toList_ofList]
  exact List.all_eq_false.2 ⟨c, hmem, by simp [hblank]⟩

end Text

namespace Delimited

variable {names : List String}

theorem headerName?_eq {name : String} (h : Text.allBlank name.toList = false) :
    headerName? name = some (Text.stripped name) := by
  have hne : (Text.stripped name).isEmpty = false := by
    refine Bool.eq_false_iff.2 fun hempty => ?_
    have hblank := Text.allBlank_stripped h
    rw [String.isEmpty_iff.1 hempty] at hblank
    cases hblank
  rw [headerName?, hne]
  rfl

/-- Rows under names that are not blank: the columns have the names without white space around them,
or one of these is refused because it comes twice. -/
theorem ofRows_header (options : Options) (functions : Registry)
    (hblank : ∀ name ∈ names, Text.allBlank name.toList = false) (hne : names ≠ [])
    {rows : Table String} (hwidth : ∀ row ∈ rows, row.length ≤ names.length) :
    (names.map Text.stripped).Nodup ∧ (∃ t,
        Delimited.ofRows (names :: rows) true options functions = .ok t ∧
        t.columnNames = names.map Text.stripped ∧ t.nRows = rows.length ∧
        t.nCols = names.length ∧ ∀ cell, (t.cellAt cell).raw = (rows.get? cell).getD "") ∨
      ¬ (names.map Text.stripped).Nodup ∧ ∃ name ∈ names.map Text.stripped,
        Delimited.ofRows (names :: rows) true options functions =
          .error (.header (.edit (.duplicateName name))) := by
  have hnames : names.map headerName? = (names.map Text.stripped).map some := by
    rw [List.map_map]
    exact List.map_congr_left fun name hname => headerName?_eq (hblank name hname)
  have hofRows : Delimited.ofRows (names :: rows) true options functions =
      (Sheet.ofRows rows ((names.map Text.stripped).map some) options functions).mapError
        .header := by
    rw [Delimited.ofRows, splitHeader, if_pos rfl, hnames]
    simp [hne]
  rw [hofRows]
  have hlength : (names.map Text.stripped).length = names.length := List.length_map ..
  rcases Sheet.ofRows_named options functions
    (List.forall_mem_map.2 fun name hname => Text.allBlank_stripped (hblank name hname))
    (hlength.symm ▸ hwidth) with ⟨hnodup, t, ht, hframe, htexts⟩ | ⟨hdup, name, hname, hfault⟩
  · refine .inl ⟨hnodup, t, by rw [ht]; rfl, ?_, ?_, ?_, htexts⟩
    · rw [Sheet.columnNames, hframe.columns]
      exact Sheet.columnNames_labelled rfl
    · rw [hframe.sameSize.nRows, Sheet.nRows_labelled]
    · rw [hframe.sameSize.nCols, Sheet.nCols_labelled le_rfl, hlength]
  · exact .inr ⟨hdup, name, hname, by rw [hfault]; rfl⟩

end Delimited

open Sheet Procedure

namespace Visited

variable {functions : Registry} {st : Marked} {d : Char}

/-- A sheet that is dumped with its formulas and with the names of its columns is loaded with its
size, its texts, and the names without the white space around them, if these differ from each other
and no name or text is too long. If two of them are the same it is not loaded. -/
theorem load_dump_header (h : Visited functions st) (hd : d ∈ knownSeparators)
    (hcols : 0 < st.sheet.nCols) (hnames : ∀ name ∈ st.sheet.columnNames, '\r' ∉ name.toList)
    (htexts : ∀ cell, '\r' ∉ (st.sheet.cellAt cell).raw.toList) (options : Options)
    (others : Registry) :
    ∃ text, dump (String.singleton d) st.sheet true true = .ok text ∧
      (Fits (st.sheet.columnNames :: st.sheet.texts) →
        (st.sheet.columnNames.map Text.stripped).Nodup →
          ∃ t, load (some (String.singleton d)) text true options others = .ok t ∧
            t.columnNames = st.sheet.columnNames.map Text.stripped ∧
            t.nRows = st.sheet.nRows ∧ t.nCols = st.sheet.nCols ∧
            ∀ cell, (t.cellAt cell).raw = (st.sheet.cellAt cell).raw) ∧
      (Fits (st.sheet.columnNames :: st.sheet.texts) →
        ¬ (st.sheet.columnNames.map Text.stripped).Nodup →
          ∃ name ∈ st.sheet.columnNames.map Text.stripped,
            load (some (String.singleton d)) text true options others =
              .error (.header (.edit (.duplicateName name)))) ∧
      (¬ Fits (st.sheet.columnNames :: st.sheet.texts) →
        load (some (String.singleton d)) text true options others =
          .error (.malformed .longField)) := by
  have hshape := h.wellShaped
  have hlength : st.sheet.columnNames.length = st.sheet.nCols := List.length_mapIdx
  have hne : st.sheet.columnNames ≠ [] := List.length_pos_iff.1 (by rwa [hlength])
  have hwidth : ∀ row ∈ st.sheet.texts, row.length = st.sheet.columnNames.length := by
    intro row hrow
    rw [hlength, hshape.rectangular.length_of_mem_texts hrow]
  have hreturn : ∀ row ∈ st.sheet.columnNames :: st.sheet.texts, ∀ field ∈ row,
      '\r' ∉ field.toList := by
    refine List.forall_mem_cons.2 ⟨hnames, ?_⟩
    exact (forall_raw (p := fun raw => '\r' ∉ raw.toList) (by simp)).1 htexts
  have hlast : (st.sheet.columnNames :: st.sheet.texts).getLast? ≠ some [] := by
    intro hempty
    rcases List.mem_cons.1 (List.mem_of_getLast? hempty) with hempty | hempty
    · exact hne hempty.symm
    · have hzero := hwidth [] hempty
      rw [List.length_nil, hlength] at hzero
      omega
  have hload := load_writeRows_of_not_mem hd hreturn hlast true options others
  have hofRows := ofRows_header options others
    (fun name hname => hshape.allBlank_columnNames hname) hne fun row hrow => (hwidth row hrow).le
  refine ⟨writeRows d (st.sheet.columnNames :: st.sheet.texts), ?_, fun hfits hnodup => ?_,
    fun hfits hdup => ?_, fun hlong => ?_⟩
  · rw [dump_eq, fieldRows_texts]
    rfl
  · obtain ⟨-, t, ht, htNames, htRows, htCols, htRaw⟩ := hofRows.resolve_right fun h => h.1 hnodup
    refine ⟨t, ?_, htNames, htRows.trans st.sheet.length_texts, htCols.trans hlength,
      fun cell => ?_⟩
    · rw [hload, if_pos hfits, ht]
    · rw [htRaw, st.sheet.raw_eq_texts]
  · obtain ⟨-, name, hname, hfault⟩ := hofRows.resolve_left fun h => hdup h.1
    exact ⟨name, hname, by rw [hload, if_pos hfits, hfault]⟩
  · rw [hload, if_neg hlong]

end Visited

namespace Sheet

/-- A blank sheet of one cell whose column is given a name. -/
def namedSample (name : String) : Marked :=
  stateAfter (Edit.setColumnName 0 name).tracked ⟨blank 1 1 .standard .builtin, []⟩

theorem visited_namedSample (name : String) : Visited .builtin (namedSample name) :=
  .edit _ (.blank 1 1 .builtin)

theorem sheet_namedSample {name : String} (h : Text.allBlank name.toList = false) :
    (namedSample name).sheet = labelled [name] 1 1 .standard .builtin := by
  have hlt : ([] : List String).length < 1 := Nat.one_pos
  have hset := setColumnName_labelled 1 .standard .builtin h hlt
  rw [labelled_nil, if_neg List.not_mem_nil] at hset
  have hrun : Edit.run (blank 1 1 .standard .builtin) (.setColumnName 0 name) =
      .ok (labelled [name] 1 1 .standard .builtin, none) := by
    rw [Edit.run]
    exact congrArg _ hset
  exact (Visited.blank 1 1 .builtin).sheet_stateAfter Registry.lawful_builtin hrun

theorem names_namedSample {name : String} (h : Text.allBlank name.toList = false) :
    (namedSample name).sheet.columnNames = [name] ∧ (namedSample name).sheet.texts = [[""]] := by
  rw [sheet_namedSample h]
  exact ⟨columnNames_labelled rfl, rfl⟩

/-- A name with one character more than a field may have. -/
def longName : String := String.ofList (List.replicate (fieldLimit + 1) 'a')

theorem allBlank_longName : Text.allBlank longName.toList = false := by
  rw [longName, String.toList_ofList, List.replicate_succ]
  rfl

theorem no_return_longName : '\r' ∉ longName.toList := by
  rw [longName, String.toList_ofList]
  exact fun h => absurd (List.eq_of_mem_replicate h) (by decide)

theorem not_fits_longName (texts : List (List String)) : ¬ Fits ([longName] :: texts) := by
  intro h
  have hlength := h [longName] List.mem_cons_self longName List.mem_cons_self
  rw [longName, String.toList_ofList, List.length_replicate] at hlength
  omega

end Sheet

/-- The white space at the ends of a name is lost, and a long name cannot be read. -/
theorem load_namedSample :
    (Visited .builtin (namedSample " a") ∧ (namedSample " a").sheet.columnNames = [" a"] ∧
      dump "," (namedSample " a").sheet true true = .ok " a\n\"\"\n" ∧
      ∃ t, load (some ",") " a\n\"\"\n" true .standard .builtin = .ok t ∧
        t.columnNames = ["a"]) ∧
    Visited .builtin (namedSample longName) ∧
      (namedSample longName).sheet.columnNames = [longName] ∧
      ∃ text, dump "," (namedSample longName).sheet true true = .ok text ∧
        load (some ",") text true .standard .builtin = .error (.malformed .longField) := by
  refine ⟨?_, ?_⟩
  · have hblank : Text.allBlank " a".toList = false := by decide
    obtain ⟨hnames, htexts⟩ := names_namedSample hblank
    have hdump := dump_eq ',' (namedSample " a").sheet true true
    rw [fieldRows_texts, hnames, htexts] at hdump
    have hload := @load_writeRows_of_not_mem ',' [[" a"], [""]] (by decide) (by simp) (by simp) true
      .standard .builtin
    rw [if_pos (by decide)] at hload
    have hwidth : ∀ row ∈ ([[""]] : List (List String)), row.length ≤ [" a"].length := by simp
    rcases ofRows_header .standard .builtin (by simpa using hblank) (by simp) hwidth with
      ⟨-, t, ht, htNames, -⟩ | ⟨hdup, -⟩
    · exact ⟨visited_namedSample " a", hnames, hdump, t, hload.trans ht, htNames⟩
    · exact absurd (List.nodup_singleton _) hdup
  · obtain ⟨hnames, htexts⟩ := names_namedSample allBlank_longName
    have hdump := dump_eq ',' (namedSample longName).sheet true true
    rw [fieldRows_texts, hnames, htexts] at hdump
    have hload := @load_writeRows_of_not_mem ',' [[longName], [""]] (by decide)
      (by simp [no_return_longName]) (by simp) true .standard .builtin
    rw [if_neg (not_fits_longName _)] at hload
    exact ⟨visited_namedSample longName, hnames, _, hdump, hload⟩

theorem load_dump_header_sample : ∃ text t,
    dump "," (namedSample "a b").sheet true true = .ok text ∧
    load (some ",") text true .standard .builtin = .ok t ∧ t.columnNames = ["a b"] := by
  have hblank : Text.allBlank "a b".toList = false := by decide
  obtain ⟨hnames, htexts⟩ := names_namedSample hblank
  have hcols : 0 < (namedSample "a b").sheet.nCols := by
    rw [sheet_namedSample hblank]
    decide
  have hreturn : ∀ cell, '\r' ∉ ((namedSample "a b").sheet.cellAt cell).raw.toList := by
    refine (forall_raw (p := fun raw => '\r' ∉ raw.toList) (by simp)).2 ?_
    rw [htexts]
    simp
  obtain ⟨text, hdump, hload, -⟩ := (visited_namedSample "a b").load_dump_header (d := ',')
    (by decide) hcols (by rw [hnames]; simp) hreturn .standard .builtin
  have hstripped : Text.stripped "a b" = "a b" := by decide
  rw [hnames, htexts, List.map_singleton, hstripped] at hload
  obtain ⟨t, ht, htNames, -⟩ := hload (by decide) (List.nodup_singleton _)
  exact ⟨text, t, hdump, ht, htNames⟩

end Spreadsheet

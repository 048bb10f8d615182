import Spreadsheet.Delimited.Dump
import Spreadsheet.Delimited.Load
import Spreadsheet.Proofs.Delimited.Reading
import Spreadsheet.Proofs.Sheet.Rows

/-!
# Dumping and loading

A sheet whose formulas are dumped as they were entered is dumped as the rows of its texts, and what
is loaded is a sheet of the records that are read from them. Where no text has a carriage return
these are the same rows (`Reachable.load_dump`). Texts with carriage returns can be dumped, and what
becomes of the sheet then depends on where they stand (`Reachable.load_dump_iff`).
-/

namespace Spreadsheet

open Delimited

namespace Sheet

/-- The texts of all cells. -/
def texts (s : Sheet) : Table String := s.rows.map (·.map Cell.raw)

theorem raw_eq_texts (s : Sheet) (cell : Coord) :
    (s.cellAt cell).raw = (s.texts.get? cell).getD "" := by
  rw [texts, Table.get?_map, cellAt]
  cases s.rows.get? cell <;> rfl

theorem length_texts (s : Sheet) : s.texts.length = s.nRows := List.length_map ..

theorem Rectangular.length_of_mem_texts {s : Sheet} (h : s.Rectangular) {row : List String}
    (hrow : row ∈ s.texts) : row.length = s.nCols := by
  obtain ⟨cells, hcells, rfl⟩ := List.mem_map.1 hrow
  rw [List.length_map, h cells hcells]

/-- What holds of the empty text holds of the texts of all cells if it does of the members of all
rows of texts. -/
theorem forall_raw {s : Sheet} {p : String → Prop} (hempty : p "") :
    (∀ cell, p (s.cellAt cell).raw) ↔ ∀ row ∈ s.texts, ∀ text ∈ row, p text := by
  rw [forall_cellAt (p := fun c => p c.raw) hempty]
  simp [texts]

/-- No text of a sheet is too long for a field. -/
theorem length_le_of_mem_texts {s : Sheet} (h : ∀ cell, (s.cellAt cell).raw.length ≤ fieldLimit) :
    ∀ row ∈ s.texts, ∀ field ∈ row, field.toList.length ≤ fieldLimit :=
  (forall_raw (Nat.zero_le _)).1 fun cell => String.length_toList.le.trans (h cell)

end Sheet

namespace Delimited

variable {options : Options} {functions : Registry} {s : Sheet} {d : Char}

theorem separator_singleton (d : Char) : Delimited.separator (String.singleton d) = .ok d := by
  simp [Delimited.separator]

theorem dump_eq (d : Char) (s : Sheet) (formulas header : Bool) :
    dump (String.singleton d) s formulas header =
      .ok (writeRows d (fieldRows s formulas header)) := by
  rw [dump, separator_singleton]
  rfl

/-- With formulas as they were entered the fields are the texts of the cells. -/
theorem fieldRows_texts (s : Sheet) (header : Bool) :
    fieldRows s true header = (if header then [s.columnNames] else []) ++ s.texts := by
  simp [fieldRows, Sheet.texts, cellField]

theorem dump_formulas (d : Char) (s : Sheet) :
    dump (String.singleton d) s true false = .ok (writeRows d s.texts) := by
  rw [dump_eq, fieldRows_texts]
  rfl

/-! ## Records -/

theorem fieldRead_of_not_mem {d : Char} {field : String} (h : '\r' ∉ field.toList) :
    fieldRead d field = field := if_pos (by simp [isWhole, h])

theorem dropTrailingEmpty_eq_self {records : List (List String)} :
    dropTrailingEmpty records = records ↔ records.getLast? ≠ some [] := by
  rw [dropTrailingEmpty, List.reverse_eq_iff, ← List.head?_reverse]
  rw [List.dropWhile_eq_self_iff]
  cases records.reverse <;> simp

theorem length_dropTrailingEmpty {records : List (List String)} :
    (dropTrailingEmpty records).length = records.length ↔ records.getLast? ≠ some [] := by
  rw [← dropTrailingEmpty_eq_self]
  refine ⟨fun h => ?_, congrArg List.length⟩
  have hreverse : records.reverse.length = records.length := List.length_reverse
  rw [dropTrailingEmpty, List.length_reverse, ← hreverse] at h
  rw [dropTrailingEmpty, (List.dropWhile_suffix _).eq_of_length h, List.reverse_reverse]

/-- A row is read as a record of its fields, or else it is a single field that is read as empty. -/
theorem recordRead_cases (d : Char) (row : List String) :
    recordRead d row = row.map (fieldRead d) ∨
      recordRead d row = [] ∧ ∃ field, row = [field] ∧ fieldRead d field = "" := by
  unfold recordRead
  split
  · next field =>
    split
    · next h => exact .inr ⟨rfl, field, rfl, h.2⟩
    · exact .inl rfl
  · exact .inl rfl

theorem getElem?_recordRead (d : Char) (row : List String) (col : Nat) :
    ((recordRead d row)[col]?).getD "" = fieldRead d ((row[col]?).getD "") := by
  obtain h | ⟨h, field, rfl, hfield⟩ := recordRead_cases d row
  · rw [h, List.getElem?_map]
    cases row[col]? <;> rfl
  · rw [h]
    cases col with
    | zero => exact hfield.symm
    | succ col => rfl

theorem get?_map_recordRead (d : Char) (rows : Table String) (cell : Coord) :
    (Table.get? (rows.map (recordRead d)) cell).getD "" =
      fieldRead d ((rows.get? cell).getD "") := by
  rw [Table.get?, Table.get?]
  split
  · rw [List.getElem?_map]
    cases rows[cell.row.toNat]? with
    | none => rfl
    | some row => exact getElem?_recordRead d row _
  · rfl

/-- As many columns as the records have are those of the rows, if the last record has fields. -/
theorem foldl_max_length_recordRead {d : Char} {rows : Table String} {width : Nat}
    (hrows : ∀ row ∈ rows, row.length = width) (hne : rows ≠ [])
    (hlast : (rows.map (recordRead d)).getLast? ≠ some []) :
    ((rows.map (recordRead d)).map List.length).foldl max 0 = width := by
  have hlength (row : List String) (h : recordRead d row ≠ []) :
      (recordRead d row).length = row.length := by
    obtain hread | ⟨hread, -⟩ := recordRead_cases d row
    · rw [hread, List.length_map]
    · exact absurd hread h
  have hmax {bound : Nat} : ((rows.map (recordRead d)).map List.length).foldl max 0 ≤ bound ↔
      0 ≤ bound ∧ ∀ n ∈ (rows.map (recordRead d)).map List.length, n ≤ bound :=
    Sheet.foldl_max_le_iff
  refine le_antisymm (hmax.2 ⟨Nat.zero_le _, ?_⟩) ?_
  · rw [List.forall_mem_map, List.forall_mem_map]
    intro row hrow
    by_cases hread : recordRead d row = []
    · rw [hread]
      exact Nat.zero_le _
    · rw [hlength row hread, hrows row hrow]
  · have hmem := List.getLast_mem hne
    rw [List.getLast?_map, List.getLast?_eq_some_getLast hne, Option.map_some] at hlast
    have hlast := hlength (rows.getLast hne) fun h => hlast (congrArg some h)
    rw [← hrows _ hmem, ← hlast]
    exact (hmax.1 le_rfl).2 _ (List.mem_map_of_mem (List.mem_map_of_mem hmem))

/-! ## Loading -/

/-- Records are loaded as a sheet of them. -/
theorem exists_ofRows {records : List (List String)} (hne : records ≠ []) (options : Options)
    (functions : Registry) :
    ∃ t, Delimited.ofRows records false options functions = .ok t ∧ t.nRows = records.length ∧
      t.nCols = (records.map List.length).foldl max 0 ∧
      ∀ cell, (t.cellAt cell).raw = (Table.get? records cell).getD "" := by
  obtain ⟨t, ht, hframe, htexts⟩ :=
    Sheet.ofRows_spec (Sheet.make_unnamed records.length _ options functions)
  refine ⟨t, ?_, ?_, ?_, htexts⟩
  · obtain ⟨first, rest, rfl⟩ := List.exists_cons_of_ne_nil hne
    rw [Delimited.ofRows, splitHeader]
    simp [ht, Except.mapError]
  · rw [hframe.sameSize.nRows]
    exact List.length_replicate
  · rw [hframe.sameSize.nCols]
    exact List.length_replicate

theorem load_singleton (d : Char) (text : String) (header : Bool) (options : Options)
    (functions : Registry) : load (some (String.singleton d)) text header options functions =
      loadSeparated d text header options functions := by
  rw [load, separatorFor, separator_singleton]
  rfl

theorem load_writeRows {d : Char} (hd : d ∈ knownSeparators) {rows : Table String}
    (hlength : ∀ row ∈ rows, ∀ field ∈ row, field.toList.length ≤ fieldLimit) (options : Options)
    (functions : Registry) :
    load (some (String.singleton d)) (writeRows d rows) false options functions =
      if rows.all (readsBack d) then
        Delimited.ofRows (dropTrailingEmpty (rows.map (recordRead d))) false options functions
      else .error (.malformed .loneReturn) := by
  have hread : readRows d (writeRows d rows) = if rows.all (readsBack d) then
      .ok (dropTrailingEmpty (rows.map (recordRead d))) else .error .loneReturn := by
    rw [readRows, readRecords_writeRows (separates_of_mem hd) hlength]
    split <;> rfl
  rw [load_singleton, loadSeparated, hread]
  split <;> rfl

/-- What is loaded from the rows of a sheet, if they can all be read and the last one is read as a
record with fields. -/
theorem exists_load (hs : s.Rectangular) (hd : d ∈ knownSeparators) (hrows : 0 < s.nRows)
    (hlength : ∀ row ∈ s.texts, ∀ field ∈ row, field.toList.length ≤ fieldLimit)
    (hread : s.texts.all (readsBack d) = true)
    (hlast : (s.texts.map (recordRead d)).getLast? ≠ some []) (options : Options)
    (functions : Registry) :
    ∃ t, load (some (String.singleton d)) (writeRows d s.texts) false options functions = .ok t ∧
      t.nRows = s.nRows ∧ t.nCols = s.nCols ∧
      ∀ cell, (t.cellAt cell).raw = fieldRead d (s.cellAt cell).raw := by
  have hne : s.texts ≠ [] := List.length_pos_iff.1 (by rwa [s.length_texts])
  obtain ⟨t, ht, htRows, htCols, htexts⟩ :=
    exists_ofRows (mt List.map_eq_nil_iff.1 hne) options functions
  refine ⟨t, ?_, ?_, ?_, fun cell => ?_⟩
  · rw [load_writeRows hd hlength, if_pos hread, dropTrailingEmpty_eq_self.2 hlast, ht]
  · rw [htRows, List.length_map, s.length_texts]
  · rw [htCols, foldl_max_length_recordRead (fun row hrow => hs.length_of_mem_texts hrow) hne hlast]
  · rw [htexts, get?_map_recordRead, ← s.raw_eq_texts]

/-- A sheet of as many rows is loaded only if the last row is read as a record with fields. -/
theorem getLast?_of_load {t : Sheet} (hd : d ∈ knownSeparators)
    (hlength : ∀ row ∈ s.texts, ∀ field ∈ row, field.toList.length ≤ fieldLimit)
    (h : load (some (String.singleton d)) (writeRows d s.texts) false options functions = .ok t)
    (hrows : t.nRows = s.nRows) : s.texts.all (readsBack d) = true ∧
      (s.texts.map (recordRead d)).getLast? ≠ some [] := by
  rw [load_writeRows hd hlength] at h
  split at h
  · next hread =>
    refine ⟨hread, length_dropTrailingEmpty.1 ?_⟩
    generalize hkept : dropTrailingEmpty (s.texts.map (recordRead d)) = kept at h
    by_cases hne : kept = []
    · subst hne
      cases h
    · obtain ⟨t, ht, htRows, -⟩ := exists_ofRows hne options functions
      cases ht.symm.trans h
      rw [← htRows, hrows, List.length_map, s.length_texts]
  · cases h

end Delimited

open Sheet

variable {functions : Registry} {s : Sheet} {d : Char}

/-- A sheet whose texts have no carriage returns is the same after it was dumped and loaded: it has
its size and its texts. -/
theorem Reachable.load_dump (h : Reachable functions s) (hd : d ∈ knownSeparators)
    (hrows : 0 < s.nRows) (hcols : 0 < s.nCols)
    (htexts : ∀ cell, '\r' ∉ (s.cellAt cell).raw.toList ∧ (s.cellAt cell).raw.length ≤ fieldLimit) :
    ∃ text t, dump (String.singleton d) s true false = .ok text ∧
      load (some (String.singleton d)) text false s.options functions = .ok t ∧
      t.nRows = s.nRows ∧ t.nCols = s.nCols ∧
      ∀ cell, (t.cellAt cell).raw = (s.cellAt cell).raw := by
  have hs := h.inStep.1.rectangular
  have hlength := length_le_of_mem_texts fun cell => (htexts cell).2
  have hreturn : ∀ row ∈ s.texts, ∀ field ∈ row, '\r' ∉ field.toList :=
    (forall_raw (p := fun raw => '\r' ∉ raw.toList) (by decide)).1 fun cell => (htexts cell).1
  have hread : s.texts.all (readsBack d) = true :=
    List.all_eq_true.2 fun row hrow => (recordRead_of_not_mem (hreturn row hrow)).1
  have hlast : (s.texts.map (recordRead d)).getLast? ≠ some [] := by
    rw [List.map_congr_left fun row hrow => (recordRead_of_not_mem (hreturn row hrow)).2,
      List.map_id']
    intro h
    have hempty := hs.length_of_mem_texts (List.mem_of_getLast? h)
    exact hcols.ne hempty
  obtain ⟨t, ht, htRows, htCols, htRaw⟩ :=
    exists_load hs hd hrows hlength hread hlast s.options functions
  refine ⟨_, t, dump_formulas d s, ht, htRows, htCols, fun cell => ?_⟩
  rw [htRaw, fieldRead_of_not_mem (htexts cell).1]

namespace Sheet

/-- A sheet of two rows and one column with a text in `A1` that needs quotation marks. -/
def quotedSample : Sheet := ((blank 2 1 .standard .builtin).setTextAt ⟨0, 0⟩ " \n,\"").1

theorem reachable_quotedSample : Reachable .builtin quotedSample :=
  (@Reachable.make .builtin 2 1 [] .standard _ rfl).setTextAt ⟨0, 0⟩ (by decide) " \n,\""

theorem rows_quotedSample :
    quotedSample.rows = [[⟨" \n,\"", none, .text " \n,\""⟩], [.blank]] := by
  cbv

end Sheet

theorem load_dump_sample : ∃ text t, dump "," quotedSample true false = .ok text ∧
    load (some ",") text false quotedSample.options .builtin = .ok t ∧
    t.nRows = quotedSample.nRows ∧ t.nCols = quotedSample.nCols ∧
    ∀ cell, (t.cellAt cell).raw = (quotedSample.cellAt cell).raw := by
  have hsize : 0 < quotedSample.nRows ∧ 0 < quotedSample.nCols := by
    rw [quotedSample, nRows_setTextAt, nCols_setTextAt]
    decide
  refine reachable_quotedSample.load_dump (d := ',') (by decide) hsize.1 hsize.2 ?_
  refine (forall_raw (p := fun raw => '\r' ∉ raw.toList ∧ raw.length ≤ fieldLimit) (by decide)).2 ?_
  have hlength : " \n,\"".length ≤ fieldLimit := by decide
  rw [texts, rows_quotedSample]
  simp [Cell.blank, hlength]

/-! ## Carriage returns -/

/-- What becomes of a sheet that is dumped and loaded. It keeps its size if all of its rows can be
read and the last one is read as a record with fields. Its texts are then read as fields are. -/
theorem Reachable.load_dump_iff (h : Reachable functions s) (hd : d ∈ knownSeparators)
    (hrows : 0 < s.nRows) (hlength : ∀ cell, (s.cellAt cell).raw.length ≤ fieldLimit) :
    ∃ text, dump (String.singleton d) s true false = .ok text ∧
      ((∃ t, load (some (String.singleton d)) text false s.options functions = .ok t ∧
          t.nRows = s.nRows ∧ t.nCols = s.nCols) ↔
        s.texts.all (readsBack d) = true ∧ ∀ last ∈ s.texts.getLast?, recordRead d last ≠ []) ∧
      (s.texts.all (readsBack d) = false →
        load (some (String.singleton d)) text false s.options functions =
          .error (.malformed .loneReturn)) ∧
      ∀ t, load (some (String.singleton d)) text false s.options functions = .ok t →
        t.nRows = s.nRows → ∀ cell, (t.cellAt cell).raw = fieldRead d (s.cellAt cell).raw := by
  have hlength := length_le_of_mem_texts hlength
  have hlast : (∀ last ∈ s.texts.getLast?, recordRead d last ≠ []) ↔
      (s.texts.map (recordRead d)).getLast? ≠ some [] := by
    rw [List.getLast?_map]
    cases s.texts.getLast? <;> simp
  have hload := exists_load h.inStep.1.rectangular hd hrows hlength
  refine ⟨_, dump_formulas d s, ⟨?_, ?_⟩, ?_, ?_⟩
  · rintro ⟨t, ht, htRows, -⟩
    rw [hlast]
    exact getLast?_of_load hd hlength ht htRows
  · rintro ⟨hread, hne⟩
    obtain ⟨t, ht, htRows, htCols, -⟩ := hload hread (hlast.1 hne) s.options functions
    exact ⟨t, ht, htRows, htCols⟩
  · intro hread
    rw [load_writeRows hd hlength, hread]
    rfl
  · intro t ht htRows
    obtain ⟨hread, hne⟩ := getLast?_of_load hd hlength ht htRows
    obtain ⟨u, hu, -, -, htexts⟩ := hload hread hne s.options functions
    cases hu.symm.trans ht
    exact htexts

namespace Sheet

/-- A sheet of one cell whose text has a carriage return. -/
def returnSample : Sheet := ((blank 1 1 .standard .builtin).setTextAt ⟨0, 0⟩ "a\rb").1

theorem reachable_returnSample : Reachable .builtin returnSample :=
  (@Reachable.make .builtin 1 1 [] .standard _ rfl).setTextAt ⟨0, 0⟩ (by decide) "a\rb"

theorem rows_returnSample : returnSample.rows = [[⟨"a\rb", none, .text "a\rb"⟩]] := by
  cbv

theorem texts_returnSample : returnSample.texts = [["a\rb"]] := by
  rw [texts, rows_returnSample]
  rfl

theorem length_returnSample (cell : Coord) : (returnSample.cellAt cell).raw.length ≤ fieldLimit := by
  refine (forall_raw (p := fun raw => raw.length ≤ fieldLimit) (by decide)).2 ?_ cell
  rw [texts_returnSample]
  have hlength : "a\rb".length ≤ fieldLimit := by decide
  simpa using hlength

end Sheet

/-- A text with a carriage return in it is dumped and cannot be loaded. -/
theorem load_returnSample : Reachable .builtin returnSample ∧ returnSample.nRows = 1 ∧
    returnSample.nCols = 1 ∧ (∀ cell, (returnSample.cellAt cell).raw.length ≤ fieldLimit) ∧
    dump "," returnSample true false = .ok "a\rb\n" ∧
    load (some ",") "a\rb\n" false returnSample.options .builtin =
      .error (.malformed .loneReturn) := by
  have htext : writeRows ',' returnSample.texts = "a\rb\n" := by
    rw [texts_returnSample]
    rfl
  refine ⟨reachable_returnSample, ?_, ?_, length_returnSample, ?_, ?_⟩
  · rw [returnSample, nRows_setTextAt]
    rfl
  · rw [returnSample, nCols_setTextAt]
    rfl
  · exact htext ▸ dump_formulas ',' returnSample
  · have hread : returnSample.texts.all (readsBack ',') = false := by
      rw [texts_returnSample]
      rfl
    have hload := load_writeRows (d := ',') (by decide) (length_le_of_mem_texts length_returnSample)
      returnSample.options .builtin
    rw [hread, htext] at hload
    exact hload

theorem load_dump_iff_sample : ∃ text, dump "," returnSample true false = .ok text ∧
    ¬ ∃ t, load (some ",") text false returnSample.options .builtin = .ok t ∧
      t.nRows = returnSample.nRows ∧ t.nCols = returnSample.nCols := by
  have hrows : 0 < returnSample.nRows := by
    rw [returnSample, nRows_setTextAt]
    decide
  obtain ⟨text, htext, hiff, -⟩ :=
    reachable_returnSample.load_dump_iff (d := ',') (by decide) hrows length_returnSample
  refine ⟨text, htext, fun hload => ?_⟩
  have hread := (hiff.1 hload).1
  rw [texts_returnSample] at hread
  cases hread

end Spreadsheet

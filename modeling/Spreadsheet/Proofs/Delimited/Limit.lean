import Spreadsheet.Proofs.Delimited.RoundTrip

/-!
# Rows without carriage returns

What is written of rows without carriage returns is read as it was, unless one of the fields has
more characters than a field may have (`readRecords_writeRows_of_not_mem`). So a text that was
written for any such rows is loaded as the sheet of these rows, or not at all
(`load_writeRows_of_not_mem`).
-/

namespace Spreadsheet.Delimited

variable {separator c d : Char} {field : String} {row : List String} {rows : List (List String)}

/-- No field has more characters than a field may have. -/
def Fits (rows : List (List String)) : Prop :=
  ∀ row ∈ rows, ∀ field ∈ row, field.toList.length ≤ fieldLimit

instance (rows : List (List String)) : Decidable (Fits rows) :=
  inferInstanceAs (Decidable (∀ row ∈ rows, ∀ field ∈ row, field.toList.length ≤ fieldLimit))

/-! ## Fields that are too long -/

namespace Reader

variable {place : Place} {record : List String} {records : List (List String)} {rest : List Char}

/-- A field that is too long is refused where it ends. -/
theorem step_of_long (hsep : Separates separator) (hplace : place.MayEnd) {field : List Char}
    (hlong : fieldLimit < field.length) (hc : c = separator ∨ c = '\n') :
    step separator ⟨place, field, record, records⟩ c = .error .longField := by
  have hend (next : Place) : endField ⟨place, field, record, records⟩ next = .error .longField :=
    if_pos hlong
  have hline : endLine ⟨place, field, record, records⟩ c = .error .longField := by
    rw [endLine, hend]
    rfl
  obtain ⟨hquote, hfeed, hreturn⟩ := hsep
  rcases hc with rfl | rfl
  · rcases hplace with rfl | rfl | rfl <;>
      simp [step, startField, leaveQuotes, hquote, hfeed, hreturn, hend, bind, Except.bind]
  · rcases hplace with rfl | rfl | rfl <;>
      simp [step, startField, leaveQuotes, Ne.symm hfeed, hline]

/-- The fields of a line are read one after the other, up to the first that is too long. -/
theorem run_fields_of_long (hsep : Separates separator)
    (hwhole : ∀ field ∈ row, isWhole separator field.toList = true)
    (hlong : ∃ field ∈ row, fieldLimit < field.toList.length) (record : List String) :
    run separator ⟨.fieldStart, [], record, records⟩ (fieldsText separator row ++ '\n' :: rest) =
      .error .longField := by
  induction row generalizing record with
  | nil => simp at hlong
  | cons field row ih =>
    obtain ⟨hfield, hrow⟩ := List.forall_mem_cons.1 hwhole
    obtain ⟨place, hplace, hrun⟩ := run_fieldText hfield record records
    by_cases hfits : field.toList.reverse.length ≤ fieldLimit
    · have hnext : ∃ field ∈ row, fieldLimit < field.toList.length := by
        rw [List.length_reverse] at hfits
        obtain ⟨other, hother, hlong⟩ := hlong
        rcases List.mem_cons.1 hother with rfl | hother
        · omega
        · exact ⟨other, hother, hlong⟩
      cases row with
      | nil => simp at hnext
      | cons next row =>
        have hstep := step_separator hsep hplace hfits record records
        rw [fieldsText_cons, List.append_assoc, run_append hrun, List.cons_append, run_cons hstep,
          ih hrow hnext]
    · rw [not_le] at hfits
      cases row with
      | nil =>
        rw [fieldsText_singleton, run_append hrun,
          run_cons_error (step_of_long hsep hplace hfits (.inr rfl))]
      | cons next row =>
        rw [fieldsText_cons, List.append_assoc, run_append hrun, List.cons_append,
          run_cons_error (step_of_long hsep hplace hfits (.inl rfl))]

theorem run_rowText_of_long (hsep : Separates separator)
    (hreturn : ∀ field ∈ row, '\r' ∉ field.toList)
    (hlong : ∃ field ∈ row, fieldLimit < field.toList.length) :
    run separator ⟨.recordStart, [], [], records⟩ (rowText separator row ++ rest) =
      .error .longField := by
  have hwhole : ∀ field ∈ row, isWhole separator field.toList = true := by
    intro field hfield
    simp [isWhole, hreturn field hfield]
  cases row with
  | nil => simp at hlong
  | cons field row =>
    have hne : field :: row ≠ [""] := by
      intro hempty
      simp [hempty] at hlong
    rw [rowText, if_neg hne, ← fieldsText, List.append_assoc, List.singleton_append,
      run_recordStart hsep hne (.inl (hwhole field List.mem_cons_self)),
      run_fields_of_long hsep hwhole hlong]

end Reader

/-! ## Rows -/

/-- Rows without carriage returns are read as they were, if no field is too long. -/
theorem readRecords_writeRows_of_not_mem (hsep : Separates separator)
    (hreturn : ∀ row ∈ rows, ∀ field ∈ row, '\r' ∉ field.toList) :
    readRecords separator (writeRows separator rows) =
      if Fits rows then .ok rows else .error .longField := by
  split
  · next hfits =>
    have hread : rows.all (readsBack separator) = true :=
      List.all_eq_true.2 fun row hrow => (recordRead_of_not_mem (hreturn row hrow)).1
    have hrecords : rows.map (recordRead separator) = rows := by
      rw [List.map_congr_left fun row hrow => (recordRead_of_not_mem (hreturn row hrow)).2,
        List.map_id']
    rw [readRecords_writeRows hsep hfits, if_pos hread, hrecords]
  · next hlong =>
    have hrun (records : List (List String)) : Reader.run separator ⟨.recordStart, [], [], records⟩
        (rows.flatMap (rowText separator)) = .error .longField := by
      induction rows generalizing records with
      | nil => exact absurd nofun hlong
      | cons row rows ih =>
        obtain ⟨hrow, hrows⟩ := List.forall_mem_cons.1 hreturn
        rw [List.flatMap_cons]
        by_cases hfits : ∀ field ∈ row, field.toList.length ≤ fieldLimit
        · have hread : readsBack separator row = true := (recordRead_of_not_mem hrow).1
          rw [Reader.run_rowText hsep hfits, if_pos hread]
          exact ih hrows (fun h => hlong (List.forall_mem_cons.2 ⟨hfits, h⟩)) _
        · refine Reader.run_rowText_of_long hsep hrow ?_
          simpa using hfits
    have hstart := hrun []
    rw [Reader.run] at hstart
    rw [readRecords, writeRows, String.toList_ofList, Reader.start, hstart]
    rfl

/-- What is loaded of rows without carriage returns that were written is the sheet of these rows. -/
theorem load_writeRows_of_not_mem (hd : d ∈ knownSeparators)
    (hreturn : ∀ row ∈ rows, ∀ field ∈ row, '\r' ∉ field.toList) (hlast : rows.getLast? ≠ some [])
    (header : Bool) (options : Options) (functions : Registry) :
    load (some (String.singleton d)) (writeRows d rows) header options functions =
      if Fits rows then Delimited.ofRows rows header options functions
      else .error (.malformed .longField) := by
  have hread : readRows d (writeRows d rows) =
      if Fits rows then .ok rows else .error .longField := by
    rw [readRows, readRecords_writeRows_of_not_mem (separates_of_mem hd) hreturn]
    split
    · exact congrArg Except.ok (dropTrailingEmpty_eq_self.2 hlast)
    · rfl
  rw [load_singleton, loadSeparated, hread]
  split <;> rfl

/-! ## Short texts -/

theorem sublist_quoteField (field : List Char) : field.Sublist (quoteField field) := by
  have hdoubled : field.Sublist (field.flatMap fun c => if c = '"' then ['"', '"'] else [c]) := by
    induction field with
    | nil => exact .slnil
    | cons c field ih =>
      have hc : [c].Sublist (if c = '"' then ['"', '"'] else [c]) := by split <;> simp [*]
      rw [List.flatMap_cons]
      exact hc.append ih
  exact (hdoubled.trans (List.sublist_append_left _ _)).cons _

theorem sublist_fieldText (separator : Char) (field : List Char) :
    field.Sublist (fieldText separator field) := by
  rw [fieldText]
  split
  · exact sublist_quoteField field
  · exact .refl _

theorem sublist_fieldsText (hfield : field ∈ row) :
    field.toList.Sublist (fieldsText separator row) := by
  induction row with
  | nil => cases hfield
  | cons first row ih =>
    have htext := sublist_fieldText separator first.toList
    cases row with
    | nil => rwa [List.mem_singleton.1 hfield, fieldsText_singleton]
    | cons next row =>
      rw [fieldsText_cons]
      rcases List.mem_cons.1 hfield with rfl | hfield
      · exact htext.trans (List.sublist_append_left _ _)
      · exact ((ih hfield).cons _).trans (List.sublist_append_right _ _)

/-- No field is longer than the text in which it is written. -/
theorem fits_of_length_le (h : (writeRows separator rows).length ≤ fieldLimit) : Fits rows := by
  intro row hrow field hfield
  have hline : field.toList.Sublist (rowText separator row) := by
    rw [rowText]
    split
    · next hempty =>
      subst hempty
      rw [List.mem_singleton.1 hfield]
      exact List.nil_sublist _
    · exact (sublist_fieldsText hfield).trans (List.sublist_append_left _ _)
  have htext : field.toList.Sublist (writeRows separator rows).toList := by
    rw [writeRows, String.toList_ofList, List.flatMap]
    exact hline.trans (List.sublist_flatten_of_mem (List.mem_map_of_mem hrow))
  rw [← String.length_toList] at h
  exact htext.length_le.trans h

/-! ## Sheets -/

/-- Rows of one length without carriage returns are loaded as a sheet with these texts. -/
theorem exists_load_writeRows (hd : d ∈ knownSeparators)
    (hreturn : ∀ row ∈ rows, ∀ field ∈ row, '\r' ∉ field.toList) (hfits : Fits rows)
    (hne : rows ≠ []) {width : Nat} (hwidth : ∀ row ∈ rows, row.length = width) (hpos : 0 < width)
    (options : Options) (functions : Registry) :
    ∃ t, load (some (String.singleton d)) (writeRows d rows) false options functions = .ok t ∧
      t.nRows = rows.length ∧ t.nCols = width ∧
      ∀ cell, (t.cellAt cell).raw = (Table.get? rows cell).getD "" := by
  have hlast : rows.getLast? ≠ some [] := by
    intro hempty
    have hlength := hwidth [] (List.mem_of_getLast? hempty)
    rw [List.length_nil] at hlength
    omega
  obtain ⟨t, ht, htRows, htCols, htexts⟩ := exists_ofRows hne options functions
  refine ⟨t, ?_, htRows, ?_, htexts⟩
  · rw [load_writeRows_of_not_mem hd hreturn hlast, if_pos hfits, ht]
  · rw [htCols, Sheet.foldl_max_of_forall (List.forall_mem_map.2 hwidth)
      (mt List.map_eq_nil_iff.1 hne)]

end Spreadsheet.Delimited

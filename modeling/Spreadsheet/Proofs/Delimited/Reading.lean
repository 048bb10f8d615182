import Spreadsheet.Delimited.Detect
import Spreadsheet.Delimited.Reader
import Spreadsheet.Delimited.Writer

/-!
# Reading what was written

What a reader makes of the text that the writer makes of rows (`readRecords_writeRows`). A field in
quotation marks is read as it was, and so is one without carriage returns. The writer puts no
quotation marks around a field for its carriage returns, so the reader takes the first of them for
the end of the line. It goes on only if nothing but carriage returns follows in the line: the text
can be read if this is so of all rows (`readsBack`), and the field is then read as what stands
before its first carriage return (`fieldRead`).
-/

namespace Spreadsheet.Delimited

/-- The characters of a field stand in quotation marks or have no carriage return among them. -/
def isWhole (separator : Char) (field : List Char) : Bool :=
  needsQuotes separator field || !field.contains '\r'

/-- What a field is read as, if its row can be read. -/
def fieldRead (separator : Char) (field : String) : String :=
  if isWhole separator field.toList then field
  else String.ofList (field.toList.takeWhile (· != '\r'))

/-- What a row is read as, if it can be read. A line of carriage returns alone is a record without
fields. -/
def recordRead (separator : Char) : List String → List String
  | [field] =>
    if field ≠ "" ∧ fieldRead separator field = "" then [] else [fieldRead separator field]
  | row => row.map (fieldRead separator)

/-- The line of a row can be read: a carriage return outside quotation marks stands in the last
field only, and nothing but carriage returns follows it. -/
def readsBack (separator : Char) : List String → Bool
  | [] => true
  | [last] => isWhole separator last.toList || (last.toList.dropWhile (· != '\r')).all (· == '\r')
  | field :: row => isWhole separator field.toList && readsBack separator row

/-- The fields of a row with separators between them. -/
def fieldsText (separator : Char) (row : List String) : List Char :=
  Text.joinWith [separator] (row.map fun field => fieldText separator field.toList)

theorem fieldsText_singleton (separator : Char) (field : String) :
    fieldsText separator [field] = fieldText separator field.toList := rfl

theorem fieldsText_cons (separator : Char) (field next : String) (row : List String) :
    fieldsText separator (field :: next :: row) =
      fieldText separator field.toList ++ separator :: fieldsText separator (next :: row) := by
  simp [fieldsText, Text.joinWith]

/-- The separator has no other meaning in delimited text. -/
def Separates (separator : Char) : Prop := separator ≠ '"' ∧ separator ≠ '\n' ∧ separator ≠ '\r'

theorem separates_of_mem {separator : Char} (h : separator ∈ knownSeparators) :
    Separates separator := by
  simp only [knownSeparators, List.mem_cons, List.not_mem_nil, or_false] at h
  rcases h with rfl | rfl | rfl <;> exact ⟨by decide, by decide, by decide⟩

/-- A field may end where the reader stands. -/
def Place.MayEnd (place : Place) : Prop :=
  place = .fieldStart ∨ place = .inField ∨ place = .afterQuote

namespace Reader

variable {separator c : Char} {cs rest field : List Char} {r t : Reader} {place : Place}
  {record : List String} {records : List (List String)}

/-- Takes all characters of a text. -/
def run (separator : Char) (r : Reader) (cs : List Char) : Except ReadFault Reader :=
  cs.foldlM (step separator) r

theorem run_cons (h : step separator r c = .ok t) (cs : List Char) :
    run separator r (c :: cs) = run separator t cs := by
  rw [run, List.foldlM_cons, h]
  rfl

theorem run_cons_error {e : ReadFault} (h : step separator r c = .error e) (cs : List Char) :
    run separator r (c :: cs) = .error e := by
  rw [run, List.foldlM_cons, h]
  rfl

theorem run_append (h : run separator r cs = .ok t) (rest : List Char) :
    run separator r (cs ++ rest) = run separator t rest := by
  rw [run] at h
  rw [run, List.foldlM_append, h]
  rfl

/-! ## The text of a field -/

theorem run_inField (h : ∀ c ∈ cs, c ≠ separator ∧ c ≠ '\n' ∧ c ≠ '\r') (field : List Char) :
    run separator ⟨.inField, field, record, records⟩ cs =
      .ok ⟨.inField, cs.reverse ++ field, record, records⟩ := by
  induction cs generalizing field with
  | nil => rfl
  | cons c cs ih =>
    obtain ⟨hc, hcs⟩ := List.forall_mem_cons.1 h
    have hstep : step separator ⟨.inField, field, record, records⟩ c =
        .ok ⟨.inField, c :: field, record, records⟩ := by
      simp [step, hc, push]
    rw [run_cons hstep, ih hcs, List.reverse_cons, List.append_assoc, List.singleton_append]

/-- Doubled quotation marks are read as the ones that were doubled. -/
theorem run_inQuotes (cs field : List Char) :
    run separator ⟨.inQuotes, field, record, records⟩
        (cs.flatMap fun c => if c = '"' then ['"', '"'] else [c]) =
      .ok ⟨.inQuotes, cs.reverse ++ field, record, records⟩ := by
  induction cs generalizing field with
  | nil => rfl
  | cons c cs ih =>
    have hc : run separator ⟨.inQuotes, field, record, records⟩
        (if c = '"' then ['"', '"'] else [c]) = .ok ⟨.inQuotes, c :: field, record, records⟩ := by
      split
      · next h => subst h; rfl
      · next h => exact run_cons (by simp [step, h, push]) []
    rw [List.flatMap_cons, run_append hc, ih, List.reverse_cons, List.append_assoc,
      List.singleton_append]

theorem ne_of_needsQuotes_eq_false (h : needsQuotes separator field = false) :
    ∀ c ∈ field, c ≠ separator ∧ c ≠ '"' ∧ c ≠ '\n' := by
  simpa [needsQuotes, and_assoc] using h

/-- The text of a field is read up to where the field may end, if it has no carriage return outside
quotation marks. -/
theorem run_fieldText (hfield : isWhole separator field = true) (record : List String)
    (records : List (List String)) :
    ∃ place : Place, place.MayEnd ∧
      run separator ⟨.fieldStart, [], record, records⟩ (fieldText separator field) =
        .ok ⟨place, field.reverse, record, records⟩ := by
  rw [fieldText]
  split
  · refine ⟨.afterQuote, .inr (.inr rfl), ?_⟩
    have hopen : step separator ⟨.fieldStart, [], record, records⟩ '"' =
        .ok ⟨.inQuotes, [], record, records⟩ := rfl
    rw [quoteField, List.cons_append, run_cons hopen, run_append (run_inQuotes field []),
      List.append_nil]
    rfl
  · next hquotes =>
    have hplain := ne_of_needsQuotes_eq_false (Bool.eq_false_iff.2 hquotes)
    have hreturn : '\r' ∉ field := by simpa [isWhole, hquotes] using hfield
    cases field with
    | nil => exact ⟨.fieldStart, .inl rfl, rfl⟩
    | cons c cs =>
      obtain ⟨hc, hcs⟩ := List.forall_mem_cons.1 hplain
      rw [List.mem_cons, not_or] at hreturn
      have hstep : step separator ⟨.fieldStart, [], record, records⟩ c =
          .ok ⟨.inField, [c], record, records⟩ := by
        simp [step, startField, hc, Ne.symm hreturn.1, push]
      refine ⟨.inField, .inr (.inl rfl), ?_⟩
      rw [run_cons hstep, run_inField (fun d hd => ⟨(hcs d hd).1, (hcs d hd).2.2, ?_⟩) [c],
        List.reverse_cons]
      exact fun h => hreturn.2 (h ▸ hd)

/-! ## What follows a field -/

theorem step_separator (hsep : Separates separator) (hplace : place.MayEnd)
    (hfield : field.length ≤ fieldLimit) (record : List String) (records : List (List String)) :
    step separator ⟨place, field, record, records⟩ separator =
      .ok ⟨.fieldStart, [], String.ofList field.reverse :: record, records⟩ := by
  obtain ⟨hquote, hfeed, hreturn⟩ := hsep
  have hend : endField ⟨place, field, record, records⟩ .fieldStart =
      .ok ⟨.fieldStart, [], String.ofList field.reverse :: record, records⟩ :=
    if_neg (Nat.not_lt.2 hfield)
  rcases hplace with rfl | rfl | rfl
  · simp [step, startField, hquote, hfeed, hreturn, hend]
  · simp [step, hfeed, hreturn, hend]
  · simp only [step, leaveQuotes, if_neg hquote, if_true, hend, if_neg hfeed]
    rfl

theorem step_lineEnd (hsep : Separates separator) (hplace : place.MayEnd)
    (hfield : field.length ≤ fieldLimit) (hc : c = '\n' ∨ c = '\r') (record : List String)
    (records : List (List String)) :
    step separator ⟨place, field, record, records⟩ c =
      .ok (if c = '\n' then ⟨.recordStart, [], [],
          (String.ofList field.reverse :: record).reverse :: records⟩
        else ⟨.afterReturn, [], String.ofList field.reverse :: record, records⟩) := by
  have hend : endLine ⟨place, field, record, records⟩ c =
      .ok (if c = '\n' then ⟨.recordStart, [], [],
          (String.ofList field.reverse :: record).reverse :: records⟩
        else ⟨.afterReturn, [], String.ofList field.reverse :: record, records⟩) := by
    rw [endLine, endField, if_neg (Nat.not_lt.2 hfield)]
    rfl
  have hquote : c ≠ '"' := by rcases hc with rfl | rfl <;> decide
  have hne : c ≠ separator := by
    rcases hc with rfl | rfl
    · exact hsep.2.1.symm
    · exact hsep.2.2.symm
  rcases hplace with rfl | rfl | rfl
  · rw [step, startField, if_pos hc, hend]
  · rw [step, if_pos hc, hend]
  · simp only [step, leaveQuotes, if_neg hquote, if_neg hne, if_pos hc, hend]

/-- After a carriage return only a line feed or a carriage return can be read. -/
theorem run_afterReturn (hplace : r.place = .afterReturn) (hcs : '\n' ∉ cs) (hc : c ≠ '\r') :
    run separator r (cs ++ c :: rest) =
      if cs.all (· == '\r') ∧ c = '\n' then run separator r.endRecord rest
      else .error .loneReturn := by
  induction cs with
  | nil =>
    by_cases hfeed : c = '\n'
    · rw [List.nil_append, run_cons (t := r.endRecord) (by simp [step, hplace, hfeed])]
      simp [hfeed]
    · rw [List.nil_append, run_cons_error (e := .loneReturn) (by simp [step, hplace, hfeed, hc])]
      simp [hfeed]
  | cons d cs ih =>
    rw [List.mem_cons, not_or] at hcs
    by_cases hd : d = '\r'
    · subst hd
      rw [List.cons_append, run_cons (t := r) (by simp [step, hplace]), ih hcs.2]
      simp
    · rw [List.cons_append, run_cons_error (e := .loneReturn)
        (by simp [step, hplace, Ne.symm hcs.1, hd])]
      simp [hd]

/-! ## The line of a row -/

/-- A field that is not whole is its part up to the first carriage return, and more. -/
theorem exists_return (h : isWhole separator field = false) : ∃ before after,
    field = before ++ '\r' :: after ∧ isWhole separator before = true ∧
      fieldText separator field = field ∧ fieldText separator before = before ∧ '\n' ∉ after ∧
      field.takeWhile (· != '\r') = before ∧ field.dropWhile (· != '\r') = '\r' :: after := by
  rw [isWhole, Bool.or_eq_false_iff, Bool.not_eq_false', List.contains_iff_mem] at h
  obtain ⟨hquotes, hreturn⟩ := h
  obtain ⟨before, after, rfl, hbefore⟩ := List.eq_append_cons_of_mem hreturn
  have hplain := ne_of_needsQuotes_eq_false hquotes
  have hquotes' : needsQuotes separator before = false := by
    simpa [needsQuotes, and_assoc] using fun c hc => hplain c (List.mem_append_left _ hc)
  have hne : ∀ c ∈ before, (c != '\r') = true := by
    intro c hc
    exact bne_iff_ne.2 fun h => hbefore (h ▸ hc)
  refine ⟨before, after, rfl, by simp [isWhole, hbefore], by rw [fieldText, hquotes]; rfl,
    by rw [fieldText, hquotes']; rfl, fun hfeed => ?_, ?_, ?_⟩
  · exact (hplain '\n' (List.mem_append_right _ (List.mem_cons_of_mem _ hfeed))).2.2 rfl
  · rw [List.takeWhile_append_of_pos hne]
    simp
  · rw [List.dropWhile_append_of_pos hne]
    simp

/-- A carriage return outside quotation marks ends the field. The text can be read on if only
carriage returns stand between it and the end of the line. -/
theorem run_return (hsep : Separates separator) (hfield : isWhole separator field = false)
    (hlength : field.length ≤ fieldLimit) (hc : c ≠ '\r') :
    run separator ⟨.fieldStart, [], record, records⟩ (fieldText separator field ++ c :: rest) =
      if (field.dropWhile (· != '\r')).all (· == '\r') ∧ c = '\n' then
        run separator ⟨.recordStart, [], [],
          (record.reverse ++ [String.ofList (field.takeWhile (· != '\r'))]) :: records⟩ rest
      else .error .loneReturn := by
  obtain ⟨before, after, rfl, hbefore, htext, htext', hafter, htake, hdrop⟩ := exists_return hfield
  obtain ⟨place, hplace, hrun⟩ := run_fieldText hbefore record records
  have hle : before.reverse.length ≤ fieldLimit := by
    rw [List.length_append] at hlength
    rw [List.length_reverse]
    omega
  have hreturn := step_lineEnd hsep hplace hle (.inr rfl) record records
  rw [htext, List.append_assoc, List.cons_append, ← htext', run_append hrun, run_cons hreturn,
    run_afterReturn rfl hafter hc, htext', htake, hdrop]
  simp [endRecord]

/-- The fields of a line are read one after the other, up to its end. -/
theorem run_fields (hsep : Separates separator) {row : List String} (hrow : row ≠ [])
    (hlength : ∀ field ∈ row, field.toList.length ≤ fieldLimit) (record : List String) :
    run separator ⟨.fieldStart, [], record, records⟩ (fieldsText separator row ++ '\n' :: rest) =
      if readsBack separator row then
        run separator ⟨.recordStart, [], [],
          (record.reverse ++ row.map (fieldRead separator)) :: records⟩ rest
      else .error .loneReturn := by
  induction row generalizing record with
  | nil => exact absurd rfl hrow
  | cons field row ih =>
    obtain ⟨hfield, hfields⟩ := List.forall_mem_cons.1 hlength
    cases hwhole : isWhole separator field.toList with
    | true =>
      obtain ⟨place, hplace, hrun⟩ := run_fieldText hwhole record records
      rw [← List.length_reverse] at hfield
      have hread : fieldRead separator field = field := if_pos hwhole
      cases row with
      | nil =>
        have hfeed := step_lineEnd hsep hplace hfield (.inl rfl) record records
        rw [fieldsText_singleton, run_append hrun, run_cons hfeed]
        simp [readsBack, hwhole, hread]
      | cons next row =>
        have hstep := step_separator hsep hplace hfield record records
        rw [fieldsText_cons, List.append_assoc, run_append hrun, List.cons_append, run_cons hstep,
          ih (List.cons_ne_nil _ _) hfields]
        simp [readsBack, hwhole, hread]
    | false =>
      have hread : fieldRead separator field =
          String.ofList (field.toList.takeWhile (· != '\r')) := if_neg (by simp [hwhole])
      cases row with
      | nil =>
        rw [fieldsText_singleton, run_return hsep hwhole hfield (by decide)]
        simp [readsBack, hwhole, hread]
      | cons next row =>
        rw [fieldsText_cons, List.append_assoc, List.cons_append,
          run_return hsep hwhole hfield hsep.2.2, if_neg (fun h => hsep.2.1 h.2)]
        simp [readsBack, hwhole]

/-- The first character of a field, unless it is a carriage return outside quotation marks. -/
theorem exists_fieldText_eq_cons (hne : field ≠ [])
    (hhead : isWhole separator field = true ∨ field.head? ≠ some '\r') :
    ∃ c cs, fieldText separator field = c :: cs ∧ c ≠ '\n' ∧ c ≠ '\r' := by
  rw [fieldText]
  split
  · exact ⟨'"', _, rfl, by decide, by decide⟩
  · next hquotes =>
    have hplain := ne_of_needsQuotes_eq_false (Bool.eq_false_iff.2 hquotes)
    obtain ⟨c, cs, rfl⟩ := List.exists_cons_of_ne_nil hne
    refine ⟨c, cs, rfl, (hplain c List.mem_cons_self).2.2, fun hc => ?_⟩
    subst hc
    simp [isWhole, hquotes] at hhead

/-- A line is read from its start as the first field of it is. -/
theorem run_recordStart (hsep : Separates separator) {field : String} {row : List String}
    (hne : field :: row ≠ [""])
    (hhead : isWhole separator field.toList = true ∨ field.toList.head? ≠ some '\r') :
    run separator ⟨.recordStart, [], [], records⟩ (fieldsText separator (field :: row) ++ rest) =
      run separator ⟨.fieldStart, [], [], records⟩
        (fieldsText separator (field :: row) ++ rest) := by
  obtain ⟨c, cs, htext, hfeed, hreturn⟩ : ∃ c cs,
      fieldsText separator (field :: row) = c :: cs ∧ c ≠ '\n' ∧ c ≠ '\r' := by
    by_cases hfield : field.toList = []
    · cases row with
      | nil => exact absurd (by rw [String.toList_eq_nil_iff.1 hfield]) hne
      | cons next row =>
        exact ⟨separator, _, by rw [fieldsText_cons, hfield]; rfl, hsep.2.1, hsep.2.2⟩
    · obtain ⟨c, cs, htext, hc⟩ := exists_fieldText_eq_cons hfield hhead
      cases row with
      | nil => exact ⟨c, cs, htext, hc⟩
      | cons next row => exact ⟨c, _, by rw [fieldsText_cons, htext, List.cons_append], hc⟩
  rw [htext, List.cons_append, run, run, List.foldlM_cons, List.foldlM_cons]
  congr 1
  simp only [step, hfeed, hreturn, if_false, startField, endLine, endField, push]

/-- A row that starts with a carriage return outside quotation marks starts with the end of a line
that has no fields. -/
theorem run_leadingReturn (hsep : Separates separator) {field : String} {row : List String}
    (hwhole : isWhole separator field.toList = false) (hhead : field.toList.head? = some '\r') :
    run separator ⟨.recordStart, [], [], records⟩
        (fieldsText separator (field :: row) ++ '\n' :: rest) =
      if readsBack separator (field :: row) then
        run separator ⟨.recordStart, [], [], [] :: records⟩ rest
      else .error .loneReturn := by
  obtain ⟨before, after, hfield, -, htext, -, hafter, -, hdrop⟩ := exists_return hwhole
  obtain ⟨cs, hcs⟩ := List.head?_eq_some_iff.1 hhead
  have hstart : field.toList = '\r' :: after := by
    rw [hcs] at hdrop
    rw [hcs, ← hdrop]
    simp
  have hreturn : step separator ⟨.recordStart, [], [], records⟩ '\r' =
      .ok ⟨.afterReturn, [], [], records⟩ := rfl
  cases row with
  | nil =>
    rw [fieldsText_singleton, htext, hstart, List.cons_append, run_cons hreturn,
      run_afterReturn rfl hafter (by decide)]
    simp [readsBack, hwhole, hdrop, endRecord]
  | cons next row =>
    rw [fieldsText_cons, htext, hstart, List.append_assoc, List.cons_append, List.cons_append,
      run_cons hreturn, run_afterReturn rfl hafter hsep.2.2, if_neg (fun h => hsep.2.1 h.2)]
    simp [readsBack, hwhole]

end Reader

variable {separator : Char}

/-- A field is read as empty if it is, or else is cut off at its first character. -/
theorem fieldRead_eq_empty {field : String} : fieldRead separator field = "" ↔
    field = "" ∨ isWhole separator field.toList = false ∧ field.toList.head? = some '\r' := by
  rw [fieldRead]
  split
  · next h => simp [h]
  · next h =>
    have hne : field ≠ "" := by
      rintro rfl
      exact h rfl
    obtain ⟨c, cs, hfield⟩ := List.exists_cons_of_ne_nil (mt String.toList_eq_nil_iff.1 hne)
    rw [String.ofList_eq_empty_iff, hfield]
    rw [hfield, Bool.not_eq_true] at h
    rw [or_iff_right hne, and_iff_right h, List.takeWhile_cons]
    by_cases hc : c = '\r' <;> simp [hc]

theorem recordRead_of_ne {row : List String}
    (h : ∀ field, row = [field] → field ≠ "" → fieldRead separator field ≠ "") :
    recordRead separator row = row.map (fieldRead separator) := by
  unfold recordRead
  split
  · next field => rw [if_neg (fun hread => h field rfl hread.1 hread.2), List.map_singleton]
  · rfl

/-- A row of one empty field is a pair of quotation marks. -/
theorem Reader.run_emptyField (hsep : Separates separator) {rest : List Char}
    {records : List (List String)} :
    run separator ⟨.recordStart, [], [], records⟩ (rowText separator [""] ++ rest) =
      run separator ⟨.recordStart, [], [], [""] :: records⟩ rest := by
  have hopen : step separator ⟨.recordStart, [], [], records⟩ '"' =
      .ok ⟨.inQuotes, [], [], records⟩ := rfl
  have hclose : step separator ⟨.inQuotes, [], [], records⟩ '"' =
      .ok ⟨.afterQuote, [], [], records⟩ := rfl
  have hfeed : step separator ⟨.afterQuote, [], [], records⟩ '\n' =
      .ok ⟨.recordStart, [], [], [""] :: records⟩ :=
    step_lineEnd hsep (.inr (.inr rfl)) (Nat.zero_le _) (.inl rfl) [] records
  rw [rowText, if_pos rfl, quoteField, List.flatMap_nil]
  exact (run_cons hopen _).trans ((run_cons hclose _).trans (run_cons hfeed _))

/-- The line of a row, read from its start. -/
theorem Reader.run_rowText (hsep : Separates separator) {row : List String}
    (hlength : ∀ field ∈ row, field.toList.length ≤ fieldLimit) (rest : List Char)
    (records : List (List String)) :
    run separator ⟨.recordStart, [], [], records⟩ (rowText separator row ++ rest) =
      if readsBack separator row then
        run separator ⟨.recordStart, [], [], recordRead separator row :: records⟩ rest
      else .error .loneReturn := by
  cases row with
  | nil => rfl
  | cons field row =>
    by_cases hempty : field :: row = [""]
    · cases hempty
      exact run_emptyField hsep
    have htext : rowText separator (field :: row) ++ rest =
        fieldsText separator (field :: row) ++ '\n' :: rest := by
      rw [rowText, if_neg hempty, fieldsText, List.append_assoc, List.singleton_append]
    rw [htext]
    by_cases hhead : isWhole separator field.toList = true ∨ field.toList.head? ≠ some '\r'
    · have hread : recordRead separator (field :: row) =
          (field :: row).map (fieldRead separator) := by
        refine recordRead_of_ne ?_
        rintro field' hfield hne hread
        cases hfield
        rcases fieldRead_eq_empty.1 hread with h | ⟨hwhole, hreturn⟩
        · exact hne h
        · simp [hwhole, hreturn] at hhead
      rw [run_recordStart hsep hempty hhead, run_fields hsep (List.cons_ne_nil _ _) hlength, hread,
        List.reverse_nil, List.nil_append]
    · rw [not_or, Bool.not_eq_true, Classical.not_not] at hhead
      rw [run_leadingReturn hsep hhead.1 hhead.2]
      have hread := fieldRead_eq_empty.2 (.inr hhead)
      cases row with
      | nil =>
        have hne : field ≠ "" := by
          rintro rfl
          exact hempty rfl
        simp [recordRead, hread, hne]
      | cons next row => simp [readsBack, hhead.1]

/-- What a reader makes of written rows: it reads them all, or else finds a carriage return that
ends no line. -/
theorem readRecords_writeRows (hsep : Separates separator) {rows : List (List String)}
    (hlength : ∀ row ∈ rows, ∀ field ∈ row, field.toList.length ≤ fieldLimit) :
    readRecords separator (writeRows separator rows) =
      if rows.all (readsBack separator) then .ok (rows.map (recordRead separator))
      else .error .loneReturn := by
  have hrun (records : List (List String)) : Reader.run separator ⟨.recordStart, [], [], records⟩
      (rows.flatMap (rowText separator)) = if rows.all (readsBack separator) then
        .ok ⟨.recordStart, [], [], (rows.map (recordRead separator)).reverse ++ records⟩
      else .error .loneReturn := by
    induction rows generalizing records with
    | nil => rfl
    | cons row rows ih =>
      obtain ⟨hrow, hrows⟩ := List.forall_mem_cons.1 hlength
      rw [List.flatMap_cons, Reader.run_rowText hsep hrow, ih hrows, List.all_cons, List.map_cons,
        List.reverse_cons, List.append_assoc, List.singleton_append]
      cases readsBack separator row <;> simp
  rw [readRecords, writeRows, String.toList_ofList]
  have h := hrun []
  rw [Reader.run] at h
  rw [Reader.start, h]
  split
  · simp [Reader.finish, bind, Except.bind]
  · rfl

/-- A row without carriage returns is read as it was. -/
theorem recordRead_of_not_mem {row : List String} (h : ∀ field ∈ row, '\r' ∉ field.toList) :
    readsBack separator row = true ∧ recordRead separator row = row := by
  have hwhole : ∀ field ∈ row, isWhole separator field.toList = true := by
    intro field hfield
    simp [isWhole, h field hfield]
  have hread : ∀ field ∈ row, fieldRead separator field = field :=
    fun field hfield => if_pos (hwhole field hfield)
  constructor
  · clear h hread
    induction row with
    | nil => rfl
    | cons field row ih =>
      obtain ⟨hfield, hrow⟩ := List.forall_mem_cons.1 hwhole
      cases row with
      | nil => simp [readsBack, hfield]
      | cons next row => simp [readsBack, hfield, ih hrow]
  · rw [recordRead_of_ne, List.map_congr_left hread, List.map_id']
    rintro field rfl hne
    rwa [hread field (List.mem_singleton_self _)]

end Spreadsheet.Delimited

import Spreadsheet.Proofs.Delimited.Limit
import Spreadsheet.Proofs.Text.Words

/-!
# Finding the separator of a dumped sheet

Where no text of a sheet holds a separator, a quotation mark or the end of a line, the dump is taken
apart by its separator alone. There are no quoted fields to look at (`byQuotes?_eq_none`), and every
line has the separator as often as the others and no other one (`byFrequency?_eq_some`). So the
separator is found and the sheet is loaded without being told it (`Reachable.detect_dump`).
-/

namespace Spreadsheet

namespace Text

/-- Lines with their ends are cut at the ends, and nothing comes after the last one. -/
theorem cutAt_lines {separator : Char} {lines : List (List Char)}
    (h : ∀ line ∈ lines, separator ∉ line) :
    cutAt separator (lines.flatMap (· ++ [separator])) = lines ++ [[]] := by
  induction lines with
  | nil => rfl
  | cons line lines ih =>
    obtain ⟨hline, hlines⟩ := List.forall_mem_cons.1 h
    rw [List.flatMap_cons, List.append_assoc, List.singleton_append, cutAt_append_cons hline,
      ih hlines, List.cons_append]

end Text

namespace Delimited

variable {text : List Char} {d c : Char} {lines : List (List Char)} {row : List String}

/-! ## Quoted fields -/

theorem quotedField?_eq_none (h : ∀ c ∈ text, isQuote c = false) (s : Surroundings)
    (atLineStart : Bool) : quotedField? s atLineStart text = none := by
  have hseparator : openingAfterSeparator? text = none := by
    unfold openingAfterSeparator?
    split
    · next c q rest => simp [h q (by simp)]
    · next c q rest _ => simp [h q (by simp)]
    · rfl
  have hlineStart : openingAtLineStart? atLineStart text = none := by
    unfold openingAtLineStart?
    split
    · next q rest => simp [h q (by simp)]
    · next q rest _ => simp [h q (by simp)]
    · rfl
  rw [quotedField?, hseparator, hlineStart, ite_self]
  rfl

theorem quotedFields_eq_nil (h : ∀ c ∈ text, isQuote c = false) (s : Surroundings) (skip : Nat)
    (atLineStart : Bool) : quotedFields s skip atLineStart text = [] := by
  induction text generalizing skip atLineStart with
  | nil => cases skip <;> rfl
  | cons c rest ih =>
    have hrest := fun d hd => h d (List.mem_cons_of_mem _ hd)
    cases skip with
    | zero =>
      rw [quotedFields, quotedField?_eq_none h]
      exact ih hrest 0 _
    | succ skip => exact ih hrest skip false

/-- A text without quotation marks has no quoted fields. -/
theorem byQuotes?_eq_none (h : ∀ c ∈ text, isQuote c = false) : byQuotes? text = none := by
  have hfields := fun s => quotedFields_eq_nil h s 0 true
  simp [byQuotes?, surroundings, hfields, firstBest]

/-! ## Frequencies -/

theorem eraseDups_replicate (size n : Nat) :
    (List.replicate (size + 1) n).eraseDups = [n] := by
  have hothers : (List.replicate size n).filter (fun m => !m == n) = [] := by simp
  rw [List.replicate_succ, List.eraseDups_cons, hothers]
  rfl

/-- A character that all lines have equally often is regular in all of them, unless they have
none. -/
theorem regularity_replicate (size n : Nat) :
    regularity (List.replicate size n) = if n = 0 then 0 else size := by
  cases size with
  | zero => simp [regularity, firstBest]
  | succ size =>
    rw [regularity, eraseDups_replicate]
    cases n with
    | zero => simp [firstBest]
    | succ n =>
      simp only [firstBest, List.count_replicate_self, List.length_replicate,
        if_neg (Nat.succ_ne_zero n)]
      omega

theorem findSome?_range_succ {α : Type} {f : Nat → Option α} {x : α} (h : f 0 = some x) (n : Nat) :
    (List.range (n + 1)).findSome? f = some x := by
  rw [List.range_succ_eq_map, List.findSome?_cons, h]

/-- The only character that is regular at all, in all of the lines, is the most regular one. -/
theorem mostRegular?_eq_some (hd : d ∈ knownSeparators) {size : Nat} (hsize : 0 < size) :
    mostRegular? size (knownSeparators.map fun c => (c, if c = d then size else 0)) = some d := by
  refine findSome?_range_succ ?_ 9
  simp only [knownSeparators, List.mem_cons, List.not_mem_nil, or_false] at hd
  rcases hd with rfl | rfl | rfl <;> simp [knownSeparators, hsize]

/-- Lines that have one separator equally often and none of the others have that one. -/
theorem byFrequency?_eq_some (hd : d ∈ knownSeparators) (hne : lines ≠ [])
    (hfeed : ∀ line ∈ lines, '\n' ∉ line) {n : Nat}
    (hcount : ∀ line ∈ lines, ∀ c ∈ knownSeparators, line.count c = if c = d then n + 1 else 0) :
    byFrequency? (lines.flatMap (· ++ ['\n'])) = some d := by
  have hfull : ∀ line ∈ lines, (!line.isEmpty) = true := by
    intro line hline
    have hpos := hcount line hline d hd
    rw [if_pos rfl] at hpos
    cases line with
    | nil => simp at hpos
    | cons c rest => rfl
  have hlines : (Text.cutAt '\n' (lines.flatMap (· ++ ['\n']))).filter (!·.isEmpty) = lines := by
    rw [Text.cutAt_lines hfeed, List.filter_append, List.filter_eq_self.2 hfull]
    simp
  have hcounts : ∀ c ∈ knownSeparators,
      lines.map (·.count c) = List.replicate lines.length (if c = d then n + 1 else 0) :=
    fun c hc => List.map_eq_replicate_iff.2 fun line hline => hcount line hline c hc
  have hpos : 0 < lines.length := List.length_pos_iff.2 hne
  have hchunks : (lines.length + 9) / 10 = (lines.length - 1) / 10 + 1 := by omega
  -- The first ten lines are enough, since the separator is regular in all of them.
  have hfirst : 0 < min (10 * (0 + 1)) lines.length := by omega
  simp only [byFrequency?, hlines, hchunks]
  refine findSome?_range_succ (Eq.trans (congrArg (mostRegular? _) ?_)
    (mostRegular?_eq_some hd hfirst)) _
  rw [List.map_map]
  refine List.map_congr_left fun c hc => ?_
  simp only [Function.comp_apply, hcounts c hc, List.take_replicate, regularity_replicate]
  by_cases hcd : c = d <;> simp [hcd]

/-! ## Plain texts -/

/-- The character is neither a separator nor a quotation mark nor the end of a line. -/
def isPlain (c : Char) : Bool :=
  !(knownSeparators.contains c || isQuote c || c == '\n' || c == '\r')

theorem isPlain_iff :
    isPlain c ↔ c ∉ knownSeparators ∧ isQuote c = false ∧ c ≠ '\n' ∧ c ≠ '\r' := by
  simp [isPlain, and_assoc]

theorem fieldText_of_isPlain (hd : d ∈ knownSeparators) {field : List Char}
    (h : ∀ c ∈ field, isPlain c) : fieldText d field = field := by
  refine if_neg ?_
  rw [needsQuotes, Bool.not_eq_true, List.any_eq_false]
  intro c hc
  obtain ⟨hseparator, hquote, hfeed, -⟩ := isPlain_iff.1 (h c hc)
  have hne : c ≠ d := fun hcd => hseparator (hcd ▸ hd)
  have hdouble : c ≠ '"' := by
    rintro rfl
    exact absurd hquote (by decide)
  simp [hne, hdouble, hfeed]

/-- A line of plain texts has as many separators as there are places between two of them. -/
theorem count_fieldsText (hd : d ∈ knownSeparators)
    (h : ∀ field ∈ row, ∀ c ∈ field.toList, isPlain c)
    (hc : ∀ e, isPlain e → e ≠ c) :
    (fieldsText d row).count c = if c = d then row.length - 1 else 0 := by
  induction row with
  | nil => simp [fieldsText, Text.joinWith]
  | cons field row ih =>
    obtain ⟨hfield, hrow⟩ := List.forall_mem_cons.1 h
    have hnone : field.toList.count c = 0 :=
      List.count_eq_zero.2 fun hmem => hc c (hfield c hmem) rfl
    cases row with
    | nil => rw [fieldsText_singleton, fieldText_of_isPlain hd hfield, hnone]; simp
    | cons next row =>
      rw [fieldsText_cons, fieldText_of_isPlain hd hfield, List.count_append, List.count_cons,
        hnone,
        ih hrow]
      by_cases hcd : c = d
      · subst hcd
        simp
      · simp [hcd, Ne.symm hcd]

theorem isPlain_or_of_mem_fieldsText (hd : d ∈ knownSeparators)
    (h : ∀ field ∈ row, ∀ c ∈ field.toList, isPlain c) (hc : c ∈ fieldsText d row) :
    isPlain c ∨ c = d := by
  induction row with
  | nil => simp [fieldsText, Text.joinWith] at hc
  | cons field row ih =>
    obtain ⟨hfield, hrow⟩ := List.forall_mem_cons.1 h
    cases row with
    | nil =>
      rw [fieldsText_singleton, fieldText_of_isPlain hd hfield] at hc
      exact .inl (hfield c hc)
    | cons next row =>
      rw [fieldsText_cons, fieldText_of_isPlain hd hfield, List.mem_append, List.mem_cons] at hc
      rcases hc with hc | hc | hc
      · exact .inl (hfield c hc)
      · exact .inr hc
      · exact ih hrow hc

theorem writeRows_of_two_le {rows : List (List String)} (hwidth : ∀ row ∈ rows, 2 ≤ row.length) :
    writeRows d rows = String.ofList ((rows.map (fieldsText d)).flatMap (· ++ ['\n'])) := by
  rw [writeRows, List.flatMap_map]
  congr 1
  refine List.flatMap_congr fun row hrow => ?_
  have hne : row ≠ [""] := by
    rintro rfl
    exact absurd (hwidth _ hrow) (by decide)
  rw [rowText, if_neg hne, fieldsText]

/-- The separator of rows of plain texts is found, if all of the text is looked at. -/
theorem detect_writeRows (hd : d ∈ knownSeparators) {rows : List (List String)} {n : Nat}
    (hne : rows ≠ []) (hwidth : ∀ row ∈ rows, row.length = n + 2)
    (hplain : ∀ row ∈ rows, ∀ field ∈ row, ∀ c ∈ field.toList, isPlain c)
    (hlength : (writeRows d rows).length ≤ sampleSize) : detect (writeRows d rows) = d := by
  have htext : writeRows d rows = String.ofList ((rows.map (fieldsText d)).flatMap (· ++ ['\n'])) :=
    writeRows_of_two_le fun row hrow => (hwidth row hrow).ge.trans' (by omega)
  have hseparates := separates_of_mem hd
  have hquote : isQuote d = false := by
    simp only [knownSeparators, List.mem_cons, List.not_mem_nil, or_false] at hd
    rcases hd with rfl | rfl | rfl <;> decide
  have hline : ∀ line ∈ rows.map (fieldsText d), ∀ c ∈ line, isPlain c ∨ c = d := by
    refine List.forall_mem_map.2 fun row hrow c hc => ?_
    exact isPlain_or_of_mem_fieldsText hd (hplain row hrow) hc
  have hquotes : ∀ c ∈ (rows.map (fieldsText d)).flatMap (· ++ ['\n']), isQuote c = false := by
    intro c hc
    obtain ⟨line, hmem, hc⟩ := List.mem_flatMap.1 hc
    rcases List.mem_append.1 hc with hc | hc
    · rcases hline line hmem c hc with hc | rfl
      · exact (isPlain_iff.1 hc).2.1
      · exact hquote
    · rw [List.mem_singleton.1 hc]
      decide
  have hfeed : ∀ line ∈ rows.map (fieldsText d), '\n' ∉ line := by
    intro line hmem hc
    rcases hline line hmem '\n' hc with hc | hc
    · exact (isPlain_iff.1 hc).2.2.1 rfl
    · exact hseparates.2.1 hc.symm
  have hcount : ∀ line ∈ rows.map (fieldsText d), ∀ c ∈ knownSeparators,
      line.count c = if c = d then n + 1 else 0 := by
    refine List.forall_mem_map.2 fun row hrow c hc => ?_
    have hother : ∀ e, isPlain e → e ≠ c := by
      rintro e he rfl
      exact (isPlain_iff.1 he).1 hc
    rw [count_fieldsText hd (hplain row hrow) hother, hwidth row hrow]
    rfl
  rw [← String.length_toList, htext, String.toList_ofList] at hlength
  rw [htext, detect, String.toList_ofList, List.take_of_length_le hlength]
  simp only [byQuotes?_eq_none hquotes]
  rw [byFrequency?_eq_some hd (mt List.map_eq_nil_iff.1 hne) hfeed hcount]
  rfl

theorem load_none {text : String} (h : detect text = d) (header : Bool) (options : Options)
    (functions : Registry) : load none text header options functions =
      load (some (String.singleton d)) text header options functions := by
  rw [load_singleton, load, separatorFor, h]
  rfl

end Delimited

open Sheet Delimited

variable {functions : Registry} {s : Sheet} {d : Char}

/-- The separator of a dumped sheet of at least two columns whose texts are plain is found, and the
sheet that is loaded without a separator being set has the size and the texts of the one that was
dumped, as long as all of the text is looked at. -/
theorem Reachable.detect_dump (h : Reachable functions s) (hd : d ∈ knownSeparators)
    (hrows : 0 < s.nRows) (hcols : 2 ≤ s.nCols)
    (hplain : ∀ cell, ∀ c ∈ (s.cellAt cell).raw.toList, isPlain c) :
    ∃ text, dump (String.singleton d) s true false = .ok text ∧ (text.length ≤ sampleSize →
      detect text = d ∧ ∀ (options : Options) (others : Registry),
        ∃ t, load none text false options others = .ok t ∧
          t.nRows = s.nRows ∧ t.nCols = s.nCols ∧
          ∀ cell, (t.cellAt cell).raw = (s.cellAt cell).raw) := by
  have hs := h.inStep.1.rectangular
  have hne : s.texts ≠ [] := List.length_pos_iff.1 (by rwa [s.length_texts])
  have hplain : ∀ row ∈ s.texts, ∀ field ∈ row, ∀ c ∈ field.toList, isPlain c :=
    (forall_raw (p := fun raw => ∀ c ∈ raw.toList, isPlain c) (by simp)).1 hplain
  refine ⟨_, dump_formulas d s, fun hlength => ?_⟩
  have hdetect : detect (writeRows d s.texts) = d :=
    detect_writeRows (n := s.nCols - 2) hd hne (fun row hrow => by
      rw [hs.length_of_mem_texts hrow]; omega) hplain hlength
  refine ⟨hdetect, fun options others => ?_⟩
  have hreturn : ∀ row ∈ s.texts, ∀ field ∈ row, '\r' ∉ field.toList := by
    intro row hrow field hfield hc
    exact (isPlain_iff.1 (hplain row hrow field hfield '\r' hc)).2.2.2 rfl
  have hfits : Fits s.texts := fits_of_length_le (hlength.trans (by decide))
  obtain ⟨t, ht, htRows, htCols, htexts⟩ := exists_load_writeRows hd hreturn hfits hne
    (fun row hrow => hs.length_of_mem_texts hrow) (by omega : 0 < s.nCols) options others
  refine ⟨t, (load_none hdetect _ _ _).trans ht, htRows.trans s.length_texts, htCols,
    fun cell => ?_⟩
  rw [htexts, s.raw_eq_texts]

namespace Sheet

theorem size_sample : sample.nRows = 2 ∧ sample.nCols = 2 := by
  simp only [sample, nRows_setTextAt, nCols_setTextAt]
  decide

theorem texts_sample : sample.texts = [["=A1", "=A1:A2"], ["x", "=A2"]] := by
  rw [texts, rows_sample]
  rfl

end Sheet

theorem detect_dump_sample : detect "=A1;=A1:A2\nx;=A2\n" = ';' ∧
    ∃ t, load none "=A1;=A1:A2\nx;=A2\n" false .standard .builtin = .ok t ∧ t.nRows = 2 ∧
      t.nCols = 2 ∧ ∀ cell, (t.cellAt cell).raw = (sample.cellAt cell).raw := by
  have htext : writeRows ';' sample.texts = "=A1;=A1:A2\nx;=A2\n" := by
    rw [texts_sample]
    rfl
  have hplain : ∀ cell, ∀ c ∈ (sample.cellAt cell).raw.toList, isPlain c := by
    have hall : sample.texts.flatten.all (·.toList.all isPlain) = true := by
      rw [texts_sample]
      rfl
    refine (forall_raw (p := fun raw => ∀ c ∈ raw.toList, isPlain c) (by simp)).2 ?_
    intro row hrow text htext c hc
    have hmem := List.mem_flatten.2 ⟨row, hrow, htext⟩
    exact List.all_eq_true.1 (List.all_eq_true.1 hall text hmem) c hc
  obtain ⟨text, hdump, h⟩ := reachable_sample.detect_dump (d := ';') (by decide)
    (by rw [size_sample.1]; decide) (by rw [size_sample.2]) hplain
  cases (dump_formulas ';' sample).symm.trans hdump
  rw [htext] at h
  obtain ⟨hdetect, hload⟩ := h (by decide)
  obtain ⟨t, ht, hrows, hcols, htexts⟩ := hload .standard .builtin
  exact ⟨hdetect, t, ht, hrows.trans size_sample.1, hcols.trans size_sample.2, htexts⟩

end Spreadsheet

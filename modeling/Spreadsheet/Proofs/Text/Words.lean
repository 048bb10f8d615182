import Spreadsheet.Proofs.Text.Integer

/-!
# Words

A text falls into its words where it has white space (`words_append_blank`). Each word has
characters and no white space among them (`mem_words`), and a text without words is blank
(`words_eq_nil_iff`).
-/

namespace Spreadsheet.Text

variable {cs piece word : List Char} {c : Char}

theorem cutWhere_append_cons {isCut : Char → Bool} (hc : isCut c) (front cs : List Char) :
    cutWhere isCut (front ++ c :: cs) = cutWhere isCut front ++ cutWhere isCut cs := by
  induction front with
  | nil => simp [cutWhere, hc]
  | cons first front ih =>
    obtain ⟨head, pieces, hpieces⟩ := List.exists_cons_of_ne_nil (cutWhere_ne_nil isCut front)
    rw [List.cons_append, cutWhere, cutWhere, ih, hpieces]
    split <;> rfl

/-- No piece has a character that the text is cut at. -/
theorem eq_false_of_mem_cutWhere {isCut : Char → Bool} (hpiece : piece ∈ cutWhere isCut cs) :
    ∀ c ∈ piece, isCut c = false := by
  induction cs generalizing piece with
  | nil =>
    rw [List.mem_singleton.1 hpiece]
    simp
  | cons first rest ih =>
    obtain ⟨head, pieces, hpieces⟩ := List.exists_cons_of_ne_nil (cutWhere_ne_nil isCut rest)
    have hpieces' : ∀ piece ∈ head :: pieces, ∀ c ∈ piece, isCut c = false :=
      hpieces ▸ fun piece => ih
    obtain ⟨hhead, htail⟩ := List.forall_mem_cons.1 hpieces'
    rw [cutWhere, hpieces] at hpiece
    by_cases hcut : isCut first
    · rw [if_pos hcut] at hpiece
      obtain rfl | hmem := List.mem_cons.1 hpiece
      · simp
      · exact hpieces' piece hmem
    · rw [if_neg hcut] at hpiece
      obtain rfl | hmem := List.mem_cons.1 hpiece
      · exact List.forall_mem_cons.2 ⟨eq_false_of_ne_true hcut, hhead⟩
      · exact htail piece hmem

theorem cutAt_of_not_mem {separator : Char} (h : separator ∉ piece) :
    cutAt separator piece = [piece] :=
  cutWhere_of_forall fun _ hc => beq_eq_false_iff_ne.2 fun heq => h (heq ▸ hc)

theorem cutAt_append_cons {separator : Char} (h : separator ∉ piece) (rest : List Char) :
    cutAt separator (piece ++ separator :: rest) = piece :: cutAt separator rest := by
  have hcut : cutAt separator (piece ++ separator :: rest) =
      cutAt separator piece ++ cutAt separator rest :=
    @cutWhere_append_cons separator (· == separator) (beq_self_eq_true separator) piece rest
  rw [hcut, cutAt_of_not_mem h, List.singleton_append]

/-- White space separates words. -/
theorem words_append_blank (hc : isBlank c) (front cs : List Char) :
    words (front ++ c :: cs) = words front ++ words cs := by
  rw [words, cutWhere_append_cons hc, List.filter_append, words, words]

/-- A word has characters, and no white space among them. -/
theorem mem_words (h : word ∈ words cs) : word ≠ [] ∧ ∀ c ∈ word, isBlank c = false := by
  obtain ⟨hpiece, hne⟩ := List.mem_filter.1 h
  exact ⟨by simpa using hne, eq_false_of_mem_cutWhere hpiece⟩

/-- Characters without white space among them are a word. -/
theorem words_of_forall (hne : word ≠ []) (h : ∀ c ∈ word, isBlank c = false) :
    words word = [word] := by
  rw [words, cutWhere_of_forall h]
  simp [hne]

/-- A text without words is blank. -/
theorem words_eq_nil_iff : words cs = [] ↔ allBlank cs := by
  rw [allBlank, List.all_eq_true]
  constructor
  · intro hnone c hc
    refine (mem_cutWhere hc).resolve_right ?_
    rintro ⟨piece, hpiece, hmem⟩
    have hne : piece ≠ [] := List.ne_nil_of_mem hmem
    have hword : piece ∈ words cs := List.mem_filter.2 ⟨hpiece, by simpa using hne⟩
    rw [hnone] at hword
    cases hword
  · intro hblank
    induction cs with
    | nil => rfl
    | cons c cs ih =>
      obtain ⟨hc, hcs⟩ := List.forall_mem_cons.1 hblank
      exact (words_append_blank hc [] cs).trans (ih hcs)

end Spreadsheet.Text

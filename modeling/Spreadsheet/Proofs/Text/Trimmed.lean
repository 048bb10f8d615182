import Spreadsheet.Proofs.Text.Words

/-!
# White space at the ends

`strip` takes the white space off both ends of a text (`exists_append_strip`) and leaves what has
none there (`trimmed_strip`), and these two say what it gives (`strip_append`). The words are the
same without that white space (`words_strip`).
-/

namespace Spreadsheet.Text

variable {cs front back word : List Char} {others : List (List Char)}

/-- The text neither starts nor ends with white space. -/
def Trimmed (cs : List Char) : Prop :=
  (∀ c ∈ cs.head?, isBlank c = false) ∧ ∀ c ∈ cs.getLast?, isBlank c = false

theorem trimmed_of_forall (h : ∀ c ∈ cs, isBlank c = false) : Trimmed cs :=
  ⟨fun c hc => h c (List.mem_of_mem_head? hc), fun c hc => h c (List.mem_of_getLast? hc)⟩

theorem Trimmed.append (hfront : Trimmed front) (hback : Trimmed back) (hfrontNe : front ≠ [])
    (hbackNe : back ≠ []) (cs : List Char) : Trimmed (front ++ cs ++ back) := by
  obtain ⟨first, front, rfl⟩ := List.exists_cons_of_ne_nil hfrontNe
  constructor
  · exact hfront.1
  · rw [List.getLast?_append, List.getLast?_eq_some_getLast hbackNe, Option.some_or,
      ← List.getLast?_eq_some_getLast hbackNe]
    exact hback.2

/-! ## Stripping -/

theorem dropWhile_append_of_allBlank (hfront : allBlank front)
    (hcs : ∀ c ∈ cs.head?, isBlank c = false) : (front ++ cs).dropWhile isBlank = cs := by
  rw [List.dropWhile_append_of_pos (List.all_eq_true.1 hfront)]
  cases cs with
  | nil => rfl
  | cons c cs => rw [List.dropWhile_cons, hcs c rfl, if_neg Bool.false_ne_true]

theorem allBlank_cons_iff {c : Char} : allBlank (c :: cs) ↔ isBlank c ∧ allBlank cs := by
  rw [allBlank, List.all_cons, Bool.and_eq_true_iff, allBlank]

theorem allBlank_append_iff : allBlank (front ++ back) ↔ allBlank front ∧ allBlank back := by
  rw [allBlank, List.all_append, Bool.and_eq_true_iff, allBlank, allBlank]

theorem allBlank_reverse_iff : allBlank cs.reverse ↔ allBlank cs := by
  rw [allBlank, List.all_reverse, allBlank]

/-- White space around a text that has none at its ends is taken off, and nothing else is. -/
theorem strip_append (hfront : allBlank front) (hcs : Trimmed cs) (hback : allBlank back) :
    strip (front ++ cs ++ back) = cs := by
  cases cs with
  | nil =>
    have hall : allBlank (front ++ [] ++ back) := by
      rw [List.append_nil]
      exact allBlank_append_iff.2 ⟨hfront, hback⟩
    have hdrop : (front ++ [] ++ back).dropWhile isBlank = [] :=
      List.dropWhile_eq_nil_iff.2 (List.all_eq_true.1 hall)
    rw [strip, stripWhere, hdrop]
    rfl
  | cons c cs =>
    have hfirst : ∀ d ∈ (c :: cs ++ back).head?, isBlank d = false := hcs.1
    have hlast : ∀ d ∈ (c :: cs).reverse.head?, isBlank d = false := by
      rw [List.head?_reverse]
      exact hcs.2
    rw [strip, stripWhere, List.append_assoc, dropWhile_append_of_allBlank hfront hfirst,
      List.reverse_append, dropWhile_append_of_allBlank (allBlank_reverse_iff.2 hback) hlast,
      List.reverse_reverse]

theorem strip_append_of_allBlank (hcs : Trimmed cs) (hback : allBlank back) :
    strip (cs ++ back) = cs :=
  @strip_append cs [] back rfl hcs hback

theorem strip_of_allBlank_append (hfront : allBlank front) (hcs : Trimmed cs) :
    strip (front ++ cs) = cs := by
  have hstrip := @strip_append cs front [] hfront hcs rfl
  rwa [List.append_nil] at hstrip

theorem strip_of_trimmed (h : Trimmed cs) : strip cs = cs := @strip_of_allBlank_append cs [] rfl h

/-- A text is what is left of it with white space around. -/
theorem exists_append_strip (cs : List Char) :
    ∃ front back, allBlank front ∧ allBlank back ∧ cs = front ++ strip cs ++ back := by
  refine ⟨cs.takeWhile isBlank, ((cs.dropWhile isBlank).reverse.takeWhile isBlank).reverse,
    List.all_takeWhile, allBlank_reverse_iff.2 List.all_takeWhile, ?_⟩
  rw [strip, stripWhere, List.append_assoc, ← List.reverse_append,
    List.takeWhile_append_dropWhile, List.reverse_reverse, List.takeWhile_append_dropWhile]

theorem isBlank_of_mem_head?_dropWhile {c : Char} (h : c ∈ (cs.dropWhile isBlank).head?) :
    isBlank c = false := by
  have hfirst := List.head?_dropWhile_not isBlank cs
  rw [Option.mem_def.1 h] at hfirst
  exact hfirst

theorem trimmed_strip (cs : List Char) : Trimmed (strip cs) := by
  constructor
  · intro c hc
    -- What is taken off the end does not reach the first character.
    obtain ⟨rest, hrest⟩ : strip cs <+: cs.dropWhile isBlank := by
      rw [strip, stripWhere, ← List.reverse_suffix, List.reverse_reverse]
      exact List.dropWhile_suffix _
    have hfirst : c ∈ (cs.dropWhile isBlank).head? := by
      rw [← hrest, List.head?_append, Option.mem_def.1 hc]
      rfl
    exact isBlank_of_mem_head?_dropWhile hfirst
  · rw [strip, stripWhere, List.getLast?_reverse]
    exact fun c => isBlank_of_mem_head?_dropWhile

theorem strip_eq_nil_iff : strip cs = [] ↔ allBlank cs := by
  obtain ⟨front, back, hfront, hback, hcs⟩ := exists_append_strip cs
  constructor
  · intro hnil
    rw [hcs, hnil, List.append_nil]
    exact allBlank_append_iff.2 ⟨hfront, hback⟩
  · intro hblank
    have hstrip := strip_of_allBlank_append hblank (trimmed_of_forall (List.forall_mem_nil _))
    rwa [List.append_nil] at hstrip

/-! ## Words -/

theorem words_append_of_allBlank (h : allBlank back) (cs : List Char) :
    words (cs ++ back) = words cs := by
  cases back with
  | nil => rw [List.append_nil]
  | cons c back =>
    obtain ⟨hc, hback⟩ := allBlank_cons_iff.1 h
    rw [words_append_blank hc, words_eq_nil_iff.2 hback, List.append_nil]

theorem words_of_allBlank_append (h : allBlank front) (cs : List Char) :
    words (front ++ cs) = words cs := by
  induction front with
  | nil => rfl
  | cons c front ih =>
    obtain ⟨hc, hfront⟩ := allBlank_cons_iff.1 h
    exact (words_append_blank hc [] (front ++ cs)).trans (ih hfront)

/-- White space at the ends makes no difference to the words. -/
theorem words_strip (cs : List Char) : words (strip cs) = words cs := by
  obtain ⟨front, back, hfront, hback, hcs⟩ := exists_append_strip cs
  have hwords := congrArg words hcs
  rw [words_append_of_allBlank hback, words_of_allBlank_append hfront] at hwords
  exact hwords.symm

/-- A text that does not start with white space starts with its first word. -/
theorem exists_append_of_words (h : words cs = word :: others)
    (hcs : ∀ c ∈ cs.head?, isBlank c = false) : ∃ rest, cs = word ++ rest ∧ words rest = others := by
  have hsplit := List.takeWhile_append_dropWhile (p := (!isBlank ·)) (l := cs)
  have hletters : ∀ c ∈ cs.takeWhile (!isBlank ·), isBlank c = false := fun c hc => by
    simpa using List.all_eq_true.1 List.all_takeWhile c hc
  have hne : cs.takeWhile (!isBlank ·) ≠ [] := by
    cases cs with
    | nil => cases h
    | cons c cs => simp [hcs c rfl]
  have hwords : words cs = cs.takeWhile (!isBlank ·) :: words (cs.dropWhile (!isBlank ·)) := by
    cases hrest : cs.dropWhile (!isBlank ·) with
    | nil =>
      rw [hrest, List.append_nil] at hsplit
      rw [hsplit] at hne hletters ⊢
      exact words_of_forall hne hletters
    | cons c rest =>
      have hc : isBlank c := by
        have hfirst := List.head?_dropWhile_not (!isBlank ·) cs
        simpa [hrest] using hfirst
      rw [hrest] at hsplit
      have hcut := words_append_blank hc (cs.takeWhile (!isBlank ·)) rest
      rw [hsplit, words_of_forall hne hletters] at hcut
      rw [hcut]
      exact congrArg (_ :: ·) (words_append_blank hc [] rest).symm
  rw [h] at hwords
  obtain ⟨hword, hothers⟩ := List.cons.inj hwords
  exact ⟨_, by rw [hword, hsplit], hothers.symm⟩

end Spreadsheet.Text

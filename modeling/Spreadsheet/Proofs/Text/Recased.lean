import Mathlib
import Spreadsheet.Proofs.Text.Ascii

/-!
# Texts in another case

`LetterCase.write` writes a letter of ASCII in a case and leaves any other character as it is; what
does not tell the cases of ASCII letters apart says the same of both (`LetterCase.apply_write`).
`recased` writes so what stands outside quotation marks. A row of characters of a class that knows
neither case nor quotation marks stays such a row (`takeWhile_recasedFrom`).
-/

namespace Spreadsheet.Text

namespace LetterCase

/-- A letter of ASCII in the case, and any other character as it is. -/
def write : LetterCase → Char → Char
  | .upper, c => c.toUpper
  | .lower, c => c.toLower

/-- The text with all its letters of ASCII in the case. -/
def writeAll (case : LetterCase) (text : String) : String :=
  String.ofList (text.toList.map case.write)

variable (case : LetterCase) {c d : Char}

theorem toList_writeAll (text : String) :
    (case.writeAll text).toList = text.toList.map case.write := String.toList_ofList

theorem writeAll_ofList (cs : List Char) :
    case.writeAll (String.ofList cs) = String.ofList (cs.map case.write) := by
  rw [writeAll, String.toList_ofList]

theorem write_of_not_isAlpha (h : ¬ c.isAlpha) : case.write c = c := by
  cases case with
  | upper => exact Char.toUpper_eq_of_not_isLower fun hc => h (Bool.or_eq_true_iff.2 (.inr hc))
  | lower => exact Char.toLower_eq_of_not_isUpper fun hc => h (Bool.or_eq_true_iff.2 (.inl hc))

theorem write_of_isDecimal (h : isDecimal c) : case.write c = c :=
  case.write_of_not_isAlpha fun hc => Bool.false_ne_true ((asciiLetter_of_isAlpha hc).decimal ▸ h)

theorem isAlpha_write (c : Char) : (case.write c).isAlpha = c.isAlpha := by
  cases case with
  | upper => exact Char.isAlpha_toUpper_eq_isAlpha c
  | lower => exact Char.isAlpha_toLower_eq_isAlpha c

theorem has_write (h : c.isAlpha) : case.has (case.write c) := by
  cases case with
  | upper => exact (Char.isUpper_toUpper_eq_isAlpha c).trans h
  | lower => exact (Char.isLower_toLower_eq_isAlpha c).trans h

theorem toUpper_write (c : Char) : (case.write c).toUpper = c.toUpper := by
  cases case with
  | upper => exact Char.toUpper_toUpper_eq_toUpper c
  | lower => exact Char.toUpper_toLower_eq_toUpper c

/-- Nothing but itself is written as a character that is no letter. -/
theorem write_eq_iff (h : ¬ d.isAlpha) : case.write c = d ↔ c = d := by
  constructor
  · rintro rfl
    rw [isAlpha_write] at h
    exact (case.write_of_not_isAlpha h).symm
  · rintro rfl
    exact case.write_of_not_isAlpha h

/-- The capital and the small letter of a letter of ASCII. -/
theorem exists_letter (h : c.isAlpha) : ∃ n < 26, c.toUpper = Char.ofNat ('A'.toNat + n) ∧
    c.toLower = Char.ofNat ('a'.toNat + n) ∧ (c = c.toUpper ∨ c = c.toLower) := by
  have htable : ∀ n < 128, (Char.ofNat n).isAlpha →
      (Char.ofNat n).toUpper.toNat - 'A'.toNat < 26 ∧
        (Char.ofNat n).toUpper =
          Char.ofNat ('A'.toNat + ((Char.ofNat n).toUpper.toNat - 'A'.toNat)) ∧
        (Char.ofNat n).toLower =
          Char.ofNat ('a'.toNat + ((Char.ofNat n).toUpper.toNat - 'A'.toNat)) ∧
        (Char.ofNat n = (Char.ofNat n).toUpper ∨ Char.ofNat n = (Char.ofNat n).toLower) := by
    decide +kernel
  exact forall_ascii (p := fun c => c.isAlpha → ∃ n < 26, c.toUpper = Char.ofNat ('A'.toNat + n) ∧
    c.toLower = Char.ofNat ('a'.toNat + n) ∧ (c = c.toUpper ∨ c = c.toLower))
    (fun n hn hletter => ⟨_, htable n hn hletter⟩) (toNat_lt_of_isAlpha h) h

/-- What is the same for both cases of each letter of ASCII is the same in the case. -/
theorem apply_write {α : Type} {f : Char → α}
    (h : ∀ n < 26, f (Char.ofNat ('A'.toNat + n)) = f (Char.ofNat ('a'.toNat + n))) (c : Char) :
    f (case.write c) = f c := by
  by_cases hc : c.isAlpha
  · obtain ⟨n, hn, hupper, hlower, hcase⟩ := exists_letter hc
    have hboth : f c.toUpper = f c.toLower := by rw [hupper, hlower, h n hn]
    have hsame : f c = f c.toUpper ∧ f c = f c.toLower := by
      rcases hcase with hcase | hcase
      · rw [hcase, Char.toUpper_toUpper_eq_toUpper, Char.toLower_toUpper_eq_toLower]
        exact ⟨rfl, hboth⟩
      · rw [hcase, Char.toUpper_toLower_eq_toUpper, Char.toLower_toLower_eq_toLower]
        exact ⟨hboth.symm, rfl⟩
    cases case with
    | upper => exact hsame.1.symm
    | lower => exact hsame.2.symm
  · rw [case.write_of_not_isAlpha hc]

/-- What holds of no letter of ASCII does not tell the cases apart. -/
theorem apply_write_of_isAlpha {f : Char → Bool} (h : ∀ c : Char, c.isAlpha → f c = false)
    (c : Char) : f (case.write c) = f c := by
  by_cases hc : c.isAlpha
  · rw [h c hc, h (case.write c) ((case.isAlpha_write c).trans hc)]
  · rw [case.write_of_not_isAlpha hc]

theorem isDecimal_write (c : Char) : isDecimal (case.write c) = isDecimal c :=
  case.apply_write_of_isAlpha (fun _ h => isDecimal_eq_false_of_isAlpha h) c

theorem isDigit_write (c : Char) : isDigit (case.write c) = isDigit c := by
  refine case.apply_write_of_isAlpha (fun c h => ?_) c
  rw [isDigit, isDecimal_eq_false_of_isAlpha h, has_eq_false_of_isAlpha h (by decide),
    Bool.or_false]

theorem isBlank_write (c : Char) : isBlank (case.write c) = isBlank c :=
  case.apply_write_of_isAlpha (fun _ h => has_eq_false_of_isAlpha h (by decide)) c

/-- The capitals of a text are the same in every case. -/
theorem upper_map_write (cs : List Char) :
    Text.upper (cs.map case.write) = Text.upper cs := by
  have htable : ∀ n < 26, (Char.ofNat ('A'.toNat + n)).toNat < 128 ∧
      (Char.ofNat ('a'.toNat + n)).toNat < 128 ∧
      (CaseRun.map? ⟨⟨0x61, 0x7A, 1⟩, 0x41⟩ (Char.ofNat ('A'.toNat + n))).getD
          (Char.ofNat ('A'.toNat + n)) =
        (CaseRun.map? ⟨⟨0x61, 0x7A, 1⟩, 0x41⟩ (Char.ofNat ('a'.toNat + n))).getD
          (Char.ofNat ('a'.toNat + n)) := by
    decide +kernel
  rw [Text.upper, List.flatMap_map]
  refine congrArg cs.flatMap (funext (case.apply_write fun n hn => ?_))
  obtain ⟨hcapital, hsmall, hsame⟩ := htable n hn
  rw [mapCase_upper_of_ascii hcapital, mapCase_upper_of_ascii hsmall, hsame]

end LetterCase

/-! ## Quotation marks -/

/-- The text with its letters of ASCII in the case, but for those between quotation marks; `quoted`
tells whether it starts between them. -/
def recasedFrom (case : LetterCase) (quoted : Bool) : List Char → List Char
  | [] => []
  | c :: rest =>
    (if quoted then c else case.write c) ::
      recasedFrom case (if c = '"' then !quoted else quoted) rest

/-- The text with its letters of ASCII in the case, but for those between quotation marks. -/
def recased (case : LetterCase) (text : String) : String :=
  String.ofList (recasedFrom case false text.toList)

variable {case : LetterCase} {c : Char}

theorem length_recasedFrom (quoted : Bool) (cs : List Char) :
    (recasedFrom case quoted cs).length = cs.length := by
  induction cs generalizing quoted with
  | nil => rfl
  | cons c rest ih => rw [recasedFrom, List.length_cons, List.length_cons, ih]

theorem recasedFrom_quote (quoted : Bool) (rest : List Char) :
    recasedFrom case quoted ('"' :: rest) = '"' :: recasedFrom case (!quoted) rest := by
  have hquote : case.write '"' = '"' := case.write_of_not_isAlpha (by decide)
  rw [recasedFrom, hquote, ite_self, if_pos rfl]

theorem recasedFrom_cons (h : c ≠ '"') (rest : List Char) :
    recasedFrom case false (c :: rest) = case.write c :: recasedFrom case false rest := by
  rw [recasedFrom, if_neg h, if_neg Bool.false_ne_true]

/-- A mark stays as it is. -/
theorem recasedFrom_mark (hletter : ¬ c.isAlpha) (hquote : c ≠ '"') (rest : List Char) :
    recasedFrom case false (c :: rest) = c :: recasedFrom case false rest := by
  rw [recasedFrom_cons hquote, case.write_of_not_isAlpha hletter]

/-- A text that does not start with a mark does not in the case either. -/
theorem head_recasedFrom_ne {mark : Char} (hmark : ¬ mark.isAlpha) {cs : List Char}
    (h : ∀ c ∈ cs.head?, c ≠ mark) : ∀ c ∈ (recasedFrom case false cs).head?, c ≠ mark := by
  cases cs with
  | nil => exact h
  | cons c rest =>
    rintro _ ⟨⟩
    rw [if_neg Bool.false_ne_true, Ne, case.write_eq_iff hmark]
    exact h c rfl

theorem recasedFrom_cons_quoted (h : c ≠ '"') (rest : List Char) :
    recasedFrom case true (c :: rest) = c :: recasedFrom case true rest := by
  rw [recasedFrom, if_neg h, if_pos rfl]

/-- Case is all that changes. -/
theorem map_toUpper_recasedFrom (quoted : Bool) (cs : List Char) :
    (recasedFrom case quoted cs).map Char.toUpper = cs.map Char.toUpper := by
  induction cs generalizing quoted with
  | nil => rfl
  | cons c rest ih =>
    rw [recasedFrom, List.map_cons, List.map_cons, ih]
    split
    · rfl
    · rw [case.toUpper_write]

theorem recasedFrom_append {front : List Char} (h : ∀ c ∈ front, c ≠ '"') (rest : List Char) :
    recasedFrom case false (front ++ rest) =
      front.map case.write ++ recasedFrom case false rest := by
  induction front with
  | nil => rfl
  | cons c front ih =>
    obtain ⟨hc, hfront⟩ := List.forall_mem_cons.1 h
    rw [List.cons_append, recasedFrom_cons hc, ih hfront, List.map_cons, List.cons_append]

/-- A row of characters of a class is one in the case, and ends where it did. -/
theorem takeWhile_recasedFrom {p : Char → Bool} (hquote : p '"' = false)
    (hp : ∀ c, p (case.write c) = p c) (cs : List Char) :
    (recasedFrom case false cs).takeWhile p = (cs.takeWhile p).map case.write ∧
      (recasedFrom case false cs).dropWhile p = recasedFrom case false (cs.dropWhile p) := by
  induction cs with
  | nil => exact ⟨rfl, rfl⟩
  | cons c rest ih =>
    by_cases hc : p c
    · have hne : c ≠ '"' := by
        rintro rfl
        exact Bool.false_ne_true (hquote.symm.trans hc)
      rw [recasedFrom_cons hne]
      simp [hp, hc, ih]
    · simp [recasedFrom, hp, hc]

end Spreadsheet.Text

import Spreadsheet.Proofs.Text.Integer
import Spreadsheet.Text.Case

/-!
# Letters and digits of ASCII

The classes of characters that formulas are read by come from tables for all scripts. Few rows of
the tables matter to ASCII (`any_has_eq`, `mapCase_of_ascii`), and there they are what the alphabet
says: `letterCase?_eq_some_iff` for letters, `isDecimal_of_isDigit` and `digitsValue_decimalDigits`
for digits.
-/

namespace Spreadsheet.Text

/-- What holds of the first 128 code points holds of every character among them. -/
theorem forall_ascii {p : Char → Prop} (h : ∀ n < 128, p (Char.ofNat n)) {c : Char}
    (hc : c.toNat < 128) : p c := by
  have hp := h c.toNat hc
  rwa [Char.ofNat_toNat] at hp

theorem toNat_lt_of_isAlphanum {c : Char} (h : c.isAlphanum) : c.toNat < 128 := by
  have hlast : ∀ last : Char, last.toNat < 128 → c.val ≤ last.val → c.toNat < 128 :=
    fun last hlast hle => Nat.lt_of_le_of_lt (UInt32.le_iff_toNat_le.1 hle) hlast
  rcases Bool.or_eq_true_iff.1 h with hletter | hdigit
  · rcases Bool.or_eq_true_iff.1 hletter with hupper | hlower
    · exact hlast 'Z' (by decide) (of_decide_eq_true hupper).2
    · exact hlast 'z' (by decide) (of_decide_eq_true (Bool.and_eq_true_iff.1 hlower).2)
  · exact hlast '9' (by decide) (of_decide_eq_true (Bool.and_eq_true_iff.1 hdigit).2)

theorem toNat_lt_of_isAlpha {c : Char} (h : c.isAlpha) : c.toNat < 128 :=
  toNat_lt_of_isAlphanum (Bool.or_eq_true_iff.2 (.inl h))

theorem toNat_lt_of_isDigit {c : Char} (h : c.isDigit) : c.toNat < 128 :=
  toNat_lt_of_isAlphanum (Bool.or_eq_true_iff.2 (.inr h))

/-! ## The tables on ASCII -/

variable {c : Char} {runs : List CaseRun} {expansions : List (Nat × List Nat)}

theorem has_eq_false_of_le {run : LetterRun} (hc : c.toNat < 128) (hrun : ¬ run.first < 128) :
    run.has c = false := by
  have hfirst : ¬ run.first ≤ c.toNat := by omega
  rw [LetterRun.has, decide_eq_false hfirst, Bool.false_and, Bool.false_and]

/-- The runs that start outside ASCII have none of its characters. -/
theorem any_has_eq (hc : c.toNat < 128) (runs : List LetterRun) :
    runs.any (·.has c) = (runs.filter (·.first < 128)).any (·.has c) := by
  induction runs with
  | nil => rfl
  | cons run runs ih =>
    by_cases hrun : run.first < 128
    · simp [hrun, ih]
    · simp [hrun, has_eq_false_of_le hc hrun, ih]

theorem findSome?_map?_eq (hc : c.toNat < 128) (runs : List CaseRun) :
    runs.findSome? (·.map? c) = (runs.filter (·.first < 128)).findSome? (·.map? c) := by
  induction runs with
  | nil => rfl
  | cons run runs ih =>
    by_cases hrun : run.first < 128
    · simp [hrun, List.findSome?_cons, ih]
    · have hmap : run.map? c = none := by simp [CaseRun.map?, has_eq_false_of_le hc hrun]
      simp [hrun, hmap, ih]

theorem lookup_eq_none (hc : c.toNat < 128) (h : expansions.all (128 ≤ ·.1)) :
    expansions.lookup c.toNat = none := by
  refine List.lookup_eq_none_iff.2 fun entry hentry => ?_
  have hle : 128 ≤ entry.1 := of_decide_eq_true (List.all_eq_true.1 h entry hentry)
  have hne : c.toNat ≠ entry.1 := by omega
  simpa using hne

/-- Of a case map only the runs that start in ASCII matter to its characters. -/
theorem mapCase_of_ascii (hc : c.toNat < 128) (h : expansions.all (128 ≤ ·.1)) :
    mapCase runs expansions c =
      [((runs.filter (·.first < 128)).findSome? (·.map? c)).getD c] := by
  rw [mapCase, lookup_eq_none hc h, findSome?_map?_eq hc]

/-- The capital of a character of ASCII. -/
theorem mapCase_upper_of_ascii (hc : c.toNat < 128) : mapCase upperRuns upperExpansions c =
    [(CaseRun.map? ⟨⟨0x61, 0x7A, 1⟩, 0x41⟩ c).getD c] := by
  have hruns : upperRuns.filter (·.first < 128) = [⟨⟨0x61, 0x7A, 1⟩, 0x41⟩] := by rfl
  rw [mapCase_of_ascii hc (by decide), hruns, List.findSome?_singleton]

/-! ## Letters -/

/-- The character is an ASCII letter of the case. -/
def LetterCase.has : LetterCase → Char → Bool
  | .upper, c => c.isUpper
  | .lower, c => c.isLower

/-- The case is that of small letters. -/
def LetterCase.isLower : LetterCase → Bool
  | .upper => false
  | .lower => true

/-- The case of letters that are small or not. -/
def LetterCase.ofLowercase : Bool → LetterCase
  | false => .upper
  | true => .lower

@[simp] theorem LetterCase.isLower_ofLowercase (lowercase : Bool) :
    (ofLowercase lowercase).isLower = lowercase := by
  cases lowercase <;> rfl

theorem LetterCase.isAlpha_of_has {case : LetterCase} {c : Char} (h : case.has c) : c.isAlpha := by
  cases case with
  | upper => exact Bool.or_eq_true_iff.2 (.inl h)
  | lower => exact Bool.or_eq_true_iff.2 (.inr h)

/-- What the tables say of an ASCII letter. -/
structure AsciiLetter (c : Char) : Prop where
  capital : capitalRuns.any (·.has c) = c.isUpper
  small : smallRuns.any (·.has c) = c.isLower
  title : titleRanges.has c = false
  oneCase : c.isUpper = !c.isLower
  decimal : isDecimal c = false

theorem le_toNat_of_isAlpha {c : Char} (h : c.isAlpha) : 0x41 ≤ c.toNat := by
  have htable : ∀ n < 128, (Char.ofNat n).isAlpha → 0x41 ≤ (Char.ofNat n).toNat := by
    decide +kernel
  exact forall_ascii (p := fun c => c.isAlpha → 0x41 ≤ c.toNat) htable (toNat_lt_of_isAlpha h) h

/-- Ranges before the letters of ASCII and after ASCII have none of them. -/
theorem has_eq_false_of_isAlpha {ranges : CodePoints} {c : Char} (h : c.isAlpha)
    (hranges : ∀ range ∈ ranges, 128 ≤ range.1 ∨ range.2 < 0x41) : ranges.has c = false := by
  refine List.any_eq_false.2 fun range hrange hwithin => ?_
  obtain ⟨hfirst, hlast⟩ := Bool.and_eq_true_iff.1 hwithin
  have hle : range.1 ≤ c.toNat := of_decide_eq_true hfirst
  have hge : c.toNat ≤ range.2 := of_decide_eq_true hlast
  have hlow := le_toNat_of_isAlpha h
  have hhigh := toNat_lt_of_isAlpha h
  have hapart := hranges range hrange
  omega

theorem isDecimal_eq_false_of_isAlpha {c : Char} (h : c.isAlpha) : isDecimal c = false := by
  have hranges : ∀ range ∈ decimalRanges, 128 ≤ range.1 ∨ range.2 < 0x41 := by decide
  refine Bool.eq_false_iff.2 fun hdecimal => ?_
  obtain ⟨range, hrange, hwithin⟩ := exists_range_of_isDecimal hdecimal
  have hlow := le_toNat_of_isAlpha h
  have hhigh := toNat_lt_of_isAlpha h
  have hapart := hranges range hrange
  omega

theorem asciiLetter_of_isAlpha {c : Char} (h : c.isAlpha) : AsciiLetter c := by
  have hcapitalRuns : capitalRuns.filter (·.first < 128) = [⟨0x41, 0x5A, 1⟩] := by rfl
  have hsmallRuns : smallRuns.filter (·.first < 128) = [⟨0x61, 0x7A, 1⟩] := by rfl
  have htable : ∀ n < 128, (Char.ofNat n).isAlpha →
      LetterRun.has ⟨0x41, 0x5A, 1⟩ (Char.ofNat n) = (Char.ofNat n).isUpper ∧
        LetterRun.has ⟨0x61, 0x7A, 1⟩ (Char.ofNat n) = (Char.ofNat n).isLower ∧
        (Char.ofNat n).isUpper = !(Char.ofNat n).isLower := by
    decide +kernel
  have hc := toNat_lt_of_isAlpha h
  obtain ⟨hcapital, hsmall, honeCase⟩ := forall_ascii
    (p := fun c => c.isAlpha → LetterRun.has ⟨0x41, 0x5A, 1⟩ c = c.isUpper ∧
      LetterRun.has ⟨0x61, 0x7A, 1⟩ c = c.isLower ∧ c.isUpper = !c.isLower) htable hc h
  refine ⟨?_, ?_, has_eq_false_of_isAlpha h (by decide), honeCase, isDecimal_eq_false_of_isAlpha h⟩
  · rw [any_has_eq hc, hcapitalRuns, List.any_cons, List.any_nil, Bool.or_false, hcapital]
  · rw [any_has_eq hc, hsmallRuns, List.any_cons, List.any_nil, Bool.or_false, hsmall]

theorem any_congr_of_mem {cs : List Char} {p q : Char → Bool} (h : ∀ c ∈ cs, p c = q c) :
    cs.any p = cs.any q := by
  rw [Bool.eq_iff_iff, List.any_eq_true, List.any_eq_true]
  exact exists_congr fun c => and_congr_right fun hc => by rw [h c hc]

/-- A row of ASCII letters is written in a case if it is not empty and all its letters have it. -/
theorem letterCase?_eq_some_iff {cs : List Char} {case : LetterCase}
    (h : ∀ c ∈ cs, c.isAlpha) :
    letterCase? cs = some case ↔ cs ≠ [] ∧ ∀ c ∈ cs, case.has c := by
  have hletter := fun c hc => asciiLetter_of_isAlpha (h c hc)
  have hcapital : cs.any (fun c => capitalRuns.any (·.has c)) = !cs.all Char.isLower := by
    rw [any_congr_of_mem fun c hc => (hletter c hc).capital, List.all_eq_not_any_not, Bool.not_not]
    exact any_congr_of_mem fun c hc => (hletter c hc).oneCase
  have hsmall : cs.any (fun c => smallRuns.any (·.has c)) = !cs.all Char.isUpper := by
    rw [any_congr_of_mem fun c hc => (hletter c hc).small, List.all_eq_not_any_not, Bool.not_not]
    exact any_congr_of_mem fun c hc => by rw [(hletter c hc).oneCase, Bool.not_not]
  have htitle : cs.any titleRanges.has = false :=
    List.any_eq_false.2 fun c hc => Bool.eq_false_iff.1 (hletter c hc).title
  have hne : cs ≠ [] ↔ ¬ (cs.all Char.isUpper ∧ cs.all Char.isLower) := by
    constructor
    · intro hne hall
      obtain ⟨c, hc⟩ := List.exists_mem_of_ne_nil cs hne
      have hupper := List.all_eq_true.1 hall.1 c hc
      rw [(hletter c hc).oneCase, List.all_eq_true.1 hall.2 c hc] at hupper
      contradiction
    · rintro hall rfl
      exact hall ⟨rfl, rfl⟩
  have hupper : (∀ c ∈ cs, LetterCase.upper.has c) ↔ cs.all Char.isUpper := List.all_eq_true.symm
  have hlower : (∀ c ∈ cs, LetterCase.lower.has c) ↔ cs.all Char.isLower := List.all_eq_true.symm
  rw [letterCase?, hcapital, hsmall, htitle, hne]
  cases case with
  | upper =>
    rw [hupper]
    cases cs.all Char.isUpper <;> cases cs.all Char.isLower <;> simp
  | lower =>
    rw [hlower]
    cases cs.all Char.isUpper <;> cases cs.all Char.isLower <;> simp

/-- The small letters of an ASCII text are its caseless form. -/
theorem lower_eq_fold_of_ascii {cs : List Char} (h : ∀ c ∈ cs, c.toNat < 128) :
    lower cs = fold cs := by
  have hruns : lowerRuns.filter (·.first < 128) = foldRuns.filter (·.first < 128) := by rfl
  have hafter (before : List Char) : lowerAfter before cs = fold cs := by
    induction cs generalizing before with
    | nil => rfl
    | cons c rest ih =>
      obtain ⟨hc, hrest⟩ := List.forall_mem_cons.1 h
      have hsigma : c ≠ 'Σ' := by
        rintro rfl
        exact absurd hc (by decide)
      have hsame : mapCase lowerRuns lowerExpansions c = mapCase foldRuns foldExpansions c := by
        rw [mapCase_of_ascii hc (by decide), mapCase_of_ascii hc (by decide), hruns]
      rw [lowerAfter, if_neg hsigma, hsame, ih hrest, fold, fold, List.flatMap_cons]
  exact hafter []

/-! ## Digits -/

theorem digit?_of_isDigit {c : Char} (h : c.isDigit) : digit? c = some (c.toNat - '0'.toNat) := by
  have htable : ∀ n < 128, (Char.ofNat n).isDigit →
      digit? (Char.ofNat n) = some ((Char.ofNat n).toNat - '0'.toNat) := by
    decide +kernel
  exact forall_ascii (p := fun c => c.isDigit → digit? c = some (c.toNat - '0'.toNat)) htable
    (toNat_lt_of_isDigit h) h

theorem isDecimal_of_isDigit {c : Char} (h : c.isDigit) : isDecimal c := by
  rw [isDecimal, digit?_of_isDigit h, Option.isSome_some]

theorem isDigit_of_mem_decimalDigits {n : Nat} {c : Char} (h : c ∈ decimalDigits n) : c.isDigit :=
  Nat.isDigit_of_mem_toDigits (by decide) (by decide) h

theorem isDecimal_of_mem_decimalDigits {n : Nat} {c : Char} (h : c ∈ decimalDigits n) :
    isDecimal c :=
  isDecimal_of_isDigit (isDigit_of_mem_decimalDigits h)

/-- The digits of a number spell it. -/
theorem digitsValue_decimalDigits (n : Nat) : digitsValue (decimalDigits n) = n := by
  have hdigits : ∀ cs : List Char, (∀ c ∈ cs, c.isDigit) → ∀ value,
      cs.foldl (fun value c => 10 * value + (digit? c).getD 0) value =
        Nat.ofDigitChars 10 cs value := by
    intro cs h
    induction cs with
    | nil => exact fun _ => rfl
    | cons c cs ih =>
      intro value
      obtain ⟨hc, hcs⟩ := List.forall_mem_cons.1 h
      rw [List.foldl_cons, digit?_of_isDigit hc, Option.getD_some, ih hcs, Nat.ofDigitChars_cons]
  rw [digitsValue, hdigits _ fun c hc => isDigit_of_mem_decimalDigits hc]
  exact Nat.ofDigitChars_ten_toDigits

end Spreadsheet.Text

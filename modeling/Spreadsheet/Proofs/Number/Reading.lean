import Mathlib
import Spreadsheet.Number.Digits
import Spreadsheet.Proofs.Number.Numeral
import Spreadsheet.Proofs.Number.Rounding
import Spreadsheet.Proofs.Text.Ascii
import Spreadsheet.Proofs.Text.Integer
import Spreadsheet.Value

/-!
# Reading numbers

No character of a numeral is white space, so a numeral with a sign in front of it is read as the
number that it stands for (`readNumber?_signed`). A whole number is written with its digits alone
and read back as the nearest floating-point number (`readNumber?_integerText`).
-/

namespace Spreadsheet

namespace Text

/-! ## Values of digits -/

theorem digitsValue_append (xs ys : List Char) :
    digitsValue (xs ++ ys) = digitsValue xs * Nat.pow 10 ys.length + digitsValue ys := by
  have hfrom : ∀ (ys : List Char) (value : Nat),
      ys.foldl (fun value c => 10 * value + (digit? c).getD 0) value =
        value * Nat.pow 10 ys.length + digitsValue ys := by
    intro ys
    induction ys with
    | nil => exact fun value => (Nat.mul_one value).symm
    | cons y ys ih =>
      intro value
      have hvalue : digitsValue (y :: ys) =
          (10 * 0 + (digit? y).getD 0) * Nat.pow 10 ys.length + digitsValue ys := by
        rw [digitsValue, List.foldl_cons, ih]
      rw [List.foldl_cons, ih, hvalue, List.length_cons, Nat.pow_eq, Nat.pow_eq, Nat.pow_succ]
      ring
  rw [digitsValue, List.foldl_append, ← digitsValue, hfrom]

theorem digitsValue_replicate (k : Nat) : digitsValue (List.replicate k '0') = 0 := by
  induction k with
  | zero => rfl
  | succ k ih =>
    rw [List.replicate_succ', digitsValue_append, ih, Nat.zero_mul]
    rfl

/-- Zeros at the end count tens. -/
theorem digitsValue_append_zeros (cs : List Char) (k : Nat) :
    digitsValue (cs ++ List.replicate k '0') = digitsValue cs * Nat.pow 10 k := by
  rw [digitsValue_append, digitsValue_replicate, List.length_replicate, Nat.add_zero]

/-- Zeros at the front count nothing. -/
theorem digitsValue_zeros_append (k : Nat) (cs : List Char) :
    digitsValue (List.replicate k '0' ++ cs) = digitsValue cs := by
  rw [digitsValue_append, digitsValue_replicate, Nat.zero_mul, Nat.zero_add]

end Text

namespace Numeral

variable {n : Numeral} {c : Char}

/-- The characters of a numeral: digits, the point, the letter of the exponent and its sign. -/
theorem Formed.mem_spelling (h : n.Formed) (hc : c ∈ n.spelling) :
    Text.isDecimal c ∨ c = '.' ∨ c = 'e' ∨ c = 'E' ∨ c = '+' ∨ c = '-' := by
  rw [spelling, List.mem_append, List.mem_append] at hc
  rcases hc with (hc | hc) | hc
  · exact .inl (h.whole c hc)
  · cases hfraction : n.fraction with
    | none => simp [hfraction] at hc
    | some ds =>
      rw [hfraction] at hc
      rcases List.mem_cons.1 hc with rfl | hc
      · exact .inr (.inl rfl)
      · exact .inl (h.fraction ds hfraction c hc)
  · cases hexponent : n.exponent with
    | none => simp [hexponent] at hc
    | some e =>
      rw [hexponent] at hc
      have he := h.exponent e hexponent
      have hc : (c = e.letter ∨ c ∈ e.sign.toList) ∨ c ∈ e.digits := by
        simpa [Exponent.spelling, or_assoc] using hc
      rcases hc with (rfl | hc) | hc
      · rcases he.letter with hletter | hletter <;> simp [hletter]
      · rcases he.sign c (Option.mem_toList.1 hc) with rfl | rfl <;> simp
      · exact .inl (he.digits c hc)

theorem Formed.isBlank_of_mem (h : n.Formed) (hc : c ∈ n.spelling) : Text.isBlank c = false := by
  rcases h.mem_spelling hc with hdecimal | rfl | rfl | rfl | rfl | rfl
  · exact Text.isBlank_of_isDecimal hdecimal
  all_goals decide

/-- A numeral starts with a digit or with the point. -/
theorem Formed.exists_spelling (h : n.Formed) :
    ∃ c cs, n.spelling = c :: cs ∧ (Text.isDecimal c ∨ c = '.') := by
  rw [spelling, List.append_assoc]
  cases hwhole : n.whole with
  | cons d ds => exact ⟨d, _, rfl, .inl (h.whole d (hwhole ▸ List.mem_cons_self))⟩
  | nil =>
    cases hfraction : n.fraction with
    | some ds => exact ⟨'.', _, rfl, .inr rfl⟩
    | none => exact absurd ⟨hwhole, by rw [hfraction]; rfl⟩ h.nonempty

theorem read?_spelling (h : n.Formed) : read? n.spelling = some n.toDecimal := by
  have hends : Ends [] := by simp [Ends]
  have hscan := scan_spelling h hends
  rw [List.append_nil] at hscan
  rw [read?, hscan]

end Numeral

variable {n : Numeral}

/-- A numeral is read with the sign that stands in front of it. -/
theorem Decimal.read?_signed (h : n.Formed) (negative : Bool) :
    Decimal.read? (Binary64.signText negative ++ n.spelling) =
      some { n.toDecimal with negative } := by
  obtain ⟨c, cs, hspelling, hc⟩ := h.exists_spelling
  have hread := Numeral.read?_spelling h
  cases negative with
  | true =>
    rw [Binary64.signText, if_pos rfl, List.singleton_append, read?, hread]
    rfl
  | false =>
    have hminus : c ≠ '-' := by
      rintro rfl
      exact absurd hc (by decide)
    have hplus : c ≠ '+' := by
      rintro rfl
      exact absurd hc (by decide)
    rw [Binary64.signText, if_neg Bool.false_ne_true, List.nil_append]
    rw [hspelling] at hread ⊢
    rw [read?]
    · exact hread
    · exact fun rest h => hminus (List.cons.inj h).1
    · exact fun rest h => hplus (List.cons.inj h).1

/-- The characters of a numeral with a sign in front of it are not white space. -/
theorem isBlank_of_mem_signed (h : n.Formed) {negative : Bool} {c : Char}
    (hc : c ∈ Binary64.signText negative ++ n.spelling) : Text.isBlank c = false := by
  rcases List.mem_append.1 hc with hc | hc
  · cases negative with
    | true =>
      rw [List.mem_singleton.1 hc]
      decide
    | false => cases hc
  · exact h.isBlank_of_mem hc

/-- A numeral with a sign in front of it is read as the number nearest to what it stands for. -/
theorem readNumber?_signed (h : n.Formed) (negative : Bool) :
    readNumber? (String.ofList (Binary64.signText negative ++ n.spelling)) =
      some (Decimal.toBinary64 { n.toDecimal with negative }) := by
  rw [readNumber?, String.toList_ofList, Text.strip,
    Text.stripWhere_eq_self fun c hc => isBlank_of_mem_signed h hc, Decimal.read?_signed h,
    Option.map_some]

/-- In a cell a numeral with a sign in front of it is a number. -/
theorem Value.ofLiteral_signed (h : n.Formed) (negative : Bool) :
    Value.ofLiteral (String.ofList (Binary64.signText negative ++ n.spelling)) =
      .number (Decimal.toBinary64 { n.toDecimal with negative }) := by
  have hblank : Text.allBlank (Binary64.signText negative ++ n.spelling) = false := by
    obtain ⟨c, cs, hspelling, -⟩ := h.exists_spelling
    have hc : c ∈ n.spelling := hspelling ▸ List.mem_cons_self
    exact List.all_eq_false.2 ⟨c, List.mem_append_right _ hc, by simp [h.isBlank_of_mem hc]⟩
  rw [ofLiteral, String.toList_ofList, hblank, if_neg Bool.false_ne_true, readNumber?_signed h]

/-! ## Whole numbers -/

namespace Text

theorem decimalDigits_ne_nil (n : Nat) : decimalDigits n ≠ [] := Nat.toDigits_ne_nil

/-- The digits of a number are a numeral. -/
theorem formed_decimalDigits (n : Nat) : Numeral.Formed ⟨decimalDigits n, none, none⟩ where
  whole _ hc := isDecimal_of_mem_decimalDigits hc
  fraction := nofun
  nonempty h := decimalDigits_ne_nil n h.1
  exponent := nofun

end Text

namespace Binary64

theorem integerText_eq (n : Int) : integerText n = String.ofList (signText (n < 0) ++
    Numeral.spelling ⟨Text.decimalDigits n.natAbs, none, none⟩) := by
  simp [integerText, Numeral.spelling]

theorem toList_integerText (n : Int) :
    (integerText n).toList = signText (n < 0) ++ Text.decimalDigits n.natAbs := by
  rw [integerText, String.toList_ofList]

/-- The characters of a whole number are a minus or digits. -/
theorem mem_integerText {n : Int} {c : Char} (hc : c ∈ (integerText n).toList) :
    c = '-' ∨ Text.isDecimal c := by
  rw [toList_integerText, List.mem_append] at hc
  rcases hc with hc | hc
  · rw [signText] at hc
    split at hc
    · exact .inl (List.mem_singleton.1 hc)
    · cases hc
  · exact .inr (Text.isDecimal_of_mem_decimalDigits hc)

theorem isBlank_of_mem_integerText {n : Int} {c : Char} (hc : c ∈ (integerText n).toList) :
    Text.isBlank c = false := by
  rcases mem_integerText hc with rfl | hdecimal
  · decide
  · exact Text.isBlank_of_isDecimal hdecimal

/-- The text of a whole number is read as its digits with its sign. -/
theorem signed_integerText (digits? : List Char → Option Nat) (n : Int) :
    Text.signed digits? (integerText n).toList = (digits? (Text.decimalDigits n.natAbs)).map
      fun value : Nat => if n < 0 then -(value : Int) else value := by
  have hdecimal : ∀ c ∈ Text.decimalDigits n.natAbs, Text.isDecimal c := fun c hc =>
    Text.isDecimal_of_mem_decimalDigits hc
  rw [toList_integerText, signText]
  generalize Text.decimalDigits n.natAbs = digits at hdecimal
  by_cases hn : n < 0
  · rw [decide_eq_true hn, if_pos rfl]
    simp only [hn, if_true]
    cases hdigits : digits? digits <;> simp [Text.signed, hdigits]
  · rw [decide_eq_false hn, if_neg Bool.false_ne_true, List.nil_append]
    simp only [hn, if_false]
    unfold Text.signed
    split
    · exact absurd (hdecimal '-' List.mem_cons_self) (by decide)
    · exact absurd (hdecimal '+' List.mem_cons_self) (by decide)
    · cases digits? digits <;> rfl

/-- A whole number is read from its text. -/
theorem integer?_integerText (n : Int) : Text.integer? (integerText n).toList = some n := by
  have hdecimal : ∀ c ∈ Text.decimalDigits n.natAbs, Text.isDecimal c := fun c hc =>
    Text.isDecimal_of_mem_decimalDigits hc
  have hpiece : Text.cutAt '_' (Text.decimalDigits n.natAbs) = [Text.decimalDigits n.natAbs] := by
    refine Text.cutWhere_of_forall fun c hc => beq_eq_false_iff_ne.2 ?_
    rintro rfl
    exact absurd (hdecimal _ hc) (by decide)
  have hgrouped : Text.groupedDigits? (Text.decimalDigits n.natAbs) = some n.natAbs := by
    rw [Text.groupedDigits?, hpiece, if_pos, List.flatten_singleton,
      Text.digitsValue_decimalDigits]
    simp only [List.all_cons, List.all_nil, Bool.and_true, Bool.and_eq_true,
      Bool.not_eq_true', List.isEmpty_eq_false_iff, List.all_eq_true]
    exact ⟨Text.decimalDigits_ne_nil _, hdecimal⟩
  have hstrip : Text.stripWhere Text.isIntegerBlank (integerText n).toList =
      (integerText n).toList :=
    Text.stripWhere_eq_self fun c hc => by
      rw [Text.isIntegerBlank_eq, isBlank_of_mem_integerText hc, Bool.false_and]
  rw [Text.integer?, hstrip, signed_integerText, hgrouped, Option.map_some]
  congr 1
  split <;> omega

theorem isPlainInteger_integerText (n : Int) : Text.isPlainInteger (integerText n).toList := by
  have hdecimal : (Text.decimalDigits n.natAbs).all Text.isDecimal :=
    List.all_eq_true.2 fun c hc => Text.isDecimal_of_mem_decimalDigits hc
  have hnonempty : (Text.decimalDigits n.natAbs).isEmpty = false :=
    List.isEmpty_eq_false_iff.2 (Text.decimalDigits_ne_nil _)
  rw [Text.isPlainInteger, Text.strip,
    Text.stripWhere_eq_self fun c hc => isBlank_of_mem_integerText hc, signed_integerText, hdecimal,
    hnonempty]
  rfl

/-- The number nearest to a whole number is that to its digits. -/
theorem toBinary64_decimalDigits (n : Int) :
    Decimal.toBinary64 { Numeral.toDecimal ⟨Text.decimalDigits n.natAbs, none, none⟩ with
      negative := n < 0 } = ofInt n := by
  have hcoefficient : Text.digitsValue (Text.decimalDigits n.natAbs ++ []) = n.natAbs := by
    rw [List.append_nil, Text.digitsValue_decimalDigits]
  have hpower : n.natAbs * Nat.pow 10 0 = n.natAbs := Nat.mul_one _
  rw [Decimal.toBinary64_eq, ofInt]
  simp only [Numeral.toDecimal, Option.getD_none, Option.map_none, hcoefficient]
  exact congrArg (fun num => ofQuotient (decide (n < 0)) (num * one) 1) hpower

end Binary64

end Spreadsheet

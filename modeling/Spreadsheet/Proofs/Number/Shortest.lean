import Mathlib
import Spreadsheet.Proofs.Number.Reading

/-!
# Numbers read back

The digits that are chosen for a finite number spell it (`spells_shortest`), and each of the ways to
lay them out is a numeral that is read as the number (`Spelt`). So the text that is written for a
number where its formula is not kept is read as an equal number (`exists_ofLiteral_serialize`),
which is the number itself but for the sign of a zero (`Finite.ofLiteral_serialize`).
-/

namespace Spreadsheet

open Binary64

/-! ## Digits -/

namespace Digits

variable {x : Finite} {d : Digits} {coefficient : Nat} {exponent : Int}

/-- The decimal number of some digits is read as a finite number of its sign. -/
structure Spells (d : Digits) (x : Finite) : Prop where
  nonempty : d.digits ≠ []
  decimal : ∀ c ∈ d.digits, Text.isDecimal c
  value : Decimal.toBinary64 ⟨x.negative, Text.digitsValue d.digits, d.point - d.digits.length⟩ =
    .finite x

theorem spells_ofCoefficient
    (h : Decimal.toBinary64 ⟨x.negative, coefficient, exponent⟩ = .finite x) :
    (ofCoefficient coefficient exponent).Spells x where
  nonempty := Text.decimalDigits_ne_nil coefficient
  decimal _ hc := Text.isDecimal_of_mem_decimalDigits hc
  value := by
    rw [ofCoefficient, Text.digitsValue_decimalDigits, Int.add_sub_cancel, h]

/-- The digits are those before the zeros at their end and these zeros. -/
theorem exists_zeros (digits : List Char) : ∃ k,
    (digits.reverse.dropWhile (· == '0')).reverse ++ List.replicate k '0' = digits := by
  have hzeros : digits.reverse.takeWhile (· == '0') =
      List.replicate (digits.reverse.takeWhile (· == '0')).length '0' :=
    List.eq_replicate_of_mem fun c hc => by simpa using List.mem_takeWhile_imp hc
  refine ⟨(digits.reverse.takeWhile (· == '0')).length, ?_⟩
  rw [← List.reverse_replicate, ← hzeros, ← List.reverse_append, List.takeWhile_append_dropWhile,
    List.reverse_reverse]

/-- The zeros at the end of the digits make no difference. -/
theorem Spells.trimmed (h : d.Spells x) : d.trimmed.Spells x := by
  obtain ⟨digits, point⟩ := d
  obtain ⟨-, hdecimal, hvalue⟩ := h
  obtain ⟨k, hdigits⟩ := exists_zeros digits
  unfold Digits.trimmed
  simp only
  generalize (digits.reverse.dropWhile (· == '0')).reverse = kept at hdigits ⊢
  subst hdigits
  simp only at hdecimal hvalue
  split
  · refine ⟨by simp, fun c hc => ?_, ?_⟩
    · rw [List.mem_singleton.1 hc]
      decide
    · rw [List.nil_append, Text.digitsValue_replicate, Decimal.toBinary64_zero] at hvalue
      exact (Decimal.toBinary64_zero ..).trans hvalue
  · next hne =>
    refine ⟨hne, fun c hc => hdecimal c (List.mem_append_left _ hc), ?_⟩
    have hexponent : point - (kept ++ List.replicate k '0').length + k = point - kept.length := by
      rw [List.length_append, List.length_replicate]
      omega
    rwa [Text.digitsValue_append_zeros, Decimal.toBinary64_shift, hexponent] at hvalue

end Digits

namespace Binary64.Finite

variable {x : Finite}

theorem holds_of_ite_eq_some {p : Nat → Bool} {a b n : Nat}
    (h : (if p a then some a else if p b then some b else none) = some n) : p n = true := by
  split at h
  · next ha => exact Option.some.inj h ▸ ha
  split at h
  · next hb => exact Option.some.inj h ▸ hb
  · cases h

/-- The multiple that is taken reads back as the value. -/
theorem toBinary64_of_neighbour? {exponent : Int} {n : Nat} (h : x.neighbour? exponent = some n) :
    Decimal.toBinary64 ⟨x.negative, n, exponent⟩ = .finite x := by
  unfold neighbour? at h
  exact eq_of_beq (holds_of_ite_eq_some
    (p := fun n => Decimal.toBinary64 ⟨x.negative, n, exponent⟩ == .finite x) h)

theorem spells_of_digits? {count : Nat} {d : Digits} (h : x.digits? count = some d) :
    d.Spells x := by
  obtain ⟨n, hn, rfl⟩ := Option.map_eq_some_iff.1 h
  exact Digits.spells_ofCoefficient (toBinary64_of_neighbour? hn)

theorem spells_shortestFrom (x : Finite) (count fuel : Nat) :
    (x.shortestFrom count fuel).Spells x := by
  induction fuel generalizing count with
  | zero => exact Digits.spells_ofCoefficient (Decimal.toBinary64_units x)
  | succ fuel ih =>
    rw [shortestFrom]
    cases hdigits : x.digits? count with
    | some d => exact spells_of_digits? hdigits
    | none => exact ih (count + 1)

/-- A number without significand is the zero of its sign. -/
theorem eq_zero_of_significand (h : x.significand = 0) : Binary64.finite x = zero x.negative := by
  obtain ⟨negative, significand, exponent, hcanonical⟩ := x
  subst h
  have hexponent : exponent = 0 := hcanonical.2.2.resolve_right (by decide)
  subst hexponent
  rfl

/-- The digits that are chosen for a number spell it. -/
theorem spells_shortest (x : Finite) : x.shortest.Spells x := by
  unfold shortest
  split
  · next hzero =>
    refine ⟨by simp, fun c hc => ?_, ?_⟩
    · rw [List.mem_singleton.1 hc]
      decide
    · rw [eq_zero_of_significand hzero]
      exact Decimal.toBinary64_zero ..
  · exact (spells_shortestFrom x 1 17).trimmed

end Binary64.Finite

/-! ## Layout -/

/-- The text is a numeral that is read as a finite number with its sign. -/
def Binary64.Finite.Spelt (x : Finite) (text : List Char) : Prop :=
  ∃ n : Numeral, n.Formed ∧ n.spelling = text ∧
    Decimal.toBinary64 { n.toDecimal with negative := x.negative } = .finite x

namespace Digits

variable {x : Finite} {d : Digits}

theorem isDecimal_of_mem_zeros {k : Nat} {c : Char} (hc : c ∈ List.replicate k '0') :
    Text.isDecimal c := by
  rw [List.eq_of_mem_replicate hc]
  decide

/-- A numeral that stands for the decimal number of some digits, with zeros moved from the exponent
to the coefficient. -/
theorem Spells.spelt (h : d.Spells x) {n : Numeral} (hn : n.Formed) {k : Nat}
    (hcoefficient : n.toDecimal.coefficient = Text.digitsValue d.digits * Nat.pow 10 k)
    (hexponent : n.toDecimal.exponent + k = d.point - d.digits.length) : x.Spelt n.spelling := by
  have hdecimal : { n.toDecimal with negative := x.negative } =
      (⟨x.negative, Text.digitsValue d.digits * Nat.pow 10 k, n.toDecimal.exponent⟩ : Decimal) := by
    rw [← hcoefficient]
  refine ⟨n, hn, rfl, ?_⟩
  rw [hdecimal, Decimal.toBinary64_shift, hexponent]
  exact h.value

/-- All digits after the point, with zeros before them. -/
theorem Spells.spelt_of_nonpos (h : d.Spells x) (hpoint : d.point ≤ 0) : x.Spelt d.positional := by
  let zeros := List.replicate (-d.point).toNat '0'
  have hformed : Numeral.Formed ⟨['0'], some (zeros ++ d.digits), none⟩ := by
    refine ⟨fun c hc => ?_, ?_, by simp, by simp⟩
    · rw [List.mem_singleton.1 hc]
      decide
    · rintro ds ⟨⟩ c hc
      exact (List.mem_append.1 hc).elim isDecimal_of_mem_zeros (h.decimal c)
  have hspelling : d.positional = Numeral.spelling ⟨['0'], some (zeros ++ d.digits), none⟩ := by
    simp [Numeral.spelling, positional, hpoint, zeros]
  rw [hspelling]
  refine h.spelt hformed (k := 0) ?_ ?_
  · have hdigits := Text.digitsValue_zeros_append (zeros.length + 1) d.digits
    simp only [Numeral.toDecimal, Option.getD_some]
    rw [List.replicate_succ, List.length_replicate] at hdigits
    exact hdigits.trans (Nat.mul_one _).symm
  · simp only [Numeral.toDecimal, Option.getD_some, Option.map_none, Option.getD_none,
      List.length_append, zeros, List.length_replicate]
    omega

/-- All digits before the point, with zeros after them, and one zero after the point. -/
theorem Spells.spelt_of_length_le (h : d.Spells x) (hpoint : 0 < d.point)
    (hlength : d.digits.length ≤ d.point) : x.Spelt (d.positional ++ ['.', '0']) := by
  let zeros := List.replicate (d.point.toNat - d.digits.length) '0'
  have hformed : Numeral.Formed ⟨d.digits ++ zeros, some ['0'], none⟩ := by
    refine ⟨fun c hc => ?_, ?_, by simp, by simp⟩
    · exact (List.mem_append.1 hc).elim (h.decimal c) isDecimal_of_mem_zeros
    · rintro ds ⟨⟩ c hc
      rw [List.mem_singleton.1 hc]
      decide
  have hspelling : d.positional ++ ['.', '0'] =
      Numeral.spelling ⟨d.digits ++ zeros, some ['0'], none⟩ := by
    have htake : d.digits.take d.point.toNat = d.digits := List.take_of_length_le (by omega)
    have hdrop : d.digits.drop d.point.toNat = [] := List.drop_of_length_le (by omega)
    simp [Numeral.spelling, positional, not_le.2 hpoint, htake, hdrop, zeros]
  rw [hspelling]
  refine h.spelt hformed (k := zeros.length + 1) ?_ ?_
  · have hdigits := Text.digitsValue_append_zeros d.digits (zeros.length + 1)
    rw [List.replicate_succ', ← List.append_assoc, List.length_replicate] at hdigits
    rw [List.length_replicate]
    exact hdigits
  · simp only [Numeral.toDecimal, Option.getD_some, Option.map_none, Option.getD_none, zeros,
      List.length_replicate, List.length_singleton]
    omega

/-- Digits before and after the point. -/
theorem Spells.spelt_of_lt (h : d.Spells x) (hpoint : 0 < d.point)
    (hlt : d.point < d.digits.length) : x.Spelt d.positional := by
  have hformed : Numeral.Formed
      ⟨d.digits.take d.point.toNat, some (d.digits.drop d.point.toNat), none⟩ := by
    refine ⟨fun c hc => h.decimal c (List.mem_of_mem_take hc), ?_, ?_, by simp⟩
    · rintro ds ⟨⟩ c hc
      exact h.decimal c (List.mem_of_mem_drop hc)
    · simp [h.nonempty]
      omega
  have hspelling : d.positional = Numeral.spelling
      ⟨d.digits.take d.point.toNat, some (d.digits.drop d.point.toNat), none⟩ := by
    have hdrop : d.digits.drop d.point.toNat ≠ [] := by
      rw [ne_eq, List.drop_eq_nil_iff]
      omega
    simp [Numeral.spelling, positional, not_le.2 hpoint, hdrop]
  rw [hspelling]
  refine h.spelt hformed (k := 0) ?_ ?_
  · simp only [Numeral.toDecimal, Option.getD_some, List.take_append_drop]
    exact (Nat.mul_one _).symm
  · simp only [Numeral.toDecimal, Option.getD_some, Option.map_none, Option.getD_none,
      List.length_drop]
    omega

/-- The exponent as it is written: its sign and at least two digits. -/
def writtenExponent (exponent : Int) : Numeral.Exponent :=
  let size := Text.decimalDigits exponent.natAbs
  ⟨'e', some (if exponent < 0 then '-' else '+'), List.replicate (2 - size.length) '0' ++ size⟩

theorem formed_writtenExponent (exponent : Int) : (writtenExponent exponent).Formed where
  letter := .inl rfl
  sign c hc := by
    obtain rfl := Option.some.inj hc
    split <;> simp
  nonempty := List.append_ne_nil_of_right_ne_nil _ (Text.decimalDigits_ne_nil _)
  digits c hc := (List.mem_append.1 hc).elim isDecimal_of_mem_zeros fun hc =>
    Text.isDecimal_of_mem_decimalDigits hc

theorem value_writtenExponent (exponent : Int) : (writtenExponent exponent).value = exponent := by
  have hdigits : Text.digitsValue (writtenExponent exponent).digits = exponent.natAbs := by
    rw [writtenExponent, Text.digitsValue_zeros_append, Text.digitsValue_decimalDigits]
  by_cases hsign : exponent < 0
  · have hwritten : (writtenExponent exponent).sign = some '-' := by simp [writtenExponent, hsign]
    rw [Numeral.Exponent.value, if_pos hwritten, hdigits]
    omega
  · have hwritten : (writtenExponent exponent).sign = some '+' := by simp [writtenExponent, hsign]
    rw [Numeral.Exponent.value, hwritten, if_neg (by decide), hdigits]
    omega

/-- One digit before the point, the others after it if there are more, and an exponent. -/
theorem Spells.spelt_scientific (h : d.Spells x) : x.Spelt d.scientific := by
  obtain ⟨c, cs, hdigits⟩ := List.exists_cons_of_ne_nil h.nonempty
  have hdecimal := h.decimal
  rw [hdigits] at hdecimal
  obtain ⟨hc, hcs⟩ := List.forall_mem_cons.1 hdecimal
  let fraction := if cs.isEmpty then none else some cs
  have hfraction : fraction.getD [] = cs := by
    cases cs <;> rfl
  have hformed : Numeral.Formed ⟨[c], fraction, some (writtenExponent (d.point - 1))⟩ := by
    refine ⟨fun e he => ?_, fun ds hds => ?_, by simp, ?_⟩
    · rwa [List.mem_singleton.1 he]
    · have hds : fraction = some ds := hds
      have hcs : ∀ c ∈ fraction.getD [], Text.isDecimal c := by rwa [hfraction]
      rwa [hds] at hcs
    · rintro e ⟨⟩
      exact formed_writtenExponent _
  have hspelling : d.scientific =
      Numeral.spelling ⟨[c], fraction, some (writtenExponent (d.point - 1))⟩ := by
    rw [scientific, hdigits]
    cases cs <;> simp [Numeral.spelling, Numeral.Exponent.spelling, writtenExponent, fraction]
  rw [hspelling]
  refine h.spelt hformed (k := 0) ?_ ?_
  · rw [hdigits]
    simp only [Numeral.toDecimal, hfraction]
    exact (Nat.mul_one _).symm
  · rw [hdigits]
    simp only [Numeral.toDecimal, hfraction, Option.map_some, Option.getD_some,
      value_writtenExponent, List.length_cons]
    omega

end Digits

/-! ## Numbers -/

namespace Binary64

/-- What is written for a finite number with the digits chosen for it. -/
theorem exists_shortest_eq (x : Finite) : ∃ text, x.Spelt text ∧
    (Binary64.finite x).shortest = String.ofList (signText x.negative ++ text) := by
  have hspells := x.spells_shortest
  rw [shortest]
  simp only
  split
  · next hplace =>
    split
    · next hlength =>
      have hpoint : 0 < x.shortest.point := by
        have hne := List.length_pos_iff.2 hspells.nonempty
        omega
      exact ⟨_, hspells.spelt_of_length_le hpoint hlength, rfl⟩
    · next hlength =>
      rw [not_le] at hlength
      by_cases hpoint : 0 < x.shortest.point
      · exact ⟨_, hspells.spelt_of_lt hpoint hlength, rfl⟩
      · exact ⟨_, hspells.spelt_of_nonpos (not_lt.1 hpoint), rfl⟩
  · exact ⟨_, hspells.spelt_scientific, rfl⟩

/-- Finite numbers are equal if they are as many units. -/
theorem equal_finite {x y : Finite} : (Binary64.finite x).equal (.finite y) = true ↔
    x.units = y.units := by
  rw [equal, compare?]
  simp

/-- What is equal to a finite number is finite. -/
theorem exists_of_equal_finite {y : Binary64} {x : Finite} (h : y.equal (.finite x) = true) :
    ∃ z, y = .finite z ∧ z.units = x.units := by
  cases y with
  | finite z => exact ⟨z, rfl, equal_finite.1 h⟩
  | infinity negative => cases negative <;> contradiction
  | nan => contradiction

theorem Finite.natAbs_truncate (x : Finite) : x.truncate.natAbs = x.magnitude / one := by
  unfold truncate
  split
  · rw [Int.natAbs_neg, Int.natAbs_natCast]
  · exact Int.natAbs_natCast _

/-- Unless nothing is left of it, a number without its fractional part has the sign it had. -/
theorem Finite.truncate_neg (x : Finite) (h : x.truncate ≠ 0) :
    decide (x.truncate < 0) = x.negative := by
  unfold truncate at h ⊢
  generalize x.magnitude / one = n at h ⊢
  by_cases hnegative : x.negative = true
  · rw [if_pos hnegative] at h
    rw [if_pos hnegative, hnegative, decide_eq_true_iff]
    omega
  · rw [if_neg hnegative, eq_false_of_ne_true hnegative, decide_eq_false_iff_not]
    omega

theorem ofInt_zero : ofInt 0 = zero false := by
  rw [ofInt, Int.natAbs_zero, Nat.zero_mul]
  exact ofQuotient_eq_zero (by decide)

/-- A number without fractional part is the whole number that is left of it without one. -/
theorem equal_ofInt_truncate {x : Finite} (h : x.isInteger = true) :
    (ofInt x.truncate).equal (.finite x) = true := by
  have hmagnitude : x.truncate.natAbs * one = x.magnitude := by
    have hdvd : x.magnitude % one = 0 := by simpa [Finite.isInteger] using h
    rw [x.natAbs_truncate]
    exact Nat.div_mul_cancel (Nat.dvd_of_mod_eq_zero hdvd)
  by_cases hzero : x.truncate = 0
  · have hunits : x.units = 0 := by
      rw [hzero, Int.natAbs_zero, Nat.zero_mul] at hmagnitude
      simp [Finite.units, ← hmagnitude]
    rw [hzero, ofInt_zero]
    exact equal_finite.2 hunits.symm
  · have hsign : decide (x.truncate < 0) = x.negative := x.truncate_neg hzero
    rw [ofInt, hsign, hmagnitude, ofQuotient_magnitude]
    exact equal_finite.2 rfl

/-- What is written for a finite number where its formula is not kept is a numeral, with a sign or
without, that is read as an equal number. -/
theorem exists_serialize_eq (x : Finite) : ∃ (n : Numeral) (negative : Bool), n.Formed ∧
    (Value.number (.finite x)).serialize = String.ofList (signText negative ++ n.spelling) ∧
    (Decimal.toBinary64 { n.toDecimal with negative }).equal (.finite x) = true := by
  rw [Value.serialize, serialize]
  cases hshort : (Binary64.finite x).shortInteger? with
  | some k =>
    obtain ⟨⟨hinteger, -⟩, rfl⟩ :
        (x.isInteger = true ∧ x.magnitude < Nat.pow 10 15 * one) ∧ x.truncate = k := by
      simpa [shortInteger?] using hshort
    refine ⟨_, _, Text.formed_decimalDigits _, integerText_eq _, ?_⟩
    rw [toBinary64_decimalDigits]
    exact equal_ofInt_truncate hinteger
  | none =>
    obtain ⟨text, ⟨n, hn, rfl, hvalue⟩, htext⟩ := exists_shortest_eq x
    refine ⟨n, x.negative, hn, htext, ?_⟩
    rw [hvalue]
    exact equal_finite.2 rfl

/-- What is written for a finite number where its formula is not kept is read as an equal number. -/
theorem exists_ofLiteral_serialize (x : Finite) : ∃ y : Binary64,
    Value.ofLiteral (Value.number (.finite x)).serialize = .number y ∧
      y.equal (.finite x) = true := by
  obtain ⟨n, negative, hn, htext, hvalue⟩ := exists_serialize_eq x
  refine ⟨_, ?_, hvalue⟩
  rw [htext, Value.ofLiteral_signed hn]

/-- The characters written for a finite number are digits, signs, the point and the letter of an
exponent. -/
theorem mem_serialize {x : Finite} {c : Char}
    (hc : c ∈ (Value.number (.finite x)).serialize.toList) :
    Text.isDecimal c ∨ c = '.' ∨ c = 'e' ∨ c = 'E' ∨ c = '+' ∨ c = '-' := by
  obtain ⟨n, negative, hn, htext, -⟩ := exists_serialize_eq x
  rw [htext, String.toList_ofList] at hc
  rcases List.mem_append.1 hc with hc | hc
  · cases negative with
    | true => simp [List.mem_singleton.1 hc]
    | false => cases hc
  · exact hn.mem_spelling hc

/-- A finite number that is not zero is told from others by its units. -/
theorem finite_eq_of_units {x z : Finite} (hzero : x.units ≠ 0) (h : z.units = x.units) :
    Binary64.finite z = .finite x := by
  obtain ⟨hnegative, hmagnitude⟩ : z.negative = x.negative ∧ z.magnitude = x.magnitude := by
    unfold Finite.units at h hzero
    cases hz : z.negative <;> cases hx : x.negative <;> simp [hz, hx] at h hzero ⊢ <;> omega
  rw [← ofQuotient_magnitude z, hnegative, hmagnitude, ofQuotient_magnitude]

/-- Both zeros are written alike. -/
theorem serialize_zero (negative : Bool) : (Value.number (zero negative)).serialize = "0" := by
  cases negative <;> decide +kernel

theorem ofLiteral_zero : Value.ofLiteral "0" = .number (zero false) := by
  decide +kernel

theorem finite_eq_zero_of_units {x : Finite} (h : x.units = 0) :
    Binary64.finite x = zero x.negative := by
  have hmagnitude : x.significand * Nat.pow 2 x.exponent = 0 := by
    have hmagnitude : x.magnitude = 0 := by
      unfold Finite.units at h
      split at h <;> omega
    exact hmagnitude
  exact x.eq_zero_of_significand ((Nat.mul_eq_zero.1 hmagnitude).resolve_right (two_pow_pos _).ne')

/-- What is written for a finite number where its formula is not kept is read as that number, but
for the sign of a zero. -/
theorem Finite.ofLiteral_serialize (x : Finite) : ∃ y : Binary64,
    Value.ofLiteral (Value.number (.finite x)).serialize = .number y ∧
      y.equal (.finite x) = true ∧ y = if x.units = 0 then zero false else .finite x := by
  obtain ⟨y, hread, hequal⟩ := exists_ofLiteral_serialize x
  refine ⟨y, hread, hequal, ?_⟩
  split
  · next hzero =>
    rw [finite_eq_zero_of_units hzero, serialize_zero, ofLiteral_zero] at hread
    exact (Value.number.inj hread).symm
  · next hzero =>
    obtain ⟨z, rfl, hunits⟩ := exists_of_equal_finite hequal
    exact finite_eq_of_units hzero hunits

end Binary64

end Spreadsheet

import Mathlib
import Spreadsheet.Number.Decimal

/-!
# Rounding quotients

The floating-point number nearest to a quotient depends on the quotient alone and not on how it is
written (`ofQuotient_congr`), and a finite number is the one nearest to itself
(`ofQuotient_magnitude`). Large quotients are rounded to infinity and small ones to zero, so a
decimal number is always rounded as the quotient that it is (`Decimal.toBinary64_eq`), however its
coefficient and exponent share its zeros (`Decimal.toBinary64_shift`).
-/

namespace Spreadsheet

theorem roundHalfEven_mul_right {k : Nat} (hk : 0 < k) (num den : Nat) :
    roundHalfEven (num * k) (den * k) = roundHalfEven num den := by
  have hremainder : 2 * (num % den * k) = 2 * (num % den) * k := (Nat.mul_assoc ..).symm
  unfold roundHalfEven
  simp only [Nat.mul_div_mul_right _ _ hk, Nat.mul_mod_mul_right, hremainder,
    Nat.mul_lt_mul_right hk, Nat.mul_left_inj hk.ne']

theorem roundHalfEven_mul_self {k : Nat} (hk : 0 < k) (n : Nat) : roundHalfEven (n * k) k = n := by
  simp [roundHalfEven, hk]

theorem roundHalfEven_eq_zero {num den : Nat} (h : 2 * num < den) : roundHalfEven num den = 0 := by
  have hlt : num < den := by omega
  simp [roundHalfEven, Nat.mod_eq_of_lt hlt, Nat.div_eq_of_lt hlt, h]

namespace Binary64

variable {negative : Bool} {num den num' den' : Nat}

/-- A common factor of both parts makes no difference. -/
theorem ofQuotient_mul_right {k : Nat} (hk : 0 < k) (negative : Bool) (num den : Nat) :
    ofQuotient negative (num * k) (den * k) = ofQuotient negative num den := by
  have hden (e : Nat) : den * k * e = den * e * k := Nat.mul_right_comm ..
  unfold ofQuotient
  simp only [Nat.mul_div_mul_right _ _ hk, hden, roundHalfEven_mul_right hk]

/-- Equal quotients are rounded to the same number. -/
theorem ofQuotient_congr (hden : 0 < den) (hden' : 0 < den') (h : num * den' = num' * den) :
    ofQuotient negative num den = ofQuotient negative num' den' := by
  calc ofQuotient negative num den
      = ofQuotient negative (num * den') (den * den') := (ofQuotient_mul_right hden' ..).symm
    _ = ofQuotient negative (num' * den) (den' * den) := by rw [h, Nat.mul_comm den]
    _ = ofQuotient negative num' den' := ofQuotient_mul_right hden ..

theorem two_pow_pos (n : Nat) : 0 < Nat.pow 2 n := Nat.two_pow_pos n

/-- The exponent that a finite number is rounded with is its own. -/
theorem Finite.log2_magnitude (x : Finite) : Nat.log2 x.magnitude - 52 = x.exponent := by
  obtain ⟨hlt, -, hnormal⟩ := x.canonical
  have hlt : x.significand < 2 ^ 53 := hlt
  have hmagnitude : x.magnitude = x.significand * 2 ^ x.exponent := rfl
  rcases hnormal with hzero | hge
  · rw [hmagnitude, hzero, Nat.pow_zero, Nat.mul_one, Nat.sub_eq_zero_iff_le]
    by_cases hsignificand : x.significand = 0
    · rw [hsignificand]
      decide
    · exact Nat.lt_succ_iff.1 ((Nat.log2_lt hsignificand).2 hlt)
  · have hge : 2 ^ 52 ≤ x.significand := hge
    have hbelow : 2 ^ (52 + x.exponent) ≤ x.magnitude := by
      rw [hmagnitude, Nat.pow_add]
      exact Nat.mul_le_mul_right _ hge
    have habove : x.magnitude < 2 ^ (53 + x.exponent) := by
      rw [hmagnitude, Nat.pow_add]
      exact Nat.mul_lt_mul_of_pos_right hlt (Nat.two_pow_pos _)
    have hpos : x.magnitude ≠ 0 := ((Nat.two_pow_pos _).trans_le hbelow).ne'
    have hlow : 52 + x.exponent ≤ x.magnitude.log2 := (Nat.le_log2 hpos).2 hbelow
    have hhigh : x.magnitude.log2 < 53 + x.exponent := (Nat.log2_lt hpos).2 habove
    omega

/-- A finite number is the one nearest to itself. -/
theorem ofQuotient_magnitude (x : Finite) : ofQuotient x.negative x.magnitude 1 = .finite x := by
  have hexponent : Nat.log2 (x.magnitude / 1) - 52 = x.exponent := by
    rw [Nat.div_one, x.log2_magnitude]
  have hround : roundHalfEven x.magnitude (1 * Nat.pow 2 x.exponent) = x.significand := by
    rw [Nat.one_mul]
    exact roundHalfEven_mul_self (two_pow_pos _) _
  unfold ofQuotient
  simp only [hexponent, hround]
  rw [if_neg x.canonical.1.ne, ofParts, dif_pos x.canonical]

/-- A quotient below one half is rounded to zero. -/
theorem ofQuotient_eq_zero (h : 2 * num < den) : ofQuotient negative num den = zero negative := by
  have hlt : num < den := by omega
  have hexponent : Nat.log2 (num / den) - 52 = 0 := by
    rw [Nat.div_eq_of_lt hlt]
    decide
  have hround : roundHalfEven num (den * Nat.pow 2 0) = 0 := by
    have hden : den * Nat.pow 2 0 = den := Nat.mul_one den
    rw [hden, roundHalfEven_eq_zero h]
  unfold ofQuotient
  simp only [hexponent, hround]
  rfl

theorem ofParts_of_lt {significand exponent : Nat} (h : 2045 < exponent) :
    ofParts negative significand exponent = .infinity negative :=
  dif_neg fun hcanonical => absurd hcanonical.2.1 (by omega)

/-- A quotient beyond the range is rounded to infinity. -/
theorem ofQuotient_eq_infinity (hden : 0 < den) {k : Nat} (hk : 2098 ≤ k)
    (h : 2 ^ k * den ≤ num) : ofQuotient negative num den = .infinity negative := by
  have hquotient : 2 ^ k ≤ num / den := (Nat.le_div_iff_mul_le hden).2 h
  have hpos : num / den ≠ 0 := ((Nat.two_pow_pos _).trans_le hquotient).ne'
  have hlog : k ≤ Nat.log2 (num / den) := (Nat.le_log2 hpos).2 hquotient
  unfold ofQuotient
  simp only
  split <;> exact ofParts_of_lt (by omega)

end Binary64

namespace Decimal

open Binary64

theorem ten_pow_pos (n : Nat) : 0 < Nat.pow 10 n := Nat.pow_pos (by decide)

theorem two_pow_le_ten_pow (n : Nat) : 2 ^ (3 * n) ≤ Nat.pow 10 n := by
  rw [Nat.pow_mul]
  exact Nat.pow_le_pow_left (by decide) n

/-- One is a power of two. The exponent is named, so that the power is not computed. -/
theorem exists_one_eq : ∃ k, k = 1074 ∧ one = 2 ^ k := ⟨1074, rfl, Nat.pow_eq⟩

theorem one_pos : 0 < one := by
  obtain ⟨k, -, hone⟩ := exists_one_eq
  exact hone ▸ Nat.two_pow_pos k

/-- A decimal number is rounded as the quotient that it is. -/
theorem toBinary64_eq (x : Decimal) : x.toBinary64 = ofQuotient x.negative
    (x.coefficient * Nat.pow 10 x.exponent.toNat * one) (Nat.pow 10 (-x.exponent).toNat) := by
  obtain ⟨negative, coefficient, exponent⟩ := x
  obtain ⟨k, hk, hone⟩ := exists_one_eq
  unfold toBinary64
  simp only
  split
  · next hzero =>
    rw [hzero, Nat.zero_mul, Nat.zero_mul]
    exact (ofQuotient_eq_zero (ten_pow_pos _)).symm
  next hpos =>
  have hpos : 0 < coefficient := Nat.pos_of_ne_zero hpos
  split
  · next hlarge =>
    have hden : (-exponent).toNat = 0 := by omega
    have hnum : 2 ^ (3 * exponent.toNat + k) ≤ coefficient * Nat.pow 10 exponent.toNat * one := by
      rw [Nat.pow_add, hone]
      refine Nat.mul_le_mul_right _ ((two_pow_le_ten_pow _).trans ?_)
      exact Nat.le_mul_of_pos_left _ hpos
    rw [hden]
    refine (ofQuotient_eq_infinity Nat.one_pos ?_ ((Nat.mul_one _).trans_le hnum)).symm
    omega
  split
  · next hsmall =>
    have hnum : exponent.toNat = 0 := by omega
    have hden : 2 * (coefficient * Nat.pow 10 0 * one) < Nat.pow 10 (-exponent).toNat := by
      calc 2 * (coefficient * Nat.pow 10 0 * one)
          = coefficient * 2 ^ (k + 1) := by
            rw [hone, Nat.pow_eq, Nat.pow_succ]
            ring
        _ < 2 ^ (coefficient.log2 + 1) * 2 ^ (k + 1) :=
            Nat.mul_lt_mul_of_pos_right Nat.lt_log2_self (Nat.two_pow_pos _)
        _ = 2 ^ (coefficient.log2 + 1 + (k + 1)) := (Nat.pow_add ..).symm
        _ ≤ 2 ^ (3 * (-exponent).toNat) := Nat.pow_le_pow_right (by decide) (by omega)
        _ ≤ Nat.pow 10 (-exponent).toNat := two_pow_le_ten_pow _
    rw [hnum, ofQuotient_eq_zero hden]
  · cases exponent with
    | ofNat e =>
      have hden : (-Int.ofNat e).toNat = 0 := by
        rw [Int.ofNat_eq_natCast]
        omega
      rw [hden]
      rfl
    | negSucc e =>
      have hpower : coefficient = coefficient * Nat.pow 10 0 := (Nat.mul_one coefficient).symm
      exact congrArg (fun num => ofQuotient negative (num * one) (Nat.pow 10 (e + 1))) hpower

theorem toBinary64_zero (negative : Bool) (exponent : Int) :
    toBinary64 ⟨negative, 0, exponent⟩ = zero negative := if_pos rfl

/-- Zeros at the end of a coefficient may as well be in the exponent. -/
theorem toBinary64_shift (negative : Bool) (coefficient k : Nat) (exponent : Int) :
    toBinary64 ⟨negative, coefficient * Nat.pow 10 k, exponent⟩ =
      toBinary64 ⟨negative, coefficient, exponent + k⟩ := by
  rw [toBinary64_eq, toBinary64_eq]
  refine ofQuotient_congr (ten_pow_pos _) (ten_pow_pos _) ?_
  have hexponents : k + exponent.toNat + (-(exponent + k)).toNat =
      (exponent + k).toNat + (-exponent).toNat := by omega
  have hpowers : Nat.pow 10 k * Nat.pow 10 exponent.toNat * Nat.pow 10 (-(exponent + k)).toNat =
      Nat.pow 10 (exponent + k).toNat * Nat.pow 10 (-exponent).toNat := by
    simp only [Nat.pow_eq, ← Nat.pow_add, hexponents]
  calc coefficient * Nat.pow 10 k * Nat.pow 10 exponent.toNat * one *
        Nat.pow 10 (-(exponent + k)).toNat
      = coefficient * one * (Nat.pow 10 k * Nat.pow 10 exponent.toNat *
          Nat.pow 10 (-(exponent + k)).toNat) := by ring
    _ = coefficient * Nat.pow 10 (exponent + k).toNat * one * Nat.pow 10 (-exponent).toNat := by
      rw [hpowers]
      ring

/-- All the decimal places of a number of units give that number: a unit is `5 ^ 1074` times the
last of them. -/
theorem toBinary64_units (x : Finite) :
    toBinary64 ⟨x.negative, x.magnitude * Nat.pow 5 1074, -1074⟩ = .finite x := by
  obtain ⟨k, hk, hone⟩ := exists_one_eq
  have hnum : (-(1074 : Int)).toNat = 0 := rfl
  have hden : (-(-(1074 : Int))).toNat = k := hk.symm
  rw [toBinary64_eq, ← ofQuotient_magnitude x]
  simp only [hnum, hden, ← hk]
  refine ofQuotient_congr (ten_pow_pos _) Nat.one_pos ?_
  have hpowers : (5 : Nat) ^ k * 2 ^ k = 10 ^ k := (Nat.mul_pow 5 2 k).symm
  rw [hone]
  simp only [Nat.pow_eq, Nat.pow_zero, Nat.mul_one, Nat.mul_assoc, hpowers]

end Decimal

end Spreadsheet

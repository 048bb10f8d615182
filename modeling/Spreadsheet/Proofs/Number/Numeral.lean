import Mathlib.Data.List.TakeWhile
import Spreadsheet.Number.Decimal

/-!
# The form of numerals

`Numeral.Formed` says what a numeral looks like: decimal digits before or after a point or both, and
perhaps an exponent with digits. What is scanned off a text has this form (`formed_of_scan`), and a
numeral of this form is scanned as it is spelled, as long as what follows does not go on with it
(`scan_spelling`).
-/

namespace Spreadsheet.Numeral

/-- The letter `e` of either case, perhaps a sign, and at least one digit. -/
structure Exponent.Formed (e : Exponent) : Prop where
  letter : e.letter = 'e' ∨ e.letter = 'E'
  sign : ∀ c, e.sign = some c → c = '+' ∨ c = '-'
  nonempty : e.digits ≠ []
  digits : ∀ c ∈ e.digits, Text.isDecimal c

/-- Digits before or after the point, and an exponent if there is one. -/
structure Formed (n : Numeral) : Prop where
  whole : ∀ c ∈ n.whole, Text.isDecimal c
  fraction : ∀ ds, n.fraction = some ds → ∀ c ∈ ds, Text.isDecimal c
  nonempty : ¬ (n.whole = [] ∧ n.fraction.getD [] = [])
  exponent : ∀ e, n.exponent = some e → e.Formed

/-! ## What is scanned -/

theorem isDecimal_of_mem_scanDigits {cs : List Char} {c : Char} (h : c ∈ (scanDigits cs).1) :
    Text.isDecimal c :=
  List.all_eq_true.1 List.all_takeWhile c h

theorem formed_of_scanExponent {cs : List Char} {e : Exponent}
    (h : (scanExponent cs).1 = some e) : e.Formed := by
  cases cs with
  | nil => cases h
  | cons c rest =>
    simp only [scanExponent] at h
    split at h
    · next hexponent =>
      cases h
      refine ⟨hexponent.1, fun sign hsign => ?_, hexponent.2, fun _ => isDecimal_of_mem_scanDigits⟩
      unfold scanSign at hsign
      split at hsign <;> cases hsign <;> simp
    · cases h

theorem formed_of_scan {cs rest : List Char} {n : Numeral} (h : scan cs = some (n, rest)) :
    n.Formed := by
  simp only [scan] at h
  split at h
  · cases h
  · next hdigits =>
    obtain ⟨rfl, rfl⟩ := Prod.mk.inj (Option.some.inj h)
    refine ⟨fun _ => isDecimal_of_mem_scanDigits, fun ds hds => ?_, hdigits,
      fun e he => formed_of_scanExponent he⟩
    unfold scanFraction at hds
    split at hds
    · cases hds
      exact fun _ => isDecimal_of_mem_scanDigits
    · cases hds

/-! ## What is spelled -/

/-- The text does not go on with a numeral that ends before it. -/
def Ends (rest : List Char) : Prop :=
  ∀ c ∈ rest.head?, Text.isDecimal c = false ∧ c ≠ '.' ∧ c ≠ 'e' ∧ c ≠ 'E'

/-- A row of digits is taken with all the digits that follow it. -/
theorem scanDigits_append_of_forall {digits : List Char} (h : ∀ c ∈ digits, Text.isDecimal c)
    (rest : List Char) :
    scanDigits (digits ++ rest) = (digits ++ (scanDigits rest).1, (scanDigits rest).2) := by
  rw [scanDigits, List.takeWhile_append_of_pos h, List.dropWhile_append_of_pos h]
  rfl

theorem scanDigits_of_head {rest : List Char} (h : ∀ c ∈ rest.head?, Text.isDecimal c = false) :
    scanDigits rest = ([], rest) := by
  cases rest with
  | nil => rfl
  | cons c rest =>
    rw [scanDigits, List.takeWhile_cons, List.dropWhile_cons, h c rfl]
    rfl

theorem scanDigits_append_of_not {digits rest : List Char} (h : ∀ c ∈ digits, Text.isDecimal c)
    (hrest : ∀ c ∈ rest.head?, Text.isDecimal c = false) :
    scanDigits (digits ++ rest) = (digits, rest) := by
  rw [scanDigits_append_of_forall h, scanDigits_of_head hrest, List.append_nil]

/-- The digits of an exponent are taken with all the digits that follow them. -/
theorem Exponent.Formed.scanExponent_append {e : Exponent} (h : e.Formed) (rest : List Char) :
    Numeral.scanExponent (e.spelling ++ rest) =
      (some ⟨e.letter, e.sign, e.digits ++ (scanDigits rest).1⟩, (scanDigits rest).2) := by
  obtain ⟨letter, sign, digits⟩ := e
  have hsign : scanSign (sign.toList ++ (digits ++ rest)) = (sign, digits ++ rest) := by
    cases sign with
    | some c => rcases h.sign c rfl with rfl | rfl <;> rfl
    | none =>
      obtain ⟨d, ds, rfl⟩ := List.exists_cons_of_ne_nil h.nonempty
      have hd := h.digits d List.mem_cons_self
      have hplus : d ≠ '+' := by
        rintro rfl
        exact absurd hd (by decide)
      have hminus : d ≠ '-' := by
        rintro rfl
        exact absurd hd (by decide)
      simp [scanSign, hplus, hminus]
  have hspelling : Exponent.spelling ⟨letter, sign, digits⟩ ++ rest =
      letter :: (sign.toList ++ (digits ++ rest)) := by
    simp [Exponent.spelling]
  have hdigits : digits ++ (scanDigits rest).1 ≠ [] :=
    fun hnil => h.nonempty (List.append_eq_nil_iff.1 hnil).1
  rw [hspelling, Numeral.scanExponent]
  simp only [hsign, scanDigits_append_of_forall h.digits]
  rw [if_pos ⟨h.letter, hdigits⟩]

theorem Exponent.Formed.scanExponent {e : Exponent} (h : e.Formed) {rest : List Char}
    (hrest : Ends rest) : scanExponent (e.spelling ++ rest) = (some e, rest) := by
  rw [h.scanExponent_append, scanDigits_of_head fun c hc => (hrest c hc).1, List.append_nil]

theorem scanExponent_of_ends {rest : List Char} (h : Ends rest) :
    scanExponent rest = (none, rest) := by
  cases rest with
  | nil => rfl
  | cons c rest =>
    obtain ⟨-, -, he, hE⟩ := h c rfl
    simp [scanExponent, he, hE]

theorem scanFraction_of_ne {rest : List Char} (h : ∀ c ∈ rest.head?, c ≠ '.') :
    scanFraction rest = (none, rest) := by
  unfold scanFraction
  split
  · exact absurd rfl (h _ rfl)
  · rfl

/-- The parts of a numeral are taken one after another. -/
theorem scan_of_parts {cs whole middle tail rest : List Char} {fraction : Option (List Char)}
    {exponent : Option Exponent} (hwhole : scanDigits cs = (whole, middle))
    (hfraction : scanFraction middle = (fraction, tail))
    (hexponent : scanExponent tail = (exponent, rest))
    (hnonempty : ¬ (whole = [] ∧ fraction.getD [] = [])) :
    scan cs = some (⟨whole, fraction, exponent⟩, rest) := by
  rw [scan]
  simp only [hwhole, hfraction, hexponent]
  rw [if_neg hnonempty]

/-- The digits of a numeral are scanned as they are spelled, up to its exponent. -/
theorem scan_append_of_exponent {n : Numeral} (h : n.Formed) {tail rest : List Char}
    {exponent : Option Exponent}
    (htail : ∀ c ∈ tail.head?, Text.isDecimal c = false ∧ c ≠ '.')
    (hexponent : scanExponent tail = (exponent, rest)) :
    scan (n.whole ++ ((n.fraction.map ('.' :: ·)).getD [] ++ tail)) =
      some (⟨n.whole, n.fraction, exponent⟩, rest) := by
  obtain ⟨whole, fraction, _⟩ := n
  cases fraction with
  | none =>
    have hwhole := scanDigits_append_of_not h.whole fun c hc => (htail c hc).1
    exact scan_of_parts hwhole (scanFraction_of_ne fun c hc => (htail c hc).2) hexponent h.nonempty
  | some ds =>
    have hpoint : ∀ c ∈ ('.' :: ds ++ tail).head?, Text.isDecimal c = false := by
      rintro c ⟨⟩
      decide
    have hfraction : scanFraction ('.' :: ds ++ tail) = (some ds, tail) := by
      have hdigits := scanDigits_append_of_not (h.fraction ds rfl) fun c hc => (htail c hc).1
      simp [scanFraction, hdigits]
    exact scan_of_parts (scanDigits_append_of_not h.whole hpoint) hfraction hexponent h.nonempty

theorem Exponent.Formed.head_spelling {e : Exponent} (h : e.Formed) (rest : List Char) :
    ∀ c ∈ (e.spelling ++ rest).head?, Text.isDecimal c = false ∧ c ≠ '.' := by
  rintro c ⟨⟩
  rcases h.letter with he | he <;> rw [he] <;> decide

/-- A numeral is scanned as it is spelled. -/
theorem scan_spelling {n : Numeral} (h : n.Formed) {rest : List Char} (hrest : Ends rest) :
    scan (n.spelling ++ rest) = some (n, rest) := by
  rw [spelling, List.append_assoc, List.append_assoc]
  obtain ⟨whole, fraction, exponent⟩ := n
  cases exponent with
  | none =>
    have hstart : ∀ c ∈ rest.head?, Text.isDecimal c = false ∧ c ≠ '.' :=
      fun c hc => ⟨(hrest c hc).1, (hrest c hc).2.1⟩
    exact scan_append_of_exponent h hstart (scanExponent_of_ends hrest)
  | some e =>
    have hexponent := h.exponent e rfl
    exact scan_append_of_exponent h (hexponent.head_spelling rest) (hexponent.scanExponent hrest)

end Spreadsheet.Numeral

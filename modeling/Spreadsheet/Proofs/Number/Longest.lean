import Mathlib.Data.List.Infix
import Spreadsheet.Proofs.Number.Numeral

/-!
# The longest numeral

A text that goes on from a numeral has at least that numeral taken off its front
(`exists_scan_append`). So what is scanned is the longest numeral that a text starts with
(`scan_eq_some_iff`), and nothing is scanned exactly if the text starts with none
(`scan_eq_none_iff`).
-/

namespace Spreadsheet.Numeral

variable {n m : Numeral} {cs rest : List Char}

theorem length_scanDigits_le (cs : List Char) : (scanDigits cs).2.length ≤ cs.length :=
  (List.dropWhile_sublist Text.isDecimal).length_le

theorem length_scanFraction_le (cs : List Char) : (scanFraction cs).2.length ≤ cs.length := by
  have h := congrArg List.length (scanFraction_append cs)
  rw [List.length_append] at h
  omega

theorem length_scanExponent_le (cs : List Char) : (scanExponent cs).2.length ≤ cs.length := by
  have h := congrArg List.length (scanExponent_append cs)
  rw [List.length_append] at h
  omega

/-- At least the numeral is taken off a text that goes on from it. -/
theorem exists_scan_append (h : n.Formed) (rest : List Char) :
    ∃ longer after, scan (n.spelling ++ rest) = some (longer, after) ∧
      after.length ≤ rest.length := by
  have hdigits := length_scanDigits_le rest
  rw [spelling, List.append_assoc, List.append_assoc]
  obtain ⟨whole, fraction, exponent⟩ := n
  -- The last part of the numeral is the one that what follows can go on with.
  cases exponent with
  | some e =>
    have hexponent := h.exponent e rfl
    exact ⟨_, _, scan_append_of_exponent h (hexponent.head_spelling rest)
      (hexponent.scanExponent_append rest), hdigits⟩
  | none =>
    cases fraction with
    | some ds =>
      have hpoint : ∀ c ∈ ('.' :: ds ++ rest).head?, Text.isDecimal c = false := by
        rintro c ⟨⟩
        decide
      have hfraction : scanFraction ('.' :: ds ++ rest) =
          (some (ds ++ (scanDigits rest).1), (scanDigits rest).2) := by
        simp [scanFraction, scanDigits_append_of_forall (h.fraction ds rfl)]
      have hnonempty : ¬ (whole = [] ∧ ds ++ (scanDigits rest).1 = []) := fun hnil =>
        h.nonempty ⟨hnil.1, (List.append_eq_nil_iff.1 hnil.2).1⟩
      exact ⟨_, _, scan_of_parts (scanDigits_append_of_not h.whole hpoint) hfraction rfl hnonempty,
        (length_scanExponent_le _).trans hdigits⟩
    | none =>
      have hnonempty : whole ++ (scanDigits rest).1 ≠ [] := fun hnil =>
        h.nonempty ⟨(List.append_eq_nil_iff.1 hnil).1, rfl⟩
      exact ⟨_, _, scan_of_parts (scanDigits_append_of_forall h.whole rest) rfl rfl
        fun hnil => hnonempty hnil.1,
        (length_scanExponent_le _).trans ((length_scanFraction_le _).trans hdigits)⟩

theorem spelling_injective (hn : n.Formed) (hm : m.Formed) (h : n.spelling = m.spelling) :
    n = m := by
  have hnil : Ends [] := by simp [Ends]
  have hscan := scan_spelling hn hnil
  rw [h, scan_spelling hm hnil] at hscan
  exact (Prod.mk.inj (Option.some.inj hscan)).1.symm

/-- What is scanned is the longest numeral that the text starts with. -/
theorem scan_eq_some_iff :
    scan cs = some (n, rest) ↔ n.Formed ∧ n.spelling ++ rest = cs ∧
      ∀ m : Numeral, m.Formed → m.spelling <+: cs → m.spelling.length ≤ n.spelling.length := by
  constructor
  · intro h
    have happend := scan_append h
    refine ⟨formed_of_scan h, happend, ?_⟩
    rintro m hm ⟨after, hafter⟩
    obtain ⟨longer, left, hscan, hlength⟩ := exists_scan_append hm after
    rw [hafter, h] at hscan
    obtain ⟨rfl, rfl⟩ := Prod.mk.inj (Option.some.inj hscan)
    have hsum := congrArg List.length (hafter.trans happend.symm)
    rw [List.length_append, List.length_append] at hsum
    omega
  · rintro ⟨hn, rfl, hlongest⟩
    obtain ⟨longer, left, hscan, hlength⟩ := exists_scan_append hn rest
    have happend := scan_append hscan
    have hformed := formed_of_scan hscan
    have hbound := hlongest longer hformed ⟨left, happend⟩
    have hsum := congrArg List.length happend
    rw [List.length_append, List.length_append] at hsum
    obtain ⟨hspelling, rfl⟩ := List.append_inj happend (by omega)
    rw [hscan, spelling_injective hformed hn hspelling]

/-- Nothing is scanned off a text that starts with no numeral. -/
theorem scan_eq_none_iff : scan cs = none ↔ ∀ m : Numeral, m.Formed → ¬ m.spelling <+: cs := by
  constructor
  · rintro h m hm ⟨after, rfl⟩
    obtain ⟨longer, left, hscan, -⟩ := exists_scan_append hm after
    rw [h] at hscan
    cases hscan
  · intro h
    rw [Option.eq_none_iff_forall_ne_some]
    rintro ⟨n, rest⟩ hscan
    exact h n (formed_of_scan hscan) ⟨rest, scan_append hscan⟩

end Spreadsheet.Numeral

import Mathlib
import Spreadsheet.Proofs.Text.Recased

/-!
# Capitals of ASCII

The capital of a letter of ASCII is one as well, but these are not the only characters with such
capitals: there are ten more, the ligatures among them, of which some have several
(`forall_isAlpha_capitals_iff`).
-/

namespace Spreadsheet.Text

variable {c : Char} {n : Nat} {cs : List Char}

/-- The capital letters of a character. -/
def capitals (c : Char) : List Char := mapCase upperRuns upperExpansions c

theorem upper_eq_flatMap (cs : List Char) : upper cs = cs.flatMap capitals := rfl

theorem mem_of_lookup {entries : List (Nat × List Nat)} {image : List Nat}
    (h : entries.lookup n = some image) : (n, image) ∈ entries := by
  obtain ⟨front, back, hsplit, -⟩ := List.lookup_eq_some_iff.1 h
  exact hsplit ▸ List.mem_append_right _ List.mem_cons_self

theorem capitals_ne_nil (c : Char) : capitals c ≠ [] := by
  have htable : upperExpansions.all fun entry => !entry.2.isEmpty := by
    decide
  unfold capitals mapCase
  split
  · next image hlookup =>
    simpa using List.all_eq_true.1 htable _ (mem_of_lookup hlookup)
  · exact List.cons_ne_nil _ _

theorem upper_eq_nil_iff : upper cs = [] ↔ cs = [] := by
  rw [upper_eq_flatMap, List.flatMap_eq_nil_iff, List.eq_nil_iff_forall_not_mem]
  exact forall₂_congr fun c _ => iff_false_intro (capitals_ne_nil c)

/-- The characters that are no letters of ASCII and whose capitals are: sharp s, dotless i, long s,
and the ligatures of f and of s. -/
def letterLike : List Char := ['ß', 'ı', 'ſ', 'ﬀ', 'ﬁ', 'ﬂ', 'ﬃ', 'ﬄ', 'ﬅ', 'ﬆ']

theorem mem_letterLike_iff : c ∈ letterLike ↔ c.toNat ∈ letterLike.map Char.toNat := by
  refine ⟨List.mem_map_of_mem, fun h => ?_⟩
  obtain ⟨d, hd, heq⟩ := List.mem_map.1 h
  rwa [← Char.ofNat_toNat c, ← heq, Char.ofNat_toNat]

theorem lt_of_isAlpha_ofNat (h : (Char.ofNat n).isAlpha) : n < 128 := by
  have hlt := toNat_lt_of_isAlpha h
  rw [Char.toNat_ofNat] at hlt
  split at hlt
  · exact hlt
  · next hinvalid =>
    rw [Char.ofNat, dif_neg hinvalid] at h
    cases h

/-- The capital of a letter of ASCII is the one of ASCII. -/
theorem capitals_of_isAlpha (h : c.isAlpha) : capitals c = [c.toUpper] := by
  have htable : ∀ n < 128, (Char.ofNat n).isAlpha →
      (CaseRun.map? ⟨⟨0x61, 0x7A, 1⟩, 0x41⟩ (Char.ofNat n)).getD (Char.ofNat n) =
        (Char.ofNat n).toUpper := by
    decide +kernel
  have hc := toNat_lt_of_isAlpha h
  rw [capitals, mapCase_upper_of_ascii hc, forall_ascii
    (p := fun c => c.isAlpha → (CaseRun.map? ⟨⟨0x61, 0x7A, 1⟩, 0x41⟩ c).getD c = c.toUpper)
    htable hc h]

theorem forall_isAlpha_capitals_of_mem (h : c ∈ letterLike) : ∀ d ∈ capitals c, d.isAlpha := by
  have htable : letterLike.all fun c => (capitals c).all Char.isAlpha := by
    decide +kernel
  exact List.all_eq_true.1 (List.all_eq_true.1 htable c h)

/-- A character with several capitals that are letters of ASCII is one of the ten. -/
theorem mem_letterLike_of_expansion {image : List Nat} (h : (c.toNat, image) ∈ upperExpansions)
    (himage : ∀ n ∈ image, (Char.ofNat n).isAlpha) : c ∈ letterLike := by
  have htable : upperExpansions.all fun entry =>
      !(entry.2.all fun n => (Char.ofNat n).isAlpha) ||
        (letterLike.map Char.toNat).contains entry.1 := by
    decide +kernel
  have hentry := List.all_eq_true.1 htable _ h
  rw [List.all_eq_true.2 himage, Bool.not_true, Bool.false_or, List.contains_iff_mem] at hentry
  exact mem_letterLike_iff.2 hentry

/-- A character of a run that has its capitals in ASCII is a letter of ASCII or one of the ten. -/
theorem isAlpha_or_mem_of_run {run : CaseRun} (hrun : run ∈ upperRuns) (hhas : run.has c)
    (htarget : run.target < 128) : c.isAlpha ∨ c ∈ letterLike := by
  have htable : upperRuns.all fun run => 128 ≤ run.target || (run.first == 0x61 && run.last == 0x7A)
      || (run.first == run.last && (letterLike.map Char.toNat).contains run.first) := by
    decide +kernel
  have hrow := List.all_eq_true.1 htable run hrun
  have hbounds : run.first ≤ c.toNat ∧ c.toNat ≤ run.last := by
    simp only [LetterRun.has, Bool.and_eq_true_iff, decide_eq_true_iff] at hhas
    exact hhas.1
  simp only [Bool.or_eq_true_iff, Bool.and_eq_true_iff, decide_eq_true_iff, beq_iff_eq,
    List.contains_iff_mem] at hrow
  obtain (hlarge | ⟨hfirst, hlast⟩) | ⟨hsingle, hmem⟩ := hrow
  · omega
  · left
    have hletters : ∀ n < 128, 0x61 ≤ n → n ≤ 0x7A → (Char.ofNat n).isAlpha := by decide
    have hc := hletters c.toNat (by omega) (by omega) (by omega)
    rwa [Char.ofNat_toNat] at hc
  · right
    have hcode : c.toNat = run.first := by omega
    rwa [mem_letterLike_iff, hcode]

/-- Which characters have letters of ASCII as their capitals. -/
theorem forall_isAlpha_capitals_iff :
    (∀ d ∈ capitals c, d.isAlpha) ↔ c.isAlpha ∨ c ∈ letterLike := by
  constructor
  · intro h
    unfold capitals mapCase at h
    split at h
    · next image hlookup =>
      exact .inr (mem_letterLike_of_expansion (mem_of_lookup hlookup) (List.forall_mem_map.1 h))
    · rw [List.forall_mem_singleton] at h
      cases hfound : upperRuns.findSome? (·.map? c) with
      | none =>
        rw [hfound] at h
        exact .inl h
      | some d =>
        obtain ⟨run, hrun, hmap⟩ := List.exists_of_findSome?_eq_some hfound
        rw [hfound, Option.getD_some] at h
        unfold CaseRun.map? at hmap
        split at hmap
        · next hhas =>
          rw [← Option.some.inj hmap] at h
          have hlt := lt_of_isAlpha_ofNat h
          exact isAlpha_or_mem_of_run hrun hhas (by omega)
        · cases hmap
  · rintro (h | h)
    · rw [capitals_of_isAlpha h, List.forall_mem_singleton, Char.isAlpha_toUpper_eq_isAlpha, h]
    · exact forall_isAlpha_capitals_of_mem h

end Spreadsheet.Text

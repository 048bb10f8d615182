import Mathlib.Data.List.TakeWhile
import Spreadsheet.Text.Digit

/-!
# Texts that look like whole numbers

`isPlainInteger` accepts any white space around a whole number, and `integer?` all but the four
information separators. So a text that looks like a whole number spells one unless there is a
separator in it (`integer?_eq_none_iff`).
-/

namespace Spreadsheet.Text

variable {cs : List Char} {c : Char}

/-! ## Ends and pieces -/

/-- What is not dropped at the ends of a text stays in it. -/
theorem mem_stripWhere {isDropped : Char → Bool} (hc : c ∈ cs) (hkept : isDropped c = false) :
    c ∈ stripWhere isDropped cs := by
  have hdrop {ds : List Char} (hd : c ∈ ds) : c ∈ ds.dropWhile isDropped := by
    rw [← ds.takeWhile_append_dropWhile (p := isDropped), List.mem_append] at hd
    refine hd.resolve_left fun htaken => ?_
    rw [List.mem_takeWhile_imp htaken] at hkept
    cases hkept
  rw [stripWhere, List.mem_reverse]
  exact hdrop (List.mem_reverse.2 (hdrop hc))

theorem dropWhile_congr {p q : Char → Bool} (h : ∀ c ∈ cs, p c = q c) :
    cs.dropWhile p = cs.dropWhile q := by
  induction cs with
  | nil => rfl
  | cons first rest ih =>
    obtain ⟨hfirst, hrest⟩ := List.forall_mem_cons.1 h
    rw [List.dropWhile_cons, List.dropWhile_cons, hfirst, ih hrest]

theorem stripWhere_congr {p q : Char → Bool} (h : ∀ c ∈ cs, p c = q c) :
    stripWhere p cs = stripWhere q cs := by
  rw [stripWhere, stripWhere, dropWhile_congr h, dropWhile_congr]
  intro c hc
  exact h c ((List.dropWhile_suffix q).mem (List.mem_reverse.1 hc))

theorem stripWhere_eq_self {isDropped : Char → Bool} (h : ∀ c ∈ cs, isDropped c = false) :
    stripWhere isDropped cs = cs := by
  have hdrop {ds : List Char} (hd : ∀ c ∈ ds, isDropped c = false) :
      ds.dropWhile isDropped = ds := by
    cases ds with
    | nil => rfl
    | cons d ds => rw [List.dropWhile_cons, hd d List.mem_cons_self, if_neg Bool.false_ne_true]
  rw [stripWhere, hdrop h, hdrop fun c hc => h c (List.mem_reverse.1 hc), List.reverse_reverse]

/-- The members of a text that it is not cut at are in its pieces. -/
theorem mem_cutWhere {isCut : Char → Bool} (hc : c ∈ cs) :
    isCut c ∨ ∃ piece ∈ cutWhere isCut cs, c ∈ piece := by
  induction cs with
  | nil => cases hc
  | cons first rest ih =>
    rw [cutWhere]
    obtain rfl | hrest := List.mem_cons.1 hc
    · by_cases hcut : isCut c
      · exact .inl hcut
      · rw [if_neg hcut]
        split
        · exact .inr ⟨[c], List.mem_cons_self, List.mem_cons_self⟩
        · exact .inr ⟨_, List.mem_cons_self, List.mem_cons_self⟩
    · refine (ih hrest).imp_right ?_
      rintro ⟨piece, hpiece, hc⟩
      split
      · exact ⟨piece, List.mem_cons_of_mem _ hpiece, hc⟩
      · cases hpieces : cutWhere isCut rest with
        | nil => simp [hpieces] at hpiece
        | cons head pieces =>
          rw [hpieces] at hpiece
          obtain rfl | hpiece := List.mem_cons.1 hpiece
          · exact ⟨_, List.mem_cons_self, List.mem_cons_of_mem _ hc⟩
          · exact ⟨piece, List.mem_cons_of_mem _ hpiece, hc⟩

theorem mem_cutAt (separator : Char) (hc : c ∈ cs) :
    c = separator ∨ ∃ piece ∈ cutAt separator cs, c ∈ piece := by
  have hpiece := @mem_cutWhere cs c (· == separator) hc
  exact hpiece.imp_left beq_iff_eq.1

/-- A text without a character that it is cut at is one piece. -/
theorem cutWhere_of_forall {isCut : Char → Bool} (h : ∀ c ∈ cs, isCut c = false) :
    cutWhere isCut cs = [cs] := by
  induction cs with
  | nil => rfl
  | cons first rest ih =>
    obtain ⟨hfirst, hrest⟩ := List.forall_mem_cons.1 h
    rw [cutWhere, hfirst, ih hrest]
    rfl

/-! ## Signs and digits -/

/-- The text after its sign, if it starts with one. -/
def unsigned : List Char → List Char
  | '-' :: digits => digits
  | '+' :: digits => digits
  | digits => digits

theorem isSome_signed (digits? : List Char → Option Nat) (cs : List Char) :
    (signed digits? cs).isSome = (digits? (unsigned cs)).isSome := by
  have hcast (f : Int → Int) (value : Option Nat) :
      (Option.map f (do return (← value : Int))).isSome = value.isSome := by
    cases value <;> rfl
  unfold signed
  fun_cases unsigned cs with
  | case1 digits => exact hcast _ _
  | case2 digits => exact hcast _ _
  | case3 =>
    split
    · next hminus _ => exact absurd rfl (hminus _)
    · next hplus => exact absurd rfl (hplus _)
    · exact hcast _ _

theorem mem_unsigned (hc : c ∈ cs) : c = '-' ∨ c = '+' ∨ c ∈ unsigned cs := by
  unfold unsigned
  split
  · exact (List.mem_cons.1 hc).imp_right .inr
  · exact .inr (List.mem_cons.1 hc)
  · exact .inr (.inr hc)

/-- A decimal digit is in one of the rows of digits. -/
theorem exists_range_of_isDecimal (h : isDecimal c) :
    ∃ range ∈ decimalRanges, range.1 ≤ c.toNat ∧ c.toNat ≤ range.2 := by
  obtain ⟨digit, hdigit⟩ := Option.isSome_iff_exists.1 h
  obtain ⟨range, hrange, hfound⟩ := List.exists_of_findSome?_eq_some hdigit
  refine ⟨range, hrange, ?_⟩
  by_contra hnot
  simp [hnot] at hfound

theorem toNat_ge_of_isDecimal (h : isDecimal c) : 0x30 ≤ c.toNat := by
  have hranges : ∀ range ∈ decimalRanges, 0x30 ≤ range.1 := by decide
  obtain ⟨range, hrange, hwithin⟩ := exists_range_of_isDecimal h
  exact (hranges range hrange).trans hwithin.1

/-- No decimal digit is white space. -/
theorem isBlank_of_isDecimal (h : isDecimal c) : isBlank c = false := by
  have hdisjoint : ∀ digits ∈ decimalRanges, ∀ blanks ∈ blankRanges,
      digits.2 < blanks.1 ∨ blanks.2 < digits.1 := by decide
  obtain ⟨digits, hdigits, hdigit⟩ := exists_range_of_isDecimal h
  refine Bool.eq_false_iff.2 fun hblank => ?_
  obtain ⟨blanks, hblanks, hrange⟩ := List.any_eq_true.1 hblank
  have hrange : blanks.1 ≤ c.toNat ∧ c.toNat ≤ blanks.2 := by simpa using hrange
  have hapart := hdisjoint digits hdigits blanks hblanks
  omega

/-- The character is one of the four information separators. -/
def isSeparator (c : Char) : Bool := 0x1C ≤ c.toNat && c.toNat ≤ 0x1F

theorem isIntegerBlank_eq (c : Char) : isIntegerBlank c = (isBlank c && !isSeparator c) := rfl

theorem isSome_groupedDigits? :
    (groupedDigits? cs).isSome ↔ ∀ group ∈ cutAt '_' cs, group ≠ [] ∧ ∀ c ∈ group, isDecimal c := by
  rw [groupedDigits?]
  split
  · next h => simpa using h
  · next h => simpa using h

/-- The characters of a text that spells a whole number are digits, signs, underscores and white
space, of which no separator is. -/
theorem isSeparator_eq_false_of_integer? (h : (integer? cs).isSome) (hc : c ∈ cs) :
    isSeparator c = false := by
  rw [integer?, isSome_signed, isSome_groupedDigits?] at h
  by_contra hseparator
  rw [Bool.not_eq_false] at hseparator
  have hkept : c ∈ stripWhere isIntegerBlank cs :=
    mem_stripWhere hc (by rw [isIntegerBlank_eq, hseparator, Bool.not_true, Bool.and_false])
  have hbounds := Bool.and_eq_true_iff.1 hseparator
  have hlast : c.toNat ≤ 0x1F := of_decide_eq_true hbounds.2
  obtain rfl | rfl | hdigit := mem_unsigned hkept
  · exact absurd hseparator (by decide)
  · exact absurd hseparator (by decide)
  · obtain rfl | ⟨group, hgroup, hmem⟩ := mem_cutAt '_' hdigit
    · exact absurd hseparator (by decide)
    · have hfirst := toNat_ge_of_isDecimal ((h group hgroup).2 c hmem)
      omega

/-- Without separators in it, a text that looks like a whole number spells one. -/
theorem isSome_integer? (h : isPlainInteger cs) (hcs : ∀ c ∈ cs, isSeparator c = false) :
    (integer? cs).isSome := by
  have hstrip : stripWhere isIntegerBlank cs = strip cs := by
    refine stripWhere_congr fun c hc => ?_
    rw [isIntegerBlank_eq, hcs c hc, Bool.not_false, Bool.and_true]
  rw [isPlainInteger, isSome_signed] at h
  rw [integer?, isSome_signed, isSome_groupedDigits?, hstrip]
  generalize unsigned (strip cs) = digits at h
  have hdigits : digits ≠ [] ∧ ∀ c ∈ digits, isDecimal c := by
    split at h
    · next hdigits => simpa using hdigits
    · cases h
  have hpiece : cutAt '_' digits = [digits] := by
    refine cutWhere_of_forall fun c hc => beq_eq_false_iff_ne.2 ?_
    rintro rfl
    exact absurd (hdigits.2 _ hc) (by decide)
  rwa [hpiece, List.forall_mem_singleton]

/-- A text that looks like a whole number spells none if and only if one of the four information
separators is in it. -/
theorem integer?_eq_none_iff (h : isPlainInteger cs) :
    integer? cs = none ↔ ∃ c ∈ cs, isSeparator c := by
  constructor
  · intro hnone
    by_contra hnot
    have hsome := isSome_integer? h fun c hc => by
      simpa using fun hseparator => hnot ⟨c, hc, hseparator⟩
    rw [hnone] at hsome
    cases hsome
  · rintro ⟨c, hc, hseparator⟩
    refine Option.not_isSome_iff_eq_none.1 fun hsome => ?_
    rw [isSeparator_eq_false_of_integer? hsome hc] at hseparator
    cases hseparator

end Spreadsheet.Text

import Spreadsheet.Proofs.Number.Shortest
import Spreadsheet.Proofs.Sheet.Sound
import Spreadsheet.Workbook.Export
import Spreadsheet.Workbook.Import

/-!
# What comes back of a cell

The content of a cell comes back from a workbook as it was put in, or as an equal number
(`Content.ReturnsAs`). Its text is then entered in a cell of a sheet again. Where formulas are
marked by the equals sign, as they are in a workbook, that cell stands for the one that was saved
(`Restores`, `restores_of_returnsAs`).
-/

namespace Spreadsheet

open Binary64

namespace Workbook

/-! ## Contents -/

namespace Content

/-- The number that a content is, if it is one. -/
def number? : Content → Option Binary64
  | .whole n => some (.ofInt n)
  | .number x => some x
  | _ => none

/-- A content comes back as it was, or as an equal number if it is one. -/
def ReturnsAs (content kept : Content) : Prop :=
  kept = content ∨
    ∃ x y, content.number? = some x ∧ kept.number? = some y ∧ y.equal x = true

variable {content kept : Content} {x : Finite} {options : Options}

theorem ReturnsAs.eq_of_number? (h : content.ReturnsAs kept) (hnumber : content.number? = none) :
    kept = content := by
  rcases h with h | ⟨x, y, hx, -, -⟩
  · exact h
  · cases hnumber.symm.trans hx

theorem contentText_of_number? {y : Binary64} (h : content.number? = some y) :
    contentText options content = (Value.number y).serialize := by
  cases content <;> cases h <;> rfl

/-- The text of a number that comes back is that of an equal number. -/
theorem ReturnsAs.exists_contentText (h : content.ReturnsAs kept) {y : Binary64}
    (hnumber : content.number? = some y) (hequal : y.equal (.finite x) = true) (options : Options) :
    ∃ z : Finite, contentText options kept = (Value.number (.finite z)).serialize ∧
      z.units = x.units := by
  obtain ⟨y, rfl, hunits⟩ := exists_of_equal_finite hequal
  rcases h with rfl | ⟨y', z, hy, hz, hequal⟩
  · exact ⟨y, contentText_of_number? hnumber, hunits⟩
  · obtain rfl := Option.some.inj (hnumber.symm.trans hy)
    obtain ⟨z, rfl, hz'⟩ := exists_of_equal_finite hequal
    exact ⟨z, contentText_of_number? hz, hz'.trans hunits⟩

/-- A text that is not empty does not come back empty. -/
theorem contentText_text_ne_empty {text : String} (h : text ≠ "") :
    contentText options (.text text) ≠ "" := by
  rw [contentText]
  split
  · rw [Options.formulaText]
    exact fun hempty => List.cons_ne_nil _ _ (String.ofList_eq_empty_iff.1 hempty)
  · exact h

/-- Where formulas are marked by the equals sign texts come back as they are. -/
theorem contentText_text (hmarker : options.marker = '=') (text : String) :
    contentText options (.text text) = text := by
  rw [contentText]
  split
  · next body htext =>
    rw [Options.formulaText, hmarker, String.toList_ofList, ← htext, String.ofList_toList]
  · rfl

end Content

/-! ## Cells -/

/-- The cell of a loaded sheet stands for the one that was saved. A formula comes back with its text,
and of the other cells a text as it was, a number as an equal one and an empty cell empty. -/
structure Restores (options : Options) (saved loaded : Cell) : Prop where
  formula : options.isFormula saved.raw = true → loaded.raw = saved.raw
  text : ∀ text, options.isFormula saved.raw = false → saved.value = .text text →
    loaded.raw = saved.raw
  number : ∀ x, options.isFormula saved.raw = false → saved.value = .number x →
    ∃ y, loaded.value = .number y ∧ y.equal x = true
  empty : options.isFormula saved.raw = false → saved.value = .empty → loaded.value = .empty

variable {options : Options} {functions others : Registry} {saved loaded : Cell}
  {kept : Content} {x : Finite}

theorem exists_number?_numberContent (x : Finite) : ∃ y,
    (numberContent (.finite x)).number? = some y ∧ y.equal (.finite x) = true := by
  rw [numberContent]
  split
  · next h => exact ⟨_, rfl, equal_ofInt_truncate h⟩
  · exact ⟨_, rfl, equal_finite.2 rfl⟩

theorem cellContent_of_empty (h : options.formulaBody? saved.raw = none)
    (hvalue : saved.value = .empty) : cellContent options saved = .blank := by
  rw [cellContent, h, hvalue]

theorem cellContent_of_number (h : options.formulaBody? saved.raw = none) {x : Binary64}
    (hvalue : saved.value = .number x) : cellContent options saved = numberContent x := by
  rw [cellContent, h, hvalue]

/-- A formula comes back as the text that it was, whatever its marker. -/
theorem contentText_of_formula {body : String} (h : options.formulaBody? saved.raw = some body)
    (hkept : (cellContent options saved).ReturnsAs kept) :
    contentText options kept = saved.raw := by
  have hcontent : cellContent options saved = .text ("=" ++ body) := by rw [cellContent, h]
  have hsame : kept = .text ("=" ++ body) := hcontent ▸ hkept.eq_of_number? (by rw [hcontent]; rfl)
  have htext : ("=" ++ body).toList = '=' :: body.toList := by simp
  rw [hsame, contentText]
  simp only [htext, String.ofList_toList]
  exact (Options.formulaBody?_eq_some_iff.1 h).symm

/-- A text that is no formula comes back as the text that its characters are read as. -/
theorem contentText_of_text (h : options.formulaBody? saved.raw = none) {text : String}
    (hvalue : saved.value = .text text) (hkept : (cellContent options saved).ReturnsAs kept) :
    contentText options kept = contentText options (.text saved.raw) := by
  have hcontent : cellContent options saved = .text saved.raw := by rw [cellContent, h, hvalue]
  have hsame : kept = .text saved.raw := hcontent ▸ hkept.eq_of_number? (by rw [hcontent]; rfl)
  rw [hsame]

/-- An empty cell that is no formula comes back without text. -/
theorem contentText_of_empty (h : options.formulaBody? saved.raw = none)
    (hvalue : saved.value = .empty) (hkept : (cellContent options saved).ReturnsAs kept) :
    contentText options kept = "" := by
  have hcontent := cellContent_of_empty h hvalue
  have hsame : kept = .blank := hcontent ▸ hkept.eq_of_number? (by rw [hcontent]; rfl)
  rw [hsame]
  rfl

/-- A number that is no formula comes back as the text of an equal one. -/
theorem exists_contentText_of_number (h : options.formulaBody? saved.raw = none)
    (hvalue : saved.value = .number (.finite x))
    (hkept : (cellContent options saved).ReturnsAs kept) :
    ∃ y : Finite, contentText options kept = (Value.number (.finite y)).serialize ∧
      y.units = x.units := by
  obtain ⟨y, hnumber, hequal⟩ := exists_number?_numberContent x
  rw [← cellContent_of_number h hvalue] at hnumber
  exact hkept.exists_contentText hnumber hequal options

/-- The value of a cell that is no formula is empty, a number or its text. -/
theorem value_cases (h : saved.Sound options functions)
    (hliteral : options.formulaBody? saved.raw = none) :
    saved.value = .empty ∨ (∃ x, saved.value = .number x) ∨
      saved.value = .text saved.raw ∧ saved.raw ≠ "" := by
  rw [(h.literal hliteral).2, Value.ofLiteral]
  split
  · exact .inl rfl
  · next hblank =>
    split
    · exact .inr (.inl ⟨_, rfl⟩)
    · refine .inr (.inr ⟨rfl, fun hempty => hblank ?_⟩)
      rw [hempty]
      rfl

/-- The number of a cell is finite if it is not infinite. -/
theorem exists_finite (h : saved.Sound options functions) {x : Binary64}
    (hvalue : saved.value = .number x) (hfinite : ∀ negative, x ≠ .infinity negative) :
    ∃ y, x = .finite y := by
  have hdefinite := h.definite
  rw [hvalue] at hdefinite
  cases x with
  | finite y => exact ⟨y, rfl⟩
  | infinity negative => exact absurd rfl (hfinite negative)
  | nan => cases hdefinite

theorem serialize_ne_empty (x : Finite) : (Value.number (.finite x)).serialize ≠ "" := by
  obtain ⟨y, hy, -⟩ := exists_ofLiteral_serialize x
  intro hempty
  rw [hempty] at hy
  cases hy

/-- Only an empty cell comes back with an empty text. -/
theorem cellContent_eq_blank (h : saved.Sound options functions)
    (hfinite : ∀ negative, options.formulaBody? saved.raw = none →
      saved.value ≠ .number (.infinity negative))
    (hkept : (cellContent options saved).ReturnsAs kept) (hempty : contentText options kept = "") :
    cellContent options saved = .blank := by
  cases hbody : options.formulaBody? saved.raw with
  | some body =>
    have hraw : saved.raw = "" := (contentText_of_formula hbody hkept).symm.trans hempty
    rw [hraw] at hbody
    cases hbody
  | none =>
    rcases value_cases h hbody with hvalue | ⟨x, hvalue⟩ | ⟨hvalue, hne⟩
    · exact cellContent_of_empty hbody hvalue
    · obtain ⟨x, rfl⟩ := exists_finite h hvalue fun negative hx =>
        hfinite negative hbody (hx ▸ hvalue)
      obtain ⟨y, htext, -⟩ := exists_contentText_of_number hbody hvalue hkept
      exact absurd (htext.symm.trans hempty) (serialize_ne_empty y)
    · have htext := contentText_of_text hbody hvalue hkept
      exact absurd (htext.symm.trans hempty) (Content.contentText_text_ne_empty hne)

/-- The text of a finite number is no formula where the equals sign marks formulas. -/
theorem formulaBody?_serialize (hmarker : options.marker = '=') (x : Finite) :
    options.formulaBody? (Value.number (.finite x)).serialize = none := by
  rw [Options.formulaBody?]
  split
  · next c cs hcs =>
    have hc : c ∈ (Value.number (.finite x)).serialize.toList := hcs ▸ List.mem_cons_self
    refine if_neg fun heq => ?_
    rw [heq, hmarker] at hc
    exact absurd (mem_serialize hc) (by decide)
  · rfl

/-- Where formulas are marked by the equals sign, a cell with the text that comes back of a content
stands for the cell of that content. -/
theorem restores_of_returnsAs (hmarker : options.marker = '=')
    (hsaved : saved.Sound options functions) (hloaded : loaded.Sound options others)
    (hfinite : ∀ negative, options.formulaBody? saved.raw = none →
      saved.value ≠ .number (.infinity negative))
    (hkept : (cellContent options saved).ReturnsAs kept)
    (hraw : loaded.raw = contentText options kept) : Restores options saved loaded := by
  have hbody (hliteral : options.isFormula saved.raw = false) :
      options.formulaBody? saved.raw = none := by simpa [Options.isFormula] using hliteral
  constructor
  · intro hformula
    obtain ⟨body, hbody⟩ := Option.isSome_iff_exists.1 hformula
    exact hraw.trans (contentText_of_formula hbody hkept)
  · intro text hliteral hvalue
    rw [hraw, contentText_of_text (hbody hliteral) hvalue hkept, Content.contentText_text hmarker]
  · intro x hliteral hvalue
    obtain ⟨x, rfl⟩ := exists_finite hsaved hvalue fun negative hx =>
      hfinite negative (hbody hliteral) (hx ▸ hvalue)
    obtain ⟨y, htext, hunits⟩ := exists_contentText_of_number (hbody hliteral) hvalue hkept
    obtain ⟨z, hz, hequal⟩ := exists_ofLiteral_serialize y
    rw [htext] at hraw
    refine ⟨z, ?_, ?_⟩
    · rw [(hloaded.literal (hraw ▸ formulaBody?_serialize hmarker y)).2, hraw, hz]
    · obtain ⟨z, rfl, hz'⟩ := exists_of_equal_finite hequal
      exact equal_finite.2 (hz'.trans hunits)
  · intro hliteral hvalue
    have hempty := hraw.trans (contentText_of_empty (hbody hliteral) hvalue hkept)
    have hnone : options.formulaBody? loaded.raw = none := by
      rw [hempty]
      rfl
    rw [(hloaded.literal hnone).2, hempty]
    rfl

end Workbook

end Spreadsheet

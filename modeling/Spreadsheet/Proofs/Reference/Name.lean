import Mathlib.Data.List.Basic
import Mathlib.Data.List.TakeWhile
import Spreadsheet.Formula.Token
import Spreadsheet.Proofs.Text.Ascii
import Spreadsheet.Proofs.Text.Integer
import Spreadsheet.Reference.Cell

/-!
# Names of columns and cells

The letters of a column find the column again, in either case (`ofLetters_letters`,
`ofLetters_smallLetters`), and so does the number of a row (`digitsValue_rowText`). A name is split
into letters and digits where its letters end (`splitName?_append`, `eq_append_of_splitName?`). So
the name of a cell finds that cell (`readCellName_name`).
-/

namespace Spreadsheet

namespace ColumnName

theorem place_capital {place : Nat} (h : place < 26) :
    ColumnName.place (capital place) = place := by
  have htable : ∀ place < 26, ColumnName.place (capital place) = place := by decide
  exact htable place h

theorem isUpper_capital {place : Nat} (h : place < 26) : (capital place).isUpper := by
  have htable : ∀ place < 26, (capital place).isUpper := by decide
  exact htable place h

theorem letters_ne_nil (column : Nat) : letters column ≠ [] := by
  rw [letters]
  split <;> simp

theorem isUpper_of_mem_letters {column : Nat} {c : Char} (h : c ∈ letters column) : c.isUpper := by
  fun_induction letters column with
  | case1 column hcolumn =>
    rw [List.mem_singleton.1 h]
    exact isUpper_capital hcolumn
  | case2 column _ ih =>
    rcases List.mem_append.1 h with h | h
    · exact ih h
    · rw [List.mem_singleton.1 h]
      exact isUpper_capital (Nat.mod_lt _ (by decide))

theorem countTo_append (cs : List Char) (c : Char) :
    countTo (cs ++ [c]) = countTo cs * 26 + (place c + 1) := by
  rw [countTo, List.foldl_append]
  rfl

theorem countTo_letters (column : Nat) : countTo (letters column) = column + 1 := by
  fun_induction letters column with
  | case1 column hcolumn =>
    rw [← List.nil_append [_], countTo_append, place_capital hcolumn]
    simp [countTo]
  | case2 column hcolumn ih =>
    rw [countTo_append, ih, place_capital (Nat.mod_lt _ (by decide))]
    omega

theorem ofLetters_letters (column : Nat) : ofLetters (letters column) = column := by
  rw [ofLetters, countTo_letters, Nat.add_sub_cancel]

/-- Columns with the same letters are the same. -/
theorem text_inj {column column' : Nat} : text column = text column' ↔ column = column' := by
  refine ⟨fun h => ?_, congrArg text⟩
  rw [text, text, String.ofList_inj] at h
  rw [← ofLetters_letters column, h, ofLetters_letters]

theorem isBlank_capital {place : Nat} (h : place < 26) : Text.isBlank (capital place) = false := by
  have htable : ∀ place < 26, Text.isBlank (capital place) = false := by decide
  exact htable place h

theorem allBlank_text (column : Nat) : Text.allBlank (text column).toList = false := by
  have hlast : ∃ place < 26, capital place ∈ letters column := by
    rw [letters]
    split
    · next hcolumn => exact ⟨column, hcolumn, List.mem_singleton_self _⟩
    · exact ⟨column % 26, Nat.mod_lt _ (by decide), List.mem_append_right _ List.mem_cons_self⟩
  obtain ⟨place, hplace, hmem⟩ := hlast
  rw [text, String.toList_ofList, Text.allBlank, List.all_eq_false]
  exact ⟨_, hmem, Bool.eq_false_iff.1 (isBlank_capital hplace)⟩

/-! ## Small letters -/

theorem toLower_of_isUpper {c : Char} (h : c.isUpper) :
    c.toLower.isLower ∧ place c.toLower = place c := by
  have htable : ∀ n < 128, (Char.ofNat n).isUpper →
      (Char.ofNat n).toLower.isLower ∧ place (Char.ofNat n).toLower = place (Char.ofNat n) := by
    decide
  have hc : c.isAlpha := Text.LetterCase.isAlpha_of_has (show Text.LetterCase.upper.has c from h)
  exact Text.forall_ascii (p := fun c => c.isUpper → c.toLower.isLower ∧ place c.toLower = place c)
    htable (Text.toNat_lt_of_isAlpha hc) h

theorem isLower_of_mem_smallLetters {column : Nat} {c : Char} (h : c ∈ smallLetters column) :
    c.isLower := by
  obtain ⟨capital, hcapital, rfl⟩ := List.mem_map.1 h
  exact (toLower_of_isUpper (isUpper_of_mem_letters hcapital)).1

/-- Letters in the same places name the same column. -/
theorem ofLetters_map {f : Char → Char} {cs : List Char} (h : ∀ c ∈ cs, place (f c) = place c) :
    ofLetters (cs.map f) = ofLetters cs := by
  rw [ofLetters, countTo, List.foldl_map]
  exact congrArg (· - 1) (List.foldl_ext _ _ 0 fun count c hc => by rw [h c hc])

theorem ofLetters_smallLetters (column : Nat) : ofLetters (smallLetters column) = column := by
  have hplace : ∀ c ∈ letters column, place c.toLower = place c := fun c hc =>
    (toLower_of_isUpper (isUpper_of_mem_letters hc)).2
  rw [smallLetters, ofLetters_map hplace, ofLetters_letters]

end ColumnName

/-! ## Texts of columns and rows -/

namespace Coord

theorem columnText_ne_nil (col : Int) (lowercase : Bool) :
    (columnText col lowercase).toList ≠ [] := by
  rw [columnText, String.toList_ofList]
  split
  · rw [ColumnName.smallLetters, Ne, List.map_eq_nil_iff]
    exact ColumnName.letters_ne_nil _
  · exact ColumnName.letters_ne_nil _

/-- The letters of a column have the case asked for. -/
theorem has_of_mem_columnText {col : Int} {lowercase : Bool} {c : Char}
    (h : c ∈ (columnText col lowercase).toList) :
    (Text.LetterCase.ofLowercase lowercase).has c := by
  rw [columnText, String.toList_ofList] at h
  cases lowercase with
  | true => exact ColumnName.isLower_of_mem_smallLetters h
  | false => exact ColumnName.isUpper_of_mem_letters h

/-- The letters of a column find it. -/
theorem ofLetters_columnText {col : Int} (h : 0 ≤ col) (lowercase : Bool) :
    (ColumnName.ofLetters (columnText col lowercase).toList : Int) = col := by
  rw [columnText, String.toList_ofList]
  cases lowercase with
  | true => rw [if_pos rfl, ColumnName.ofLetters_smallLetters, Int.toNat_of_nonneg h]
  | false => rw [if_neg Bool.false_ne_true, ColumnName.ofLetters_letters, Int.toNat_of_nonneg h]

end Coord

theorem toList_rowText {row : Int} (h : 0 ≤ row) :
    (rowText row).toList = Text.decimalDigits (row + 1).toNat := by
  have hsign : decide (row + 1 < 0) = false := decide_eq_false (by omega)
  have hsize : (row + 1).natAbs = (row + 1).toNat := by omega
  rw [rowText, Binary64.integerText, hsign, hsize, String.toList_ofList, Binary64.signText,
    if_neg Bool.false_ne_true, List.nil_append]

/-- The number of a row finds it. -/
theorem digitsValue_rowText {row : Int} (h : 0 ≤ row) :
    (Text.digitsValue (rowText row).toList : Int) = row + 1 := by
  rw [toList_rowText h, Text.digitsValue_decimalDigits]
  omega

/-! ## Splitting names -/

theorem dropWhile_isAlpha_of_decimal {cs : List Char} (h : ∀ c ∈ cs, Text.isDecimal c) :
    cs.takeWhile Char.isAlpha = [] ∧ cs.dropWhile Char.isAlpha = cs := by
  cases cs with
  | nil => exact ⟨rfl, rfl⟩
  | cons c cs =>
    have hc : c.isAlpha = false := by
      refine Bool.eq_false_iff.2 fun hletter => ?_
      have hdecimal := h c List.mem_cons_self
      rw [(Text.asciiLetter_of_isAlpha hletter).decimal] at hdecimal
      contradiction
    rw [List.takeWhile_cons, List.dropWhile_cons, hc]
    exact ⟨rfl, rfl⟩

/-- Letters with digits after them are split where the letters end. -/
theorem splitName?_append {letters digits : List Char} (hne : letters ≠ [])
    (hletters : ∀ c ∈ letters, c.isAlpha) (hdigits : ∀ c ∈ digits, Text.isDecimal c) :
    splitName? (letters ++ digits) =
      some (letters, if digits.isEmpty then none else some digits) := by
  obtain ⟨htake, hdrop⟩ := dropWhile_isAlpha_of_decimal hdigits
  rw [splitName?, List.takeWhile_append_of_pos hletters, List.dropWhile_append_of_pos hletters,
    htake, hdrop, List.append_nil]
  have htakeDigits : digits.takeWhile Text.isDecimal = digits :=
    List.takeWhile_eq_self_iff.2 hdigits
  have hdropDigits : digits.dropWhile Text.isDecimal = [] :=
    List.dropWhile_eq_nil_iff.2 hdigits
  simp only [htakeDigits, hdropDigits]
  rw [if_neg (by simp [hne])]

/-- A name in the characters of words is split only into letters and the digits after them. -/
theorem eq_append_of_splitName? {name letters : List Char} {digits : Option (List Char)}
    (hname : ∀ c ∈ name, Lexeme.isNamePart c) (h : splitName? name = some (letters, digits)) :
    name = letters ++ digits.getD [] ∧ letters ≠ [] ∧ (∀ c ∈ letters, c.isAlpha) ∧
      ∀ ds, digits = some ds → ds ≠ [] ∧ ∀ c ∈ ds, Text.isDecimal c := by
  have hsplit : name = name.takeWhile Char.isAlpha ++
      ((name.dropWhile Char.isAlpha).takeWhile Text.isDecimal ++
        (name.dropWhile Char.isAlpha).dropWhile Text.isDecimal) := by
    rw [List.takeWhile_append_dropWhile, List.takeWhile_append_dropWhile]
  rw [splitName?] at h
  split at h
  · cases h
  · next hgood =>
    obtain ⟨hletters, hrest⟩ := not_or.1 hgood
    obtain ⟨rfl, rfl⟩ := Prod.mk.inj (Option.some.inj h)
    -- A line break is no part of a word.
    have hrest : (name.dropWhile Char.isAlpha).dropWhile Text.isDecimal = [] := by
      by_contra hne
      have hbreak : '\n' ∈ name := by
        rw [hsplit, not_not.1 fun hother => hrest ⟨hne, hother⟩]
        simp
      exact absurd (hname _ hbreak) (by decide)
    rw [hrest, List.append_nil] at hsplit
    refine ⟨?_, fun hnil => hletters (by rw [hnil, List.isEmpty_nil]), ?_, fun ds hds => ?_⟩
    · split
      · next hempty => rwa [List.isEmpty_iff.1 hempty] at hsplit
      · exact hsplit
    · exact fun c hc => List.all_eq_true.1 (List.all_takeWhile) c hc
    · split at hds
      · cases hds
      · next hempty =>
        cases hds
        exact ⟨fun hnil => hempty (by rw [hnil, List.isEmpty_nil]),
          fun c hc => List.all_eq_true.1 (List.all_takeWhile) c hc⟩

/-! ## Reading names -/

theorem isBlank_of_isAlpha {c : Char} (h : c.isAlpha) : Text.isBlank c = false := by
  have htable : ∀ n < 128, (Char.ofNat n).isAlpha → Text.isBlank (Char.ofNat n) = false := by decide
  exact Text.forall_ascii (p := fun c => c.isAlpha → Text.isBlank c = false) htable
    (Text.toNat_lt_of_isAlpha h) h

/-- The name of a cell finds the cell. -/
theorem readCellName_name {cell : Coord} (hrow : 0 ≤ cell.row) (hcol : 0 ≤ cell.col)
    (lowercase : Bool) : readCellName (cell.name lowercase) = .ok cell := by
  have hletters : ∀ c ∈ (Coord.columnText cell.col lowercase).toList, c.isAlpha := fun c hc =>
    Text.LetterCase.isAlpha_of_has (Coord.has_of_mem_columnText hc)
  have hdigits : ∀ c ∈ (rowText cell.row).toList, Text.isDecimal c := by
    intro c hc
    rw [toList_rowText hrow] at hc
    exact Text.isDecimal_of_mem_decimalDigits hc
  have hstrip : Text.strip (cell.name lowercase).toList =
      (Coord.columnText cell.col lowercase).toList ++ (rowText cell.row).toList := by
    rw [Coord.name, String.toList_append]
    refine Text.stripWhere_eq_self fun c hc => ?_
    rcases List.mem_append.1 hc with hc | hc
    · exact isBlank_of_isAlpha (hletters c hc)
    · exact Text.isBlank_of_isDecimal (hdigits c hc)
  have hne : (rowText cell.row).toList.isEmpty = false := by
    rw [toList_rowText hrow]
    exact List.isEmpty_eq_false_iff.2 Nat.toDigits_ne_nil
  have hvalue : Text.digitsValue (rowText cell.row).toList = cell.row.toNat + 1 := by
    have hvalue := digitsValue_rowText hrow
    omega
  rw [readCellName, hstrip, splitName?_append (Coord.columnText_ne_nil _ _) hletters hdigits, hne]
  simp only [Bool.false_eq_true, if_false, hvalue]
  rw [Coord.ofLetters_columnText hcol, Int.toNat_of_nonneg hrow]

end Spreadsheet

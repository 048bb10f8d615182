import Mathlib
import Spreadsheet.Proofs.Formula.References
import Spreadsheet.Proofs.Text.Capitals

/-!
# Letters and indices

Letters count columns without a zero: after `Z` comes `AA`. So each column has letters of its own,
and each row of letters is that of a column, in capitals (`ColumnName.letters_ofLetters`). A cell is
found by its name, and on a sheet just if it lies there (`resolveCell_name`, `naming_spec`).
-/

namespace Spreadsheet

namespace ColumnName

variable {cs : List Char} {c : Char}

/-! ## Capitals -/

theorem place_toUpper {c : Char} (h : c.isAlpha) : place c.toUpper = place c := by
  have htable : ∀ n < 128, (Char.ofNat n).isAlpha →
      place (Char.ofNat n).toUpper = place (Char.ofNat n) := by
    decide +kernel
  exact Text.forall_ascii (p := fun c => c.isAlpha → place c.toUpper = place c) htable
    (Text.toNat_lt_of_isAlpha h) h

theorem upper_of_forall_isAlpha (h : ∀ c ∈ cs, c.isAlpha) :
    Text.upper cs = cs.map Char.toUpper := by
  induction cs with
  | nil => rfl
  | cons c cs ih =>
    obtain ⟨hc, hcs⟩ := List.forall_mem_cons.1 h
    rw [Text.upper_eq_flatMap, List.flatMap_cons, Text.capitals_of_isAlpha hc,
      ← Text.upper_eq_flatMap, ih hcs]
    rfl

/-- Capitals name the same column. -/
theorem ofLetters_upper (h : ∀ c ∈ cs, c.isAlpha) : ofLetters (Text.upper cs) = ofLetters cs := by
  rw [upper_of_forall_isAlpha h, ofLetters_map fun c hc => place_toUpper (h c hc)]

/-! ## The column of a row of letters -/

theorem capital_place (h : c.isUpper) : capital (place c) = c ∧ place c < 26 := by
  have htable : ∀ n < 128, (Char.ofNat n).isUpper →
      capital (place (Char.ofNat n)) = Char.ofNat n ∧ place (Char.ofNat n) < 26 := by
    decide +kernel
  have hc : c.isAlpha := Bool.or_eq_true_iff.2 (.inl h)
  exact Text.forall_ascii (p := fun c => c.isUpper → capital (place c) = c ∧ place c < 26) htable
    (Text.toNat_lt_of_isAlpha hc) h

theorem countTo_pos (hne : cs ≠ []) : 0 < countTo cs := by
  rw [← List.dropLast_append_getLast hne, countTo_append]
  exact Nat.succ_pos _

/-- Capitals are the letters of the column that they name, by induction on them from the last one
on: each place of the alphabet counts from one. -/
theorem letters_ofLetters (hne : cs ≠ []) (h : ∀ c ∈ cs, c.isUpper) :
    letters (ofLetters cs) = cs := by
  induction cs using List.reverseRecOn with
  | nil => exact absurd rfl hne
  | append_singleton front last ih =>
    obtain ⟨hcapital, hplace⟩ := capital_place (h last (by simp))
    have hcolumn : ofLetters (front ++ [last]) = countTo front * 26 + place last := by
      rw [ofLetters, countTo_append]
      rfl
    by_cases hfront : front = []
    · have hsmall : ofLetters (front ++ [last]) = place last := by
        rw [hcolumn, hfront]
        exact Nat.zero_add _
      rw [hsmall, letters, if_pos hplace, hcapital, hfront, List.nil_append]
    · have hpos := countTo_pos hfront
      have hlarge : ¬ ofLetters (front ++ [last]) < 26 := by omega
      have hquotient : ofLetters (front ++ [last]) / 26 - 1 = countTo front - 1 := by omega
      have hremainder : ofLetters (front ++ [last]) % 26 = place last := by omega
      rw [letters, if_neg hlarge, hquotient, hremainder, hcapital]
      exact congrArg (· ++ [last]) (ih hfront fun c hc => h c (List.mem_append_left _ hc))

theorem isUpper_toUpper (h : c.isAlpha) : c.toUpper.isUpper := by
  have htable : ∀ n < 128, (Char.ofNat n).isAlpha → (Char.ofNat n).toUpper.isUpper := by
    decide +kernel
  exact Text.forall_ascii (p := fun c => c.isAlpha → c.toUpper.isUpper) htable
    (Text.toNat_lt_of_isAlpha h) h

/-- The letters of the column that letters of either case name are these letters as capitals. -/
theorem letters_ofLetters_of_isAlpha (hne : cs ≠ []) (h : ∀ c ∈ cs, c.isAlpha) :
    letters (ofLetters cs) = Text.upper cs := by
  have hupper : ∀ c ∈ Text.upper cs, c.isUpper := by
    rw [upper_of_forall_isAlpha h]
    exact List.forall_mem_map.2 fun c hc => isUpper_toUpper (h c hc)
  rw [← ofLetters_upper h, letters_ofLetters (mt Text.upper_eq_nil_iff.1 hne) hupper]

end ColumnName

/-! ## Names of columns -/

theorem columnNameOf_natCast (index : Nat) (lowercase : Bool) :
    columnNameOf index lowercase = .ok (Coord.columnText index lowercase) :=
  if_neg (by omega)

theorem columnOfName_of_isAlpha {name : String} (hne : name ≠ "")
    (h : ∀ c ∈ name.toList, c.isAlpha) :
    columnOfName name = .ok (ColumnName.ofLetters name.toList) := by
  have hname : ColumnName.isName name.toList := by
    rw [ColumnName.isName, Bool.and_eq_true_iff, List.all_eq_true, Bool.not_eq_true',
      List.isEmpty_eq_false_iff]
    exact ⟨fun hnil => hne (String.toList_eq_nil_iff.1 hnil), h⟩
  rw [columnOfName, ColumnName.ofText?, if_pos hname]

theorem isAlpha_of_mem_columnText {col : Int} {lowercase : Bool} {c : Char}
    (h : c ∈ (Coord.columnText col lowercase).toList) : c.isAlpha :=
  Text.LetterCase.isAlpha_of_has (Coord.has_of_mem_columnText h)

theorem columnOfName_columnText (index : Nat) (lowercase : Bool) :
    columnOfName (Coord.columnText index lowercase) = .ok index := by
  have hne : Coord.columnText index lowercase ≠ "" := fun hempty =>
    Coord.columnText_ne_nil index lowercase (String.toList_eq_nil_iff.2 hempty)
  have hcolumn := Coord.ofLetters_columnText (Int.natCast_nonneg index) lowercase
  rw [columnOfName_of_isAlpha hne fun c => isAlpha_of_mem_columnText, Int.ofNat_inj.1 hcolumn]

/-! ## Cells of a sheet -/

theorem cellNameOf_natCast (row col : Nat) (lowercase : Bool) :
    cellNameOf ⟨row, col⟩ lowercase = .ok (Coord.name ⟨row, col⟩ lowercase) := by
  rw [cellNameOf, columnNameOf_natCast]
  rfl

/-- The name of a cell is split into the letters of its column and the number of its row. -/
theorem splits_name {cell : Coord} (hrow : 0 ≤ cell.row) (lowercase : Bool) :
    Grammar.Splits (.ofLowercase lowercase) (cell.name lowercase).toList
      (Coord.columnText cell.col lowercase).toList (some (rowText cell.row).toList) where
  append := by rw [Coord.name, String.toList_append, Option.getD_some]
  nonempty := Coord.columnText_ne_nil _ _
  oneCase := fun _ => Coord.has_of_mem_columnText
  digits := by
    rintro ds ⟨⟩
    rw [toList_rowText hrow]
    exact ⟨Nat.toDigits_ne_nil, fun c => Text.isDecimal_of_mem_decimalDigits⟩

theorem rowWithin_rowText {row : Int} (h : 0 ≤ row) (nRows : Int) (position : Nat) :
    rowWithin (rowText row).toList nRows position =
      if row < nRows then .ok row else .error ⟨.rowOutside (rowText row) nRows, position⟩ := by
  have hwithin : 1 ≤ row + 1 ∧ row + 1 ≤ nRows ↔ row < nRows := by omega
  rw [rowWithin, rowNumberWithin, digitsValue_rowText h, String.ofList_toList,
    Int.add_sub_cancel]
  exact if_congr hwithin rfl rfl

theorem columnWithin_columnText {col : Int} (h : 0 ≤ col) (lowercase : Bool) (nCols : Int)
    (position : Nat) :
    columnWithin (Coord.columnText col lowercase).toList nCols position =
      if col < nCols then .ok col
      else .error ⟨.columnOutside (Coord.columnText col lowercase) nCols, position⟩ := by
  rw [columnWithin, Coord.ofLetters_columnText h, String.ofList_toList]

/-- A cell is found by its name on a sheet that it lies on. On any other one the fault is its row,
if that lies outside, or else its column. -/
theorem resolveCell_name {cell : Coord} (hrow : 0 ≤ cell.row) (hcol : 0 ≤ cell.col)
    (lowercase : Bool) (nRows nCols : Int) (position : Nat) :
    resolveCell (cell.name lowercase) nRows nCols position =
      if cell.row < nRows then
        if cell.col < nCols then .ok cell
        else .error ⟨.columnOutside (Coord.columnText cell.col lowercase) nCols, position⟩
      else .error ⟨.rowOutside (rowText cell.row) nRows, position⟩ := by
  have hsplit := (splits_name hrow lowercase).splitReference position
  have hrowWithin := rowWithin_rowText hrow nRows position
  have hcolWithin := columnWithin_columnText hcol lowercase nCols position
  simp only [resolveCell, hsplit, hrowWithin, hcolWithin, bind, Except.bind]
  by_cases hr : cell.row < nRows
  · by_cases hc : cell.col < nCols
    · simp only [if_pos hr, if_pos hc]
      rfl
    · simp only [if_pos hr, if_neg hc]
  · simp only [if_neg hr]

/-- Letters and columns correspond to each other one to one: in either case the letters of a column
name it, and letters of any case are those of the column that they name, as capitals. So a cell is
what its name says, and it is found on a sheet by that name just if it lies there; if it does not,
the reference is invalid. -/
theorem naming_spec (lowercase : Bool) :
    (∀ index : Nat, ∃ name, columnNameOf index lowercase = .ok name ∧
      columnOfName name = .ok index) ∧
    (∀ name : String, name ≠ "" → (∀ c ∈ name.toList, c.isAlpha) →
      ∃ index : Nat, columnOfName name = .ok index ∧
        columnNameOf index false = .ok (String.ofList (Text.upper name.toList))) ∧
    ∀ row col : Nat, ∃ name, cellNameOf ⟨row, col⟩ lowercase = .ok name ∧
      readCellName name = .ok ⟨row, col⟩ ∧
      ∀ (nRows nCols : Int) (position : Nat),
        ((row : Int) < nRows ∧ (col : Int) < nCols →
          resolveCell name nRows nCols position = .ok ⟨row, col⟩) ∧
        (¬ ((row : Int) < nRows ∧ (col : Int) < nCols) →
          ∃ fault, resolveCell name nRows nCols position = .error ⟨fault, position⟩ ∧
            fault.reason = .invalidReference) := by
  refine ⟨fun index => ?_, fun name hne hname => ?_, fun row col => ?_⟩
  · exact ⟨_, columnNameOf_natCast index lowercase, columnOfName_columnText index lowercase⟩
  · have hletters := ColumnName.letters_ofLetters_of_isAlpha
      (mt String.toList_eq_nil_iff.1 hne) hname
    refine ⟨_, columnOfName_of_isAlpha hne hname, ?_⟩
    rw [columnNameOf_natCast, Coord.columnText, if_neg Bool.false_ne_true, Int.toNat_natCast,
      hletters]
  · have hrow := Int.natCast_nonneg row
    have hcol := Int.natCast_nonneg col
    refine ⟨_, cellNameOf_natCast row col lowercase, readCellName_name hrow hcol lowercase,
      fun nRows nCols position => ?_⟩
    rw [resolveCell_name hrow hcol]
    constructor
    · rintro ⟨hr, hc⟩
      rw [if_pos hr, if_pos hc]
    · intro hout
      by_cases hr : (row : Int) < nRows
      · rw [if_pos hr, if_neg fun hc => hout ⟨hr, hc⟩]
        exact ⟨_, rfl, rfl⟩
      · rw [if_neg hr]
        exact ⟨_, rfl, rfl⟩

/-- `AAA` comes after `ZZ`, in either case, and `b2` lies on a sheet of two columns and two rows but
not on one of two columns and one row. -/
theorem naming_spec_sample :
    (∃ index : Nat, columnOfName "aAa" = .ok index ∧ columnNameOf index false = .ok "AAA") ∧
    resolveCell "b2" 2 2 0 = .ok ⟨1, 1⟩ ∧
    ∃ fault, resolveCell "b2" 1 2 0 = .error ⟨fault, 0⟩ ∧ fault.reason = .invalidReference := by
  obtain ⟨-, hletters, hcells⟩ := naming_spec true
  obtain ⟨name, hname, -, hresolve⟩ := hcells 1 1
  obtain rfl : name = "b2" := by
    have hcell : cellNameOf ⟨1, 1⟩ true = .ok "b2" := by cbv
    exact Except.ok.inj (hname.symm.trans hcell)
  have hupper : String.ofList (Text.upper "aAa".toList) = "AAA" := by cbv
  refine ⟨?_, (hresolve 2 2 0).1 (by decide), (hresolve 1 2 0).2 (by decide)⟩
  exact hupper ▸ hletters "aAa" (by decide) (List.all_iff_forall_prop.1 (by decide))

end Spreadsheet

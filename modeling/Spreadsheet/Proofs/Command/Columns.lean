import Mathlib
import Spreadsheet.Command.Parser
import Spreadsheet.Proofs.Reference.Letters
import Spreadsheet.Proofs.Text.Capitals
import Spreadsheet.Proofs.Text.Words

/-!
# Columns in commands

The column of a command is named by letters of either case, which are turned into capitals before
they are read. So a word is taken for a column if its capitals are letters of ASCII, which is true
of more words than those of such letters (`Command.column_spec`).
-/

namespace Spreadsheet

/-! ## Names in capitals -/

namespace ColumnName

variable {cs : List Char}

/-- A text is the name of a column in capitals if it consists of letters of ASCII and characters
with such capitals. -/
theorem isName_upper_iff : isName (Text.upper cs) ↔
    cs ≠ [] ∧ ∀ c ∈ cs, c.isAlpha ∨ c ∈ Text.letterLike := by
  have hall : (Text.upper cs).all Char.isAlpha ↔ ∀ c ∈ cs, c.isAlpha ∨ c ∈ Text.letterLike := by
    rw [List.all_eq_true, Text.upper_eq_flatMap, List.forall_mem_flatMap]
    exact forall₂_congr fun c _ => Text.forall_isAlpha_capitals_iff
  rw [isName, Bool.and_eq_true_iff, hall, Bool.not_eq_true', List.isEmpty_eq_false_iff, Ne,
    Text.upper_eq_nil_iff]

theorem ofText?_upper (hne : cs ≠ []) : ofText? (Text.upper cs) =
    if ∀ c ∈ cs, c.isAlpha ∨ c ∈ Text.letterLike then some (ofLetters (Text.upper cs))
    else none := by
  rw [ofText?]
  exact if_congr (isName_upper_iff.trans (and_iff_right hne)) rfl rfl

end ColumnName

/-! ## Lines -/

namespace Command

variable {name w : String} {command : Nat → Command}

/-- The command of the name takes a column. -/
inductive TakesColumn : String → (Nat → Command) → Prop
  | sort : TakesColumn "sort" .sort
  | fit : TakesColumn "fit" .fit

theorem words_line (h : TakesColumn name command) (hne : w ≠ "")
    (hw : ∀ c ∈ w.toList, Text.isBlank c = false) :
    Text.words (name ++ " " ++ w).toList = [name.toList, w.toList] := by
  have hname : Text.words name.toList = [name.toList] := by
    cases h <;> decide
  have hne' : w.toList ≠ [] := fun hnil => hne (String.toList_eq_nil_iff.1 hnil)
  have hline : (name ++ " " ++ w).toList = name.toList ++ ' ' :: w.toList := by
    simp [String.toList_append]
  rw [hline, Text.words_append_blank (by decide), hname, Text.words_of_forall hne' hw]
  rfl

theorem parse?_line (h : TakesColumn name command) (hne : w ≠ "")
    (hw : ∀ c ∈ w.toList, Text.isBlank c = false) :
    parse? (name ++ " " ++ w) = (column w.toList).map fun col => some (command col) := by
  have hwords := words_line h hne hw
  unfold parse?
  rw [hwords]
  cases h <;> cases hcolumn : column w.toList <;> simp [ofWords?, hcolumn, Except.map]

/-- A column is read from a word whose capitals are letters of ASCII. -/
theorem column_eq (hne : w ≠ "") : column w.toList =
    if ∀ c ∈ w.toList, c.isAlpha ∨ c ∈ Text.letterLike then
      .ok (ColumnName.ofLetters (Text.upper w.toList))
    else .error (.column w) := by
  have hne' : w.toList ≠ [] := fun hnil => hne (String.toList_eq_nil_iff.1 hnil)
  rw [column, ColumnName.ofText?_upper hne']
  split
  · next col hcol =>
    split at hcol
    · next hletters => rw [if_pos hletters, Option.some.inj hcol]
    · cases hcol
  · next hcol =>
    split at hcol
    · cases hcol
    · next hletters => rw [if_neg hletters, String.ofList_toList]

/-- A command that takes a column takes a word for one just if its characters are letters of ASCII
or have such letters as their capitals, and the column is that of the capitals. Words without
characters of the second kind are so taken just if they are names of columns, in letters of either
case, and all others are refused. -/
theorem column_spec (h : TakesColumn name command) (hne : w ≠ "")
    (hw : ∀ c ∈ w.toList, Text.isBlank c = false) :
    (parse? (name ++ " " ++ w) =
      if ∀ c ∈ w.toList, c.isAlpha ∨ c ∈ Text.letterLike then
        .ok (some (command (ColumnName.ofLetters (Text.upper w.toList))))
      else .error (.column w)) ∧
    ((∀ c ∈ w.toList, c ∉ Text.letterLike) → parse? (name ++ " " ++ w) =
      if ∀ c ∈ w.toList, c.isAlpha then .ok (some (command (ColumnName.ofLetters w.toList)))
      else .error (.column w)) := by
  have hline : parse? (name ++ " " ++ w) =
      if ∀ c ∈ w.toList, c.isAlpha ∨ c ∈ Text.letterLike then
        .ok (some (command (ColumnName.ofLetters (Text.upper w.toList))))
      else .error (.column w) := by
    rw [parse?_line h hne hw, column_eq hne]
    split <;> rfl
  refine ⟨hline, fun hplain => ?_⟩
  have hletters : (∀ c ∈ w.toList, c.isAlpha ∨ c ∈ Text.letterLike) ↔
      ∀ c ∈ w.toList, c.isAlpha :=
    forall₂_congr fun c hc => or_iff_left (hplain c hc)
  rw [hline]
  split
  · next hall =>
    rw [if_pos (hletters.1 hall), ColumnName.ofLetters_upper (hletters.1 hall)]
  · next hnot => rw [if_neg (mt hletters.2 hnot)]

/-- A word in letters of both cases names a column, and one with a digit does not. -/
theorem column_spec_mixed : parse? ("sort" ++ " " ++ "aZ") = .ok (some (.sort 51)) ∧
    parse? ("fit" ++ " " ++ "A1") = .error (.column "A1") := by
  have hblank {w : String} (h : w.toList.all (!Text.isBlank ·)) :
      ∀ c ∈ w.toList, Text.isBlank c = false := by
    simpa using h
  have hplain {w : String} (h : w.toList.all fun c => !Text.letterLike.contains c) :
      ∀ c ∈ w.toList, c ∉ Text.letterLike := by
    simpa using h
  have hmixed := (column_spec .sort (by decide) (hblank (w := "aZ") (by decide))).2
    (hplain (by decide))
  have hdigit := (column_spec .fit (by decide) (hblank (w := "A1") (by decide))).2
    (hplain (by decide))
  rw [if_pos (List.all_eq_true.1 (by decide))] at hmixed
  rw [if_neg (mt List.all_eq_true.2 (by decide))] at hdigit
  exact ⟨hmixed, hdigit⟩

/-- The ligature of f and i is no letter of ASCII, so that it names no column, and is taken for the
letters of its capitals. -/
theorem parse?_ligature : ColumnName.ofText? "ﬁ".toList = none ∧
    parse? "sort ﬁ" = .ok (some (.sort (ColumnName.ofLetters "FI".toList))) := by
  cbv

end Command

end Spreadsheet

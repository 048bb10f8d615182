import Mathlib
import Spreadsheet.Proofs.Command.Columns
import Spreadsheet.Proofs.Command.Reading
import Spreadsheet.Proofs.Files.Path
import Spreadsheet.Proofs.Number.Reading

/-!
# Commands that are written

The line that a command is written as spells the command again, whatever line it was read from
(`Command.parse?_display_spec`). The one exception is a path with white space at an end of its text,
which a line takes off: such a path is read where a slash or a dot keeps the white space from the
end of the line, and its text has neither.
-/

namespace Spreadsheet.Command

variable {line : String} {c : Command} {args : List (List Char)}

/-! ## The rest of a line -/

/-- After a word and a space, the rest of a line is the text that follows, stripped. -/
theorem restAfter_append {name : String} (hname : Text.words name.toList = [name.toList])
    (text : String) :
    restAfter name (name.toList ++ ' ' :: text.toList) = Text.stripped text := by
  obtain ⟨front, back, hfront, hback, htext⟩ := Text.exists_append_strip text.toList
  obtain ⟨hne, hletters⟩ := Text.mem_words (hname ▸ List.mem_singleton_self name.toList)
  have hword := Text.trimmed_of_forall hletters
  have hrest := Text.trimmed_strip text.toList
  rw [restAfter, ← String.length_toList, Text.stripped]
  by_cases hnil : Text.strip text.toList = []
  · -- The line is the word and white space after it.
    have hall : Text.allBlank (' ' :: text.toList) :=
      Text.allBlank_cons_iff.2 ⟨by decide, Text.strip_eq_nil_iff.1 hnil⟩
    have hline : Text.strip (name.toList ++ ' ' :: text.toList) = name.toList :=
      Text.strip_append_of_allBlank hword hall
    rw [hline, List.drop_length, hnil]
    rfl
  · have hblank : Text.allBlank (' ' :: front) := Text.allBlank_cons_iff.2 ⟨by decide, hfront⟩
    have hline : Text.strip (name.toList ++ ' ' :: text.toList) =
        name.toList ++ (' ' :: front ++ Text.strip text.toList) := by
      have hstrip := Text.strip_append_of_allBlank
        (hword.append hrest hne hnil (' ' :: front)) hback
      simp only [List.append_assoc, List.cons_append] at hstrip htext ⊢
      rwa [← htext] at hstrip
    rw [hline, List.drop_left, Text.strip_of_allBlank_append hblank hrest]

/-- The rest of a line after its first word has the other words, and no white space at its ends. -/
theorem words_restAfter {name : String} {cs : List Char}
    (h : Text.words cs = name.toList :: args) :
    Text.words (restAfter name cs).toList = args ∧
      Text.stripped (restAfter name cs) = restAfter name cs := by
  obtain ⟨rest, hline, hrest⟩ := Text.exists_append_of_words ((Text.words_strip cs).trans h)
    (Text.trimmed_strip cs).1
  rw [restAfter, hline, ← String.length_toList, List.drop_left, String.toList_ofList,
    Text.words_strip, hrest, Text.stripped, String.toList_ofList,
    Text.strip_of_trimmed (Text.trimmed_strip rest)]
  exact ⟨rfl, rfl⟩

/-! ## What lines spell -/

/-- What the command holds can be read off a line: a path in normal form, or a text that has words
in it and no white space at its ends. -/
def Spelt : Command → Prop
  | .save path => path.Normal
  | .find text => Text.words text.toList ≠ [] ∧ Text.stripped text = text
  | _ => True

theorem spelt_of_ofWords? {name : List Char} {cs : List Char} (hcs : Text.words cs = name :: args)
    (h : ofWords? cs (String.ofList name) args = some (.ok c)) : c.Spelt := by
  unfold ofWords? at h
  split at h
  case h_4 =>
    cases h
    exact Path.normal_ofText _
  case h_5 first others hname =>
    cases h
    have hwords : Text.words cs = "find".toList :: first :: others := by
      rw [hcs, ← hname, String.toList_ofList]
    have hrest := words_restAfter hwords
    exact ⟨hrest.1 ▸ List.cons_ne_nil _ _, hrest.2⟩
  case h_1 | h_2 =>
    cases h
    trivial
  case h_3 =>
    replace h := Option.some.inj h
    split at h
    · obtain ⟨width, -, rfl⟩ := map_eq_ok.1 h
      trivial
    · cases h
  case h_6 | h_7 =>
    obtain ⟨col, -, rfl⟩ := map_eq_ok.1 (Option.some.inj h)
    trivial
  case h_8 =>
    split at h
    · obtain ⟨rows, -, rfl⟩ := map_eq_ok.1 (Option.some.inj h)
      trivial
    · cases h
  case h_9 =>
    obtain ⟨columns, -, h⟩ := bind_eq_ok.1 (Option.some.inj h)
    obtain ⟨rows, -, h⟩ := bind_eq_ok.1 h
    cases h
    trivial
  case h_10 => cases h

theorem spelt_of_parse? (h : parse? line = .ok (some c)) : c.Spelt := by
  unfold parse? at h
  split at h
  · cases h
  · next name args hwords =>
    split at h
    · next command hcommand =>
      obtain ⟨found, rfl, heq⟩ := map_eq_ok.1 h
      cases heq
      exact spelt_of_ofWords? hwords hcommand
    · cases h

/-! ## Lines that are written -/

theorem toList_countText (n : Nat) : (countText n).toList = Text.decimalDigits n :=
  String.toList_ofList

theorem words_countText (n : Nat) : Text.words (countText n).toList = [(countText n).toList] := by
  rw [toList_countText]
  exact Text.words_of_forall (Text.decimalDigits_ne_nil n) fun d hd =>
    Text.isBlank_of_isDecimal (Text.isDecimal_of_mem_decimalDigits hd)

theorem count_countText (what : CommandCount) (n : Nat) :
    count what (countText n).toList = .ok n := by
  rw [toList_countText, count_of_forall_isDecimal (Text.decimalDigits_ne_nil n)
    fun d hd => Text.isDecimal_of_mem_decimalDigits hd, Text.digitsValue_decimalDigits]

theorem toList_append_space (name text : String) :
    (name ++ " " ++ text).toList = name.toList ++ ' ' :: text.toList := by
  simp [String.toList_append]

/-- A word and a space in front of a text are a word in front of its words. -/
theorem words_append {name : String} (hname : Text.words name.toList = [name.toList])
    (text : String) :
    Text.words (name ++ " " ++ text).toList = name.toList :: Text.words text.toList := by
  rw [toList_append_space, Text.words_append_blank (by decide), hname, List.singleton_append]

theorem parse?_of_words {name : String} (h : Text.words line.toList = name.toList :: args)
    (hcommand : ofWords? line.toList name args = some (.ok c)) : parse? line = .ok (some c) := by
  unfold parse?
  rw [h]
  simp only [String.ofList_toList, hcommand]
  rfl

theorem parse?_setColumnWidth (width : Nat) :
    parse? (display (.setColumnWidth width)) = .ok (some (.setColumnWidth width)) := by
  have hline : display (.setColumnWidth width) =
      "set" ++ " " ++ ("column-width" ++ " " ++ countText width) := by
    rw [← String.append_assoc, ← String.append_assoc]
    rfl
  have hwords : Text.words (display (.setColumnWidth width)).toList =
      ["set".toList, "column-width".toList, (countText width).toList] := by
    rw [hline, words_append (by decide), words_append (by decide), words_countText]
  refine parse?_of_words hwords ?_
  simp only [ofWords?, String.ofList_toList, if_true, count_countText]
  rfl

theorem parse?_resize (columns rows : Nat) :
    parse? (display (.resize columns rows)) = .ok (some (.resize columns rows)) := by
  have hline : display (.resize columns rows) =
      "resize" ++ " " ++ (countText columns ++ " " ++ countText rows) := by
    rw [← String.append_assoc, ← String.append_assoc]
    rfl
  have hwords : Text.words (display (.resize columns rows)).toList =
      ["resize".toList, (countText columns).toList, (countText rows).toList] := by
    rw [hline, words_append (by decide), words_append (words_countText columns), words_countText]
  refine parse?_of_words hwords ?_
  simp only [ofWords?, count_countText]
  rfl

/-- One row is written without the ending that marks several. -/
theorem parse?_fix (rows : Nat) : parse? (display (.fix rows)) = .ok (some (.fix rows)) := by
  let unit := if rows = 1 then "row" else "rows"
  have hline : display (.fix rows) = "fix" ++ " " ++ (countText rows ++ " " ++ unit) := by
    have hrows : rowsText rows = countText rows ++ " " ++ unit := by
      rw [rowsText, String.append_assoc]
      by_cases hone : rows = 1 <;> simp only [unit, hone, if_true, if_false] <;> rfl
    have hdisplay : display (.fix rows) = "fix" ++ " " ++ rowsText rows := rfl
    rw [hdisplay, hrows]
  have hunit : Text.words unit.toList = [unit.toList] := by
    by_cases hone : rows = 1 <;> simp only [unit, hone, if_true, if_false] <;> decide
  have hwords : Text.words (display (.fix rows)).toList =
      ["fix".toList, (countText rows).toList, unit.toList] := by
    rw [hline, words_append (by decide), words_append (words_countText rows), hunit]
  have hasked : String.ofList unit.toList = "rows" ∨
      (String.ofList unit.toList = "row" ∧ (countText rows).toList = ['1']) := by
    rw [String.ofList_toList]
    by_cases hone : rows = 1
    · refine .inr ⟨if_pos hone, ?_⟩
      rw [hone]
      decide
    · exact .inl (if_neg hone)
  refine parse?_of_words hwords ?_
  simp only [ofWords?, if_pos hasked, count_countText]
  rfl

theorem column_letters (col : Nat) : column (ColumnName.letters col) = .ok col := by
  have hletters : ∀ c ∈ ColumnName.letters col, c.isAlpha := fun c hc =>
    Bool.or_eq_true_iff.2 (.inl (ColumnName.isUpper_of_mem_letters hc))
  have hname : ∀ c ∈ ColumnName.letters col, c.isAlpha ∨ c ∈ Text.letterLike := fun c hc =>
    .inl (hletters c hc)
  rw [column, ColumnName.ofText?_upper (ColumnName.letters_ne_nil col), if_pos hname,
    ColumnName.ofLetters_upper hletters, ColumnName.ofLetters_letters]

/-- A command that takes a column is read again. -/
theorem parse?_takesColumn {name : String} {command : Nat → Command}
    (h : TakesColumn name command) (col : Nat) :
    parse? (name ++ " " ++ ColumnName.text col) = .ok (some (command col)) := by
  have htext : (ColumnName.text col).toList = ColumnName.letters col := String.toList_ofList
  have hne : ColumnName.text col ≠ "" := fun hempty => by
    rw [hempty] at htext
    exact ColumnName.letters_ne_nil col htext.symm
  rw [parse?_line h hne, htext, column_letters]
  · rfl
  · intro c hc
    rw [htext] at hc
    exact isBlank_of_isAlpha (Bool.or_eq_true_iff.2 (.inl (ColumnName.isUpper_of_mem_letters hc)))

theorem parse?_find {text : String} (h : Text.words text.toList ≠ []) :
    parse? ("find" ++ " " ++ text) = .ok (some (.find (Text.stripped text))) := by
  have hrest : restAfter "find" ("find" ++ " " ++ text).toList = Text.stripped text := by
    rw [toList_append_space, restAfter_append (by decide)]
  obtain ⟨first, others, htext⟩ := List.exists_cons_of_ne_nil h
  refine parse?_of_words (words_append (by decide) text) ?_
  rw [htext, ofWords?, hrest]

/-- The line for a path spells the one that is spelt without white space at its ends, if that
leaves anything. -/
theorem parse?_save (text : String) : parse? ("save" ++ " " ++ text) =
    if Text.allBlank text.toList then .error (.unknown "save")
    else .ok (some (.save (.ofText (Text.stripped text)))) := by
  have hwords : Text.words ("save" ++ " " ++ text).toList = "save".toList :: Text.words text.toList :=
    words_append (by decide) text
  split
  · next hblank =>
    have hline : Text.stripped ("save" ++ " " ++ text) = "save" := by
      have hword : Text.Trimmed "save".toList :=
        Text.trimmed_of_forall (List.all_iff_forall_prop.1 (by decide))
      have hall : Text.allBlank (' ' :: text.toList) :=
        Text.allBlank_cons_iff.2 ⟨by decide, hblank⟩
      rw [Text.stripped, toList_append_space, Text.strip_append_of_allBlank hword hall]
      rfl
    rw [Text.words_eq_nil_iff.2 hblank] at hwords
    unfold parse?
    rw [hwords]
    simp only [String.ofList_toList, ofWords?, hline]
    rfl
  · next hblank =>
    have hrest : restAfter "save" ("save" ++ " " ++ text).toList = Text.stripped text := by
      rw [toList_append_space, restAfter_append (by decide)]
    obtain ⟨first, others, htext⟩ :=
      List.exists_cons_of_ne_nil (mt Text.words_eq_nil_iff.1 hblank)
    refine parse?_of_words hwords ?_
    rw [htext, ofWords?, hrest]

/-! ## Commands that are read again -/

theorem parse?_display_of_ne_save (h : c.Spelt) (hsave : ∀ path, c ≠ .save path) :
    parse? c.display = .ok (some c) := by
  cases c with
  | help => rfl
  | new => rfl
  | setColumnWidth width => exact parse?_setColumnWidth width
  | save path => exact absurd rfl (hsave path)
  | find text =>
    have hfind := parse?_find h.1
    rwa [h.2] at hfind
  | sort column => exact parse?_takesColumn .sort column
  | fit column => exact parse?_takesColumn .fit column
  | fix rows => exact parse?_fix rows
  | resize columns rows => exact parse?_resize columns rows

theorem parse?_display_save_iff {path : Path} (h : path.Normal) :
    parse? (display (.save path)) = .ok (some (.save path)) ↔
      Text.stripped path.text = path.text := by
  have hsave : parse? (display (.save path)) = _ := parse?_save path.text
  rw [hsave]
  constructor
  · intro hread
    split at hread
    · cases hread
    · exact h.ofText_stripped_iff.1 (Command.save.inj (Option.some.inj (Except.ok.inj hread)))
  · intro hstripped
    have hblank : ¬ Text.allBlank path.text.toList := by
      intro hall
      rw [Text.stripped, Text.strip_eq_nil_iff.2 hall] at hstripped
      exact h.text_ne_empty hstripped.symm
    rw [if_neg hblank, h.ofText_stripped_iff.2 hstripped]

/-- A command that a line spells is spelt by the line it is written as, unless it saves to a path
with white space at an end of its text. The line for such a path spells the path without that white
space, which is another one, or is no command if there is nothing else in it. -/
theorem parse?_display_spec (h : parse? line = .ok (some c)) :
    (parse? c.display = .ok (some c) ↔
      ∀ path, c = .save path → Text.stripped path.text = path.text) ∧
    ∀ path, c = .save path → parse? c.display =
      if Text.allBlank path.text.toList then .error (.unknown "save")
      else .ok (some (.save (.ofText (Text.stripped path.text)))) := by
  have hspelt := spelt_of_parse? h
  by_cases hsave : ∃ path, c = .save path
  · obtain ⟨path, rfl⟩ := hsave
    refine ⟨(parse?_display_save_iff hspelt).trans ?_, ?_⟩
    · exact ⟨fun hstripped _ heq => Command.save.inj heq ▸ hstripped, fun hall => hall path rfl⟩
    · rintro _ ⟨⟩
      exact parse?_save path.text
  · have hne : ∀ path, c ≠ .save path := fun path heq => hsave ⟨path, heq⟩
    have hread := parse?_display_of_ne_save hspelt hne
    exact ⟨⟨fun _ path heq => absurd heq (hne path), fun _ => hread⟩,
      fun path heq => absurd heq (hne path)⟩

/-- A path whose text has white space inside is read again, and a number in other digits than those
it is written in. -/
theorem parse?_display_spec_sample :
    parse? " save  ./a b//c.csv/ " = .ok (some (.save ⟨[], ["a b".toList, "c.csv".toList]⟩)) ∧
    parse? "save a b/c.csv" = .ok (some (.save ⟨[], ["a b".toList, "c.csv".toList]⟩)) ∧
    parse? "fix ٣ rows" = .ok (some (.fix 3)) ∧ parse? "fix 3 rows" = .ok (some (.fix 3)) := by
  have hsave : parse? " save  ./a b//c.csv/ " =
      .ok (some (.save ⟨[], ["a b".toList, "c.csv".toList]⟩)) := by cbv
  have hfix : parse? "fix ٣ rows" = .ok (some (.fix 3)) := by cbv
  refine ⟨hsave, ?_, hfix, ?_⟩
  · refine (parse?_display_spec hsave).1.2 ?_
    rintro _ ⟨⟩
    cbv
  · refine (parse?_display_spec hfix).1.2 ?_
    rintro _ ⟨⟩

/-- The slash at the end of the line keeps the space in the path, and is no part of the path. -/
theorem parse?_display_space :
    let c : Command := .save ⟨[], ["a ".toList]⟩
    parse? "save a /" = .ok (some c) ∧
      parse? c.display = .ok (some (.save ⟨[], ["a".toList]⟩)) ∧
      parse? c.display ≠ .ok (some c) := by
  have hread : parse? "save a /" = .ok (some (.save ⟨[], ["a ".toList]⟩)) := by cbv
  have hdisplay : display (.save ⟨[], ["a ".toList]⟩) = "save a " := by decide
  have hagain : parse? (display (.save ⟨[], ["a ".toList]⟩)) =
      .ok (some (.save ⟨[], ["a".toList]⟩)) := by
    rw [hdisplay]
    cbv
  refine ⟨hread, hagain, ?_⟩
  rw [hagain]
  simp

end Spreadsheet.Command

import Mathlib
import Spreadsheet.Command.Parser
import Spreadsheet.Proofs.Formula.Reading
import Spreadsheet.Proofs.Text.Words

/-!
# Lines that are refused

A line without words is no command, and any other one is a command or refused for a reason that
names what is wrong with it. The one exception is a number that looks like one and is none: a word
of digits that are not all decimal passes for a number and cannot be read (`Command.parse?_spec`).
-/

namespace Spreadsheet

/-- The fault is that the line is no command, and not that a number in it cannot be read. -/
def CommandFault.isRefusal : CommandFault → Bool
  | .integer _ => false
  | _ => true

theorem map_eq_error {ε α β : Type} {x : Except ε α} {f : α → β} {e : ε} :
    x.map f = .error e ↔ x = .error e := by
  cases x <;> simp [Except.map]

namespace Command

variable {word : List Char} {fault : CommandFault} {what : CommandCount} {line : String}

/-! ## Numbers -/

/-- The word is taken for a number and spells none: all of it are digits, but not all decimal. -/
def LooksNumeric (word : List Char) : Prop := Text.allDigits word ∧ ¬ word.all Text.isDecimal

theorem count_of_looksNumeric (h : LooksNumeric word) (what : CommandCount) :
    count what word = .error (.integer (String.ofList word)) := by
  simp [count, h.1, h.2]

/-- A word of decimal digits is read as a number. -/
theorem count_of_forall_isDecimal (hne : word ≠ []) (h : ∀ c ∈ word, Text.isDecimal c)
    (what : CommandCount) : count what word = .ok (Text.digitsValue word) := by
  have hall : word.all Text.isDecimal := List.all_eq_true.2 h
  have hdigits : Text.allDigits word := by
    rw [Text.allDigits, Bool.and_eq_true_iff, List.all_eq_true]
    exact ⟨by simpa using hne, fun c hc => Bool.or_eq_true_iff.2 (.inl (h c hc))⟩
  simp [count, hdigits, hall]

theorem isDecimal_of_count {n : Nat} (h : count what word = .ok n) :
    ∀ c ∈ word, Text.isDecimal c := by
  unfold count at h
  split at h
  · cases h
  · split at h
    · next hall => exact List.all_eq_true.1 hall
    · cases h

/-- A word that is not read as a number is refused, unless it only looks like one. -/
theorem isRefusal_of_count (h : count what word = .error fault) :
    fault.isRefusal ∨ LooksNumeric word := by
  unfold count at h
  split at h
  · cases h
    exact .inl rfl
  · next hdigits =>
    split at h
    · cases h
    · next hall => exact .inr ⟨by simpa using hdigits, hall⟩

theorem isRefusal_of_column (h : column word = .error fault) : fault.isRefusal := by
  unfold column at h
  split at h
  · cases h
  · cases h
    rfl

/-! ## Words -/

/-- The words ask for the number that one of them spells, and those before it have been read. -/
inductive AsksFor : List (List Char) → List Char → Prop
  | columnWidth {word : List Char} : AsksFor ["set".toList, "column-width".toList, word] word
  | rowCount {word : List Char} : AsksFor ["fix".toList, word, "rows".toList] word
  | width {word height : List Char} : AsksFor ["resize".toList, word, height] word
  | height {width word : List Char} (h : ∀ c ∈ width, Text.isDecimal c) :
    AsksFor ["resize".toList, width, word] word

/-- A number that is asked for and only looks like one stops the reading. -/
theorem ofWords?_of_asksFor {cs name : List Char} {args : List (List Char)}
    (h : AsksFor (name :: args) word) (hargs : ∀ arg ∈ args, arg ≠ []) (hword : LooksNumeric word) :
    ofWords? cs (String.ofList name) args = some (.error (.integer (String.ofList word))) := by
  cases h with
  | columnWidth => simp [ofWords?, count_of_looksNumeric hword]
  | rowCount => simp [ofWords?, count_of_looksNumeric hword]
  | width =>
    simp only [String.ofList_toList, ofWords?, count_of_looksNumeric hword]
    rfl
  | @height width _ hdecimal =>
    have hne : width ≠ [] := hargs width List.mem_cons_self
    simp only [String.ofList_toList, ofWords?, count_of_looksNumeric hword,
      count_of_forall_isDecimal hne hdecimal]
    rfl

/-- Words that are no command are refused, unless a number that is asked for only looks like one. -/
theorem isRefusal_of_ofWords? {cs : List Char} {name : String} {args : List (List Char)}
    (h : ofWords? cs name args = some (.error fault)) :
    fault.isRefusal ∨ ∃ word, AsksFor (name.toList :: args) word ∧ LooksNumeric word := by
  unfold ofWords? at h
  split at h
  case h_3 key value =>
    replace h := Option.some.inj h
    split at h
    · next hkey =>
      obtain rfl : key = "column-width".toList := by rw [← hkey, String.toList_ofList]
      exact (isRefusal_of_count (map_eq_error.1 h)).imp_right fun hword =>
        ⟨value, .columnWidth, hword⟩
    · cases h
      exact .inl rfl
  case h_6 | h_7 => exact .inl (isRefusal_of_column (map_eq_error.1 (Option.some.inj h)))
  case h_8 word unit =>
    split at h
    · next hunit =>
      have hcount := map_eq_error.1 (Option.some.inj h)
      obtain hrows | ⟨-, rfl⟩ := hunit
      · obtain rfl : unit = "rows".toList := by rw [← hrows, String.toList_ofList]
        exact (isRefusal_of_count hcount).imp_right fun hword => ⟨word, .rowCount, hword⟩
      · cases hcount
    · cases h
  case h_9 width height =>
    obtain hwidth | ⟨n, hwidth, h⟩ := bind_eq_error.1 (Option.some.inj h)
    · exact (isRefusal_of_count hwidth).imp_right fun hword => ⟨width, .width, hword⟩
    · have hheight := map_eq_error.1 ((bind_pure_comp ..).symm.trans h)
      exact (isRefusal_of_count hheight).imp_right fun hword =>
        ⟨height, .height (isDecimal_of_count hwidth), hword⟩
  all_goals cases h

/-! ## Lines -/

/-- A number that the line asks for only looks like one. -/
def Misreads (line : String) (word : List Char) : Prop :=
  AsksFor (Text.words line.toList) word ∧ LooksNumeric word

theorem parse?_of_misreads (h : Misreads line word) :
    parse? line = .error (.integer (String.ofList word)) := by
  obtain ⟨hasks, hword⟩ := h
  unfold parse?
  cases hwords : Text.words line.toList with
  | nil =>
    rw [hwords] at hasks
    cases hasks
  | cons name args =>
    have hargs : ∀ arg ∈ args, arg ≠ [] := fun arg hmem =>
      (Text.mem_words (hwords ▸ List.mem_cons_of_mem name hmem)).1
    rw [hwords] at hasks
    simp only [ofWords?_of_asksFor hasks hargs hword]
    rfl

theorem isRefusal_of_parse? (h : parse? line = .error fault) :
    fault.isRefusal ∨ ∃ word, Misreads line word := by
  unfold parse? at h
  split at h
  · cases h
  · next name args hwords =>
    split at h
    · next command hcommand =>
      have hfault := map_eq_error.1 h
      rw [hfault] at hcommand
      refine (isRefusal_of_ofWords? hcommand).imp_right ?_
      rintro ⟨word, hasks, hword⟩
      rw [String.toList_ofList, ← hwords] at hasks
      exact ⟨word, hasks, hword⟩
    · cases h
      exact .inl rfl

/-- A line is no command just if it is blank. -/
theorem parse?_eq_none_iff : parse? line = .ok none ↔ Text.allBlank line.toList := by
  rw [← Text.words_eq_nil_iff]
  unfold parse?
  split
  · next hwords => simp [hwords]
  · next name args hwords =>
    split
    · next command _ => cases command <;> simp [hwords]
    · simp [hwords]

/-- A line is no command just if it is blank, and any other one is a command or refused, unless it
asks for a number of which the word only looks like one: then it fails for that word, and is not
refused. -/
theorem parse?_spec (line : String) :
    (parse? line = .ok none ↔ Text.allBlank line.toList) ∧
      (∀ word, Misreads line word → parse? line = .error (.integer (String.ofList word))) ∧
      ∀ fault, parse? line = .error fault →
        (fault.isRefusal ↔ ∀ word, ¬ Misreads line word) := by
  refine ⟨parse?_eq_none_iff, fun word => parse?_of_misreads, fun fault h => ?_⟩
  constructor
  · intro hrefusal word hmisreads
    rw [parse?_of_misreads hmisreads] at h
    cases h
    cases hrefusal
  · intro hnone
    refine (isRefusal_of_parse? h).resolve_right ?_
    rintro ⟨word, hmisreads⟩
    exact hnone word hmisreads

/-- A superscript is a digit, and spells no number. -/
theorem parse?_superscript : Text.allBlank "fix ² rows".toList = false ∧
    parse? "fix ² rows" = .error (.integer "²") ∧
    (CommandFault.integer "²").isRefusal = false := by
  cbv

end Command

end Spreadsheet

import Mathlib.Data.Bool.AllAny
import Mathlib.Data.List.Chain
import Spreadsheet.Formula.Printer
import Spreadsheet.Formula.Token
import Spreadsheet.Proofs.Formula.Reading
import Spreadsheet.Proofs.Number.Numeral
import Spreadsheet.Proofs.Text.Ascii
import Spreadsheet.Proofs.Text.Integer

/-!
# Words and their texts

`Lexeme.Formed` says what the words of each kind look like, and `Lexeme.source` is the text that a
word is written as. What is taken off a text is formed (`formed_of_scan`), and a formed word is
taken off its own text again, whatever does not go on with it (`scan_source`). So the words of a
text that is written from them, without blanks, are these words, as long as no two neighbours run
together (`exists_tokensFrom_source`).
-/

namespace Spreadsheet

namespace Lexeme

/-- The text is a name in a formula: letters, digits and underscores of ASCII, no digit first. -/
def IsWord (name : String) : Prop :=
  ∃ c rest, name.toList = c :: rest ∧ isNameStart c ∧ ∀ c ∈ rest, isNamePart c

/-- The text is that of an unsigned decimal number. -/
def IsNumeral (spelling : String) : Prop :=
  ∃ n : Numeral, n.Formed ∧ String.ofList n.spelling = spelling

/-- The word looks like one of its kind. -/
def Formed : Lexeme → Prop
  | .number spelling => IsNumeral spelling
  | .name text => IsWord text
  | .deletedReference spelling => spelling.toList.map Char.toUpper = deletedMark
  | _ => True

/-! ## What is scanned -/

theorem formed_of_scanSymbol {cs after : List Char} {lexeme : Lexeme}
    (h : scanSymbol cs = some (lexeme, after)) : lexeme.Formed ∧ lexeme ≠ .stop := by
  unfold scanSymbol at h
  split at h <;> cases h <;> exact ⟨trivial, nofun⟩

/-- A word that is taken off a text is formed. -/
theorem formed_of_scan {position : Nat} {c : Char} {rest after : List Char} {lexeme : Lexeme}
    (h : scan position (c :: rest) = .ok (lexeme, after)) : lexeme.Formed ∧ lexeme ≠ .stop := by
  simp only [scan] at h
  repeat' split at h
  all_goals try cases h
  · next hscan => exact ⟨⟨_, Numeral.formed_of_scan hscan, rfl⟩, by simp⟩
  · exact ⟨trivial, by simp⟩
  · next hstart =>
    refine ⟨⟨c, _, String.toList_ofList, hstart, fun d hd => ?_⟩, by simp⟩
    exact List.all_eq_true.1 List.all_takeWhile d hd
  · next hmark => exact ⟨by rwa [Formed, String.toList_ofList], by simp⟩
  · next hsymbol => exact formed_of_scanSymbol hsymbol

end Lexeme

/-- The tokens of a text are formed words and then the stop. -/
theorem words_of_tokensFrom {position : Nat} {cs : List Char} {tokens : List Token}
    (h : tokensFrom position cs = .ok tokens) :
    ∃ words, tokens.map Token.lexeme = words ++ [.stop] ∧
      ∀ word ∈ words, word.Formed ∧ word ≠ .stop := by
  fun_induction tokensFrom position cs generalizing tokens with
  | case1 position =>
    cases h
    exact ⟨[], rfl, by simp⟩
  | case2 position c rest hblank ih => exact ih h
  | case3 position c rest hblank e hscan => cases h
  | case4 position c rest hblank lexeme after hscan ih =>
    obtain ⟨others, hothers, h⟩ := bind_eq_ok.1 h
    cases h
    obtain ⟨words, hwords, hformed⟩ := ih hothers
    refine ⟨lexeme :: words, by rw [List.map_cons, hwords, List.cons_append], ?_⟩
    exact List.forall_mem_cons.2 ⟨Lexeme.formed_of_scan hscan, hformed⟩

theorem formed_of_tokensFrom {position : Nat} {cs : List Char} {tokens : List Token}
    (h : tokensFrom position cs = .ok tokens) : ∀ token ∈ tokens, token.lexeme.Formed := by
  obtain ⟨words, hwords, hformed⟩ := words_of_tokensFrom h
  intro token ht
  have hword := List.mem_map_of_mem (f := Token.lexeme) ht
  rw [hwords, List.mem_append, List.mem_singleton] at hword
  rcases hword with hword | hstop
  · exact (hformed _ hword).1
  · rw [hstop]
    trivial

namespace Lexeme

/-! ## What is written -/

/-- The text that a word is written as. -/
def source : Lexeme → List Char
  | .string content => (Expr.stringText content).toList
  | word => word.text.toList

/-- What follows the word does not go on with it. -/
def EndsBefore (rest : List Char) : Lexeme → Prop
  | .number _ => Numeral.Ends rest
  | .name _ => ∀ c ∈ rest.head?, isNamePart c = false
  | .string _ => ∀ c ∈ rest.head?, c ≠ '"'
  | .comparison .less => ∀ c ∈ rest.head?, c ≠ '=' ∧ c ≠ '>'
  | .comparison .greater => ∀ c ∈ rest.head?, c ≠ '='
  | _ => True

theorem startsNumber_cons {c : Char} (h : c ≠ '.') (rest : List Char) :
    startsNumber (c :: rest) = Text.isDigit c := by
  unfold startsNumber
  split
  · next heq => exact absurd (List.cons.inj heq).1 h
  · next heq => rw [(List.cons.inj heq).1]
  · next heq => cases heq

/-- A character that starts a name starts no other word. -/
theorem isDigit_of_isNameStart {c : Char} (h : isNameStart c) :
    Text.isBlank c = false ∧ Text.isDigit c = false ∧ c ≠ '.' ∧ c ≠ '"' := by
  have htable : ∀ n < 128, isNameStart (Char.ofNat n) →
      Text.isBlank (Char.ofNat n) = false ∧ Text.isDigit (Char.ofNat n) = false ∧
        Char.ofNat n ≠ '.' ∧ Char.ofNat n ≠ '"' := by
    decide +kernel
  refine Text.forall_ascii (p := fun c => isNameStart c →
    Text.isBlank c = false ∧ Text.isDigit c = false ∧ c ≠ '.' ∧ c ≠ '"') htable ?_ h
  rw [isNameStart, Bool.or_eq_true, beq_iff_eq] at h
  rcases h with hletter | rfl
  · exact Text.toNat_lt_of_isAlpha hletter
  · decide

theorem eq_hash_of_toUpper {c : Char} (h : c.toUpper = '#') : c = '#' := by
  by_cases hlower : c.isLower
  · have htable : ∀ n < 128, (Char.ofNat n).isLower → (Char.ofNat n).toUpper ≠ '#' := by decide
    have hletter : c.isAlpha := Bool.or_eq_true_iff.2 (.inr hlower)
    exact absurd h (Text.forall_ascii (p := fun c => c.isLower → c.toUpper ≠ '#') htable
      (Text.toNat_lt_of_isAlpha hletter) hlower)
  · have hsame : c.toUpper = c := dif_neg fun hbounds =>
      hlower (Bool.and_eq_true_iff.2 ⟨decide_eq_true hbounds.1, decide_eq_true hbounds.2⟩)
    rwa [hsame] at h

/-- What is neither the start of a number, a string or a name nor a deleted reference is scanned as
a symbol. -/
theorem scan_eq_scanSymbol {c : Char} {rest after : List Char} {lexeme : Lexeme} (position : Nat)
    (hsymbol : scanSymbol (c :: rest) = some (lexeme, after))
    (hc : c ≠ '.' ∧ Text.isDigit c = false ∧ c ≠ '"' ∧ isNameStart c = false ∧ c ≠ '#') :
    scan position (c :: rest) = .ok (lexeme, after) := by
  obtain ⟨hpoint, hdigit, hquote, hname, hhash⟩ := hc
  have hmark : ((c :: rest).take 5).map Char.toUpper ≠ deletedMark := by
    intro h
    rw [List.take_succ_cons, List.map_cons, deletedMark, List.cons.injEq] at h
    exact hhash (eq_hash_of_toUpper h.1)
  have hnumber : startsNumber (c :: rest) = false := (startsNumber_cons hpoint rest).trans hdigit
  simp only [scan, hnumber, hquote, hname, hmark, hsymbol, Bool.false_eq_true, if_false]

theorem scanSymbol_less {rest : List Char} (hrest : ∀ c ∈ rest.head?, c ≠ '=' ∧ c ≠ '>') :
    scanSymbol ('<' :: rest) = some (.comparison .less, rest) := by
  cases rest with
  | nil => rfl
  | cons c rest =>
    obtain ⟨hequal, hgreater⟩ := hrest c rfl
    simp [scanSymbol, hequal, hgreater]

theorem scanSymbol_greater {rest : List Char} (hrest : ∀ c ∈ rest.head?, c ≠ '=') :
    scanSymbol ('>' :: rest) = some (.comparison .greater, rest) := by
  cases rest with
  | nil => rfl
  | cons c rest => simp [scanSymbol, hrest c rfl]

theorem scanString_source (content : List Char) {rest : List Char}
    (hrest : ∀ c ∈ rest.head?, c ≠ '"') :
    scanString (content.flatMap (fun c => if c = '"' then ['"', '"'] else [c]) ++ '"' :: rest) =
      some (content, rest) := by
  induction content with
  | nil =>
    cases rest with
    | nil => rfl
    | cons c rest => simp [scanString, hrest c rfl]
  | cons c content ih =>
    rw [List.flatMap_cons, List.append_assoc]
    by_cases hc : c = '"'
    · rw [if_pos hc, hc]
      simp [scanString, ih]
    · rw [if_neg hc]
      simp [scanString, hc, ih]

theorem startsNumber_spelling {n : Numeral} (h : n.Formed) (rest : List Char) :
    startsNumber (n.spelling ++ rest) := by
  obtain ⟨whole, fraction, exponent⟩ := n
  have hdigit {c : Char} (hc : Text.isDecimal c) : Text.isDigit c := by
    rw [Text.isDigit, hc, Bool.true_or]
  cases whole with
  | cons c whole =>
    have hc := h.whole c List.mem_cons_self
    have hpoint : c ≠ '.' := by
      rintro rfl
      exact absurd hc (by decide)
    exact (startsNumber_cons hpoint _).trans (hdigit hc)
  | nil =>
    cases fraction with
    | none => exact absurd ⟨rfl, rfl⟩ h.nonempty
    | some ds =>
      obtain ⟨d, ds, rfl⟩ := List.exists_cons_of_ne_nil fun hnil => h.nonempty ⟨rfl, hnil⟩
      exact hdigit (h.fraction _ rfl d List.mem_cons_self)

/-- A text that starts like a number has the numeral taken off its front. -/
theorem scan_of_startsNumber {n : Numeral} {cs rest : List Char} (hstart : startsNumber cs)
    (hscan : Numeral.scan cs = some (n, rest)) (position : Nat) :
    scan position cs = .ok (.number (String.ofList n.spelling), rest) := by
  cases cs with
  | nil => cases hstart
  | cons c cs => simp only [scan, hstart, hscan, if_true]

theorem scan_number {n : Numeral} (h : n.Formed) {rest : List Char} (hrest : Numeral.Ends rest)
    (position : Nat) :
    scan position (n.spelling ++ rest) = .ok (.number (String.ofList n.spelling), rest) :=
  scan_of_startsNumber (startsNumber_spelling h rest) (Numeral.scan_spelling h hrest) position

theorem scan_string (content : String) {rest : List Char} (hrest : ∀ c ∈ rest.head?, c ≠ '"')
    (position : Nat) :
    scan position ((Expr.stringText content).toList ++ rest) = .ok (.string content, rest) := by
  have hscan := scanString_source content.toList hrest
  have hnumber : ∀ cs, startsNumber ('"' :: cs) = false := fun cs =>
    (startsNumber_cons (by decide) cs).trans (by decide)
  rw [Expr.stringText, String.toList_ofList]
  simp only [List.cons_append, List.append_assoc, List.nil_append]
  simp only [scan, hnumber, hscan, Bool.false_eq_true, if_false, if_true, String.ofList_toList]

theorem scan_name {name : String} (h : IsWord name) {rest : List Char}
    (hrest : ∀ c ∈ rest.head?, isNamePart c = false) (position : Nat) :
    scan position (name.toList ++ rest) = .ok (.name name, rest) := by
  obtain ⟨c, cs, hname, hstart, hparts⟩ := h
  obtain ⟨-, hdigit, hpoint, hquote⟩ := isDigit_of_isNameStart hstart
  have hnumber := (startsNumber_cons hpoint (cs ++ rest)).trans hdigit
  have hstop : rest.takeWhile isNamePart = [] ∧ rest.dropWhile isNamePart = rest := by
    cases rest with
    | nil => exact ⟨rfl, rfl⟩
    | cons d rest =>
      rw [List.takeWhile_cons, List.dropWhile_cons, hrest d rfl]
      exact ⟨rfl, rfl⟩
  rw [hname, List.cons_append]
  simp only [scan, hnumber, hquote, hstart, Bool.false_eq_true, if_false, if_true]
  rw [List.takeWhile_append_of_pos hparts, List.dropWhile_append_of_pos hparts, hstop.1, hstop.2,
    List.append_nil, ← hname, String.ofList_toList]

theorem scan_deletedReference {spelling : String}
    (h : spelling.toList.map Char.toUpper = deletedMark) (rest : List Char) (position : Nat) :
    scan position (spelling.toList ++ rest) = .ok (.deletedReference spelling, rest) := by
  have hlength : spelling.toList.length = 5 := by
    rw [← List.length_map Char.toUpper, h]
    rfl
  have htake : (spelling.toList ++ rest).take 5 = spelling.toList := List.take_left' hlength
  have hdrop : (spelling.toList ++ rest).drop 5 = rest := List.drop_left' hlength
  cases hcs : spelling.toList ++ rest with
  | nil =>
    rw [hcs] at htake
    rw [← htake] at hlength
    cases hlength
  | cons c cs =>
    rw [hcs] at htake hdrop
    have hc : c = '#' := by
      rw [← htake, List.take_succ_cons, List.map_cons, deletedMark, List.cons.injEq] at h
      exact eq_hash_of_toUpper h.1
    have hnumber : startsNumber (c :: cs) = false := by
      rw [hc]
      exact (startsNumber_cons (by decide) cs).trans (by decide)
    have hquote : c ≠ '"' := by
      rw [hc]
      decide
    have hname : isNameStart c = false := by
      rw [hc]
      decide
    simp only [scan, hnumber, hquote, hname, htake, h, Bool.false_eq_true, if_false, if_true,
      String.ofList_toList]
    exact congrArg (fun after => Except.ok (Lexeme.deletedReference spelling, after)) hdrop

/-- A word is taken off its own text, whatever does not go on with it. -/
theorem scan_source {lexeme : Lexeme} (h : lexeme.Formed) (hstop : lexeme ≠ .stop)
    {rest : List Char} (hrest : lexeme.EndsBefore rest) (position : Nat) :
    scan position (lexeme.source ++ rest) = .ok (lexeme, rest) := by
  cases lexeme with
  | number spelling =>
    obtain ⟨n, hn, rfl⟩ := h
    rw [source, text, String.toList_ofList]
    · exact scan_number hn hrest position
    · nofun
  | string content => exact scan_string content hrest position
  | name text => exact scan_name h hrest position
  | deletedReference spelling => exact scan_deletedReference h rest position
  | arithmetic op => cases op <;> exact scan_eq_scanSymbol position rfl (by decide)
  | comparison op =>
    cases op with
    | less => exact scan_eq_scanSymbol position (scanSymbol_less hrest) (by decide)
    | greater => exact scan_eq_scanSymbol position (scanSymbol_greater hrest) (by decide)
    | _ => exact scan_eq_scanSymbol position rfl (by decide)
  | stop => exact absurd rfl hstop
  | _ => exact scan_eq_scanSymbol position rfl (by decide)

/-! ## Words side by side -/

/-- The word is an operand or a name. -/
def isAtom : Lexeme → Bool
  | .number _ | .string _ | .name _ | .deletedReference _ => true
  | _ => false

/-- The word is a comparison sign. -/
def isComparison : Lexeme → Bool
  | .comparison _ => true
  | _ => false

/-- Written side by side the two remain two words. -/
def Apart (first second : Lexeme) : Prop :=
  ¬ (first.isAtom ∧ second.isAtom) ∧ ¬ (first.isComparison ∧ second.isComparison)

/-- The character can be the first of the word. -/
def startsWith (c : Char) : Lexeme → Bool
  | .number _ => Text.isDecimal c || c == '.'
  | .string _ => c == '"'
  | .name _ => isNameStart c
  | .arithmetic _ => ['+', '-', '*', '/'].contains c
  | .comparison _ => ['=', '<', '>'].contains c
  | .deletedReference _ => c == '#'
  | .leftParen | .rightParen | .comma | .colon => ['(', ')', ',', ':'].contains c
  | .stop => false

theorem exists_source_eq_cons {word : Lexeme} (h : word.Formed) (hstop : word ≠ .stop) :
    ∃ c cs, word.source = c :: cs ∧ word.startsWith c := by
  cases word with
  | number spelling =>
    obtain ⟨⟨whole, fraction, exponent⟩, hn, rfl⟩ := h
    have hsource : source (.number (String.ofList (Numeral.spelling ⟨whole, fraction, exponent⟩))) =
        Numeral.spelling ⟨whole, fraction, exponent⟩ := String.toList_ofList
    rw [hsource]
    cases whole with
    | cons c whole =>
      exact ⟨c, _, rfl, Bool.or_eq_true_iff.2 (.inl (hn.whole c List.mem_cons_self))⟩
    | nil =>
      cases fraction with
      | none => exact absurd ⟨rfl, rfl⟩ hn.nonempty
      | some ds => exact ⟨'.', _, rfl, rfl⟩
  | string content =>
    exact ⟨'"', _, by rw [source, Expr.stringText, String.toList_ofList, List.cons_append], rfl⟩
  | name text =>
    obtain ⟨c, cs, hname, hstart, -⟩ := h
    exact ⟨c, cs, hname, hstart⟩
  | deletedReference spelling =>
    cases hspelling : spelling.toList with
    | nil => rw [Formed, hspelling] at h; cases h
    | cons c cs =>
      rw [Formed, hspelling, List.map_cons, deletedMark, List.cons.injEq] at h
      exact ⟨c, cs, hspelling, beq_iff_eq.2 (eq_hash_of_toUpper h.1)⟩
  | arithmetic op => cases op <;> exact ⟨_, _, rfl, by decide⟩
  | comparison op => cases op <;> exact ⟨_, _, rfl, by decide⟩
  | stop => exact absurd rfl hstop
  | _ => exact ⟨_, _, rfl, by decide⟩

theorem isBlank_of_startsWith {word : Lexeme} {c : Char} (h : word.startsWith c) :
    Text.isBlank c = false := by
  have htable : ∀ c ∈ ['.', '"', '#', '+', '-', '*', '/', '=', '<', '>', '(', ')', ',', ':'],
      Text.isBlank c = false :=
    List.all_iff_forall_prop.1 (by decide)
  cases word with
  | number spelling =>
    rw [startsWith, Bool.or_eq_true, beq_iff_eq] at h
    rcases h with h | rfl
    · exact Text.isBlank_of_isDecimal h
    · exact htable _ (by decide)
  | name text => exact (isDigit_of_isNameStart h).1
  | stop => cases h
  | _ =>
    refine htable c ?_
    simp only [startsWith, List.contains_iff_mem, beq_iff_eq, List.mem_cons, List.not_mem_nil,
      or_false] at h ⊢
    grind

/-- The characters that operators and punctuation start with. -/
def marks : List Char := ['+', '-', '*', '/', '=', '<', '>', '(', ')', ',', ':']

theorem mem_marks_of_startsWith {word : Lexeme} {c : Char} (h : word.startsWith c)
    (hatom : word.isAtom = false) : c ∈ marks := by
  cases word with
  | stop => cases h
  | number | string | name | deletedReference => cases hatom
  | _ =>
    simp only [startsWith, List.contains_iff_mem, marks, List.mem_cons, List.not_mem_nil,
      or_false] at h ⊢
    grind

theorem isComparison_of_startsWith {word : Lexeme} {c : Char} (h : word.startsWith c)
    (hc : c ∈ ['=', '<', '>']) : word.isComparison := by
  have htable : ∀ c ∈ ['=', '<', '>'], Text.isDecimal c = false ∧ isNameStart c = false :=
    List.all_iff_forall_prop.1 (by decide)
  cases word with
  | comparison op => rfl
  | number spelling =>
    rw [startsWith, (htable c hc).1, Bool.false_or, beq_iff_eq] at h
    subst h
    exact absurd hc (by decide)
  | name text =>
    rw [startsWith, (htable c hc).2] at h
    cases h
  | stop => cases h
  | _ =>
    simp only [startsWith, List.contains_iff_mem, beq_iff_eq] at h
    simp only [List.mem_cons, List.not_mem_nil, or_false] at h hc
    grind

/-- What starts another word does not go on with the word, if the two stay apart. -/
theorem endsBefore_of_apart {first second : Lexeme} {c : Char} (h : second.startsWith c)
    (hapart : first.Apart second) (cs : List Char) : first.EndsBefore (c :: cs) := by
  have hmark (hatom : first.isAtom) : c ∈ marks :=
    mem_marks_of_startsWith h (Bool.eq_false_iff.2 fun hsecond => hapart.1 ⟨hatom, hsecond⟩)
  have hsign (hcomparison : first.isComparison) : c ∉ ['=', '<', '>'] := fun hc =>
    hapart.2 ⟨hcomparison, isComparison_of_startsWith h hc⟩
  cases first with
  | number spelling =>
    have htable : ∀ c ∈ marks, Text.isDecimal c = false ∧ c ≠ '.' ∧ c ≠ 'e' ∧ c ≠ 'E' :=
      List.all_iff_forall_prop.1 (by decide)
    rintro d ⟨⟩
    exact htable c (hmark rfl)
  | name text =>
    have htable : ∀ c ∈ marks, isNamePart c = false :=
      List.all_iff_forall_prop.1 (by decide)
    rintro d ⟨⟩
    exact htable c (hmark rfl)
  | string content =>
    rintro d ⟨⟩ rfl
    exact absurd (hmark rfl) (by decide)
  | comparison op =>
    have hc := hsign rfl
    cases op with
    | less =>
      rintro d ⟨⟩
      constructor <;> rintro rfl <;> exact hc (by decide)
    | greater =>
      rintro d ⟨⟩ rfl
      exact hc (by decide)
    | _ => trivial
  | _ => trivial

theorem endsBefore_nil (word : Lexeme) : word.EndsBefore [] := by
  cases word with
  | comparison op => cases op <;> simp [EndsBefore]
  | _ => simp [EndsBefore, Numeral.Ends]

end Lexeme

/-! ## Tokens one after another -/

section

variable {position : Nat} {c : Char} {rest after : List Char} {word : Lexeme}

theorem tokensFrom_of_scan (hblank : Text.isBlank c = false)
    (hscan : Lexeme.scan position (c :: rest) = .ok (word, after)) :
    tokensFrom position (c :: rest) =
      (tokensFrom (position + ((c :: rest).length - after.length)) after).map
        (⟨word, position⟩ :: ·) := by
  rw [tokensFrom, if_neg (by rw [hblank]; exact Bool.false_ne_true)]
  split
  · next e herror => rw [hscan] at herror; cases herror
  · next lexeme left hok =>
    rw [hscan] at hok
    obtain ⟨rfl, rfl⟩ := Prod.mk.inj (Except.ok.inj hok)
    cases tokensFrom (position + ((c :: rest).length - after.length)) after <;> rfl

theorem tokensFrom_of_scan_error {e : ParseError} (hblank : Text.isBlank c = false)
    (hscan : Lexeme.scan position (c :: rest) = .error e) :
    tokensFrom position (c :: rest) = .error e := by
  rw [tokensFrom, if_neg (by rw [hblank]; exact Bool.false_ne_true)]
  split
  · next fault herror =>
    rw [herror] at hscan
    exact congrArg Except.error (Except.error.inj hscan)
  · next hok => rw [hscan] at hok; cases hok

end

/-- Words that are written side by side and stay apart are the tokens of the text. -/
theorem exists_tokensFrom_source {words : List Lexeme} (position : Nat)
    (hformed : ∀ word ∈ words, word.Formed ∧ word ≠ .stop) (hapart : words.IsChain Lexeme.Apart) :
    ∃ tokens, tokensFrom position (words.flatMap Lexeme.source) = .ok tokens ∧
      tokens.map Token.lexeme = words ++ [.stop] := by
  induction words generalizing position with
  | nil => exact ⟨[⟨.stop, position⟩], by rw [List.flatMap_nil, tokensFrom], rfl⟩
  | cons word words ih =>
    obtain ⟨⟨hword, hstop⟩, hwords⟩ := List.forall_mem_cons.1 hformed
    obtain ⟨hfirst, hchain⟩ := List.isChain_cons.1 hapart
    have hends : word.EndsBefore (words.flatMap Lexeme.source) := by
      cases words with
      | nil => exact word.endsBefore_nil
      | cons next words =>
        obtain ⟨hnext, hnextStop⟩ := hwords next List.mem_cons_self
        obtain ⟨c, cs, hsource, hstarts⟩ := Lexeme.exists_source_eq_cons hnext hnextStop
        rw [List.flatMap_cons, hsource, List.cons_append]
        exact Lexeme.endsBefore_of_apart hstarts (hfirst next rfl) _
    obtain ⟨c, cs, hsource, hstarts⟩ := Lexeme.exists_source_eq_cons hword hstop
    have hscan := Lexeme.scan_source hword hstop hends position
    rw [hsource, List.cons_append] at hscan
    rw [List.flatMap_cons, hsource, List.cons_append,
      tokensFrom_of_scan (Lexeme.isBlank_of_startsWith hstarts) hscan]
    obtain ⟨tokens, htokens, hlexemes⟩ := ih _ hwords hchain
    exact ⟨⟨word, position⟩ :: tokens, by rw [htokens]; rfl, by
      rw [List.map_cons, hlexemes, List.cons_append]⟩

end Spreadsheet

import Spreadsheet.Proofs.Formula.Lexing
import Spreadsheet.Proofs.Text.Recased

/-!
# Words in another case

When the letters of a formula's text are written in one case, but for those in quotation marks,
each token keeps its kind and its position, and its letters are written in the case
(`tokenize_recased`); the content of a string stays. That is shown from the parts of a numeral up,
for what is taken off a text and for what is left of it.
-/

namespace Spreadsheet

open Text (recasedFrom)

variable {case : Text.LetterCase}

/-! ## Numerals -/

namespace Numeral

variable {n : Numeral}

/-- The exponent with its letter in the case. -/
def Exponent.recased (case : Text.LetterCase) (e : Exponent) : Exponent :=
  { e with letter := case.write e.letter }

/-- The numeral with the letter of its exponent in the case. -/
def recased (case : Text.LetterCase) (n : Numeral) : Numeral :=
  { n with exponent := n.exponent.map (Exponent.recased case) }

theorem toDecimal_recased (n : Numeral) : (n.recased case).toDecimal = n.toDecimal := by
  obtain ⟨whole, fraction, _ | exponent⟩ := n <;> rfl

theorem write_eq_letter_iff (c : Char) :
    (case.write c = 'e' ∨ case.write c = 'E') ↔ (c = 'e' ∨ c = 'E') :=
  decide_eq_decide.1 (case.apply_write (f := fun c => decide (c = 'e' ∨ c = 'E')) (by decide) c)

theorem formed_recased (h : n.Formed) : (n.recased case).Formed where
  whole := h.whole
  fraction := h.fraction
  nonempty := h.nonempty
  exponent := by
    rintro _ he
    obtain ⟨e, hexponent, rfl⟩ := Option.map_eq_some_iff.1 he
    obtain ⟨hletter, hsign, hnonempty, hdigits⟩ := h.exponent e hexponent
    exact ⟨(write_eq_letter_iff e.letter).2 hletter, hsign, hnonempty, hdigits⟩

theorem map_write_of_isDecimal {digits : List Char} (h : ∀ c ∈ digits, Text.isDecimal c) :
    digits.map case.write = digits :=
  (List.map_congr_left fun c hc => case.write_of_isDecimal (h c hc)).trans (List.map_id digits)

theorem spelling_recasedExponent {e : Exponent} (h : e.Formed) :
    (e.recased case).spelling = e.spelling.map case.write := by
  have hsign : e.sign.toList.map case.write = e.sign.toList := by
    cases hsign : e.sign with
    | none => rfl
    | some c =>
      have hc : case.write c = c := by
        rcases h.sign c hsign with rfl | rfl <;> exact case.write_of_not_isAlpha (by decide)
      rw [Option.toList_some, List.map_singleton, hc]
  simp [Exponent.spelling, Exponent.recased, hsign, map_write_of_isDecimal h.digits]

/-- The spelling of a numeral in the case is its spelling, in the case. -/
theorem spelling_recased (h : n.Formed) :
    (n.recased case).spelling = n.spelling.map case.write := by
  obtain ⟨whole, fraction, exponent⟩ := n
  have hpoint : case.write '.' = '.' := case.write_of_not_isAlpha (by decide)
  have hfraction : ((fraction.map ('.' :: ·)).getD []).map case.write =
      (fraction.map ('.' :: ·)).getD [] := by
    cases fraction with
    | none => rfl
    | some digits =>
      rw [Option.map_some, Option.getD_some, List.map_cons, hpoint,
        map_write_of_isDecimal (h.fraction digits rfl)]
  have hexponent : ((exponent.map (Exponent.recased case)).map Exponent.spelling).getD [] =
      ((exponent.map Exponent.spelling).getD []).map case.write := by
    cases exponent with
    | none => rfl
    | some e => exact spelling_recasedExponent (h.exponent e rfl)
  simp only [spelling, recased, List.map_append, map_write_of_isDecimal h.whole, hfraction,
    hexponent]

theorem scanDigits_recasedFrom (cs : List Char) :
    scanDigits (recasedFrom case false cs) =
      ((scanDigits cs).1, recasedFrom case false (scanDigits cs).2) := by
  obtain ⟨htake, hdrop⟩ := Text.takeWhile_recasedFrom (p := Text.isDecimal) (by decide)
    case.isDecimal_write cs
  rw [scanDigits, htake, hdrop, map_write_of_isDecimal (List.all_eq_true.1 List.all_takeWhile)]
  rfl

theorem scanFraction_recasedFrom (cs : List Char) :
    scanFraction (recasedFrom case false cs) =
      ((scanFraction cs).1, recasedFrom case false (scanFraction cs).2) := by
  cases cs with
  | nil => rfl
  | cons c rest =>
    by_cases hc : c = '.'
    · rw [hc, Text.recasedFrom_mark (by decide) (by decide)]
      simp [scanFraction, scanDigits_recasedFrom]
    · have hfirst : ∀ d ∈ (c :: rest).head?, d ≠ '.' := by simpa using hc
      rw [scanFraction_of_ne hfirst,
        scanFraction_of_ne (Text.head_recasedFrom_ne (by decide) hfirst)]

theorem scanSign_of_ne {rest : List Char} (hplus : ∀ c ∈ rest.head?, c ≠ '+')
    (hminus : ∀ c ∈ rest.head?, c ≠ '-') : scanSign rest = (none, rest) := by
  unfold scanSign
  split
  · exact absurd rfl (hplus _ rfl)
  · exact absurd rfl (hminus _ rfl)
  · rfl

theorem scanSign_recasedFrom (cs : List Char) :
    scanSign (recasedFrom case false cs) =
      ((scanSign cs).1, recasedFrom case false (scanSign cs).2) := by
  cases cs with
  | nil => rfl
  | cons c rest =>
    by_cases hc : c = '+' ∨ c = '-'
    · rcases hc with rfl | rfl <;> rw [Text.recasedFrom_mark (by decide) (by decide)] <;> rfl
    · rw [not_or] at hc
      have hplus : ∀ d ∈ (c :: rest).head?, d ≠ '+' := by simpa using hc.1
      have hminus : ∀ d ∈ (c :: rest).head?, d ≠ '-' := by simpa using hc.2
      rw [scanSign_of_ne hplus hminus, scanSign_of_ne (Text.head_recasedFrom_ne (by decide) hplus)
        (Text.head_recasedFrom_ne (by decide) hminus)]

theorem scanExponent_recasedFrom (cs : List Char) :
    scanExponent (recasedFrom case false cs) =
      ((scanExponent cs).1.map (Exponent.recased case),
        recasedFrom case false (scanExponent cs).2) := by
  cases cs with
  | nil => rfl
  | cons c rest =>
    by_cases hc : c = '"'
    · rw [hc, Text.recasedFrom_quote]
      simp [scanExponent, Text.recasedFrom_quote]
    · rw [Text.recasedFrom_cons hc]
      simp only [scanExponent, scanSign_recasedFrom, scanDigits_recasedFrom, write_eq_letter_iff]
      split
      · rfl
      · rw [Text.recasedFrom_cons hc]
        rfl

/-- A numeral is taken off a text in the case as it is off the text. -/
theorem scan_recasedFrom (cs : List Char) :
    scan (recasedFrom case false cs) =
      (scan cs).map (Prod.map (recased case) (recasedFrom case false)) := by
  simp only [scan, scanDigits_recasedFrom, scanFraction_recasedFrom, scanExponent_recasedFrom]
  split <;> rfl

end Numeral

/-! ## Words -/

namespace Lexeme

/-- The word with its letters in the case, a string as it is. -/
def recased (case : Text.LetterCase) : Lexeme → Lexeme
  | .number spelling => .number (case.writeAll spelling)
  | .name text => .name (case.writeAll text)
  | .deletedReference spelling => .deletedReference (case.writeAll spelling)
  | word => word

theorem startsNumber_recasedFrom (cs : List Char) :
    startsNumber (recasedFrom case false cs) = startsNumber cs := by
  cases cs with
  | nil => rfl
  | cons c rest =>
    by_cases hc : c = '.'
    · rw [hc, Text.recasedFrom_mark (by decide) (by decide)]
      cases rest with
      | nil => rfl
      | cons d rest =>
        rw [recasedFrom, if_neg Bool.false_ne_true]
        exact case.isDigit_write d
    · have hwrite : case.write c ≠ '.' := by rwa [Ne, case.write_eq_iff (by decide)]
      rw [recasedFrom, if_neg Bool.false_ne_true, startsNumber_cons hwrite, startsNumber_cons hc,
        case.isDigit_write]

/-- The content of a string stays as it is. -/
theorem scanString_recasedFrom {cs content after : List Char}
    (h : scanString cs = some (content, after)) :
    scanString (recasedFrom case true cs) = some (content, recasedFrom case false after) := by
  fun_induction scanString cs generalizing content with
  | case1 => cases h
  | case2 rest ih =>
    obtain ⟨⟨inner, _⟩, hinner, heq⟩ := Option.map_eq_some_iff.1 h
    cases heq
    rw [Text.recasedFrom_quote, Text.recasedFrom_quote]
    simp [scanString, ih hinner]
  | case3 rest hrest =>
    cases h
    rw [Text.recasedFrom_quote]
    cases after with
    | nil => rfl
    | cons c rest =>
      have hc : c ≠ '"' := fun hc => hrest rest (by rw [hc])
      have hwrite : case.write c ≠ '"' := by rwa [Ne, case.write_eq_iff (by decide)]
      simp [Text.recasedFrom_cons hc, scanString, hwrite]
  | case4 c rest _ hc ih =>
    obtain ⟨⟨inner, _⟩, hinner, heq⟩ := Option.map_eq_some_iff.1 h
    cases heq
    have hc : c ≠ '"' := hc
    rw [Text.recasedFrom_cons_quoted hc]
    simp [scanString, hc, ih hinner]

theorem scanSymbol_recasedFrom {cs after : List Char} {lexeme : Lexeme}
    (h : scanSymbol cs = some (lexeme, after)) :
    scanSymbol (recasedFrom case false cs) =
      some (lexeme.recased case, recasedFrom case false after) := by
  have hne {d : Char} {rest : List Char} (h : ∀ others, rest = d :: others → False) :
      ∀ c ∈ rest.head?, c ≠ d := by
    rintro c hc rfl
    obtain ⟨others, hothers⟩ := List.head?_eq_some_iff.1 hc
    exact h others hothers
  unfold scanSymbol at h
  split at h
  -- A sign that another may go on with.
  case h_5 rest hequal hgreater =>
    cases h
    rw [Text.recasedFrom_mark (by decide) (by decide)]
    exact scanSymbol_less fun c hc =>
      ⟨Text.head_recasedFrom_ne (by decide) (hne hequal) c hc,
        Text.head_recasedFrom_ne (by decide) (hne hgreater) c hc⟩
  case h_6 rest hequal =>
    cases h
    rw [Text.recasedFrom_mark (by decide) (by decide)]
    exact scanSymbol_greater (Text.head_recasedFrom_ne (by decide) (hne hequal))
  case h_15 => cases h
  all_goals
    cases h
    repeat rw [Text.recasedFrom_mark (by decide) (by decide)]
    rfl

theorem isNameStart_write (case : Text.LetterCase) (c : Char) :
    isNameStart (case.write c) = isNameStart c :=
  case.apply_write (by decide +kernel) c

theorem isNamePart_write (case : Text.LetterCase) (c : Char) :
    isNamePart (case.write c) = isNamePart c :=
  case.apply_write (by decide +kernel) c

/-- There are no quotation marks in the mark of a deleted reference. -/
theorem ne_quote_of_mem_deletedMark {front : List Char} (h : front.map Char.toUpper = deletedMark) :
    ∀ c ∈ front, c ≠ '"' := by
  rintro c hc rfl
  have hmem := List.mem_map_of_mem (f := Char.toUpper) hc
  rw [h] at hmem
  exact absurd hmem (by decide)

/-- The mark of a deleted reference is one in the case, and ends where it did. -/
theorem take_recasedFrom (case : Text.LetterCase) {cs : List Char}
    (h : (cs.take 5).map Char.toUpper = deletedMark) :
    (recasedFrom case false cs).take 5 = (cs.take 5).map case.write ∧
      (recasedFrom case false cs).drop 5 = recasedFrom case false (cs.drop 5) := by
  have hlength : ((cs.take 5).map case.write).length = 5 := by
    rw [List.length_map, ← List.length_map Char.toUpper, h]
    rfl
  have hfront : recasedFrom case false cs =
      (cs.take 5).map case.write ++ recasedFrom case false (cs.drop 5) := by
    rw [← Text.recasedFrom_append (ne_quote_of_mem_deletedMark h), List.take_append_drop]
  rw [hfront]
  exact ⟨List.take_left' hlength, List.drop_left' hlength⟩

section Scan

variable (case) {position : Nat} {c : Char} {rest after : List Char} {lexeme : Lexeme}

theorem scan_quote_recasedFrom (h : scan position ('"' :: rest) = .ok (lexeme, after)) :
    scan position (recasedFrom case false ('"' :: rest)) =
      .ok (lexeme.recased case, recasedFrom case false after) := by
  have hstart (rest : List Char) : startsNumber ('"' :: rest) = false :=
    (startsNumber_cons (by decide) rest).trans (by decide)
  rw [Text.recasedFrom_quote]
  simp only [scan, hstart, Bool.false_eq_true, if_false, if_true] at h ⊢
  split at h
  · next content after' hscan =>
    cases h
    rw [Bool.not_false, scanString_recasedFrom hscan]
    rfl
  · cases h

/-- A word is taken off a text in the case as it is off the text. -/
theorem scan_recasedFrom (h : scan position (c :: rest) = .ok (lexeme, after)) :
    scan position (recasedFrom case false (c :: rest)) =
      .ok (lexeme.recased case, recasedFrom case false after) := by
  by_cases hquote : c = '"'
  · subst hquote
    exact scan_quote_recasedFrom case h
  · have hcons : recasedFrom case false (c :: rest) = case.write c :: recasedFrom case false rest :=
      Text.recasedFrom_cons hquote rest
    have hstart : startsNumber (recasedFrom case false (c :: rest)) = startsNumber (c :: rest) :=
      startsNumber_recasedFrom (c :: rest)
    have hmark : ((recasedFrom case false (c :: rest)).take 5).map Char.toUpper =
        ((c :: rest).take 5).map Char.toUpper := by
      rw [List.map_take, Text.map_toUpper_recasedFrom, ← List.map_take]
    have hwrite : case.write c ≠ '"' := by rwa [Ne, case.write_eq_iff (by decide)]
    -- Each test of the first characters says the same in the case: both texts take one branch.
    rw [hcons] at hstart hmark ⊢
    simp only [scan, hstart, hquote, hwrite, hmark, isNameStart_write, if_false] at h ⊢
    split at h
    · next hnumber =>
      rw [if_pos hnumber, ← hcons, Numeral.scan_recasedFrom]
      split at h
      · next n after' hscan =>
        cases h
        simp only [hscan, Option.map_some, Prod.map_apply, recased, case.writeAll_ofList,
          Numeral.spelling_recased (Numeral.formed_of_scan hscan)]
      · cases h
    · next hnumber =>
      rw [if_neg hnumber]
      split at h
      · next hname =>
        cases h
        obtain ⟨htake, hdrop⟩ := Text.takeWhile_recasedFrom (p := isNamePart) (by decide)
          (isNamePart_write case) rest
        rw [if_pos hname, htake, hdrop, ← List.map_cons, ← case.writeAll_ofList]
        rfl
      · next hname =>
        rw [if_neg hname]
        split at h
        · next hdeleted =>
          cases h
          obtain ⟨htake, hdrop⟩ := take_recasedFrom case hdeleted
          rw [hcons] at htake hdrop
          rw [List.drop_succ_cons, List.drop_succ_cons] at hdrop
          rw [if_pos hdeleted, htake, hdrop, ← case.writeAll_ofList]
          rfl
        · next hdeleted =>
          rw [if_neg hdeleted, ← hcons]
          split at h
          · next hscan =>
            cases h
            rw [scanSymbol_recasedFrom hscan]
          · cases h

end Scan

end Lexeme

/-! ## Tokens -/

/-- The token with its letters in the case. -/
def Token.recased (case : Text.LetterCase) (token : Token) : Token :=
  { token with lexeme := token.lexeme.recased case }

theorem tokensFrom_recasedFrom {position : Nat} {cs : List Char} {tokens : List Token}
    (h : tokensFrom position cs = .ok tokens) :
    tokensFrom position (recasedFrom case false cs) = .ok (tokens.map (Token.recased case)) := by
  fun_induction tokensFrom position cs generalizing tokens with
  | case1 position =>
    cases h
    rw [recasedFrom, tokensFrom]
    rfl
  | case2 position c rest hblank ih =>
    have hquote : c ≠ '"' := by
      rintro rfl
      exact absurd hblank (by decide)
    rw [Text.recasedFrom_cons hquote, tokensFrom, if_pos (by rwa [case.isBlank_write])]
    exact ih h
  | case3 position c rest hblank e hscan => cases h
  | case4 position c rest hblank lexeme after hscan ih =>
    obtain ⟨others, hothers, h⟩ := bind_eq_ok.1 h
    cases h
    have hcons : recasedFrom case false (c :: rest) =
        case.write c :: recasedFrom case (if c = '"' then !false else false) rest := by
      rw [recasedFrom, if_neg Bool.false_ne_true]
    have hword := Lexeme.scan_recasedFrom case hscan
    have hlength : (recasedFrom case false (c :: rest)).length -
        (recasedFrom case false after).length = (c :: rest).length - after.length := by
      rw [Text.length_recasedFrom, Text.length_recasedFrom]
    rw [hcons] at hword hlength ⊢
    have hstart : Text.isBlank (case.write c) = false := by
      rwa [case.isBlank_write, Bool.eq_false_iff]
    rw [tokensFrom_of_scan hstart hword, hlength, ih hothers]
    rfl

/-- The tokens of a text in another case are its tokens, in the case. -/
theorem tokenize_recased {text : String} {tokens : List Token} (h : tokenize text = .ok tokens) :
    tokenize (Text.recased case text) = .ok (tokens.map (Token.recased case)) := by
  rw [tokenize, Text.recased, String.toList_ofList]
  exact tokensFrom_recasedFrom h

end Spreadsheet

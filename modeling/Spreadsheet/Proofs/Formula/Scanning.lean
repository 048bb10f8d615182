import Spreadsheet.Proofs.Formula.Lexing
import Spreadsheet.Proofs.Formula.Position
import Spreadsheet.Proofs.Number.Longest
import Spreadsheet.Proofs.Number.Reading

/-!
# What is taken off a text

A word is taken off a text exactly if the text starts with what the word is written as and does not
go on with it (`Lexeme.scan_eq_ok_iff`). No word is taken off a text where a string opens that is
not closed, nor where the text starts with no word (`Lexeme.scan_eq_error`).
-/

namespace Spreadsheet

namespace Lexeme

variable {position : Nat} {c : Char} {cs rest after : List Char} {word : Lexeme}

/-! ## Strings -/

/-- The text with each quotation mark written twice. -/
def doubled (content : List Char) : List Char :=
  content.flatMap fun c => if c = '"' then ['"', '"'] else [c]

/-- The text with each doubled quotation mark written once. -/
def halved : List Char → List Char
  | '"' :: '"' :: rest => '"' :: halved rest
  | c :: rest => c :: halved rest
  | [] => []

theorem doubled_quote (content : List Char) :
    doubled ('"' :: content) = '"' :: '"' :: doubled content := rfl

theorem doubled_cons (hc : c ≠ '"') (content : List Char) :
    doubled (c :: content) = c :: doubled content := by
  rw [doubled, List.flatMap_cons, if_neg hc]
  rfl

theorem halved_doubled (content : List Char) : halved (doubled content) = content := by
  induction content with
  | nil => rfl
  | cons c content ih =>
    by_cases hc : c = '"'
    · rw [hc, doubled_quote, halved, ih]
    · rw [doubled_cons hc, halved, ih]
      exact fun _ hquote => absurd hquote hc

theorem source_string (content : String) :
    source (.string content) = '"' :: doubled content.toList ++ ['"'] := String.toList_ofList

theorem ne_of_mem_head (h : ∀ tail, rest = c :: tail → False) : ∀ d ∈ rest.head?, d ≠ c := by
  rintro d hd rfl
  obtain ⟨tail, rfl⟩ := List.head?_eq_some_iff.1 hd
  exact h tail rfl

/-- The content of a string ends at the first quotation mark that is not one of two. -/
theorem scanString_eq_some_iff {content : List Char} :
    scanString cs = some (content, after) ↔
      doubled content ++ '"' :: after = cs ∧ ∀ c ∈ after.head?, c ≠ '"' := by
  constructor
  · intro h
    fun_induction scanString cs generalizing content with
    | case1 => cases h
    | case2 rest ih =>
      obtain ⟨⟨inner, left⟩, hinner, heq⟩ := Option.map_eq_some_iff.1 h
      cases heq
      obtain ⟨happend, hhead⟩ := ih hinner
      exact ⟨by rw [doubled_quote, List.cons_append, List.cons_append, happend], hhead⟩
    | case3 rest hnext =>
      cases h
      exact ⟨rfl, ne_of_mem_head hnext⟩
    | case4 c rest _ hc ih =>
      obtain ⟨⟨inner, left⟩, hinner, heq⟩ := Option.map_eq_some_iff.1 h
      cases heq
      obtain ⟨happend, hhead⟩ := ih hinner
      exact ⟨by rw [doubled_cons hc, List.cons_append, happend], hhead⟩
  · rintro ⟨rfl, hhead⟩
    exact scanString_source content hhead

/-- A text in which every quotation mark is one of two does not close a string. -/
theorem scanString_eq_none (h : scanString cs = none) : ∃ content, cs = doubled content := by
  fun_induction scanString cs with
  | case1 => exact ⟨[], rfl⟩
  | case2 rest ih =>
    obtain ⟨content, rfl⟩ := ih (Option.map_eq_none_iff.1 h)
    exact ⟨'"' :: content, (doubled_quote content).symm⟩
  | case3 => cases h
  | case4 c rest _ hc ih =>
    obtain ⟨content, rfl⟩ := ih (Option.map_eq_none_iff.1 h)
    exact ⟨c :: content, (doubled_cons hc content).symm⟩

/-! ## Words -/

/-- The word is cut off before a text where it has to be: a number is the longest that the text
starts with, and what follows another word does not go on with it. -/
def Stops (rest : List Char) : Lexeme → Prop
  | .number spelling => ∀ m : Numeral, m.Formed → m.spelling <+: spelling.toList ++ rest →
      m.spelling.length ≤ spelling.toList.length
  | word => word.EndsBefore rest

theorem source_number (n : Numeral) :
    source (.number (String.ofList n.spelling)) = n.spelling := String.toList_ofList

theorem source_name (name : String) : source (.name name) = name.toList := rfl

theorem source_deletedReference (spelling : String) :
    source (.deletedReference spelling) = spelling.toList := rfl

theorem scanSymbol_eq_some (h : scanSymbol cs = some (word, after)) :
    word.source ++ after = cs ∧ word.Stops after := by
  unfold scanSymbol at h
  split at h <;> cases h
  all_goals refine ⟨rfl, ?_⟩
  all_goals try trivial
  · next hequal hgreater =>
    exact fun c hc => ⟨ne_of_mem_head hequal c hc, ne_of_mem_head hgreater c hc⟩
  · next hequal => exact ne_of_mem_head hequal

/-- A word is taken off a text exactly if the text starts with what the word is written as and what
follows does not go on with it. -/
theorem scan_eq_ok_iff :
    scan position (c :: rest) = .ok (word, after) ↔
      (word.Formed ∧ word ≠ .stop) ∧ word.source ++ after = c :: rest ∧ word.Stops after := by
  constructor
  · intro h
    refine ⟨formed_of_scan h, ?_⟩
    simp only [scan] at h
    repeat' split at h
    all_goals try cases h
    · next hscan =>
      obtain ⟨-, happend, hlongest⟩ := Numeral.scan_eq_some_iff.1 hscan
      refine ⟨by rw [source_number, happend], ?_⟩
      rwa [Stops, String.toList_ofList, happend]
    · next hquote _ _ hscan =>
      obtain ⟨happend, hhead⟩ := scanString_eq_some_iff.1 hscan
      refine ⟨?_, hhead⟩
      rw [source_string, String.toList_ofList, hquote, ← happend]
      simp
    · refine ⟨?_, fun d hd => ?_⟩
      · rw [source_name, String.toList_ofList, List.cons_append, List.takeWhile_append_dropWhile]
      · have hhead := List.head?_dropWhile_not isNamePart rest
        rwa [Option.mem_def.1 hd] at hhead
    · refine ⟨?_, trivial⟩
      rw [source_deletedReference, String.toList_ofList]
      exact List.take_append_drop 5 (c :: rest)
    · next hscan => exact scanSymbol_eq_some hscan
  · rintro ⟨⟨hformed, hstop⟩, happend, hstops⟩
    rw [← happend]
    cases word with
    | number spelling =>
      obtain ⟨n, hn, rfl⟩ := hformed
      rw [Stops, String.toList_ofList] at hstops
      have hscan := Numeral.scan_eq_some_iff.2 ⟨hn, rfl, hstops⟩
      rw [source_number]
      exact scan_of_startsNumber (startsNumber_spelling hn after) hscan position
    | _ => exact scan_source hformed hstop hstops position

/-! ## Before white space -/

theorem isNamePart_of_isBlank (h : Text.isBlank c) : isNamePart c = false := by
  have htable : ∀ n < 128, Text.isBlank (Char.ofNat n) → isNamePart (Char.ofNat n) = false := by
    decide +kernel
  rw [Bool.eq_false_iff]
  intro hpart
  have hascii : c.toNat < 128 := by
    rw [isNamePart, Bool.or_eq_true, beq_iff_eq] at hpart
    rcases hpart with hletter | rfl
    · exact Text.toNat_lt_of_isAlphanum hletter
    · decide
  have hnot := Text.forall_ascii (p := fun c => Text.isBlank c → isNamePart c = false) htable
    hascii h
  rw [hpart] at hnot
  cases hnot

/-- White space does not go on with a word. -/
theorem endsBefore_of_blank (word : Lexeme) (hrest : ∀ c ∈ rest.head?, Text.isBlank c) :
    word.EndsBefore rest := by
  have hne (d : Char) (hd : Text.isBlank d = false) : ∀ c ∈ rest.head?, c ≠ d := by
    rintro c hc rfl
    rw [hrest c hc] at hd
    cases hd
  cases word with
  | number spelling =>
    refine fun c hc => ⟨?_, hne '.' (by decide) c hc, hne 'e' (by decide) c hc,
      hne 'E' (by decide) c hc⟩
    rw [Bool.eq_false_iff]
    exact fun hdecimal => absurd (hrest c hc) (by rw [Text.isBlank_of_isDecimal hdecimal]; decide)
  | name text => exact fun c hc => isNamePart_of_isBlank (hrest c hc)
  | string content => exact hne '"' (by decide)
  | comparison op =>
    cases op with
    | less => exact fun c hc => ⟨hne '=' (by decide) c hc, hne '>' (by decide) c hc⟩
    | greater => exact hne '=' (by decide)
    | _ => trivial
  | _ => trivial

theorem prefix_of_blank {front part : List Char} (h : part <+: front ++ rest)
    (hpart : ∀ c ∈ part, Text.isBlank c = false) (hrest : ∀ c ∈ rest.head?, Text.isBlank c) :
    part <+: front := by
  rcases List.prefix_or_prefix_of_prefix h (List.prefix_append front rest) with hshort | ⟨more, rfl⟩
  · exact hshort
  · cases more with
    | nil => rw [List.append_nil]
    | cons c more =>
      obtain ⟨after, hafter⟩ := (List.prefix_append_right_inj front).1 h
      have hblank := hrest c (by rw [← hafter]; rfl)
      rw [hpart c (by simp)] at hblank
      cases hblank

/-- A word that stops before a text also stops before the front of it with white space, or nothing,
after that. -/
theorem Stops.of_blank {middle back : List Char} (h : word.Stops (middle ++ back))
    (hrest : ∀ c ∈ rest.head?, Text.isBlank c) : word.Stops (middle ++ rest) := by
  have hends (h : word.EndsBefore (middle ++ back)) : word.EndsBefore (middle ++ rest) := by
    cases middle with
    | nil => exact endsBefore_of_blank word hrest
    | cons c middle =>
      cases word with
      | comparison op => cases op <;> exact h
      | _ => exact h
  cases word with
  | number spelling =>
    intro m hm hprefix
    refine h m hm ?_
    rw [← List.append_assoc] at hprefix ⊢
    have hfront := prefix_of_blank hprefix (fun c hc => hm.isBlank_of_mem hc) hrest
    exact hfront.trans (List.prefix_append _ back)
  | _ => exact hends h

/-! ## Where no word is taken -/

/-- What starts with a mark is scanned as a symbol. -/
theorem exists_scan_of_mem_marks (h : c ∈ marks) (rest : List Char) (position : Nat) :
    ∃ result, scan position (c :: rest) = .ok result := by
  have htable : ∀ c ∈ marks, c ≠ '.' ∧ Text.isDigit c = false ∧ c ≠ '"' ∧
      isNameStart c = false ∧ c ≠ '#' :=
    List.all_iff_forall_prop.1 (by decide)
  have hc := htable c h
  cases hsymbol : scanSymbol (c :: rest) with
  | some result => exact ⟨result, scan_eq_scanSymbol position hsymbol hc⟩
  | none =>
    exfalso
    simp only [marks, List.mem_cons, List.not_mem_nil, or_false] at h
    unfold scanSymbol at hsymbol
    split at hsymbol <;> simp_all

theorem scan_quote (rest : List Char) (position : Nat) :
    (∃ result, scan position ('"' :: rest) = .ok result) ∨
      scan position ('"' :: rest) = .error ⟨.unterminatedString, position⟩ := by
  have hnumber : startsNumber ('"' :: rest) = false :=
    (startsNumber_cons (by decide) rest).trans (by decide)
  cases hscan : scanString rest with
  | some result =>
    obtain ⟨content, after⟩ := result
    refine .inl ⟨(.string (String.ofList content), after), ?_⟩
    simp only [scan, hnumber, hscan, Bool.false_eq_true, if_false, if_true]
  | none =>
    refine .inr ?_
    simp only [scan, hnumber, hscan, Bool.false_eq_true, if_false, if_true]

/-- Off a text that starts with a word some word is taken, or a string opens that is not closed. -/
theorem scan_of_source (hformed : word.Formed) (hstop : word ≠ .stop) (rest : List Char)
    (position : Nat) :
    (∃ result, scan position (word.source ++ rest) = .ok result) ∨
      scan position (word.source ++ rest) = .error ⟨.unterminatedString, position⟩ := by
  obtain ⟨c, cs, hsource, hstarts⟩ := exists_source_eq_cons hformed hstop
  cases hatom : word.isAtom with
  | false =>
    rw [hsource]
    exact .inl (exists_scan_of_mem_marks (mem_marks_of_startsWith hstarts hatom) _ position)
  | true =>
    cases word with
    | number spelling =>
      obtain ⟨n, hn, rfl⟩ := hformed
      obtain ⟨longer, after, hscan, -⟩ := Numeral.exists_scan_append hn rest
      rw [source_number]
      exact .inl ⟨_, scan_of_startsNumber (startsNumber_spelling hn rest) hscan position⟩
    | string content =>
      rw [source_string]
      exact scan_quote _ position
    | name text =>
      obtain ⟨-, hdigit, hpoint, hquote⟩ := isDigit_of_isNameStart hstarts
      have hnumber := (startsNumber_cons hpoint (cs ++ rest)).trans hdigit
      have hname : isNameStart c := hstarts
      rw [hsource, List.cons_append]
      simp [scan, hnumber, hquote, hname]
    | deletedReference spelling => exact .inl ⟨_, scan_deletedReference hformed rest position⟩
    | _ => cases hatom

/-- Where no word is taken off a text, a string opens that is not closed, or the text starts with no
word. -/
theorem scan_eq_error {e : ParseError} (h : scan position (c :: rest) = .error e) :
    (e.fault = .unterminatedString ∧ c = '"' ∧ ∃ content, rest = doubled content) ∨
      (e.fault ≠ .unterminatedString ∧
        ∀ word : Lexeme, word.Formed → word ≠ .stop → ¬ word.source <+: c :: rest) := by
  by_cases hfault : e.fault = .unterminatedString
  · refine .inl ⟨hfault, ?_⟩
    simp only [scan] at h
    repeat' split at h
    all_goals cases h
    all_goals try cases hfault
    next hquote _ hscan => exact ⟨hquote, scanString_eq_none hscan⟩
  · refine .inr ⟨hfault, ?_⟩
    rintro word hformed hstop ⟨after, happend⟩
    have hscan := scan_of_source hformed hstop after position
    rw [happend, h] at hscan
    obtain ⟨result, hok⟩ | herror := hscan
    · cases hok
    · cases herror
      exact hfault rfl

end Lexeme

/-- A word that stops before what follows it is the first token, and the others are those of what
follows. -/
theorem tokensFrom_source {word : Lexeme} {rest : List Char} (hformed : word.Formed)
    (hstop : word ≠ .stop) (hstops : word.Stops rest) (position : Nat) :
    tokensFrom position (word.source ++ rest) =
      (tokensFrom (position + word.source.length) rest).map (⟨word, position⟩ :: ·) := by
  obtain ⟨c, cs, hsource, hstarts⟩ := Lexeme.exists_source_eq_cons hformed hstop
  have happend : word.source ++ rest = c :: (cs ++ rest) := by rw [hsource, List.cons_append]
  have hscan : Lexeme.scan position (c :: (cs ++ rest)) = .ok (word, rest) :=
    Lexeme.scan_eq_ok_iff.2 ⟨⟨hformed, hstop⟩, happend, hstops⟩
  have hlength : (c :: (cs ++ rest)).length - rest.length = word.source.length := by
    rw [← happend, List.length_append, Nat.add_sub_cancel]
  rw [happend, tokensFrom_of_scan (Lexeme.isBlank_of_startsWith hstarts) hscan, hlength]

end Spreadsheet

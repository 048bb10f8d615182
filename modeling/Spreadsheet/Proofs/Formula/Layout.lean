import Spreadsheet.Proofs.Formula.Scanning
import Spreadsheet.Proofs.Number.Reading

/-!
# How tokens lie in a text

A text is made up of pieces, words and white space, as far as it has tokens (`exists_laid`), and its
tokens are the words of the pieces (`tokensFrom_of_laid`). So they lie in the text in order, each as
it is written, with nothing but white space between and around them; white space that is put between
two pieces only moves the tokens after it; and where a text has no tokens, no word starts at the
fault, or a string that is not closed.
-/

namespace Spreadsheet

/-- The part of a text is one that the word is read from: of a string the content in quotation
marks, with each mark of it doubled, and of another word its text. -/
def Lexeme.ReadFrom (part : List Char) : Lexeme → Prop
  | .string content => ∃ inner, part = '"' :: inner ++ ['"'] ∧ doubled content.toList = inner ∧
      halved inner = content.toList
  | word => part = word.text.toList

namespace Token

/-- The count of characters up to the end of the token. -/
def finish (token : Token) : Nat := token.position + token.lexeme.source.length

/-- The part of a text at the place of the token. -/
def slice (cs : List Char) (token : Token) : List Char :=
  (cs.drop token.position).take token.lexeme.source.length

/-- The token is as many characters later, if it does not come before the start. -/
def moved (start count : Nat) (token : Token) : Token :=
  if start ≤ token.position then { token with position := token.position + count } else token

/-- The tokens lie in the text in order, each read from the part at its place, and leave only white
space out; the last one is the stop at the end of the text. -/
structure Cover (cs : List Char) (tokens : List Token) : Prop where
  within : ∀ token ∈ tokens, token.finish ≤ cs.length
  apart : tokens.Pairwise fun first second => first.finish ≤ second.position
  readFrom : ∀ token ∈ tokens, token.lexeme.ReadFrom (token.slice cs)
  /-- Each has the form of its kind, and stops where what follows does not go on with it. -/
  formed : ∀ token ∈ tokens, token.lexeme.Formed ∧ token.lexeme.Stops (cs.drop token.finish)
  between : ∀ i c, cs[i]? = some c →
    (∀ token ∈ tokens, ¬ (token.position ≤ i ∧ i < token.finish)) → Text.isBlank c
  last : ∃ front, tokens = front ++ [⟨.stop, cs.length⟩] ∧
    ∀ token ∈ front, token.lexeme ≠ .stop

end Token

theorem Lexeme.readFrom_source (word : Lexeme) : word.ReadFrom word.source := by
  cases word with
  | string content => exact ⟨_, source_string content, rfl, halved_doubled content.toList⟩
  | _ => rfl

/-- A piece of the text of a formula. -/
inductive Piece where
  | blank (c : Char)
  | word (lexeme : Lexeme)

namespace Piece

variable {position : Nat} {rest back front blanks : List Char} {pieces before after : List Piece}

/-- What the piece is written as. -/
def source : Piece → List Char
  | .blank c => [c]
  | .word lexeme => lexeme.source

/-- The text of pieces. -/
def sources (pieces : List Piece) : List Char := pieces.flatMap source

/-- The words of pieces that start at a position. -/
def tokens (position : Nat) : List Piece → List Token
  | [] => []
  | .blank _ :: pieces => tokens (position + 1) pieces
  | .word lexeme :: pieces =>
    ⟨lexeme, position⟩ :: tokens (position + lexeme.source.length) pieces

/-- The pieces are cut off the front of a text where they have to be; the rest of it is what follows
them. -/
def Laid (rest : List Char) : List Piece → Prop
  | [] => True
  | .blank c :: pieces => Text.isBlank c ∧ Laid rest pieces
  | .word lexeme :: pieces => (lexeme.Formed ∧ lexeme ≠ .stop) ∧
      lexeme.Stops (sources pieces ++ rest) ∧ Laid rest pieces

@[simp] theorem sources_nil : sources [] = [] := rfl

@[simp] theorem sources_cons (piece : Piece) (pieces : List Piece) :
    sources (piece :: pieces) = piece.source ++ sources pieces := rfl

@[simp] theorem sources_append (before after : List Piece) :
    sources (before ++ after) = sources before ++ sources after := List.flatMap_append

@[simp] theorem sources_map_blank (blanks : List Char) : sources (blanks.map blank) = blanks := by
  induction blanks with
  | nil => rfl
  | cons b blanks ih => rw [List.map_cons, sources_cons, ih]; rfl

theorem Laid.tail {piece : Piece} (h : Laid rest (piece :: pieces)) : Laid rest pieces := by
  cases piece with
  | blank c => exact h.2
  | word lexeme => exact h.2.2

theorem laid_append_iff :
    Laid rest (before ++ after) ↔ Laid (sources after ++ rest) before ∧ Laid rest after := by
  induction before with
  | nil => exact ⟨fun h => ⟨trivial, h⟩, And.right⟩
  | cons piece before ih =>
    cases piece with
    | blank c => simp only [List.cons_append, Laid, ih, and_assoc]
    | word lexeme =>
      simp only [List.cons_append, Laid, ih, sources_append, List.append_assoc, and_assoc]

/-! ## Tokens -/

/-- Up to what follows laid pieces the tokens are their words. -/
theorem tokensFrom_of_laid (h : Laid rest pieces) (position : Nat) :
    tokensFrom position (sources pieces ++ rest) =
      (tokensFrom (position + (sources pieces).length) rest).map (tokens position pieces ++ ·) := by
  induction pieces generalizing position with
  | nil =>
    rw [sources_nil, List.nil_append, List.length_nil, Nat.add_zero]
    cases tokensFrom position rest <;> rfl
  | cons piece pieces ih =>
    rw [sources_cons, List.append_assoc, List.length_append, ← Nat.add_assoc]
    cases piece with
    | blank c =>
      obtain ⟨hblank, hpieces⟩ := h
      show tokensFrom position (c :: (sources pieces ++ rest)) = _
      rw [tokensFrom, if_pos hblank, ih hpieces]
      rfl
    | word lexeme =>
      obtain ⟨⟨hformed, hstop⟩, hstops, hpieces⟩ := h
      rw [source, tokensFrom_source hformed hstop hstops, ih hpieces, tokens]
      cases tokensFrom (position + lexeme.source.length + (sources pieces).length) rest <;> rfl

/-- A text is made up of laid pieces up to its end, or up to where no word can be taken off it. -/
theorem exists_laid (position : Nat) (cs : List Char) :
    ∃ pieces rest, sources pieces ++ rest = cs ∧ Laid rest pieces ∧
      (rest = [] ∨ ∃ c tail e, rest = c :: tail ∧ Text.isBlank c = false ∧
        Lexeme.scan (position + (sources pieces).length) rest = .error e) := by
  fun_induction tokensFrom position cs with
  | case1 position => exact ⟨[], [], rfl, trivial, .inl rfl⟩
  | case2 position c rest hblank ih =>
    obtain ⟨pieces, left, rfl, hlaid, hleft⟩ := ih
    refine ⟨.blank c :: pieces, left, rfl, ⟨hblank, hlaid⟩, ?_⟩
    rwa [sources_cons, List.length_append, ← Nat.add_assoc]
  | case3 position c rest hblank e hscan =>
    exact ⟨[], c :: rest, rfl, trivial, .inr ⟨c, rest, e, rfl, Bool.eq_false_iff.2 hblank, hscan⟩⟩
  | case4 position c rest hblank lexeme after hscan ih =>
    obtain ⟨pieces, left, rfl, hlaid, hleft⟩ := ih
    obtain ⟨hformed, happend, hstops⟩ := Lexeme.scan_eq_ok_iff.1 hscan
    have hlength : (c :: rest).length - (sources pieces ++ left).length = lexeme.source.length := by
      rw [← congrArg List.length happend, List.length_append, Nat.add_sub_cancel]
    refine ⟨.word lexeme :: pieces, left, ?_, ⟨hformed, hstops, hlaid⟩, ?_⟩
    · rw [sources_cons, List.append_assoc]
      exact happend
    · rw [hlength] at hleft
      rwa [sources_cons, List.length_append, ← Nat.add_assoc]

/-! ## Where the tokens lie -/

theorem mem_tokens_cons {piece : Piece} {token : Token}
    (h : token ∈ tokens (position + piece.source.length) pieces) :
    token ∈ tokens position (piece :: pieces) := by
  cases piece with
  | blank c => exact h
  | word lexeme => exact List.mem_cons_of_mem _ h

theorem exists_of_mem_tokens {token : Token} (h : token ∈ tokens position pieces) :
    ∃ before after, pieces = before ++ .word token.lexeme :: after ∧
      token.position = position + (sources before).length := by
  induction pieces generalizing position with
  | nil => cases h
  | cons piece pieces ih =>
    have hskip (h : token ∈ tokens (position + piece.source.length) pieces) :
        ∃ before after, piece :: pieces = before ++ .word token.lexeme :: after ∧
          token.position = position + (sources before).length := by
      obtain ⟨before, after, rfl, hposition⟩ := ih h
      refine ⟨piece :: before, after, rfl, ?_⟩
      rw [hposition, sources_cons, List.length_append, Nat.add_assoc]
    cases piece with
    | blank c => exact hskip h
    | word lexeme =>
      rcases List.mem_cons.1 h with rfl | h
      · exact ⟨[], pieces, rfl, rfl⟩
      · exact hskip h

theorem finish_le_of_mem_tokens {token : Token} (h : token ∈ tokens position pieces) :
    token.finish ≤ position + (sources pieces).length := by
  obtain ⟨before, after, rfl, hposition⟩ := exists_of_mem_tokens h
  rw [Token.finish, hposition, sources_append, sources_cons, List.length_append, List.length_append,
    source]
  omega

theorem le_position_of_mem_tokens {token : Token} (h : token ∈ tokens position pieces) :
    position ≤ token.position := by
  obtain ⟨before, -, -, hposition⟩ := exists_of_mem_tokens h
  exact hposition ▸ Nat.le_add_right ..

theorem slice_of_mem_tokens {token : Token} (h : token ∈ tokens 0 pieces) :
    token.slice (sources pieces) = token.lexeme.source := by
  obtain ⟨before, after, rfl, hposition⟩ := exists_of_mem_tokens h
  rw [Token.slice, hposition, Nat.zero_add, sources_append, sources_cons, source, List.drop_left,
    List.take_left]

theorem pairwise_tokens (position : Nat) (pieces : List Piece) :
    (tokens position pieces).Pairwise fun first second => first.finish ≤ second.position := by
  induction pieces generalizing position with
  | nil => exact .nil
  | cons piece pieces ih =>
    cases piece with
    | blank c => exact ih _
    | word lexeme => exact .cons (fun token ht => le_position_of_mem_tokens ht) (ih _)

/-- What is not in a word is white space. -/
theorem isBlank_of_laid (h : Laid rest pieces) {i : Nat} {c : Char}
    (hc : (sources pieces)[i]? = some c)
    (hout : ∀ token ∈ tokens position pieces,
      ¬ (token.position ≤ position + i ∧ position + i < token.finish)) : Text.isBlank c := by
  induction pieces generalizing position i with
  | nil => cases hc
  | cons piece pieces ih =>
    -- The character is one of the first piece or one of the others.
    rw [sources_cons, List.getElem?_append] at hc
    split at hc
    · next hfirst =>
      cases piece with
      | blank b =>
        obtain rfl : i = 0 := Nat.lt_one_iff.1 hfirst
        cases hc
        exact h.1
      | word lexeme =>
        exact absurd ⟨Nat.le_add_right .., Nat.add_lt_add_left hfirst position⟩
          (hout _ List.mem_cons_self)
    · next hlater =>
      have hplace : position + i =
          position + piece.source.length + (i - piece.source.length) := by omega
      rw [hplace] at hout
      exact ih h.tail hc fun token ht => hout token (mem_tokens_cons ht)

theorem formed_of_mem_tokens (h : Laid rest pieces) {token : Token}
    (ht : token ∈ tokens position pieces) : token.lexeme.Formed ∧ token.lexeme ≠ .stop := by
  obtain ⟨before, after, rfl, -⟩ := exists_of_mem_tokens ht
  exact (laid_append_iff.1 h).2.1

theorem stops_of_mem_tokens (h : Laid rest pieces) {token : Token} (ht : token ∈ tokens 0 pieces) :
    token.lexeme.Stops ((sources pieces ++ rest).drop token.finish) := by
  obtain ⟨before, after, rfl, hposition⟩ := exists_of_mem_tokens ht
  have hstops := (laid_append_iff.1 h).2.2.1
  have hfinish : token.finish = (sources before ++ token.lexeme.source).length := by
    rw [Token.finish, hposition, Nat.zero_add, List.length_append]
  have hsources : sources (before ++ .word token.lexeme :: after) ++ rest =
      sources before ++ token.lexeme.source ++ (sources after ++ rest) := by
    simp only [sources_append, sources_cons, source, List.append_assoc]
  rwa [hsources, hfinish, List.drop_left]

/-- The words of laid pieces, with a stop, are all of their text. -/
theorem cover_of_laid (h : Laid [] pieces) :
    Token.Cover (sources pieces) (tokens 0 pieces ++ [⟨.stop, (sources pieces).length⟩]) := by
  have hwithin : ∀ token ∈ tokens 0 pieces, token.finish ≤ (sources pieces).length :=
    fun token ht => Nat.zero_add (sources pieces).length ▸ finish_le_of_mem_tokens ht
  refine ⟨?_, ?_, ?_, ?_, fun i c hc hout => ?_, ⟨_, rfl, fun token ht => ?_⟩⟩
  · exact List.forall_mem_append.2 ⟨hwithin, List.forall_mem_singleton.2 (Nat.le_refl _)⟩
  · refine List.pairwise_append.2 ⟨pairwise_tokens 0 pieces, List.pairwise_singleton .., ?_⟩
    exact fun token ht => List.forall_mem_singleton.2 (hwithin token ht)
  · refine List.forall_mem_append.2 ⟨fun token ht => ?_, List.forall_mem_singleton.2 rfl⟩
    rw [slice_of_mem_tokens ht]
    exact token.lexeme.readFrom_source
  · refine List.forall_mem_append.2
      ⟨fun token ht => ⟨(formed_of_mem_tokens h ht).1, ?_⟩,
        List.forall_mem_singleton.2 ⟨trivial, trivial⟩⟩
    have hstops := stops_of_mem_tokens h ht
    rwa [List.append_nil] at hstops
  · have hwords : ∀ token ∈ tokens 0 pieces,
        ¬ (token.position ≤ 0 + i ∧ 0 + i < token.finish) := by
      rw [Nat.zero_add]
      exact fun token ht => hout token (List.mem_append_left _ ht)
    exact isBlank_of_laid h hc hwords
  · exact (formed_of_mem_tokens h ht).2

/-! ## White space between the pieces -/

theorem tokens_append (position : Nat) (before after : List Piece) :
    tokens position (before ++ after) =
      tokens position before ++ tokens (position + (sources before).length) after := by
  induction before generalizing position with
  | nil => rfl
  | cons piece before ih =>
    rw [sources_cons, List.length_append, ← Nat.add_assoc]
    cases piece with
    | blank c => exact ih _
    | word lexeme => exact congrArg (List.cons _) (ih _)

theorem tokens_map_blank (position : Nat) (blanks : List Char) :
    tokens position (blanks.map blank) = [] := by
  induction blanks generalizing position with
  | nil => rfl
  | cons b blanks ih => exact ih _

theorem laid_map_blank (h : Text.allBlank blanks) (rest : List Char) :
    Laid rest (blanks.map blank) := by
  induction blanks with
  | nil => trivial
  | cons b blanks ih =>
    obtain ⟨hb, hblanks⟩ := Bool.and_eq_true_iff.1 h
    exact ⟨hb, ih hblanks⟩

/-- Pieces that are laid before a text are laid before its end and before white space. -/
theorem Laid.of_blank (h : Laid back pieces) (hrest : ∀ c ∈ rest.head?, Text.isBlank c) :
    Laid rest pieces := by
  induction pieces with
  | nil => trivial
  | cons piece pieces ih =>
    cases piece with
    | blank c => exact ⟨h.1, ih h.2⟩
    | word lexeme => exact ⟨h.1, h.2.1.of_blank hrest, ih h.2.2⟩

/-- White space between laid pieces leaves them laid. -/
theorem Laid.insert (h : Laid rest (before ++ after)) (hblanks : Text.allBlank blanks) :
    Laid rest (before ++ (blanks.map blank ++ after)) := by
  obtain ⟨hbefore, hafter⟩ := laid_append_iff.1 h
  refine laid_append_iff.2 ⟨?_, laid_append_iff.2 ⟨laid_map_blank hblanks _, hafter⟩⟩
  cases blanks with
  | nil => exact hbefore
  | cons b blanks =>
    refine hbefore.of_blank ?_
    rintro c ⟨⟩
    exact (Bool.and_eq_true_iff.1 hblanks).1

/-- A place in the text of pieces that is not inside a word is between two pieces. -/
theorem exists_cut (h : sources pieces = front ++ back)
    (hcut : ∀ token ∈ tokens position pieces,
      ¬ (token.position < position + front.length ∧ position + front.length < token.finish)) :
    ∃ before after, pieces = before ++ after ∧ sources before = front ∧ sources after = back := by
  induction pieces generalizing position front with
  | nil =>
    obtain ⟨rfl, rfl⟩ := List.append_eq_nil_iff.1 h.symm
    exact ⟨[], [], rfl, rfl, rfl⟩
  | cons piece pieces ih =>
    rw [sources_cons] at h
    rcases List.append_eq_append_iff.1 h with ⟨middle, hfront, hpieces⟩ | ⟨middle, hpiece, hback⟩
    · -- The place is after the first piece.
      have hplace : position + front.length =
          position + piece.source.length + middle.length := by
        rw [hfront, List.length_append, Nat.add_assoc]
      rw [hplace] at hcut
      obtain ⟨before, after, rfl, rfl, hafter⟩ :=
        ih hpieces fun token ht => hcut token (mem_tokens_cons ht)
      exact ⟨piece :: before, after, rfl, by rw [sources_cons, hfront], hafter⟩
    · by_cases hstart : front = []
      · exact ⟨[], piece :: pieces, rfl, hstart.symm, by rw [sources_cons, h, hstart]; rfl⟩
      by_cases hend : middle = []
      · subst hend
        exact ⟨[piece], pieces, rfl, by rw [sources_cons, hpiece]; simp, hback.symm⟩
      -- A place inside a piece is inside a word.
      have hlength : piece.source.length = front.length + middle.length := by
        rw [hpiece, List.length_append]
      have hfront := List.length_pos_of_ne_nil hstart
      have hmiddle := List.length_pos_of_ne_nil hend
      exfalso
      cases piece with
      | blank c =>
        rw [source, List.length_singleton] at hlength
        omega
      | word lexeme =>
        refine hcut _ List.mem_cons_self ⟨Nat.lt_add_of_pos_right hfront, ?_⟩
        show position + front.length < position + lexeme.source.length
        rw [source] at hlength
        omega

/-- All words are moved if none starts before the start. -/
theorem map_moved_tokens {start : Nat} (count : Nat) (h : start ≤ position)
    (pieces : List Piece) :
    (tokens position pieces).map (Token.moved start count) = tokens (position + count) pieces := by
  induction pieces generalizing position with
  | nil => rfl
  | cons piece pieces ih =>
    cases piece with
    | blank c =>
      rw [tokens, tokens, ih (by omega), Nat.add_right_comm]
    | word lexeme =>
      rw [tokens, tokens, List.map_cons, ih (by omega), Nat.add_right_comm, Token.moved, if_pos h]

/-- No word is moved if all end before the start. -/
theorem map_moved_tokens_of_le {start : Nat} (count : Nat) (hlaid : Laid rest pieces)
    (h : position + (sources pieces).length ≤ start) :
    (tokens position pieces).map (Token.moved start count) = tokens position pieces := by
  refine (List.map_congr_left fun token ht => ?_).trans (List.map_id _)
  obtain ⟨hformed, hstop⟩ := formed_of_mem_tokens hlaid ht
  obtain ⟨c, cs, hsource, -⟩ := Lexeme.exists_source_eq_cons hformed hstop
  have hfinish := finish_le_of_mem_tokens ht
  rw [Token.finish, hsource, List.length_cons] at hfinish
  rw [Token.moved, if_neg (by omega), id]

/-! ## Texts -/

theorem tokenize_of_laid (h : Laid [] pieces) :
    tokenize (String.ofList (sources pieces)) =
      .ok (tokens 0 pieces ++ [⟨.stop, (sources pieces).length⟩]) := by
  have htokens := tokensFrom_of_laid h 0
  rw [List.append_nil, Nat.zero_add, tokensFrom] at htokens
  rw [tokenize, String.toList_ofList, htokens]
  rfl

/-- A text that has tokens is the text of laid pieces. -/
theorem exists_laid_of_tokenize {text : String} {tokens' : List Token}
    (h : tokenize text = .ok tokens') :
    ∃ pieces, sources pieces = text.toList ∧ Laid [] pieces := by
  obtain ⟨pieces, rest, htext, hlaid, hrest⟩ := exists_laid 0 text.toList
  rcases hrest with rfl | ⟨c, tail, e, rfl, hblank, hscan⟩
  · exact ⟨pieces, by rw [← htext, List.append_nil], hlaid⟩
  · rw [tokenize, ← htext, tokensFrom_of_laid hlaid, tokensFrom_of_scan_error hblank hscan] at h
    cases h

/-- White space between laid pieces moves the tokens after it. -/
theorem tokenize_insert (h : Laid [] (before ++ after)) (hblanks : Text.allBlank blanks) :
    tokenize (String.ofList (sources before ++ (blanks ++ sources after))) =
      .ok ((tokens 0 (before ++ after) ++
          [(⟨.stop, (sources (before ++ after)).length⟩ : Token)]).map
        (Token.moved (sources before).length blanks.length)) := by
  have htokens := tokenize_of_laid (h.insert hblanks)
  simp only [sources_append, sources_map_blank, tokens_append, tokens_map_blank,
    List.nil_append, Nat.zero_add] at htokens
  have hbefore : (tokens 0 before).map (Token.moved (sources before).length blanks.length) =
      tokens 0 before :=
    map_moved_tokens_of_le _ (laid_append_iff.1 h).1 (Nat.le_of_eq (Nat.zero_add _))
  have hafter := map_moved_tokens blanks.length (Nat.le_refl (sources before).length) after
  have hstop : (⟨.stop, (sources before ++ (blanks ++ sources after)).length⟩ : Token) =
      Token.moved (sources before).length blanks.length
        ⟨.stop, (sources before ++ sources after).length⟩ := by
    simp only [Token.moved, List.length_append, Nat.le_add_right, if_pos]
    congr 1
    omega
  rw [htokens, hstop, tokens_append, Nat.zero_add, sources_append, List.map_append, List.map_append,
    hbefore, hafter, List.map_singleton]

/-- Where a text has no tokens, words and white space come before the fault, and there a string
opens that is not closed, or no word starts. -/
theorem exists_laid_of_tokenize_error {text : String} {e : ParseError}
    (h : tokenize text = .error e) :
    ∃ pieces c rest, sources pieces ++ c :: rest = text.toList ∧ Laid (c :: rest) pieces ∧
      Text.isBlank c = false ∧ Lexeme.scan (sources pieces).length (c :: rest) = .error e := by
  obtain ⟨pieces, rest, htext, hlaid, hrest⟩ := exists_laid 0 text.toList
  rw [tokenize, ← htext, tokensFrom_of_laid hlaid] at h
  rcases hrest with rfl | ⟨c, tail, fault, rfl, hblank, hscan⟩
  · rw [tokensFrom] at h
    cases h
  · rw [tokensFrom_of_scan_error hblank hscan] at h
    cases h
    exact ⟨pieces, c, tail, htext, hlaid, hblank, Nat.zero_add (sources pieces).length ▸ hscan⟩

end Piece

/-- What is lost of a text: nothing but white space. The tokens of a text that has any cover it, and
white space at any place that is not inside a token moves the tokens after it and changes no token.
The fault of a text that has none is after a text that has tokens: there is the quotation mark of a
string that is not closed, or a character that is no white space and starts no word. -/
theorem tokenize_spec (text : String) :
    (∀ tokens, tokenize text = .ok tokens →
      Token.Cover text.toList tokens ∧
      ∀ front back blanks : List Char, front ++ back = text.toList → Text.allBlank blanks →
        (∀ token ∈ tokens, ¬ (token.position < front.length ∧ front.length < token.finish)) →
        tokenize (String.ofList (front ++ (blanks ++ back))) =
          .ok (tokens.map (Token.moved front.length blanks.length))) ∧
    ∀ e, tokenize text = .error e →
      ∃ front c rest, front ++ c :: rest = text.toList ∧ e.position = front.length ∧
        (∃ tokens, tokenize (String.ofList front) = .ok tokens) ∧
        ((e.fault = .unterminatedString ∧ c = '"' ∧ ∃ content, rest = Lexeme.doubled content) ∨
          (e.fault ≠ .unterminatedString ∧ Text.isBlank c = false ∧
            ∀ word : Lexeme, word.Formed → word ≠ .stop → ¬ word.source <+: c :: rest)) := by
  refine ⟨fun tokens htokens => ?_, fun e herror => ?_⟩
  · obtain ⟨pieces, htext, hlaid⟩ := Piece.exists_laid_of_tokenize htokens
    have hpieces := Piece.tokenize_of_laid hlaid
    rw [htext, String.ofList_toList, htokens] at hpieces
    obtain rfl := Except.ok.inj hpieces
    rw [← htext]
    refine ⟨Piece.cover_of_laid hlaid, fun front back blanks happend hblanks hcut => ?_⟩
    have hwords : ∀ token ∈ Piece.tokens 0 pieces,
        ¬ (token.position < 0 + front.length ∧ 0 + front.length < token.finish) := by
      rw [Nat.zero_add]
      exact fun token ht => hcut token (List.mem_append_left _ ht)
    obtain ⟨before, after, rfl, rfl, rfl⟩ := Piece.exists_cut happend.symm hwords
    exact Piece.tokenize_insert hlaid hblanks
  · obtain ⟨pieces, c, rest, htext, hlaid, hblank, hscan⟩ :=
      Piece.exists_laid_of_tokenize_error herror
    have hfront : Piece.Laid [] pieces := hlaid.of_blank nofun
    refine ⟨Piece.sources pieces, c, rest, htext, Lexeme.position_of_scan hscan,
      ⟨_, Piece.tokenize_of_laid hfront⟩, ?_⟩
    exact (Lexeme.scan_eq_error hscan).imp_right fun h => ⟨h.1, hblank, h.2⟩

/-- Of a number, a string with a quotation mark in it, a comparison and a name, with white space put
before the comparison; and of a string that is not closed after a number. -/
theorem tokenize_spec_sample :
    (tokenize "1 \"a\"\"b\"<=x" = .ok [⟨.number "1", 0⟩, ⟨.string "a\"b", 2⟩,
        ⟨.comparison .atMost, 8⟩, ⟨.name "x", 10⟩, ⟨.stop, 11⟩] ∧
      tokenize "1 \"a\"\"b\"  <=x" = .ok [⟨.number "1", 0⟩, ⟨.string "a\"b", 2⟩,
        ⟨.comparison .atMost, 10⟩, ⟨.name "x", 12⟩, ⟨.stop, 13⟩]) ∧
    ∃ front c rest, front ++ c :: rest = "1 \"a".toList ∧ front.length = 2 ∧ c = '"' ∧
      ∃ content, rest = Lexeme.doubled content := by
  have htokens : tokenize "1 \"a\"\"b\"<=x" = .ok [⟨.number "1", 0⟩, ⟨.string "a\"b", 2⟩,
      ⟨.comparison .atMost, 8⟩, ⟨.name "x", 10⟩, ⟨.stop, 11⟩] := by cbv
  have hfault : tokenize "1 \"a" = .error ⟨.unterminatedString, 2⟩ := by cbv
  refine ⟨⟨htokens, ?_⟩, ?_⟩
  · exact ((tokenize_spec "1 \"a\"\"b\"<=x").1 _ htokens).2 "1 \"a\"\"b\"".toList "<=x".toList
      [' ', ' '] (by decide) (by decide) (by decide)
  · obtain ⟨front, c, rest, happend, hposition, -, hopen | hnone⟩ :=
      (tokenize_spec "1 \"a").2 _ hfault
    · exact ⟨front, c, rest, happend, hposition.symm, hopen.2⟩
    · exact absurd rfl hnone.1

end Spreadsheet

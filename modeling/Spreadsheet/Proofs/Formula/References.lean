import Spreadsheet.Proofs.Formula.Derivation
import Spreadsheet.Proofs.Formula.Lexing
import Spreadsheet.Proofs.Reference.Name

/-!
# References as they are read

The reader of references finds what the grammar says they refer to, both ways
(`refers_of_reference`, `Refers.reference`). It knows the letter case of a formula only from its
first reference on; until then it fits either case (`Grammar.Fits`).
-/

namespace Spreadsheet

/-- What a part is, the tokens after it and the case known then. -/
def Parsed.outcome {α : Type} {bound : Nat} (part : Parsed α bound) :
    α × List Token × Option Text.LetterCase :=
  (part.value, part.rest, part.case)

namespace Grammar

variable {g : Grammar} {case : Text.LetterCase} {state : Option Text.LetterCase}

/-! ## Letters and digits -/

/-- What is known so far of the case of a formula's references agrees with it. -/
def Fits (state : Option Text.LetterCase) (case : Text.LetterCase) : Prop := ∀ c ∈ state, c = case

theorem fits_some {found : Text.LetterCase} : Fits (some found) case ↔ found = case :=
  ⟨fun h => h found rfl, fun h _ hc => Option.some.inj hc ▸ h⟩

theorem noteCase_eq_ok_iff {letters : List Char} {position : Nat}
    {after : Option Text.LetterCase} (h : Text.letterCase? letters = some case) :
    noteCase letters position state = .ok after ↔ Fits state case ∧ after = some case := by
  rw [noteCase, h]
  cases state with
  | none =>
    have hfits : Fits none case := nofun
    simp [hfits, eq_comm]
  | some found =>
    rw [fits_some]
    by_cases hfound : found = case
    · simp [hfound, eq_comm]
    · simp [hfound, Ne.symm hfound]

/-- The text consists of letters of one case and, if there are any, of digits after them. -/
structure Splits (case : Text.LetterCase) (name letters : List Char)
    (digits : Option (List Char)) : Prop where
  append : name = letters ++ digits.getD []
  nonempty : letters ≠ []
  oneCase : ∀ c ∈ letters, case.has c
  digits : ∀ ds ∈ digits, ds ≠ [] ∧ ∀ c ∈ ds, Text.isDecimal c

namespace Splits

variable {name letters : List Char} {digits : Option (List Char)}

theorem letterCase? (h : Splits case name letters digits) : Text.letterCase? letters = some case :=
  (Text.letterCase?_eq_some_iff fun c hc => Text.LetterCase.isAlpha_of_has (h.oneCase c hc)).2
    ⟨h.nonempty, h.oneCase⟩

theorem isLower (h : Splits case name letters digits) : isLower letters = case.isLower := by
  rw [Grammar.isLower, h.letterCase?]
  cases case <;> rfl

theorem splitReference (h : Splits case name letters digits) (position : Nat) :
    splitReference name position = .ok (letters, digits) := by
  have hdecimal : ∀ c ∈ digits.getD [], Text.isDecimal c := by
    cases digits with
    | none => exact fun c hc => absurd hc List.not_mem_nil
    | some ds => exact (h.digits ds rfl).2
  have hempty : (if (digits.getD []).isEmpty then none else some (digits.getD [])) = digits := by
    cases digits with
    | none => rfl
    | some ds => exact if_neg fun hds => (h.digits ds rfl).1 (List.isEmpty_iff.1 hds)
  rw [Spreadsheet.splitReference, h.append, splitName?_append h.nonempty
    (fun c hc => Text.LetterCase.isAlpha_of_has (h.oneCase c hc)) hdecimal, hempty]
  simp only [h.letterCase?, Option.isNone_some, Bool.false_eq_true, if_false]

end Splits

theorem exists_splits {name letters : List Char} {digits : Option (List Char)} {position : Nat}
    (hname : ∀ c ∈ name, Lexeme.isNamePart c)
    (h : splitReference name position = .ok (letters, digits)) :
    ∃ case, Splits case name letters digits := by
  rw [splitReference] at h
  split at h
  · cases h
  · next found foundDigits hsplit =>
    obtain ⟨happend, hne, hletters, hdigits⟩ := eq_append_of_splitName? hname hsplit
    split at h
    · cases h
    · next hcase =>
      cases h
      obtain ⟨case, hcase⟩ := Option.ne_none_iff_exists'.1 fun hnone =>
        hcase (Option.isNone_iff_eq_none.2 hnone)
      exact ⟨case, happend, hne, ((Text.letterCase?_eq_some_iff hletters).1 hcase).2, hdigits⟩

theorem columnWithin_eq_ok_iff {letters : List Char} {nCols col : Int} {position : Nat} :
    columnWithin letters nCols position = .ok col ↔
      (ColumnName.ofLetters letters : Int) = col ∧ col < nCols := by
  rw [columnWithin]
  split <;> grind

theorem rowWithin_eq_ok_iff {digits : List Char} {nRows row : Int} {position : Nat} :
    rowWithin digits nRows position = .ok row ↔
      (Text.digitsValue digits : Int) = row + 1 ∧ 0 ≤ row ∧ row < nRows := by
  rw [rowWithin, rowNumberWithin]
  split <;> grind

/-- A name that is split into letters and digits which lie on the sheet is that of a cell. -/
theorem Splits.isCell {name : String} {letters digits : List Char} {row col : Int}
    {position position' : Nat} (h : Splits case name.toList letters (some digits))
    (hcol : columnWithin letters g.nCols position = .ok col)
    (hrow : rowWithin digits g.nRows position' = .ok row) : g.IsCell case name ⟨row, col⟩ := by
  obtain ⟨hcolValue, hcolWithin⟩ := columnWithin_eq_ok_iff.1 hcol
  obtain ⟨hrowValue, hrowWithin⟩ := rowWithin_eq_ok_iff.1 hrow
  obtain ⟨hne, hdecimal⟩ := h.digits digits rfl
  exact ⟨letters, digits, h.append, ⟨h.nonempty, h.oneCase, hcolValue, hcolWithin⟩,
    ⟨hne, hdecimal, hrowValue, hrowWithin⟩⟩

theorem Splits.isColumn {name : String} {letters : List Char} {col : Int} {position : Nat}
    (h : Splits case name.toList letters none)
    (hcol : columnWithin letters g.nCols position = .ok col) :
    g.IsColumn case name.toList col := by
  obtain ⟨hvalue, hwithin⟩ := columnWithin_eq_ok_iff.1 hcol
  have happend := h.append
  rw [Option.getD_none, List.append_nil] at happend
  rw [happend]
  exact ⟨h.nonempty, h.oneCase, hvalue, hwithin⟩

/-! ## What is read -/

theorem isNamePart_of_isWord {name : String} (h : Lexeme.IsWord name) :
    ∀ c ∈ name.toList, Lexeme.isNamePart c := by
  obtain ⟨c, rest, hname, hstart, hrest⟩ := h
  rw [hname]
  refine List.forall_mem_cons.2 ⟨?_, hrest⟩
  rw [Lexeme.isNameStart, Bool.or_eq_true] at hstart
  rw [Lexeme.isNamePart, Bool.or_eq_true, Char.isAlphanum, Bool.or_eq_true]
  exact hstart.imp_left .inl

/-- A numeral in which all characters are digits is a row of decimal digits. -/
theorem isDecimal_of_allDigits {spelling : String} (h : Lexeme.IsNumeral spelling)
    (hdigits : Text.allDigits spelling.toList) :
    spelling.toList ≠ [] ∧ ∀ c ∈ spelling.toList, Text.isDecimal c := by
  obtain ⟨⟨whole, fraction, exponent⟩, hn, rfl⟩ := h
  rw [String.toList_ofList] at hdigits ⊢
  rw [Text.allDigits, Bool.and_eq_true, List.all_eq_true] at hdigits
  cases fraction with
  | some ds => exact absurd (hdigits.2 '.' (by simp [Numeral.spelling])) (by decide)
  | none =>
    cases exponent with
    | some e =>
      have hletter := hdigits.2 e.letter (by simp [Numeral.spelling, Numeral.Exponent.spelling])
      rcases (hn.exponent e rfl).letter with he | he <;> rw [he] at hletter
      · exact absurd hletter (by decide)
      · exact absurd hletter (by decide)
    | none =>
      have hspelling : Numeral.spelling ⟨whole, none, none⟩ = whole := by simp [Numeral.spelling]
      rw [hspelling]
      exact ⟨fun hnil => hn.nonempty ⟨hnil, rfl⟩, hn.whole⟩

theorem columns_of_columnReference {letters : List Char} {first : Int} {tokens : List Token}
    {name : String} {part : Parsed Expr (tokens.length + 1)}
    (hname : Splits case name.toList letters none) (hfirst : g.IsColumn case name.toList first)
    (hformed : ∀ token ∈ tokens, token.lexeme.Formed)
    (h : g.columnReference letters first tokens (some case) = .ok part) :
    ∃ front, tokens = front ++ part.rest ∧ part.case = some case ∧
      g.Refers case (.name name :: front.map Token.lexeme) part.value := by
  unfold columnReference at h
  split at h
  · next place last position rest =>
    obtain ⟨⟨lastLetters, digits⟩, hsplit, h⟩ := bind_eq_ok.1 h
    simp only at h
    split at h
    · cases h
    · next hdigits =>
      obtain ⟨after, hcase, h⟩ := bind_eq_ok.1 h
      obtain ⟨other, hother, h⟩ := bind_eq_ok.1 h
      cases h
      have hlast : (⟨.name last, position⟩ : Token).lexeme.Formed := hformed _ (by simp)
      obtain ⟨lastCase, hlast⟩ := exists_splits (isNamePart_of_isWord hlast) hsplit
      obtain ⟨hfits, rfl⟩ := (noteCase_eq_ok_iff hlast.letterCase?).1 hcase
      cases fits_some.1 hfits
      rw [Bool.not_eq_true, Option.isSome_eq_false_iff, Option.isNone_iff_eq_none] at hdigits
      subst hdigits
      refine ⟨[⟨.colon, place⟩, ⟨.name last, position⟩], rfl, rfl, ?_⟩
      rw [hname.isLower]
      exact .columns hfirst (hlast.isColumn hother)
  · cases h
  · cases h
    refine ⟨[], rfl, rfl, ?_⟩
    rw [hname.isLower]
    exact .column hfirst

theorem range_of_cellReference {name : String} {letters : List Char}
    {digits : Option (List Char)} {first : Coord} {tokens : List Token}
    {part : Parsed Expr (tokens.length + 1)} (hname : Splits case name.toList letters digits)
    (hfirst : g.IsCell case name first) (hformed : ∀ token ∈ tokens, token.lexeme.Formed)
    (h : g.cellReference letters first tokens (some case) = .ok part) :
    ∃ front, tokens = front ++ part.rest ∧ part.case = some case ∧
      g.Refers case (.name name :: front.map Token.lexeme) part.value := by
  unfold cellReference at h
  simp only [Coord.corners, hname.isLower] at h
  split at h
  · next place last position rest =>
    obtain ⟨⟨lastLetters, lastDigits⟩, hsplit, h⟩ := bind_eq_ok.1 h
    obtain ⟨after, hcase, h⟩ := bind_eq_ok.1 h
    have hlast : (⟨.name last, position⟩ : Token).lexeme.Formed := hformed _ (by simp)
    obtain ⟨lastCase, hlast⟩ := exists_splits (isNamePart_of_isWord hlast) hsplit
    obtain ⟨hfits, rfl⟩ := (noteCase_eq_ok_iff hlast.letterCase?).1 hcase
    cases fits_some.1 hfits
    cases lastDigits with
    | none => cases h
    | some lastDigits =>
      obtain ⟨row, hrow, h⟩ := bind_eq_ok.1 h
      obtain ⟨col, hcol, h⟩ := bind_eq_ok.1 h
      cases h
      exact ⟨[⟨.colon, place⟩, ⟨.name last, position⟩], rfl, rfl,
        .range hfirst (hlast.isCell hcol hrow)⟩
  · next place spelling position rest =>
    split at h
    · next hdigits =>
      obtain ⟨row, hrow, h⟩ := bind_eq_ok.1 h
      cases h
      have hnumeral : (⟨.number spelling, position⟩ : Token).lexeme.Formed := hformed _ (by simp)
      obtain ⟨hne, hdecimal⟩ := isDecimal_of_allDigits hnumeral hdigits
      obtain ⟨hvalue, hwithin⟩ := rowWithin_eq_ok_iff.1 hrow
      exact ⟨[⟨.colon, place⟩, ⟨.number spelling, position⟩], rfl, rfl,
        .rangeToRow hfirst ⟨hne, hdecimal, hvalue, hwithin⟩⟩
    · cases h
  · cases h
  · cases h
    exact ⟨[], rfl, rfl, .cell hfirst⟩

/-- A reference that is read is one of the grammar, and the case it leaves known is its own. -/
theorem refers_of_reference {name : String} {position : Nat} {tokens : List Token}
    {part : Parsed Expr (tokens.length + 1)} (hname : Lexeme.IsWord name)
    (hformed : ∀ token ∈ tokens, token.lexeme.Formed)
    (h : g.reference name position tokens state = .ok part) :
    ∃ front, tokens = front ++ part.rest ∧ ∀ case, Fits part.case case → Fits state case ∧
      g.Refers case (.name name :: front.map Token.lexeme) part.value := by
  rw [reference] at h
  obtain ⟨⟨letters, digits⟩, hsplit, h⟩ := bind_eq_ok.1 h
  obtain ⟨after, hcase, h⟩ := bind_eq_ok.1 h
  obtain ⟨col, hcol, h⟩ := bind_eq_ok.1 h
  obtain ⟨found, hsplits⟩ := exists_splits (isNamePart_of_isWord hname) hsplit
  obtain ⟨hfits, rfl⟩ := (noteCase_eq_ok_iff hsplits.letterCase?).1 hcase
  have hread : ∃ front, tokens = front ++ part.rest ∧ part.case = some found ∧
      g.Refers found (.name name :: front.map Token.lexeme) part.value := by
    cases digits with
    | none => exact columns_of_columnReference hsplits (hsplits.isColumn hcol) hformed h
    | some digits =>
      obtain ⟨row, hrow, h⟩ := bind_eq_ok.1 h
      exact range_of_cellReference hsplits (hsplits.isCell hcol hrow) hformed h
  obtain ⟨front, htokens, hpart, hrefers⟩ := hread
  refine ⟨front, htokens, fun case hpartCase => ?_⟩
  rw [hpart, fits_some] at hpartCase
  exact hpartCase ▸ ⟨hfits, hrefers⟩

/-! ## What is to be read -/

theorem IsCell.exists_splits {name : String} {cell : Coord} (h : g.IsCell case name cell) :
    ∃ letters digits, Splits case name.toList letters (some digits) ∧
      (∀ position, columnWithin letters g.nCols position = .ok cell.col) ∧
      ∀ position, rowWithin digits g.nRows position = .ok cell.row := by
  obtain ⟨letters, digits, happend, hcol, hrow⟩ := h
  refine ⟨letters, digits, ⟨happend, hcol.nonempty, hcol.oneCase, ?_⟩, fun position => ?_,
    fun position => ?_⟩
  · rintro ds ⟨⟩
    exact ⟨hrow.nonempty, hrow.decimal⟩
  · exact columnWithin_eq_ok_iff.2 ⟨hcol.value, hcol.within⟩
  · exact rowWithin_eq_ok_iff.2 ⟨hrow.value, hrow.within⟩

theorem IsColumn.splits {letters : List Char} {col : Int} (h : g.IsColumn case letters col) :
    Splits case letters letters none ∧
      ∀ position, columnWithin letters g.nCols position = .ok col :=
  ⟨⟨(List.append_nil letters).symm, h.nonempty, h.oneCase, nofun⟩,
    fun _ => columnWithin_eq_ok_iff.2 ⟨h.value, h.within⟩⟩

theorem IsRow.allDigits {digits : List Char} {row : Int} (h : g.IsRow digits row) :
    Text.allDigits digits := by
  rw [Text.allDigits, Bool.and_eq_true, Bool.not_eq_true', List.all_eq_true]
  refine ⟨Bool.eq_false_iff.2 fun hempty => h.nonempty (List.isEmpty_iff.1 hempty), fun c hc => ?_⟩
  rw [Text.isDigit, h.decimal c hc, Bool.true_or]

theorem exists_of_map_lexeme_eq_cons {word : Lexeme} {words : List Lexeme} {front : List Token}
    (h : front.map Token.lexeme = word :: words) :
    ∃ position others, front = ⟨word, position⟩ :: others ∧ others.map Token.lexeme = words := by
  obtain ⟨⟨lexeme, position⟩, others, rfl, rfl, hothers⟩ := List.map_eq_cons_iff.1 h
  exact ⟨position, others, rfl, hothers⟩

theorem exists_of_map_lexeme_eq_one {word : Lexeme} {front : List Token}
    (h : front.map Token.lexeme = [word]) : ∃ position, front = [⟨word, position⟩] := by
  obtain ⟨position, others, rfl, hothers⟩ := exists_of_map_lexeme_eq_cons h
  cases List.map_eq_nil_iff.1 hothers
  exact ⟨position, rfl⟩

theorem exists_of_map_lexeme_eq_three {first second third : Lexeme} {front : List Token}
    (h : front.map Token.lexeme = [first, second, third]) :
    ∃ p q r, front = [⟨first, p⟩, ⟨second, q⟩, ⟨third, r⟩] := by
  obtain ⟨p, others, rfl, hothers⟩ := exists_of_map_lexeme_eq_cons h
  obtain ⟨q, last, rfl, hlast⟩ := exists_of_map_lexeme_eq_cons hothers
  obtain ⟨r, rfl⟩ := exists_of_map_lexeme_eq_one hlast
  exact ⟨p, q, r, rfl⟩

theorem reference_of_column {name : String} {letters : List Char} {col : Int} {position : Nat}
    {tokens : List Token} (hname : Splits case name.toList letters none) (hstate : Fits state case)
    (hcol : columnWithin letters g.nCols position = .ok col) :
    g.reference name position tokens state =
      g.columnReference letters col tokens (some case) := by
  have hcase : noteCase letters position state = .ok (some case) :=
    (noteCase_eq_ok_iff hname.letterCase?).2 ⟨hstate, rfl⟩
  rw [reference, hname.splitReference]
  simp only [bind, Except.bind, hcase, hcol]

theorem reference_of_cell {name : String} {letters digits : List Char} {row col : Int}
    {position : Nat} {tokens : List Token} (hname : Splits case name.toList letters (some digits))
    (hstate : Fits state case) (hcol : columnWithin letters g.nCols position = .ok col)
    (hrow : rowWithin digits g.nRows position = .ok row) :
    g.reference name position tokens state =
      g.cellReference letters ⟨row, col⟩ tokens (some case) := by
  have hcase : noteCase letters position state = .ok (some case) :=
    (noteCase_eq_ok_iff hname.letterCase?).2 ⟨hstate, rfl⟩
  rw [reference, hname.splitReference]
  simp only [bind, Except.bind, hcase, hcol, hrow]

/-- A cell without a colon after it is not the start of a range. -/
theorem cellReference_of_ends {letters : List Char} {first : Coord} {rest : List Token}
    (hrest : ∀ token ∈ rest.head?, token.lexeme ≠ .colon) :
    (g.cellReference letters first rest state).map Parsed.outcome =
      .ok (.cell first (isLower letters), rest, state) := by
  unfold cellReference
  split
  · exact absurd rfl (hrest _ rfl)
  · exact absurd rfl (hrest _ rfl)
  · exact absurd rfl (hrest _ rfl)
  · rfl

theorem columnReference_of_ends {letters : List Char} {first : Int} {rest : List Token}
    (hrest : ∀ token ∈ rest.head?, token.lexeme ≠ .colon) :
    (g.columnReference letters first rest state).map Parsed.outcome =
      .ok (.columns first first (isLower letters), rest, state) := by
  unfold columnReference
  split
  · exact absurd rfl (hrest _ rfl)
  · exact absurd rfl (hrest _ rfl)
  · rfl

/-- A reference of the grammar is read, whatever follows it but a colon. -/
theorem Refers.reference {words : List Lexeme} {e : Expr} (h : g.Refers case words e)
    (hstate : Fits state case) {front rest : List Token} (hfront : front.map Token.lexeme = words)
    (hrest : ∀ token ∈ rest.head?, token.lexeme ≠ .colon) :
    ∃ name position others, front = ⟨.name name, position⟩ :: others ∧
      (∀ token ∈ others.head?, token.lexeme = .colon) ∧
      (g.reference name position (others ++ rest) state).map Parsed.outcome =
        .ok (e, rest, some case) := by
  have hsecond {position : Nat} {letters : List Char} {name : List Char}
      {digits : Option (List Char)} (hname : Splits case name letters digits) :
      noteCase letters position (some case) = .ok (some case) :=
    (noteCase_eq_ok_iff hname.letterCase?).2 ⟨fits_some.2 rfl, rfl⟩
  cases h with
  | @cell name target hcell =>
    obtain ⟨letters, digits, hsplits, hcol, hrow⟩ := hcell.exists_splits
    obtain ⟨position, rfl⟩ := exists_of_map_lexeme_eq_one hfront
    refine ⟨name, position, [], rfl, nofun, ?_⟩
    rw [reference_of_cell hsplits hstate (hcol position) (hrow position), List.nil_append,
      cellReference_of_ends hrest, hsplits.isLower]
  | @range first last a b hfirst hlast =>
    obtain ⟨letters, digits, hsplits, hcol, hrow⟩ := hfirst.exists_splits
    obtain ⟨lastLetters, lastDigits, hlastSplits, hlastCol, hlastRow⟩ := hlast.exists_splits
    obtain ⟨position, place, lastPosition, rfl⟩ := exists_of_map_lexeme_eq_three hfront
    refine ⟨first, position, _, rfl, by simp, ?_⟩
    rw [reference_of_cell hsplits hstate (hcol position) (hrow position)]
    simp only [bind, Except.bind, List.cons_append, List.nil_append, cellReference,
      hlastSplits.splitReference, hsecond hlastSplits, hlastRow, hlastCol, hsplits.isLower]
    rfl
  | @rangeToRow first digits a row hfirst hlast =>
    obtain ⟨letters, firstDigits, hsplits, hcol, hrow⟩ := hfirst.exists_splits
    obtain ⟨position, place, lastPosition, rfl⟩ := exists_of_map_lexeme_eq_three hfront
    have hlastRow : rowWithin digits.toList g.nRows lastPosition = .ok row :=
      rowWithin_eq_ok_iff.2 ⟨hlast.value, hlast.within⟩
    refine ⟨first, position, _, rfl, by simp, ?_⟩
    rw [reference_of_cell hsplits hstate (hcol position) (hrow position)]
    simp only [bind, Except.bind, List.cons_append, List.nil_append, cellReference,
      hlast.allDigits, if_true, hlastRow, hsplits.isLower]
    rfl
  | @column name col hcolumn =>
    obtain ⟨hsplits, hcol⟩ := hcolumn.splits
    obtain ⟨position, rfl⟩ := exists_of_map_lexeme_eq_one hfront
    refine ⟨name, position, [], rfl, nofun, ?_⟩
    rw [reference_of_column hsplits hstate (hcol position), List.nil_append,
      columnReference_of_ends hrest, hsplits.isLower]
  | @columns first last a b hfirst hlast =>
    obtain ⟨hsplits, hcol⟩ := hfirst.splits
    obtain ⟨hlastSplits, hlastCol⟩ := hlast.splits
    obtain ⟨position, place, lastPosition, rfl⟩ := exists_of_map_lexeme_eq_three hfront
    refine ⟨first, position, _, rfl, by simp, ?_⟩
    rw [reference_of_column hsplits hstate (hcol position)]
    simp only [bind, Except.bind, List.cons_append, List.nil_append, columnReference,
      hlastSplits.splitReference, hsecond hlastSplits, hlastCol, hsplits.isLower,
      Option.isSome_none, Bool.false_eq_true, if_false]
    rfl

end Grammar

end Spreadsheet

import Spreadsheet.Formula.Printer
import Spreadsheet.Proofs.Formula.Completeness
import Spreadsheet.Proofs.Formula.WellFormed

/-!
# Printed formulas

`Expr.words` are the words that a formula is printed as (`toList_print`). Those of a formula that
can be printed are formed and are a phrase of the grammar for it, with parentheses wherever the
grammar asks for a tighter phrase (`derives_words`); and the words of a phrase stay apart when
written side by side (`Derives.spaced`). So a printed formula is read as itself (`parse_print`).
-/

namespace Spreadsheet

/-! ## Words -/

/-- The word of an operator between two operands. -/
def BinaryOp.lexeme : BinaryOp → Lexeme
  | .arithmetic op => .arithmetic op
  | .comparison op => .comparison op
  | .unknown symbol => .name symbol

/-- The word of an operator before its operand. -/
def UnaryOp.lexeme : UnaryOp → Lexeme
  | .minus => .arithmetic .sub
  | .unknown symbol => .name symbol

/-- The words in parentheses if need be. -/
def wrapped (needed : Bool) (words : List Lexeme) : List Lexeme :=
  if needed then .leftParen :: (words ++ [.rightParen]) else words

namespace Expr

mutual

/-- The words that a formula is printed as. -/
def words : Expr → List Lexeme
  | .number value spelling => [.number (numberText value spelling)]
  | .string text => [.string text]
  | .cell target lowercase => [.name (target.name lowercase)]
  | .range top left bottom right lowercase =>
    [.name (Coord.name ⟨top, left⟩ lowercase), .colon, .name (Coord.name ⟨bottom, right⟩ lowercase)]
  | .columns first last lowercase =>
    if first = last then [.name (Coord.columnText first lowercase)]
    else [.name (Coord.columnText first lowercase), .colon, .name (Coord.columnText last lowercase)]
  | .deletedReference => [.deletedReference "#REF!"]
  | .unary op operand => op.lexeme :: wrapped (operand.precedence < 4) operand.words
  | .binary op left right =>
    wrapped (left.precedence < op.precedence) left.words ++
      op.lexeme :: wrapped (right.precedence ≤ op.precedence) right.words
  | .call name args =>
    .name name :: .leftParen :: ([Lexeme.comma].intercalate (wordsOfAll args) ++ [.rightParen])

/-- The words that formulas are printed as. -/
def wordsOfAll : List Expr → List (List Lexeme)
  | [] => []
  | e :: es => e.words :: wordsOfAll es

end

theorem wordsOfAll_eq_map (args : List Expr) : wordsOfAll args = args.map words := by
  induction args with
  | nil => rfl
  | cons e es ih => rw [wordsOfAll, ih, List.map_cons]

theorem printAll_eq_map (args : List Expr) : printAll args = args.map print := by
  induction args with
  | nil => rfl
  | cons e es ih => rw [printAll, ih, List.map_cons]

theorem toList_parenthesized {text : String} {words : List Lexeme}
    (h : text.toList = words.flatMap Lexeme.source) (needed : Bool) :
    (parenthesized needed text).toList = (wrapped needed words).flatMap Lexeme.source := by
  cases needed with
  | false => exact h
  | true =>
    have hleft : Lexeme.leftParen.source = "(".toList := rfl
    have hright : Lexeme.rightParen.source = ")".toList := rfl
    rw [parenthesized, wrapped, if_pos rfl, if_pos rfl]
    simp [h, hleft, hright]

theorem flatMap_intercalate (separator : Lexeme) (rows : List (List Lexeme)) :
    ([separator].intercalate rows).flatMap Lexeme.source =
      separator.source.intercalate (rows.map (·.flatMap Lexeme.source)) := by
  induction rows with
  | nil => rfl
  | cons row rows ih =>
    cases rows with
    | nil => simp
    | cons next rows =>
      rw [List.intercalate_cons_cons, List.map_cons, List.map_cons, List.intercalate_cons_cons,
        ← List.map_cons, ← ih]
      simp

/-- A formula is printed as its words. -/
theorem toList_print (e : Expr) : e.print.toList = e.words.flatMap Lexeme.source := by
  induction e using Expr.induction with
  | number value spelling => simp [print, words, Lexeme.source, Lexeme.text]
  | string text => simp [print, words, Lexeme.source]
  | deletedReference => rfl
  | reference ref href =>
    cases ref with
    | cell target lowercase => simp [print, words, Lexeme.source, Lexeme.text]
    | range top left bottom right lowercase => simp [print, words, Lexeme.source, Lexeme.text]
    | columns first last lowercase =>
      rw [print, columnsText, words]
      split <;> simp [Lexeme.source, Lexeme.text]
    | _ => cases href
  | unary op operand ih =>
    have hop : op.lexeme.source = op.symbol.toList := by cases op <;> rfl
    rw [print, words, String.toList_append, toList_parenthesized ih, List.flatMap_cons, hop]
  | binary op left right ihLeft ihRight =>
    have hop : op.lexeme.source = op.symbol.toList := by cases op <;> rfl
    rw [print, words, String.toList_append, String.toList_append, toList_parenthesized ihLeft,
      toList_parenthesized ihRight, List.flatMap_append, List.flatMap_cons, hop, List.append_assoc]
  | call name args ih =>
    have hargs : (args.map print).map String.toList =
        (args.map words).map (·.flatMap Lexeme.source) := by
      rw [List.map_map, List.map_map]
      exact List.map_congr_left ih
    rw [print, words, printAll_eq_map, wordsOfAll_eq_map]
    simp [Lexeme.source, Lexeme.text, flatMap_intercalate, hargs]

end Expr

/-! ## Words side by side -/

namespace Lexeme

theorem apart_of_left {first second : Lexeme} (hatom : first.isAtom = false)
    (hcomparison : first.isComparison = false ∨ second.isComparison = false) :
    first.Apart second := by
  refine ⟨fun h => ?_, fun h => ?_⟩
  · rw [hatom] at h
    exact Bool.false_ne_true h.1
  · rcases hcomparison with hfirst | hsecond
    · rw [hfirst] at h
      exact Bool.false_ne_true h.1
    · rw [hsecond] at h
      exact Bool.false_ne_true h.2

theorem apart_comm {first second : Lexeme} (h : first.Apart second) : second.Apart first :=
  ⟨fun hatoms => h.1 hatoms.symm, fun hcomparisons => h.2 hcomparisons.symm⟩

end Lexeme

/-- The words stay apart, and no comparison sign is the first or the last of them. -/
structure Spaced (words : List Lexeme) : Prop where
  nonempty : words ≠ []
  chain : words.IsChain Lexeme.Apart
  head : ∀ word ∈ words.head?, word.isComparison = false
  last : ∀ word ∈ words.getLast?, word.isComparison = false

namespace Spaced

variable {words before after : List Lexeme}

theorem singleton {word : Lexeme} (h : word.isComparison = false) : Spaced [word] where
  nonempty := nofun
  chain := .singleton word
  head := by rintro _ ⟨⟩; exact h
  last := by rintro _ ⟨⟩; exact h

/-- Words on both sides of one that is no operand. -/
theorem append (hbefore : Spaced before) {word : Lexeme} (hword : word.isAtom = false)
    (hafter : Spaced after) : Spaced (before ++ word :: after) where
  nonempty := by simp
  chain := by
    refine List.isChain_append.2 ⟨hbefore.chain, List.isChain_cons.2 ⟨?_, hafter.chain⟩, ?_⟩
    · exact fun next hnext => Lexeme.apart_of_left hword (.inr (hafter.head next hnext))
    · rintro last hlast _ ⟨⟩
      exact Lexeme.apart_comm (Lexeme.apart_of_left hword (.inr (hbefore.last last hlast)))
  head := by
    rw [List.head?_append_of_ne_nil _ hbefore.nonempty]
    exact hbefore.head
  last := by
    rw [List.getLast?_append_cons, List.getLast?_cons_of_ne_nil hafter.nonempty]
    exact hafter.last

theorem cons {word : Lexeme} (hword : word.isComparison = false)
    (hnext : ∀ next ∈ words.head?, word.Apart next) (h : Spaced words) :
    Spaced (word :: words) where
  nonempty := nofun
  chain := List.isChain_cons.2 ⟨hnext, h.chain⟩
  head := by rintro _ ⟨⟩; exact hword
  last := by
    rw [List.getLast?_cons_of_ne_nil h.nonempty]
    exact h.last

theorem enclosed (h : words.IsChain Lexeme.Apart) :
    Spaced (.leftParen :: (words ++ [.rightParen])) where
  nonempty := nofun
  chain := by
    refine List.isChain_cons.2 ⟨fun next _ => Lexeme.apart_of_left rfl (.inl rfl), ?_⟩
    refine List.isChain_append.2 ⟨h, .singleton _, ?_⟩
    rintro last - _ ⟨⟩
    exact Lexeme.apart_comm (Lexeme.apart_of_left rfl (.inl rfl))
  head := by rintro _ ⟨⟩; rfl
  last := by
    rw [← List.cons_append, List.getLast?_concat]
    rintro _ ⟨⟩
    rfl

end Spaced

namespace Grammar

variable {g : Grammar} {case : Text.LetterCase} {words : List Lexeme} {e : Expr}

theorem spaced_listed {arguments : List (List Lexeme × Expr)} (hne : arguments ≠ [])
    (h : ∀ argument ∈ arguments, Spaced argument.1) : Spaced (listed arguments) := by
  induction arguments with
  | nil => exact absurd rfl hne
  | cons argument others ih =>
    obtain ⟨hargument, hothers⟩ := List.forall_mem_cons.1 h
    cases others with
    | nil => exact (listed_singleton argument).symm ▸ hargument
    | cons next others =>
      rw [listed_cons_cons]
      exact hargument.append rfl (ih nofun hothers)

theorem Refers.spaced (h : g.Refers case words e) : Spaced words := by
  cases h with
  | cell | column => exact .singleton rfl
  | range | rangeToRow | columns => exact (Spaced.singleton rfl).append rfl (.singleton rfl)

/-- The words of a phrase stay apart. -/
theorem Derives.spaced {phrase : Phrase} (h : g.Derives case phrase words e) : Spaced words := by
  induction h with
  | ofSum _ ih | ofProduct _ ih | ofSigned _ ih | ofPart _ ih => exact ih
  | compare _ _ _ ihLeft ihRight | add _ _ ihLeft ihRight | subtract _ _ ihLeft ihRight
  | multiply _ _ ihLeft ihRight | divide _ _ ihLeft ihRight => exact ihLeft.append rfl ihRight
  | minus _ ih => exact ih.cons rfl fun next _ => Lexeme.apart_of_left rfl (.inl rfl)
  | number | string | deletedReference => exact .singleton rfl
  | parenthesized _ ih => exact .enclosed ih.chain
  | @call name function arguments _ _ _ ih =>
    have hchain : (listed arguments).IsChain Lexeme.Apart := by
      by_cases hne : arguments = []
      · rw [hne]
        exact .nil
      · exact (spaced_listed hne ih).chain
    refine (Spaced.enclosed hchain).cons rfl ?_
    rintro _ ⟨⟩
    exact Lexeme.apart_comm (Lexeme.apart_of_left rfl (.inl rfl))
  | reference h => exact h.spaced

/-! ## Printed phrases -/

/-- The loosest phrase that a formula of a precedence can be printed as. -/
def phraseOf : Nat → Phrase
  | 0 | 1 => .comparison
  | 2 => .sum
  | 3 => .product
  | 4 => .signed
  | _ => .part

/-- A tight phrase is also a looser one. -/
theorem Derives.loosen {low high : Nat} (hle : low ≤ high)
    (h : g.Derives case (phraseOf high) words e) : g.Derives case (phraseOf low) words e := by
  induction hle with
  | refl => exact h
  | @step high _ ih =>
    refine ih ?_
    match high with
    | 0 => exact h
    | 1 => exact .ofSum h
    | 2 => exact .ofProduct h
    | 3 => exact .ofSigned h
    | 4 => exact .ofPart h
    | _ + 5 => exact h

/-- Parentheses make a part of a formula, and without them it is tight enough. -/
theorem Derives.wrapped {precedence : Nat} {needed : Bool}
    (h : g.Derives case (phraseOf precedence) words e) (low : Nat)
    (hneeded : needed = false → low ≤ precedence) :
    g.Derives case (phraseOf low) (Spreadsheet.wrapped needed words) e := by
  cases needed with
  | false => exact h.loosen (hneeded rfl)
  | true =>
    have hpart : g.Derives case (phraseOf (low + 5)) (.leftParen :: (words ++ [.rightParen])) e :=
      .parenthesized (h.loosen (Nat.zero_le precedence))
    exact hpart.loosen (Nat.le_add_right low 5)

/-- An operator between two phrases, the right one tighter. -/
theorem Derives.binary {op : BinaryOp} (hop : ∀ symbol, op ≠ .unknown symbol)
    {before after : List Lexeme} {left right : Expr}
    (hleft : g.Derives case (phraseOf op.precedence) before left)
    (hright : g.Derives case (phraseOf (op.precedence + 1)) after right) :
    g.Derives case (phraseOf op.precedence) (before ++ op.lexeme :: after)
      (.binary op left right) := by
  cases op with
  | comparison op => exact .compare op hleft hright
  | arithmetic op =>
    cases op with
    | add => exact .add hleft hright
    | sub => exact .subtract hleft hright
    | mul => exact .multiply hleft hright
    | div => exact .divide hleft hright
  | unknown symbol => exact absurd rfl (hop symbol)

end Grammar

namespace Expr

open Grammar

variable {g : Grammar} {lowercase : Bool} {e : Expr}

/-! ## References -/

theorem isColumn_columnText {col : Int} (h : 0 ≤ col ∧ col < g.nCols) (lowercase : Bool) :
    g.IsColumn (.ofLowercase lowercase) (Coord.columnText col lowercase).toList col :=
  ⟨Coord.columnText_ne_nil col lowercase, fun _ => Coord.has_of_mem_columnText,
    Coord.ofLetters_columnText h.1 lowercase, h.2⟩

theorem isDigit_of_mem_rowText {row : Int} (h : 0 ≤ row) {c : Char}
    (hc : c ∈ (rowText row).toList) : c.isDigit := by
  rw [toList_rowText h] at hc
  exact Text.isDigit_of_mem_decimalDigits hc

theorem isRow_rowText {row : Int} (h : 0 ≤ row ∧ row < g.nRows) :
    g.IsRow (rowText row).toList row where
  nonempty hnil := by
    have hvalue := digitsValue_rowText h.1
    rw [hnil] at hvalue
    have hzero : (Text.digitsValue [] : Int) = 0 := rfl
    omega
  decimal c hc := Text.isDecimal_of_isDigit (isDigit_of_mem_rowText h.1 hc)
  value := digitsValue_rowText h.1
  within := h

theorem isCell_name {cell : Coord} (h : cell.Within g.nRows g.nCols) (lowercase : Bool) :
    g.IsCell (.ofLowercase lowercase) (cell.name lowercase) cell :=
  ⟨_, _, by rw [Coord.name, String.toList_append], isColumn_columnText h.2 lowercase,
    isRow_rowText h.1⟩

/-- The words of a reference are that reference. -/
theorem refers_words (href : e.isReference) (h : e.Placed g.nRows g.nCols lowercase) :
    g.Refers (.ofLowercase lowercase) e.words e := by
  have hlower := Text.LetterCase.isLower_ofLowercase lowercase
  cases e with
  | cell target small =>
    obtain ⟨hwithin, rfl⟩ := h
    have hcell := Refers.cell (isCell_name hwithin small)
    rwa [hlower] at hcell
  | range top left bottom right small =>
    obtain ⟨hrows, hcols, rfl⟩ := h
    obtain ⟨htop, hrows, hbottom⟩ := hrows
    obtain ⟨hleft, hcols, hright⟩ := hcols
    have hfirst : Coord.Within ⟨top, left⟩ g.nRows g.nCols :=
      ⟨⟨htop, Int.lt_of_le_of_lt hrows hbottom⟩, hleft, Int.lt_of_le_of_lt hcols hright⟩
    have hlast : Coord.Within ⟨bottom, right⟩ g.nRows g.nCols :=
      ⟨⟨Int.le_trans htop hrows, hbottom⟩, Int.le_trans hleft hcols, hright⟩
    have hrange := Refers.range (isCell_name hfirst small) (isCell_name hlast small)
    simp only [rangeBetween, hlower] at hrange
    rwa [Int.min_eq_left hrows, Int.max_eq_right hrows, Int.min_eq_left hcols,
      Int.max_eq_right hcols] at hrange
  | columns first last small =>
    obtain ⟨hcols, rfl⟩ := h
    obtain ⟨hleft, hle, hright⟩ := hcols
    have hfirst := isColumn_columnText ⟨hleft, Int.lt_of_le_of_lt hle hright⟩ small
    have hlast := isColumn_columnText ⟨Int.le_trans hleft hle, hright⟩ small
    rw [words]
    split
    · next hsame =>
      have hcolumn := Refers.column hfirst
      rw [hlower] at hcolumn
      rwa [← hsame]
    · have hcolumns := Refers.columns hfirst hlast
      rwa [hlower, Int.min_eq_left hle, Int.max_eq_right hle] at hcolumns
  | _ => cases href

/-! ## Formulas -/

theorem numberText_spelling {n : Numeral} (hn : n.Formed) (value : Binary64) :
    numberText value (String.ofList n.spelling) = String.ofList n.spelling := by
  have hempty : (String.ofList n.spelling).isEmpty = false := by
    rw [Bool.eq_false_iff, Ne, String.isEmpty_iff, ← String.toList_eq_nil_iff, String.toList_ofList]
    intro hnil
    have hstart := Lexeme.startsNumber_spelling hn []
    rw [hnil] at hstart
    cases hstart
  unfold numberText
  rw [hempty]
  rfl

/-- A formula that can be printed is the phrase that its words are. -/
theorem derives_words (h : e.Throughout (Printable g lowercase)) :
    g.Derives (.ofLowercase lowercase) (phraseOf e.precedence) e.words e := by
  induction e using Expr.induction with
  | number value spelling =>
    obtain ⟨-, ⟨n, hn, rfl, rfl⟩, -⟩ := (throughout_of_nodes rfl).1 h
    rw [words, numberText_spelling hn, ← numberOf_spelling hn]
    exact .number _
  | string text => exact .string text
  | deletedReference => exact .deletedReference _
  | reference ref href =>
    have hplaced := ((throughout_of_isReference href).1 h).placed
    have hpart : ref.precedence = 5 := by cases ref <;> first | rfl | cases href
    rw [hpart]
    exact .reference (refers_words href hplaced)
  | unary op operand ih =>
    obtain ⟨⟨-, rfl, -⟩, hoperand⟩ := throughout_unary.1 h
    refine .minus ((ih hoperand).wrapped 4 fun hloose => ?_)
    exact Nat.le_of_not_lt (of_decide_eq_false hloose)
  | binary op left right ihLeft ihRight =>
    obtain ⟨⟨-, hop, -⟩, hleft, hright⟩ := throughout_binary.1 h
    refine .binary hop ((ihLeft hleft).wrapped _ fun hloose => ?_)
      ((ihRight hright).wrapped _ fun hloose => ?_)
    · exact Nat.le_of_not_lt (of_decide_eq_false hloose)
    · exact Nat.lt_of_not_le (of_decide_eq_false hloose)
  | call name args ih =>
    obtain ⟨⟨-, ⟨function, hfind, haccepts⟩, -⟩, hargs⟩ := throughout_call.1 h
    have hargs : ∀ argument ∈ args.map fun arg => (arg.words, arg),
        g.Derives (.ofLowercase lowercase) .comparison argument.1 argument.2 :=
      List.forall_mem_map.2 fun arg harg =>
        (ih arg harg (hargs arg harg)).loosen (Nat.zero_le arg.precedence)
    have hcall := Derives.call hfind (by rwa [List.length_map]) hargs
    rw [List.map_map, Function.comp_def, List.map_id'] at hcall
    rw [words, wordsOfAll_eq_map]
    simp only [listed, List.map_map, Function.comp_def] at hcall
    exact hcall

/-! ## The form of the words -/

theorem isWord_of_append {name : String} {letters digits : List Char}
    (happend : name.toList = letters ++ digits) (hne : letters ≠ [])
    (hletters : ∀ c ∈ letters, c.isAlpha) (hdigits : ∀ c ∈ digits, c.isDigit) :
    Lexeme.IsWord name := by
  obtain ⟨c, letters, rfl⟩ := List.exists_cons_of_ne_nil hne
  obtain ⟨hc, hletters⟩ := List.forall_mem_cons.1 hletters
  refine ⟨c, letters ++ digits, happend, ?_, fun d hd => ?_⟩
  · rw [Lexeme.isNameStart, hc, Bool.true_or]
  · rw [Lexeme.isNamePart, Char.isAlphanum]
    rcases List.mem_append.1 hd with hd | hd
    · rw [hletters d hd, Bool.true_or, Bool.true_or]
    · rw [hdigits d hd, Bool.or_true, Bool.true_or]

theorem isWord_columnText (col : Int) (lowercase : Bool) :
    Lexeme.IsWord (Coord.columnText col lowercase) :=
  isWord_of_append (List.append_nil _).symm (Coord.columnText_ne_nil col lowercase)
    (fun _ hc => Text.LetterCase.isAlpha_of_has (Coord.has_of_mem_columnText hc)) nofun

theorem isWord_name {cell : Coord} (h : 0 ≤ cell.row) (lowercase : Bool) :
    Lexeme.IsWord (cell.name lowercase) :=
  isWord_of_append (by rw [Coord.name, String.toList_append])
    (Coord.columnText_ne_nil cell.col lowercase)
    (fun _ hc => Text.LetterCase.isAlpha_of_has (Coord.has_of_mem_columnText hc))
    fun _ => isDigit_of_mem_rowText h

theorem formed_wrapped {words : List Lexeme} (h : ∀ word ∈ words, word.Formed ∧ word ≠ .stop)
    (needed : Bool) : ∀ word ∈ wrapped needed words, word.Formed ∧ word ≠ .stop := by
  cases needed with
  | false => exact h
  | true =>
    refine List.forall_mem_cons.2 ⟨⟨trivial, nofun⟩, List.forall_mem_append.2 ⟨h, ?_⟩⟩
    exact List.forall_mem_singleton.2 ⟨trivial, nofun⟩

theorem formed_intercalate {rows : List (List Lexeme)}
    (h : ∀ row ∈ rows, ∀ word ∈ row, word.Formed ∧ word ≠ .stop) :
    ∀ word ∈ [Lexeme.comma].intercalate rows, word.Formed ∧ word ≠ .stop := by
  induction rows with
  | nil => exact nofun
  | cons row rows ih =>
    obtain ⟨hrow, hrows⟩ := List.forall_mem_cons.1 h
    cases rows with
    | nil => rwa [List.intercalate_singleton]
    | cons next rows =>
      rw [List.intercalate_cons_cons, List.append_assoc]
      refine List.forall_mem_append.2 ⟨hrow, List.forall_mem_append.2 ⟨?_, ih hrows⟩⟩
      exact List.forall_mem_singleton.2 ⟨trivial, nofun⟩

theorem formed_words_of_isReference (href : e.isReference)
    (h : e.Placed g.nRows g.nCols lowercase) :
    ∀ word ∈ e.words, word.Formed ∧ word ≠ .stop := by
  have hcolon : Lexeme.colon.Formed ∧ Lexeme.colon ≠ .stop := ⟨trivial, nofun⟩
  cases e with
  | cell target small =>
    exact List.forall_mem_singleton.2 ⟨isWord_name h.1.1.1 small, nofun⟩
  | range top left bottom right small =>
    obtain ⟨⟨htop, hrows, -⟩, -, -⟩ := h
    have hlast : Lexeme.IsWord (Coord.name ⟨bottom, right⟩ small) :=
      isWord_name (Int.le_trans htop hrows) small
    refine List.forall_mem_cons.2 ⟨⟨isWord_name htop small, nofun⟩, ?_⟩
    exact List.forall_mem_cons.2 ⟨hcolon, List.forall_mem_singleton.2 ⟨hlast, nofun⟩⟩
  | columns first last small =>
    rw [words]
    split
    · exact List.forall_mem_singleton.2 ⟨isWord_columnText first small, nofun⟩
    · refine List.forall_mem_cons.2 ⟨⟨isWord_columnText first small, nofun⟩, ?_⟩
      refine List.forall_mem_cons.2 ⟨hcolon, ?_⟩
      exact List.forall_mem_singleton.2 ⟨isWord_columnText last small, nofun⟩
  | _ => cases href

/-- The words of a formula that can be printed are formed. -/
theorem formed_words (h : e.Throughout (Printable g lowercase)) :
    ∀ word ∈ e.words, word.Formed ∧ word ≠ .stop := by
  induction e using Expr.induction with
  | number value spelling =>
    obtain ⟨-, ⟨n, hn, rfl, -⟩, -⟩ := (throughout_of_nodes rfl).1 h
    rw [words, numberText_spelling hn]
    exact List.forall_mem_singleton.2 ⟨⟨n, hn, rfl⟩, nofun⟩
  | string text => exact List.forall_mem_singleton.2 ⟨trivial, nofun⟩
  | deletedReference => exact List.forall_mem_singleton.2 ⟨rfl, nofun⟩
  | reference ref href =>
    exact formed_words_of_isReference href
      ((throughout_of_isReference href).1 h).placed
  | unary op operand ih =>
    obtain ⟨⟨-, rfl, -⟩, hoperand⟩ := throughout_unary.1 h
    exact List.forall_mem_cons.2 ⟨⟨trivial, nofun⟩, formed_wrapped (ih hoperand) _⟩
  | binary op left right ihLeft ihRight =>
    obtain ⟨⟨-, hop, -⟩, hleft, hright⟩ := throughout_binary.1 h
    have hword : op.lexeme.Formed ∧ op.lexeme ≠ .stop := by
      cases op with
      | unknown symbol => exact absurd rfl (hop symbol)
      | _ => exact ⟨trivial, nofun⟩
    exact List.forall_mem_append.2 ⟨formed_wrapped (ihLeft hleft) _,
      List.forall_mem_cons.2 ⟨hword, formed_wrapped (ihRight hright) _⟩⟩
  | call name args ih =>
    obtain ⟨⟨-, -, hname⟩, hargs⟩ := throughout_call.1 h
    have hinner : ∀ word ∈ [Lexeme.comma].intercalate (wordsOfAll args),
        word.Formed ∧ word ≠ .stop := by
      refine formed_intercalate ?_
      rw [wordsOfAll_eq_map]
      exact List.forall_mem_map.2 fun arg harg => ih arg harg (hargs arg harg)
    refine List.forall_mem_cons.2 ⟨⟨hname, nofun⟩, List.forall_mem_cons.2 ⟨⟨trivial, nofun⟩, ?_⟩⟩
    exact List.forall_mem_append.2 ⟨hinner, List.forall_mem_singleton.2 ⟨trivial, nofun⟩⟩

/-! ## Printing and reading -/

/-- The tokens of the text of a formula that can be printed are its words. -/
theorem exists_tokenize_print (h : e.Throughout (Printable g lowercase)) :
    ∃ tokens, tokenize e.print = .ok tokens ∧
      tokens.map Token.lexeme = e.words ++ [.stop] := by
  obtain ⟨tokens, htokens, hwords⟩ :=
    exists_tokensFrom_source 0 (formed_words h) (derives_words h).spaced.chain
  rw [← toList_print] at htokens
  exact ⟨tokens, htokens, hwords⟩

/-- A formula that can be printed is read as it was. -/
theorem parse_print_of_printable (h : e.Throughout (Printable g lowercase)) :
    g.parse e.print = .ok e := by
  obtain ⟨tokens, htokens, hwords⟩ := exists_tokenize_print h
  have hderives := (derives_words h).loosen (Nat.zero_le e.precedence)
  exact parse_of_spells htokens ⟨_, e.words, hwords, hderives⟩

theorem columnFault?_eq_none {cols : List Int} (h : ∀ col ∈ cols, 0 ≤ col) :
    columnFault? cols = none := by
  rw [columnFault?, Option.map_eq_none_iff, List.find?_eq_none]
  exact fun col hcol => by simpa using h col hcol

/-- Everything in a formula that can be printed has a text. -/
theorem printFault?_eq_none (h : e.Throughout (Printable g lowercase)) : e.printFault? = none := by
  refine List.findSome?_eq_none_iff.2 fun node hnode => ?_
  obtain ⟨hplaced, hwritten, -⟩ := h node hnode
  split
  · exact absurd rfl (hwritten _)
  · exact columnFault?_eq_none (List.forall_mem_singleton.2 hplaced.1.2.1)
  · obtain ⟨-, ⟨hleft, hcols, -⟩, -⟩ := hplaced
    exact columnFault?_eq_none
      (List.forall_mem_cons.2 ⟨hleft, List.forall_mem_singleton.2 (Int.le_trans hleft hcols)⟩)
  · obtain ⟨⟨hfirst, hcols, -⟩, -⟩ := hplaced
    exact columnFault?_eq_none
      (List.forall_mem_cons.2 ⟨hfirst, List.forall_mem_singleton.2 (Int.le_trans hfirst hcols)⟩)
  · rfl

end Expr

namespace Grammar

/-- A well-formed formula whose calls are by name has a text, and that text is read as the formula.
Formulas that are read are such, and they remain so when rows or columns come and go and when
references are moved. -/
theorem parse_print (g : Grammar) :
    (∀ e : Expr, e.WellFormed g → e.CallsByName →
      e.printFault? = none ∧ g.parse e.print = .ok e) ∧
    (∀ (text : String) (e : Expr), g.parse text = .ok e → e.WellFormed g ∧ e.CallsByName) ∧
    (∀ (e : Expr) (edit : LineEdit), e.WellFormed g → e.CallsByName → g.Allows edit →
      ((e.afterEdit? edit).getD e).WellFormed (g.after edit) ∧
        ((e.afterEdit? edit).getD e).CallsByName) ∧
    (∀ (e : Expr) (rows cols : Int), e.WellFormed g → e.CallsByName →
      ((e.shifted? rows cols g.nRows g.nCols).getD e).WellFormed g ∧
        ((e.shifted? rows cols g.nRows g.nCols).getD e).CallsByName) := by
  refine ⟨fun e hformed hnamed => ?_, fun text e h => ?_, fun e edit hformed hnamed hedit => ?_,
    fun e rows cols hformed hnamed => ?_⟩
  · obtain ⟨lowercase, h⟩ := Expr.wellFormed_and_callsByName_iff.1 ⟨hformed, hnamed⟩
    exact ⟨Expr.printFault?_eq_none h, Expr.parse_print_of_printable h⟩
  · exact Expr.wellFormed_and_callsByName_iff.2 (exists_printable_of_parse h)
  · obtain ⟨lowercase, h⟩ := Expr.wellFormed_and_callsByName_iff.1 ⟨hformed, hnamed⟩
    exact Expr.wellFormed_and_callsByName_iff.2 ⟨lowercase, Expr.printable_afterEdit hedit h⟩
  · obtain ⟨lowercase, h⟩ := Expr.wellFormed_and_callsByName_iff.1 ⟨hformed, hnamed⟩
    exact Expr.wellFormed_and_callsByName_iff.2 ⟨lowercase, Expr.printable_shifted h rows cols⟩

/-- Of a formula that is read, then of the same without its first row and moved to the left. -/
theorem parse_print_product :
    ∃ e, (⟨2, 2, .builtin⟩ : Grammar).parse "-a1*b2" = .ok e ∧
      (⟨2, 2, .builtin⟩ : Grammar).parse e.print = .ok e ∧
      ((e.afterEdit? (.delete .row 0)).getD e).WellFormed ⟨1, 2, .builtin⟩ ∧
      (⟨2, 2, .builtin⟩ : Grammar).parse ((e.shifted? 0 (-1) 2 2).getD e).print =
        .ok ((e.shifted? 0 (-1) 2 2).getD e) := by
  have hread : (⟨2, 2, .builtin⟩ : Grammar).parse "-a1*b2" =
      .ok (.binary (.arithmetic .mul) (.unary .minus (.cell ⟨0, 0⟩ true)) (.cell ⟨1, 1⟩ true)) := by
    cbv
  obtain ⟨hprint, hparse, hedit, hshift⟩ := parse_print ⟨2, 2, .builtin⟩
  obtain ⟨hformed, hnamed⟩ := hparse _ _ hread
  have hallows : Allows ⟨2, 2, .builtin⟩ (.delete .row 0) := ⟨by decide, by decide⟩
  obtain ⟨hshifted, hshiftedNamed⟩ := hshift _ 0 (-1) hformed hnamed
  exact ⟨_, hread, (hprint _ hformed hnamed).2, (hedit _ _ hformed hnamed hallows).1,
    (hprint _ hshifted hshiftedNamed).2⟩

/-- The function of a name is found whatever the case of its letters, and the capital of a long `s`
is `S`, so `ſum` is a registered function. As a text it is no name. -/
theorem parse_print_longS :
    (Expr.call "ſum" [.string "x"]).WellFormed ⟨1, 1, .builtin⟩ ∧
      (⟨1, 1, .builtin⟩ : Grammar).parse (Expr.call "ſum" [.string "x"]).print =
        .error ⟨.unexpectedCharacter 'ſ', 0⟩ := by
  have hfind : ∃ function, Registry.builtin.find? "ſum" = some function ∧
      function.arity.accepts 1 :=
    ⟨_, by cbv, by decide⟩
  refine ⟨⟨false, ?_⟩, by cbv⟩
  exact Expr.throughout_call.2 ⟨⟨trivial, hfind⟩,
    List.forall_mem_singleton.2 ((Expr.throughout_of_nodes rfl).2 ⟨trivial, trivial⟩)⟩

end Grammar

end Spreadsheet

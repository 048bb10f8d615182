import Mathlib
import Spreadsheet.Proofs.Formula.Completeness
import Spreadsheet.Proofs.Formula.Likeness
import Spreadsheet.Proofs.Formula.Printing

/-!
# The shortest texts of formulas

A phrase that spells a formula has at least as many words as the formula is printed as, and two
more if the formula is too loose for the phrase (`Derives.lengthIn_le`): parentheses that the
printer writes stand in every text of the formula. A formula that is equal is printed as no fewer
words. So no text of an equal formula has fewer tokens than the printed one
(`Grammar.length_tokens_print_le`).
-/

namespace Spreadsheet

theorem length_intercalate_le (separator : Lexeme) {rows rows' : List (List Lexeme)}
    (h : List.Forall₂ (fun row row' => row.length ≤ row'.length) rows rows') :
    ([separator].intercalate rows).length ≤ ([separator].intercalate rows').length := by
  induction h with
  | nil => rfl
  | @cons row row' rows rows' hrow hrows ih =>
    cases hrows with
    | nil => simpa using hrow
    | cons _ _ =>
      rw [List.intercalate_cons_cons, List.intercalate_cons_cons]
      simp only [List.length_append, List.length_singleton]
      omega

namespace Expr

variable {e e' : Expr}

/-- The number of words that a formula takes where it must hold together as tightly as given: those
of the parentheses count. -/
def lengthIn (precedence : Nat) (e : Expr) : Nat :=
  (wrapped (e.precedence < precedence) e.words).length

theorem lengthIn_eq (precedence : Nat) (e : Expr) :
    e.lengthIn precedence = e.words.length + if e.precedence < precedence then 2 else 0 := by
  rw [lengthIn, wrapped]
  by_cases h : e.precedence < precedence <;> simp [h]

/-- Where a looser formula would do, no more words are needed. -/
theorem lengthIn_mono (e : Expr) {low high : Nat} (h : low ≤ high) :
    e.lengthIn low ≤ e.lengthIn high := by
  rw [lengthIn_eq, lengthIn_eq]
  split <;> split <;> omega

theorem lengthIn_of_le {precedence : Nat} (h : precedence ≤ e.precedence) :
    e.lengthIn precedence = e.words.length := by
  rw [lengthIn_eq, if_neg (Nat.not_lt.2 h), Nat.add_zero]

theorem length_words_le (precedence : Nat) (e : Expr) :
    e.words.length ≤ e.lengthIn precedence := by
  rw [lengthIn_eq]
  exact Nat.le_add_right _ _

/-- Parentheses are two words. -/
theorem lengthIn_le_add_two (precedence : Nat) (e : Expr) :
    e.lengthIn precedence ≤ e.words.length + 2 := by
  rw [lengthIn_eq]
  split <;> omega

theorem length_words_unary (op : UnaryOp) (operand : Expr) :
    (Expr.unary op operand).words.length = operand.lengthIn 4 + 1 := rfl

theorem length_words_binary (op : BinaryOp) (left right : Expr) :
    (Expr.binary op left right).words.length =
      left.lengthIn op.precedence + (right.lengthIn (op.precedence + 1) + 1) := by
  rw [words, List.length_append, List.length_cons, lengthIn, lengthIn]
  simp only [Nat.lt_succ_iff]

theorem length_words_call (name : String) (args : List Expr) :
    (Expr.call name args).words.length =
      ([Lexeme.comma].intercalate (args.map words)).length + 3 := by
  rw [words, wordsOfAll_eq_map]
  simp

/-- A call has the words of its arguments, with commas between them. -/
theorem length_words_call_le (name : String) {args : List Expr} {rows : List (List Lexeme)}
    (h : List.Forall₂ (fun arg row => arg.words.length ≤ row.length) args rows) :
    (Expr.call name args).words.length ≤ ([Lexeme.comma].intercalate rows).length + 3 := by
  have hrows := length_intercalate_le .comma (List.forall₂_map_left_iff.2 h)
  rw [length_words_call]
  exact Nat.add_le_add_right hrows 3

/-! ## Equal formulas -/

theorem EqualUpTo.precedence_eq {numbers : Binary64 → Binary64 → Prop}
    {names : String → String → Prop} (h : e.EqualUpTo numbers names e') :
    e'.precedence = e.precedence := by
  cases h <;> rfl

/-- Other numbers, names and spellings in their places make no fewer words. -/
theorem EqualUpTo.length_words_le {numbers : Binary64 → Binary64 → Prop}
    {names : String → String → Prop} (h : e.EqualUpTo numbers names e') :
    e.words.length ≤ e'.words.length := by
  have hlength {e e' : Expr} {precedence : Nat} (h : e.EqualUpTo numbers names e')
      (hwords : e.words.length ≤ e'.words.length) :
      e.lengthIn precedence ≤ e'.lengthIn precedence := by
    rw [lengthIn_eq, lengthIn_eq, h.precedence_eq]
    omega
  -- On the formula, for all that are equal to it: both need parentheses in the same places.
  induction e using Expr.induction generalizing e' with
  | number | string | deletedReference => cases h; rfl
  | reference ref href =>
    cases h with
    | cell | range => rfl
    | columns first last small small' => rw [words, words]; split <;> rfl
    | _ => cases href
  | unary op operand ih =>
    cases h with
    | unary _ h =>
      rw [length_words_unary, length_words_unary]
      exact Nat.succ_le_succ (hlength h (ih h))
  | binary op left right ihLeft ihRight =>
    cases h with
    | binary _ hleft hright =>
      rw [length_words_binary, length_words_binary]
      exact Nat.add_le_add (hlength hleft (ihLeft hleft))
        (Nat.succ_le_succ (hlength hright (ihRight hright)))
  | call name args ih =>
    cases h with
    | @call _ name' _ _ args' hargs =>
      have hrows : List.Forall₂ (fun arg row => arg.words.length ≤ row.length) args
          (args'.map words) := by
        rw [List.forall₂_map_right_iff]
        refine ((List.forall₂_and_left _ _).2 ⟨ih, hargs⟩).imp ?_
        rintro arg arg' ⟨ih, harg⟩
        exact ih harg
      rw [length_words_call name' args']
      exact length_words_call_le name hrows

end Expr

namespace Grammar

variable {g : Grammar} {case : Text.LetterCase} {words : List Lexeme} {e : Expr}

/-! ## Phrases -/

/-- How tightly a formula holds together that is a phrase of a kind. -/
def Phrase.precedence : Phrase → Nat
  | .comparison => 1
  | .sum => 2
  | .product => 3
  | .signed => 4
  | .part => 5

theorem Refers.length_words_le (h : g.Refers case words e) : e.words.length ≤ words.length := by
  cases h with
  | cell | range | rangeToRow => rfl
  | column =>
    rw [Expr.words, if_pos rfl]
    exact Nat.le_refl 1
  | columns =>
    rw [Expr.words]
    split <;> simp

theorem Refers.precedence_eq (h : g.Refers case words e) : e.precedence = 5 := by
  cases h <;> rfl

/-- A phrase has at least as many words as its formula is printed as there. -/
theorem Derives.lengthIn_le {phrase : Phrase} (h : g.Derives case phrase words e) :
    e.lengthIn phrase.precedence ≤ words.length := by
  -- An operator stands between two phrases for its operands, and is as loose as the phrase.
  have hbinary (op : BinaryOp) {left right : Expr} {before after : List Lexeme} (word : Lexeme)
      (hleft : left.lengthIn op.precedence ≤ before.length)
      (hright : right.lengthIn (op.precedence + 1) ≤ after.length) :
      (Expr.binary op left right).lengthIn op.precedence ≤ (before ++ word :: after).length := by
    rw [Expr.lengthIn_of_le (Nat.le_refl op.precedence), Expr.length_words_binary,
      List.length_append, List.length_cons]
    omega
  induction h with
  | ofSum _ ih | ofProduct _ ih | ofSigned _ ih | ofPart _ ih =>
    exact (Expr.lengthIn_mono _ (by decide)).trans ih
  | compare op _ _ ihLeft ihRight => exact hbinary (.comparison op) _ ihLeft ihRight
  | add _ _ ihLeft ihRight => exact hbinary (.arithmetic .add) _ ihLeft ihRight
  | subtract _ _ ihLeft ihRight => exact hbinary (.arithmetic .sub) _ ihLeft ihRight
  | multiply _ _ ihLeft ihRight => exact hbinary (.arithmetic .mul) _ ihLeft ihRight
  | divide _ _ ihLeft ihRight => exact hbinary (.arithmetic .div) _ ihLeft ihRight
  | minus _ ih =>
    rw [Expr.lengthIn_of_le (Nat.le_refl 4), Expr.length_words_unary]
    exact Nat.succ_le_succ ih
  | number | string | deletedReference => rfl
  | @parenthesized words e _ ih =>
    have houter := e.lengthIn_le_add_two 5
    have hwords := e.length_words_le 1
    have hinner : e.lengthIn 1 ≤ words.length := ih
    simp only [Phrase.precedence, List.length_cons, List.length_append, List.length_nil]
    omega
  | @call name function arguments _ _ _ ih =>
    have hrows : List.Forall₂ (fun arg row => arg.words.length ≤ row.length)
        (arguments.map Prod.snd) (arguments.map Prod.fst) := by
      rw [List.forall₂_map_left_iff, List.forall₂_map_right_iff, List.forall₂_same]
      exact fun argument hargument => (argument.2.length_words_le 1).trans (ih argument hargument)
    have hcall := Expr.length_words_call_le name hrows
    rw [Expr.lengthIn_of_le (Nat.le_refl 5)]
    simp only [List.length_cons, List.length_append, List.length_nil, listed] at hcall ⊢
    omega
  | @reference words e h =>
    exact (Expr.lengthIn_of_le h.precedence_eq.ge).trans_le h.length_words_le

/-! ## Texts -/

/-- Where the words of a formula are read, there are as many tokens as words, and the last one. -/
theorem length_tokens {tokens : List Token} (h : tokens.map Token.lexeme = words ++ [.stop]) :
    tokens.length = words.length + 1 := by
  rw [← List.length_map, h, List.length_append, List.length_singleton]

/-- A formula that is read can be printed, and has as many tokens as its printed words. -/
theorem exists_tokenize_print_of_parse {text : String} (h : g.parse text = .ok e) :
    e.printFault? = none ∧
      ∃ printed, tokenize e.print = .ok printed ∧ printed.length = e.words.length + 1 := by
  obtain ⟨lowercase, hprintable⟩ := exists_printable_of_parse h
  obtain ⟨printed, hprinted, hwords⟩ := Expr.exists_tokenize_print hprintable
  exact ⟨Expr.printFault?_eq_none hprintable, printed, hprinted, length_tokens hwords⟩

/-- A text has at least as many tokens as the formula that it is read as has printed words. -/
theorem exists_tokenize_of_parse {text : String} (h : g.parse text = .ok e) :
    ∃ tokens, tokenize text = .ok tokens ∧ e.words.length + 1 ≤ tokens.length := by
  obtain ⟨tokens, htokens, case, words, hwords, hderives⟩ := spells_of_parse h
  have hlength : e.words.length ≤ words.length :=
    (e.length_words_le 1).trans hderives.lengthIn_le
  exact ⟨tokens, htokens, (Nat.succ_le_succ hlength).trans (length_tokens hwords).ge⟩

/-- A formula that is read can be printed, and no text of an equal formula has fewer tokens than
its printed text. -/
theorem length_tokens_print_le {g g' : Grammar} {text other : String} {e e' : Expr}
    (h : g.parse text = .ok e) (hother : g'.parse other = .ok e') (hequals : e.Equals e') :
    e.printFault? = none ∧
      ∃ printed tokens, tokenize e.print = .ok printed ∧ tokenize other = .ok tokens ∧
        printed.length ≤ tokens.length := by
  obtain ⟨hfault, printed, hprinted, hlength⟩ := exists_tokenize_print_of_parse h
  obtain ⟨tokens, htokens, hle⟩ := exists_tokenize_of_parse hother
  have hwords : e.words.length ≤ e'.words.length := Expr.EqualUpTo.length_words_le hequals
  exact ⟨hfault, printed, tokens, hprinted, htokens,
    hlength.trans_le ((Nat.succ_le_succ hwords).trans hle)⟩

/-- A sum of numbers. -/
def sumSample : Expr :=
  .binary (.arithmetic .add) (.number (numberOf "1") "1") (.number (numberOf "2") "2")

/-- The product of the sum and another number. -/
def productSample : Expr := .binary (.arithmetic .mul) sumSample (.number (numberOf "3") "3")

theorem derives_productSample {g : Grammar} {words : List Lexeme}
    (h : g.Derives .lower .part words sumSample) :
    g.Derives .lower .comparison (words ++ [.arithmetic .mul, .number "3"]) productSample :=
  .ofSum (.ofProduct (.multiply (.ofSigned (.ofPart h)) (.ofPart (.number "3"))))

/-- The sum needs its parentheses in the product, and may have more of them. -/
theorem parse_productSample (g : Grammar) :
    g.parse "((1+2))*3" = .ok productSample ∧ g.parse "(1+2)*3" = .ok productSample := by
  have hone : g.Derives .lower .sum [.number "1"] (.number (numberOf "1") "1") :=
    .ofProduct (.ofSigned (.ofPart (.number "1")))
  have hsum : g.Derives .lower .comparison [.number "1", .arithmetic .add, .number "2"] sumSample :=
    .ofSum (hone.add (.ofSigned (.ofPart (.number "2"))))
  have hdouble : tokenize "((1+2))*3" = .ok [⟨.leftParen, 0⟩, ⟨.leftParen, 1⟩, ⟨.number "1", 2⟩,
      ⟨.arithmetic .add, 3⟩, ⟨.number "2", 4⟩, ⟨.rightParen, 5⟩, ⟨.rightParen, 6⟩,
      ⟨.arithmetic .mul, 7⟩, ⟨.number "3", 8⟩, ⟨.stop, 9⟩] := by cbv
  have hsingle : tokenize "(1+2)*3" = .ok [⟨.leftParen, 0⟩, ⟨.number "1", 1⟩,
      ⟨.arithmetic .add, 2⟩, ⟨.number "2", 3⟩, ⟨.rightParen, 4⟩, ⟨.arithmetic .mul, 5⟩,
      ⟨.number "3", 6⟩, ⟨.stop, 7⟩] := by cbv
  have hinner : g.Derives .lower .comparison _ sumSample :=
    .ofSum (.ofProduct (.ofSigned (.ofPart hsum.parenthesized)))
  exact ⟨parse_of_spells hdouble ⟨.lower, _, rfl, derives_productSample hinner.parenthesized⟩,
    parse_of_spells hsingle ⟨.lower, _, rfl, derives_productSample hsum.parenthesized⟩⟩

theorem print_productSample : productSample.print = "(1+2)*3" := by
  have hprint (x y z : Binary64) : (Expr.binary (.arithmetic .mul)
      (.binary (.arithmetic .add) (.number x "1") (.number y "2")) (.number z "3")).print =
        "(1+2)*3" := by cbv
  exact hprint ..

/-- The product is printed with one pair of parentheses, also where it was read with two. -/
theorem length_tokens_print_le_product :
    (⟨2, 2, .builtin⟩ : Grammar).parse "((1+2))*3" = .ok productSample ∧
      (⟨2, 2, .builtin⟩ : Grammar).parse "(1+2)*3" = .ok productSample ∧
      productSample.Equals productSample ∧
      ∃ printed tokens, tokenize "(1+2)*3" = .ok printed ∧ tokenize "((1+2))*3" = .ok tokens ∧
        printed.length ≤ tokens.length := by
  obtain ⟨hdouble, hsingle⟩ := parse_productSample ⟨2, 2, .builtin⟩
  have hequals : productSample.Equals productSample := by
    refine .binary _ (.binary _ (.number ?_ _ _) (.number ?_ _ _)) (.number ?_ _ _)
    all_goals decide +kernel
  obtain ⟨-, hle⟩ := length_tokens_print_le hsingle hdouble hequals
  rw [print_productSample] at hle
  exact ⟨hdouble, hsingle, hequals, hle⟩

end Grammar

end Spreadsheet

import Mathlib
import Spreadsheet.Proofs.Formula.Completeness
import Spreadsheet.Proofs.Formula.Likeness
import Spreadsheet.Proofs.Formula.Recasing
import Spreadsheet.Proofs.Formula.WellFormed

/-!
# Formulas in another case

Whatever a row of words spells, its words in a case spell the same with the letters of its numbers
and names in the case, and with references that remember it (`Grammar.Derives.recased`). So a text
that is read is also read in all capitals and in all small letters, as a formula that reads the same
cells and has the same value (`Grammar.parse_recased`).
-/

namespace Spreadsheet

/-! ## Formulas -/

namespace Registry

theorem key_writeAll (case : Text.LetterCase) (name : String) :
    key (case.writeAll name) = key name := by
  rw [key, key, case.toList_writeAll, case.upper_map_write]

/-- A function is found under its name in every case. -/
theorem find?_writeAll (functions : Registry) (case : Text.LetterCase) (name : String) :
    functions.find? (case.writeAll name) = functions.find? name := by
  rw [find?, key_writeAll, find?]

end Registry

namespace Expr

mutual

/-- The formula as it is written in the case. -/
def recased (case : Text.LetterCase) : Expr → Expr
  | .number value spelling => .number value (case.writeAll spelling)
  | .string text => .string text
  | .cell target _ => .cell target case.isLower
  | .range top left bottom right _ => .range top left bottom right case.isLower
  | .columns first last _ => .columns first last case.isLower
  | .deletedReference => .deletedReference
  | .unary op operand => .unary op (operand.recased case)
  | .binary op left right => .binary op (left.recased case) (right.recased case)
  | .call name args => .call (case.writeAll name) (recasedAll case args)

/-- The formulas as they are written in the case. -/
def recasedAll (case : Text.LetterCase) : List Expr → List Expr
  | [] => []
  | e :: es => e.recased case :: recasedAll case es

end

theorem recasedAll_eq_map (case : Text.LetterCase) (args : List Expr) :
    recasedAll case args = args.map (recased case) := by
  induction args with
  | nil => rfl
  | cons e es ih => rw [recasedAll, ih, List.map_cons]

/-- A formula is written in another case without other changes. -/
theorem sameButSpelling_recased (case : Text.LetterCase) (e : Expr) :
    e.SameButSpelling (e.recased case) := by
  induction e using Expr.induction with
  | number value spelling => exact .number rfl _ _
  | string text => exact .string text
  | deletedReference => exact .deletedReference
  | reference ref href =>
    cases ref with
    | cell | range | columns => constructor
    | _ => cases href
  | unary op operand ih => exact .unary op ih
  | binary op left right ihLeft ihRight => exact .binary op ihLeft ihRight
  | call name args ih =>
    rw [recased, recasedAll_eq_map]
    refine .call ?_ ?_
    · exact (Registry.key_writeAll case name).symm
    · rw [List.forall₂_map_right_iff, List.forall₂_same]
      exact ih

end Expr

/-! ## Phrases -/

namespace Grammar

variable {g : Grammar} {case target : Text.LetterCase} {words : List Lexeme} {e : Expr}

theorem IsColumn.recased {letters : List Char} {col : Int} (h : g.IsColumn case letters col) :
    g.IsColumn target (letters.map target.write) col where
  nonempty := by
    rw [Ne, List.map_eq_nil_iff]
    exact h.nonempty
  oneCase := List.forall_mem_map.2 fun c hc =>
    target.has_write (Text.LetterCase.isAlpha_of_has (h.oneCase c hc))
  value := by
    rw [← h.value, ColumnName.ofLetters, ColumnName.ofLetters, ColumnName.countTo,
      ColumnName.countTo, List.foldl_map]
    simp only [target.apply_write (f := ColumnName.place) (by decide)]
  within := h.within

theorem IsRow.recased {digits : List Char} {row : Int} (h : g.IsRow digits row) :
    g.IsRow (digits.map target.write) row := by
  rwa [Numeral.map_write_of_isDecimal h.decimal]

theorem IsCell.recased {name : String} {cell : Coord} (h : g.IsCell case name cell) :
    g.IsCell target (target.writeAll name) cell := by
  obtain ⟨letters, digits, hname, hcol, hrow⟩ := h
  exact ⟨_, _, by rw [target.toList_writeAll, hname, List.map_append], hcol.recased, hrow.recased⟩

/-- A reference in the case is to the same cells. -/
theorem Refers.recased (h : g.Refers case words e) :
    g.Refers target (words.map (Lexeme.recased target)) (e.recased target) := by
  cases h with
  | cell h => exact .cell h.recased
  | range ha hb => exact .range ha.recased hb.recased
  | rangeToRow ha hrow =>
    refine .rangeToRow ha.recased ?_
    rw [target.toList_writeAll]
    exact hrow.recased
  | column h =>
    refine .column ?_
    rw [target.toList_writeAll]
    exact h.recased
  | columns ha hb =>
    refine .columns ?_ ?_
    · rw [target.toList_writeAll]
      exact ha.recased
    · rw [target.toList_writeAll]
      exact hb.recased

/-- The case of the letter of an exponent is nothing to a number. -/
theorem numberOf_writeAll {spelling : String} (h : Lexeme.IsNumeral spelling) :
    numberOf (target.writeAll spelling) = numberOf spelling := by
  obtain ⟨n, hn, rfl⟩ := h
  rw [target.writeAll_ofList, ← Numeral.spelling_recased hn,
    numberOf_spelling (Numeral.formed_recased hn), Numeral.toDecimal_recased, numberOf_spelling hn]

theorem map_recased_listed (arguments : List (List Lexeme × Expr)) :
    (listed arguments).map (Lexeme.recased target) =
      listed (arguments.map fun argument =>
        (argument.1.map (Lexeme.recased target), argument.2.recased target)) := by
  induction arguments with
  | nil => rfl
  | cons argument others ih =>
    cases others with
    | nil => rw [listed_singleton, List.map_singleton, listed_singleton]
    | cons next others =>
      simp only [List.map_cons, listed_cons_cons, List.map_append] at ih ⊢
      rw [ih]
      rfl

/-- A phrase in the case spells its formula, written in the case. -/
theorem Derives.recased {phrase : Phrase} (h : g.Derives case phrase words e)
    (hformed : ∀ word ∈ words, word.Formed) :
    g.Derives target phrase (words.map (Lexeme.recased target)) (e.recased target) := by
  -- The words on both sides of an operator are formed, and are changed each for itself.
  have hboth {before after : List Lexeme} {word : Lexeme}
      (h : ∀ other ∈ before ++ word :: after, other.Formed) :
      (∀ other ∈ before, other.Formed) ∧ ∀ other ∈ after, other.Formed := by
    obtain ⟨hbefore, hafter⟩ := List.forall_mem_append.1 h
    exact ⟨hbefore, (List.forall_mem_cons.1 hafter).2⟩
  induction h with
  | ofSum _ ih => exact .ofSum (ih hformed)
  | ofProduct _ ih => exact .ofProduct (ih hformed)
  | ofSigned _ ih => exact .ofSigned (ih hformed)
  | ofPart _ ih => exact .ofPart (ih hformed)
  | compare op _ _ ihLeft ihRight =>
    rw [List.map_append]
    exact .compare op (ihLeft (hboth hformed).1) (ihRight (hboth hformed).2)
  | add _ _ ihLeft ihRight =>
    rw [List.map_append]
    exact .add (ihLeft (hboth hformed).1) (ihRight (hboth hformed).2)
  | subtract _ _ ihLeft ihRight =>
    rw [List.map_append]
    exact .subtract (ihLeft (hboth hformed).1) (ihRight (hboth hformed).2)
  | multiply _ _ ihLeft ihRight =>
    rw [List.map_append]
    exact .multiply (ihLeft (hboth hformed).1) (ihRight (hboth hformed).2)
  | divide _ _ ihLeft ihRight =>
    rw [List.map_append]
    exact .divide (ihLeft (hboth hformed).1) (ihRight (hboth hformed).2)
  | minus _ ih => exact .minus (ih (List.forall_mem_cons.1 hformed).2)
  | number spelling =>
    have hnumeral : Lexeme.IsNumeral spelling := hformed _ List.mem_cons_self
    have hnumber : g.Derives target .part [.number (target.writeAll spelling)]
        (.number (numberOf (target.writeAll spelling)) (target.writeAll spelling)) := .number _
    rwa [numberOf_writeAll hnumeral] at hnumber
  | string content => exact .string content
  | deletedReference spelling => exact .deletedReference _
  | parenthesized _ ih =>
    have hinner := ih fun word hword => hformed word (by simp [hword])
    rw [List.map_cons, List.map_append]
    exact .parenthesized hinner
  | @call name function arguments hfind haccepts _ ih =>
    have harguments : ∀ argument ∈ arguments.map fun argument =>
        (argument.1.map (Lexeme.recased target), argument.2.recased target),
        g.Derives target .comparison argument.1 argument.2 := by
      refine List.forall_mem_map.2 fun argument hargument => ih argument hargument ?_
      exact fun word hword => hformed word (by simp [mem_listed hargument hword])
    rw [← List.length_map] at haccepts
    have hcall := Derives.call ((g.functions.find?_writeAll target name).trans hfind) haccepts
      harguments
    rw [List.map_map] at hcall
    rw [Expr.recased, Expr.recasedAll_eq_map, List.map_map, List.map_cons, List.map_cons,
      List.map_append, map_recased_listed]
    exact hcall
  | reference h => exact .reference h.recased

/-! ## Texts -/

theorem Spells.recased {tokens : List Token} (h : g.Spells tokens e)
    (hformed : ∀ token ∈ tokens, token.lexeme.Formed) :
    g.Spells (tokens.map (Token.recased target)) (e.recased target) := by
  obtain ⟨case, words, hwords, hderives⟩ := h
  have hwordsFormed : ∀ word ∈ words, word.Formed := by
    intro word hword
    have hmem : word ∈ tokens.map Token.lexeme := by
      rw [hwords]
      exact List.mem_append_left _ hword
    obtain ⟨token, htoken, rfl⟩ := List.mem_map.1 hmem
    exact hformed token htoken
  refine ⟨target, words.map (Lexeme.recased target), ?_, hderives.recased hwordsFormed⟩
  have hlexeme : Token.lexeme ∘ Token.recased target = Lexeme.recased target ∘ Token.lexeme := rfl
  rw [List.map_map, hlexeme, ← List.map_map, hwords, List.map_append]
  rfl

/-- A text that is read is also read with its letters of ASCII in one case, but for those in its
strings. What it is read as differs in its spelling alone, reads the same cells and has the same
value. -/
theorem parse_recased (case : Text.LetterCase) {text : String} (h : g.parse text = .ok e) :
    g.parse (Text.recased case text) = .ok (e.recased case) ∧
      e.SameButSpelling (e.recased case) ∧
      (∀ nRows origin, (e.recased case).reads nRows origin = e.reads nRows origin) ∧
      ∀ source origin, (e.recased case).eval g.functions source origin =
        e.eval g.functions source origin := by
  obtain ⟨tokens, htokens, hspells⟩ := spells_of_parse h
  have hsame := e.sameButSpelling_recased case
  refine ⟨?_, hsame, fun nRows origin => hsame.reads_eq nRows origin,
    fun source origin => hsame.eval_eq (evaluable_of_parse h)⟩
  exact parse_of_spells (tokenize_recased htokens) (hspells.recased (formed_of_tokensFrom htokens))

/-- Of a formula with a string, which stays as it is. -/
theorem parse_recased_capitals :
    (⟨2, 2, .builtin⟩ : Grammar).parse "-a1=\"x\"" =
        .ok (.binary (.comparison .equal) (.unary .minus (.cell ⟨0, 0⟩ true)) (.string "x")) ∧
      (⟨2, 2, .builtin⟩ : Grammar).parse "-A1=\"x\"" =
        .ok (.binary (.comparison .equal) (.unary .minus (.cell ⟨0, 0⟩ false)) (.string "x")) := by
  have hread : (⟨2, 2, .builtin⟩ : Grammar).parse "-a1=\"x\"" =
      .ok (.binary (.comparison .equal) (.unary .minus (.cell ⟨0, 0⟩ true)) (.string "x")) := by
    cbv
  have htext : Text.recased .upper "-a1=\"x\"" = "-A1=\"x\"" := by cbv
  refine ⟨hread, ?_⟩
  rw [← htext]
  exact (parse_recased .upper hread).1

end Grammar

end Spreadsheet

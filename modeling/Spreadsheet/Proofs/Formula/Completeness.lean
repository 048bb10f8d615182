import Mathlib
import Spreadsheet.Proofs.Formula.Soundness

/-!
# What is a formula is read

A phrase of the grammar is read as the formula that it spells, whatever follows it that does not go
on with it (`Derives.reads`). After a phrase of a level the reader goes on with the operators of
that level that follow, so the statement `Reads` says that reading the phrase leaves the reading of
these operators.
-/

namespace Spreadsheet

namespace Grammar

variable {g : Grammar} {case : Text.LetterCase} {state : Option Text.LetterCase}

/-- The tokens do not go on with a phrase of a level. -/
def Ends (level : Nat) (rest : List Token) : Prop :=
  ∀ token ∈ rest.head?, token.lexeme ≠ .colon ∧ token.lexeme ≠ .leftParen ∧
    ∀ below ≤ level, operatorAt below token.lexeme = none

/-- Reading the words at a level is reading the operators that follow the formula `e`. -/
def Reads (g : Grammar) (case : Text.LetterCase) (level : Nat) (words : List Lexeme) (e : Expr) :
    Prop :=
  ∀ ⦃front rest : List Token⦄ ⦃state : Option Text.LetterCase⦄, front.map Token.lexeme = words →
    Fits state case → Ends (level - 1) rest → ∃ after, Fits after case ∧
      (g.expression level (front ++ rest) state).map Parsed.outcome =
        (g.operations level e rest after).map Parsed.outcome

/-! ## Steps of the reader -/

/-- Where all that is asked of a part is known, so is the part. -/
theorem eq_ok_of_outcome {ε α : Type} {bound : Nat} {result : Except ε (Parsed α bound)} {value : α}
    {rest : List Token} (h : result.map Parsed.outcome = .ok (value, rest, state)) :
    ∃ fewer, result = .ok ⟨value, rest, state, fewer⟩ := by
  obtain ⟨⟨value, rest, case, fewer⟩, hresult, houtcome⟩ := map_eq_ok.1 h
  cases houtcome
  exact ⟨fewer, hresult⟩

theorem expression_succ {level : Nat} {tokens rest : List Token} {e : Expr}
    {after : Option Text.LetterCase}
    (h : (g.expression level tokens state).map Parsed.outcome = .ok (e, rest, after)) :
    (g.expression (level + 1) tokens state).map Parsed.outcome =
      (g.operations (level + 1) e rest after).map Parsed.outcome := by
  obtain ⟨fewer, hfirst⟩ := eq_ok_of_outcome h
  rw [expression, hfirst]
  simp only [bind, Except.bind]
  cases g.operations (level + 1) e rest after <;> rfl

theorem operations_cons {level position : Nat} {lexeme : Lexeme} {op : BinaryOp}
    {left right : Expr} {tokens rest : List Token} {after : Option Text.LetterCase}
    (hop : operatorAt level lexeme = some op)
    (h : (g.expression (level - 1) tokens state).map Parsed.outcome = .ok (right, rest, after)) :
    (g.operations level left (⟨lexeme, position⟩ :: tokens) state).map Parsed.outcome =
      (g.operations level (.binary op left right) rest after).map Parsed.outcome := by
  obtain ⟨fewer, hoperand⟩ := eq_ok_of_outcome h
  rw [operations, hop]
  simp only [bind, Except.bind, hoperand]
  cases g.operations level (.binary op left right) rest after <;> rfl

theorem operations_of_none {level : Nat} {e : Expr} {rest : List Token}
    (h : ∀ token ∈ rest.head?, operatorAt level token.lexeme = none) :
    (g.operations level e rest state).map Parsed.outcome = .ok (e, rest, state) := by
  cases rest with
  | nil =>
    rw [operations]
    rfl
  | cons token rest =>
    rw [operations, h token rfl]
    rfl

theorem operatorAt_zero (lexeme : Lexeme) : operatorAt 0 lexeme = none := by
  unfold operatorAt
  split <;> rfl

theorem operatorAt_of_ne {level other : Nat} {lexeme : Lexeme} {op : BinaryOp}
    (h : operatorAt level lexeme = some op) (hother : other ≠ level) :
    operatorAt other lexeme = none := by
  unfold operatorAt at h ⊢
  split <;> grind

theorem expression_minus {tokens rest : List Token} {position : Nat} {e : Expr}
    {after : Option Text.LetterCase}
    (h : (g.expression 0 tokens state).map Parsed.outcome = .ok (e, rest, after)) :
    (g.expression 0 (⟨.arithmetic .sub, position⟩ :: tokens) state).map Parsed.outcome =
      .ok (.unary .minus e, rest, after) := by
  obtain ⟨fewer, hoperand⟩ := eq_ok_of_outcome h
  rw [expression, hoperand]
  rfl

theorem expression_parenthesized {tokens rest : List Token} {position close : Nat} {e : Expr}
    {after : Option Text.LetterCase}
    (h : (g.expression 3 tokens state).map Parsed.outcome =
      .ok (e, ⟨.rightParen, close⟩ :: rest, after)) :
    (g.expression 0 (⟨.leftParen, position⟩ :: tokens) state).map Parsed.outcome =
      .ok (e, rest, after) := by
  obtain ⟨fewer, hinner⟩ := eq_ok_of_outcome h
  rw [expression, hinner]
  rfl

theorem arguments_last {tokens rest : List Token} {e : Expr} {after : Option Text.LetterCase}
    (h : (g.expression 3 tokens state).map Parsed.outcome = .ok (e, rest, after))
    (hrest : ∀ token ∈ rest.head?, token.lexeme ≠ .comma) :
    (g.arguments tokens state).map Parsed.outcome = .ok ([e], rest, after) := by
  obtain ⟨fewer, hfirst⟩ := eq_ok_of_outcome h
  have hcomma : comma? (⟨e, rest, after, fewer⟩ : Parsed Expr tokens.length) = none := by
    cases rest with
    | nil => rfl
    | cons token rest =>
      obtain ⟨lexeme, position⟩ := token
      cases lexeme <;> first | rfl | exact absurd rfl (hrest _ rfl)
  rw [arguments, hfirst]
  simp only [bind, Except.bind, hcomma]
  rfl

theorem arguments_cons {tokens others rest : List Token} {position : Nat} {e : Expr}
    {es : List Expr} {middle after : Option Text.LetterCase}
    (h : (g.expression 3 tokens state).map Parsed.outcome =
      .ok (e, ⟨.comma, position⟩ :: others, middle))
    (hothers : (g.arguments others middle).map Parsed.outcome = .ok (es, rest, after)) :
    (g.arguments tokens state).map Parsed.outcome = .ok (e :: es, rest, after) := by
  obtain ⟨fewer, hfirst⟩ := eq_ok_of_outcome h
  obtain ⟨fewer, hargs⟩ := eq_ok_of_outcome hothers
  rw [arguments, hfirst]
  simp only [bind, Except.bind, comma?, hargs]
  rfl

theorem expression_call {name : String} {function : Function} {tokens rest : List Token}
    {position open' close : Nat} {es : List Expr} {after : Option Text.LetterCase}
    (hfind : g.functions.find? name = some function) (haccepts : function.arity.accepts es.length)
    (htokens : ∀ token ∈ tokens.head?, token.lexeme ≠ .rightParen)
    (h : (g.arguments tokens state).map Parsed.outcome =
      .ok (es, ⟨.rightParen, close⟩ :: rest, after)) :
    (g.expression 0 (⟨.name name, position⟩ :: ⟨.leftParen, open'⟩ :: tokens) state).map
      Parsed.outcome = .ok (.call name es, rest, after) := by
  obtain ⟨fewer, hargs⟩ := eq_ok_of_outcome h
  rw [expression, hfind]
  simp only
  split
  · exact absurd rfl (htokens _ rfl)
  · simp only [bind, Except.bind, hargs, closing, call, haccepts, if_true]
    rfl

theorem expression_call_nil {name : String} {function : Function} {rest : List Token}
    {position open' close : Nat} (hfind : g.functions.find? name = some function)
    (haccepts : function.arity.accepts 0) :
    (g.expression 0 (⟨.name name, position⟩ :: ⟨.leftParen, open'⟩ :: ⟨.rightParen, close⟩ :: rest)
      state).map Parsed.outcome = .ok (.call name [], rest, state) := by
  rw [expression, hfind]
  simp only [bind, Except.bind, call, List.length_nil, haccepts, if_true]
  rfl

theorem expression_reference {name : String} {tokens : List Token} {position : Nat}
    (htokens : ∀ token ∈ tokens.head?, token.lexeme ≠ .leftParen) :
    (g.expression 0 (⟨.name name, position⟩ :: tokens) state).map Parsed.outcome =
      (g.reference name position tokens state).map Parsed.outcome := by
  rw [expression]
  rintro place rest rfl
  exact htokens _ rfl rfl

/-! ## Phrases -/

theorem Ends.pred {level : Nat} {rest : List Token} (h : Ends level rest) :
    Ends (level - 1) rest := fun token ht =>
  ⟨(h token ht).1, (h token ht).2.1,
    fun below hbelow => (h token ht).2.2 below (Nat.le_trans hbelow (Nat.sub_le level 1))⟩

theorem ends_cons {level position : Nat} {lexeme : Lexeme} {rest : List Token}
    (h : lexeme ≠ .colon ∧ lexeme ≠ .leftParen ∧ ∀ below ≤ level, operatorAt below lexeme = none) :
    Ends level (⟨lexeme, position⟩ :: rest) := by
  rintro token ⟨⟩
  exact h

namespace Reads

variable {words : List Lexeme} {e : Expr}

/-- A phrase with no operator of its level after it is all that is read. -/
theorem outcome {level : Nat} (h : g.Reads case level words e) {front rest : List Token}
    (hfront : front.map Token.lexeme = words) (hstate : Fits state case)
    (hrest : Ends level rest) :
    ∃ after, Fits after case ∧
      (g.expression level (front ++ rest) state).map Parsed.outcome = .ok (e, rest, after) := by
  obtain ⟨after, hafter, hread⟩ := h hfront hstate hrest.pred
  refine ⟨after, hafter, hread.trans (operations_of_none fun token ht => ?_)⟩
  exact (hrest token ht).2.2 level (Nat.le_refl level)

/-- At level zero no operators follow. -/
theorem of_outcome (h : ∀ ⦃front rest : List Token⦄ ⦃state : Option Text.LetterCase⦄,
      front.map Token.lexeme = words → Fits state case → Ends 0 rest → ∃ after, Fits after case ∧
        (g.expression 0 (front ++ rest) state).map Parsed.outcome = .ok (e, rest, after)) :
    g.Reads case 0 words e := fun front rest state hfront hstate hrest => by
  obtain ⟨after, hafter, hread⟩ := h hfront hstate hrest
  exact ⟨after, hafter, hread.trans (operations_of_none fun token _ => operatorAt_zero _).symm⟩

theorem lift {level : Nat} (h : g.Reads case level words e) : g.Reads case (level + 1) words e :=
  fun front rest state hfront hstate hrest => by
    obtain ⟨after, hafter, hread⟩ := h.outcome hfront hstate hrest
    exact ⟨after, hafter, expression_succ hread⟩

theorem operation {level : Nat} {lexeme : Lexeme} {op : BinaryOp} {before after : List Lexeme}
    {left right : Expr} (hop : operatorAt (level + 1) lexeme = some op)
    (hleft : g.Reads case (level + 1) before left) (hright : g.Reads case level after right) :
    g.Reads case (level + 1) (before ++ lexeme :: after) (.binary op left right) :=
  fun front rest state hfront hstate hrest => by
    obtain ⟨first, others, rfl, hfirst, hothers⟩ := List.map_eq_append_iff.1 hfront
    obtain ⟨position, last, rfl, hlast⟩ := exists_of_map_lexeme_eq_cons hothers
    have hends : Ends level (⟨lexeme, position⟩ :: (last ++ rest)) := by
      refine ends_cons ⟨?_, ?_, fun below hbelow =>
        operatorAt_of_ne hop (Nat.ne_of_lt (Nat.lt_succ_of_le hbelow))⟩
      · rintro rfl
        cases hop
      · rintro rfl
        cases hop
    obtain ⟨middle, hmiddle, hread⟩ := hleft hfirst hstate hends
    obtain ⟨final, hfinal, hoperand⟩ := hright.outcome hlast hmiddle hrest
    refine ⟨final, hfinal, ?_⟩
    rw [List.append_assoc, List.cons_append, hread]
    exact operations_cons hop hoperand

theorem minus (h : g.Reads case 0 words e) :
    g.Reads case 0 (.arithmetic .sub :: words) (.unary .minus e) :=
  of_outcome fun front rest state hfront hstate hrest => by
    obtain ⟨position, operand, rfl, hoperand⟩ := exists_of_map_lexeme_eq_cons hfront
    obtain ⟨after, hafter, hread⟩ := h.outcome hoperand hstate hrest
    exact ⟨after, hafter, expression_minus hread⟩

theorem token {word : Lexeme} (h : ∀ position rest state,
      (g.expression 0 (⟨word, position⟩ :: rest) state).map Parsed.outcome = .ok (e, rest, state)) :
    g.Reads case 0 [word] e :=
  of_outcome fun front rest state hfront hstate hrest => by
    obtain ⟨position, rfl⟩ := exists_of_map_lexeme_eq_one hfront
    exact ⟨state, hstate, h position rest state⟩

theorem parenthesized (h : g.Reads case 3 words e) :
    g.Reads case 0 (.leftParen :: (words ++ [.rightParen])) e :=
  of_outcome fun front rest state hfront hstate hrest => by
    obtain ⟨position, others, rfl, hothers⟩ := exists_of_map_lexeme_eq_cons hfront
    obtain ⟨inner, last, rfl, hinner, hlast⟩ := List.map_eq_append_iff.1 hothers
    obtain ⟨close, rfl⟩ := exists_of_map_lexeme_eq_one hlast
    have hends : Ends 3 (⟨.rightParen, close⟩ :: rest) := ends_cons ⟨nofun, nofun, fun _ _ => rfl⟩
    obtain ⟨after, hafter, hread⟩ := h.outcome hinner hstate hends
    refine ⟨after, hafter, ?_⟩
    rw [List.cons_append, List.append_assoc, List.singleton_append]
    exact expression_parenthesized hread

theorem reference (h : g.Refers case words e) : g.Reads case 0 words e :=
  of_outcome fun front rest state hfront hstate hrest => by
    obtain ⟨name, position, others, rfl, hothers, hread⟩ :=
      h.reference hstate hfront fun token ht => (hrest token ht).1
    refine ⟨some case, fits_some.2 rfl, ?_⟩
    rw [List.cons_append, expression_reference]
    · exact hread
    · cases others with
      | nil => exact fun token ht => (hrest token ht).2.1
      | cons token others =>
        rintro _ ⟨⟩
        rw [hothers token rfl]
        nofun

end Reads

/-! ## Calls -/

/-- A phrase starts with a word, and that is no closing parenthesis. -/
theorem Derives.exists_cons {phrase : Phrase} {words : List Lexeme} {e : Expr}
    (h : g.Derives case phrase words e) :
    ∃ word others, words = word :: others ∧ word ≠ .rightParen := by
  induction h with
  | ofSum _ ih | ofProduct _ ih | ofSigned _ ih | ofPart _ ih => exact ih
  | compare _ _ _ ih | add _ _ ih | subtract _ _ ih | multiply _ _ ih | divide _ _ ih =>
    obtain ⟨word, others, rfl, hword⟩ := ih
    exact ⟨word, _, List.cons_append, hword⟩
  | reference h => cases h <;> exact ⟨_, _, rfl, nofun⟩
  | _ => exact ⟨_, _, rfl, nofun⟩

theorem exists_cons_of_listed {arguments : List (List Lexeme × Expr)} (hne : arguments ≠ [])
    (hall : ∀ argument ∈ arguments, g.Derives case .comparison argument.1 argument.2) :
    ∃ word others, listed arguments = word :: others ∧ word ≠ .rightParen := by
  obtain ⟨argument, others, rfl⟩ := List.exists_cons_of_ne_nil hne
  obtain ⟨word, words, hwords, hword⟩ := (hall argument List.mem_cons_self).exists_cons
  cases others with
  | nil => exact ⟨word, words, by rw [listed_singleton, hwords], hword⟩
  | cons next others => exact ⟨word, _, by rw [listed_cons_cons, hwords, List.cons_append], hword⟩

/-- Words that spell the arguments of a call are read, up to the closing parenthesis. -/
theorem arguments_of_reads {arguments : List (List Lexeme × Expr)} (hne : arguments ≠ [])
    (hall : ∀ argument ∈ arguments, g.Reads case 3 argument.1 argument.2) {front rest : List Token}
    {close : Nat} (hfront : front.map Token.lexeme = listed arguments) (hstate : Fits state case) :
    ∃ after, Fits after case ∧
      (g.arguments (front ++ ⟨.rightParen, close⟩ :: rest) state).map Parsed.outcome =
        .ok (arguments.map Prod.snd, ⟨.rightParen, close⟩ :: rest, after) := by
  induction arguments generalizing front state with
  | nil => exact absurd rfl hne
  | cons argument others ih =>
    obtain ⟨hargument, hothers⟩ := List.forall_mem_cons.1 hall
    cases others with
    | nil =>
      rw [listed_singleton] at hfront
      have hends : Ends 3 (⟨.rightParen, close⟩ :: rest) := ends_cons ⟨nofun, nofun, fun _ _ => rfl⟩
      obtain ⟨after, hafter, hread⟩ := hargument.outcome hfront hstate hends
      refine ⟨after, hafter, arguments_last hread ?_⟩
      rintro token ⟨⟩
      exact nofun
    | cons next others =>
      rw [listed_cons_cons] at hfront
      obtain ⟨first, after, rfl, hfirst, hafter⟩ := List.map_eq_append_iff.1 hfront
      obtain ⟨position, last, rfl, hlast⟩ := exists_of_map_lexeme_eq_cons hafter
      have hends : Ends 3 (⟨.comma, position⟩ :: (last ++ ⟨.rightParen, close⟩ :: rest)) :=
        ends_cons ⟨nofun, nofun, fun _ _ => rfl⟩
      obtain ⟨middle, hmiddle, hread⟩ := hargument.outcome hfirst hstate hends
      obtain ⟨after, hafter, hreadAll⟩ := ih (by simp) hothers hlast hmiddle
      refine ⟨after, hafter, ?_⟩
      rw [List.append_assoc, List.cons_append]
      exact arguments_cons hread hreadAll

theorem Reads.call {name : String} {function : Function} {arguments : List (List Lexeme × Expr)}
    (hfind : g.functions.find? name = some function)
    (haccepts : function.arity.accepts arguments.length)
    (hall : ∀ argument ∈ arguments, g.Derives case .comparison argument.1 argument.2)
    (hreads : ∀ argument ∈ arguments, g.Reads case 3 argument.1 argument.2) :
    g.Reads case 0 (.name name :: .leftParen :: (listed arguments ++ [.rightParen]))
      (.call name (arguments.map Prod.snd)) :=
  of_outcome fun front rest state hfront hstate hrest => by
    obtain ⟨position, after, rfl, hafter⟩ := exists_of_map_lexeme_eq_cons hfront
    obtain ⟨open', others, rfl, hothers⟩ := exists_of_map_lexeme_eq_cons hafter
    obtain ⟨inner, last, rfl, hinner, hlast⟩ := List.map_eq_append_iff.1 hothers
    obtain ⟨close, rfl⟩ := exists_of_map_lexeme_eq_one hlast
    rw [List.cons_append, List.cons_append, List.append_assoc, List.singleton_append]
    by_cases hne : arguments = []
    · subst hne
      cases List.map_eq_nil_iff.1 hinner
      exact ⟨state, hstate, expression_call_nil hfind haccepts⟩
    · obtain ⟨final, hfinal, hread⟩ := arguments_of_reads hne hreads hinner hstate
      refine ⟨final, hfinal, expression_call hfind (by rwa [List.length_map]) ?_ hread⟩
      obtain ⟨word, words, hwords, hword⟩ := exists_cons_of_listed hne hall
      rw [hwords] at hinner
      obtain ⟨place, inner, rfl, -⟩ := exists_of_map_lexeme_eq_cons hinner
      rintro token ⟨⟩
      exact hword

/-! ## Formulas -/

/-- The level at which a phrase is read. -/
def levelOf : Phrase → Nat
  | .comparison => 3
  | .sum => 2
  | .product => 1
  | .signed | .part => 0

/-- Every phrase of the grammar is read. -/
theorem Derives.reads {phrase : Phrase} {words : List Lexeme} {e : Expr}
    (h : g.Derives case phrase words e) : g.Reads case (levelOf phrase) words e := by
  induction h with
  | ofSum _ ih | ofProduct _ ih | ofSigned _ ih => exact ih.lift
  | ofPart _ ih => exact ih
  | compare op _ _ ihLeft ihRight => exact ihLeft.operation rfl ihRight
  | add _ _ ihLeft ihRight => exact ihLeft.operation rfl ihRight
  | subtract _ _ ihLeft ihRight => exact ihLeft.operation rfl ihRight
  | multiply _ _ ihLeft ihRight => exact ihLeft.operation rfl ihRight
  | divide _ _ ihLeft ihRight => exact ihLeft.operation rfl ihRight
  | minus _ ih => exact ih.minus
  | number spelling => exact .token fun position rest state => by rw [expression]; rfl
  | string content => exact .token fun position rest state => by rw [expression]; rfl
  | deletedReference spelling => exact .token fun position rest state => by rw [expression]; rfl
  | parenthesized _ ih => exact ih.parenthesized
  | call hfind haccepts hall ih => exact .call hfind haccepts hall ih
  | reference h => exact .reference h

/-- Words that spell a formula are read as it, and nothing else. -/
theorem expression_of_spells {tokens : List Token} {e : Expr} (h : g.Spells tokens e) :
    ∃ position after,
      (g.expression 3 tokens none).map Parsed.outcome = .ok (e, [⟨.stop, position⟩], after) := by
  obtain ⟨case, words, htokens, hderives⟩ := h
  obtain ⟨front, last, rfl, hfront, hlast⟩ := List.map_eq_append_iff.1 htokens
  obtain ⟨position, rfl⟩ := exists_of_map_lexeme_eq_one hlast
  have hends : Ends 3 [⟨.stop, position⟩] := ends_cons ⟨nofun, nofun, fun _ _ => rfl⟩
  have hnone : Fits none case := nofun
  obtain ⟨after, -, hread⟩ := hderives.reads.outcome hfront hnone hends
  exact ⟨position, after, hread⟩

theorem parse_of_spells {text : String} {tokens : List Token} {e : Expr}
    (htokens : tokenize text = .ok tokens) (h : g.Spells tokens e) : g.parse text = .ok e := by
  obtain ⟨position, after, hread⟩ := expression_of_spells h
  obtain ⟨fewer, hall⟩ := eq_ok_of_outcome hread
  rw [parse, htokens]
  simp only [bind, Except.bind, hall]
  rfl

/-- Tokens spell at most one formula. -/
theorem Spells.unique {tokens : List Token} {e e' : Expr} (h : g.Spells tokens e)
    (h' : g.Spells tokens e') : e = e' := by
  obtain ⟨position, after, hread⟩ := expression_of_spells h
  obtain ⟨position', after', hread'⟩ := expression_of_spells h'
  rw [hread] at hread'
  exact (Prod.mk.inj (Except.ok.inj hread')).1

/-- A text is read as a formula exactly if its tokens spell the formula, and they spell no other. -/
theorem parse_eq_ok_iff_spells (g : Grammar) (text : String) :
    (∀ e, g.parse text = .ok e ↔ ∃ tokens, tokenize text = .ok tokens ∧ g.Spells tokens e) ∧
      ∀ tokens e e', tokenize text = .ok tokens → g.Spells tokens e → g.Spells tokens e' →
        e = e' :=
  ⟨fun _ => ⟨spells_of_parse, fun ⟨_, htokens, h⟩ => parse_of_spells htokens h⟩,
    fun _ _ _ _ h h' => h.unique h'⟩

/-- Of a minus before a product. -/
theorem parse_eq_ok_iff_spells_product :
    (∃ tokens, tokenize "-a1*b2" = .ok tokens ∧ (⟨2, 2, .builtin⟩ : Grammar).Spells tokens
      (.binary (.arithmetic .mul) (.unary .minus (.cell ⟨0, 0⟩ true)) (.cell ⟨1, 1⟩ true))) ∧
      ∀ e, (⟨2, 2, .builtin⟩ : Grammar).parse "-a1*b2" = .ok e → e =
        .binary (.arithmetic .mul) (.unary .minus (.cell ⟨0, 0⟩ true)) (.cell ⟨1, 1⟩ true) := by
  have hread : (⟨2, 2, .builtin⟩ : Grammar).parse "-a1*b2" = .ok
      (.binary (.arithmetic .mul) (.unary .minus (.cell ⟨0, 0⟩ true)) (.cell ⟨1, 1⟩ true)) := by
    cbv
  obtain ⟨hiff, hunique⟩ := parse_eq_ok_iff_spells ⟨2, 2, .builtin⟩ "-a1*b2"
  obtain ⟨tokens, htokens, hspells⟩ := (hiff _).1 hread
  refine ⟨⟨tokens, htokens, hspells⟩, fun e he => ?_⟩
  obtain ⟨tokens', htokens', hspells'⟩ := (hiff e).1 he
  cases htokens.symm.trans htokens'
  exact hunique tokens _ _ htokens hspells' hspells

end Grammar

end Spreadsheet

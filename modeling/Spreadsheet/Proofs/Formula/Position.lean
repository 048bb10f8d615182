import Spreadsheet.Proofs.Formula.Reading

/-!
# Where faults are

Whatever text is read, a fault is reported at one of its characters or at its end
(`Grammar.position_le_of_parse`): the tokens lie there (`position_le_of_tokensFrom`), and a reader
that comes upon a fault reports it at one of the tokens that it was given (`Before`).
-/

namespace Spreadsheet

/-! ## Tokens -/

theorem Lexeme.position_of_scan {position : Nat} {cs : List Char} {e : ParseError}
    (h : scan position cs = .error e) : e.position = position := by
  unfold scan at h
  repeat' split at h
  all_goals cases h
  all_goals rfl

/-- The tokens of a text, or the fault in it, lie in the text or at its end. -/
theorem position_le_of_tokensFrom (position : Nat) (cs : List Char) :
    (∀ tokens, tokensFrom position cs = .ok tokens →
      ∀ token ∈ tokens, token.position ≤ position + cs.length) ∧
    ∀ e, tokensFrom position cs = .error e → e.position ≤ position + cs.length := by
  fun_induction tokensFrom position cs with
  | case1 position =>
    refine ⟨fun tokens htokens token ht => ?_, by simp⟩
    cases htokens
    rw [List.mem_singleton.1 ht]
    exact Nat.le_add_right ..
  | case2 position c rest hblank ih =>
    rw [List.length_cons, Nat.add_comm rest.length, ← Nat.add_assoc]
    exact ih
  | case3 position c rest hblank fault hscan =>
    refine ⟨by simp, fun e he => ?_⟩
    cases he
    rw [Lexeme.position_of_scan hscan]
    exact Nat.le_add_right ..
  | case4 position c rest hblank lexeme after hscan ih =>
    have hlength := Lexeme.length_lt_of_scan hscan
    have hend : position + ((c :: rest).length - after.length) + after.length =
        position + (c :: rest).length := by omega
    rw [hend] at ih
    refine ⟨fun tokens htokens => ?_, fun e he => ?_⟩
    · obtain ⟨others, hothers, htokens⟩ := bind_eq_ok.1 htokens
      cases htokens
      exact List.forall_mem_cons.2 ⟨Nat.le_add_right .., ih.1 others hothers⟩
    · obtain hothers | ⟨others, -, he⟩ := bind_eq_error.1 he
      · exact ih.2 e hothers
      · cases he

namespace Grammar

variable {α β : Type} {bound bound' limit position : Nat} {g : Grammar} {tokens : List Token}
  {case : Option Text.LetterCase}

/-! ## Steps of the reader -/

/-- The fault is at most at the limit, or all tokens that are left are. -/
def Before (limit : Nat) : Except ParseError (Parsed α bound) → Prop
  | .error e => e.position ≤ limit
  | .ok part => ∀ token ∈ part.rest, token.position ≤ limit

/-- The fault, if there is one, is at the position. -/
def FaultAt (position : Nat) (result : Except ParseError β) : Prop :=
  ∀ e, result = .error e → e.position = position

theorem Before.bind {result : Except ParseError (Parsed α bound)}
    {next : Parsed α bound → Except ParseError (Parsed β bound')} (h : Before limit result)
    (hnext : ∀ part, result = .ok part → (∀ token ∈ part.rest, token.position ≤ limit) →
      Before limit (next part)) : Before limit (result >>= next) := by
  cases result with
  | error e => exact h
  | ok part => exact hnext part rfl h

theorem FaultAt.bind {result : Except ParseError β}
    {next : β → Except ParseError (Parsed α bound)} (h : FaultAt position result)
    (hposition : position ≤ limit) (hnext : ∀ b, result = .ok b → Before limit (next b)) :
    Before limit (result >>= next) := by
  cases result with
  | error e => exact Nat.le_trans (Nat.le_of_eq (h e rfl)) hposition
  | ok b => exact hnext b rfl

theorem position_unexpected (h : ∀ token ∈ tokens, token.position ≤ limit) :
    (unexpected tokens).position ≤ limit := by
  unfold unexpected
  split
  · exact Nat.zero_le limit
  · exact h _ List.mem_cons_self
  · exact h _ List.mem_cons_self

theorem before_closing {part : Parsed α bound} {next : Parsed α bound × Nat →
    Except ParseError (Parsed β bound')} (h : ∀ token ∈ part.rest, token.position ≤ limit)
    (hnext : ∀ inner position, closing part = .ok (inner, position) → position ≤ limit →
      (∀ token ∈ inner.rest, token.position ≤ limit) → Before limit (next (inner, position))) :
    Before limit (closing part >>= next) := by
  obtain ⟨value, _ | ⟨⟨lexeme, position⟩, rest⟩, case, fewer⟩ := part
  · exact position_unexpected h
  · obtain ⟨hposition, hrest⟩ := List.forall_mem_cons.1 h
    cases lexeme with
    | rightParen => exact hnext _ _ rfl hposition hrest
    | _ => exact position_unexpected h

theorem rest_of_comma? {part before : Parsed α bound} (h : comma? part = some before) :
    ∀ token ∈ before.rest, token ∈ part.rest := by
  unfold comma? at h
  split at h <;> cases h
  exact fun token => List.mem_cons_of_mem _

theorem faultAt_splitReference (token : List Char) (position : Nat) :
    FaultAt position (splitReference token position) := by
  intro e h
  unfold splitReference at h
  repeat' split at h
  all_goals cases h
  all_goals rfl

theorem faultAt_noteCase (letters : List Char) (position : Nat) (case : Option Text.LetterCase) :
    FaultAt position (noteCase letters position case) := by
  intro e h
  unfold noteCase at h
  simp only at h
  repeat' split at h
  all_goals cases h
  rfl

theorem faultAt_columnWithin (letters : List Char) (nCols : Int) (position : Nat) :
    FaultAt position (columnWithin letters nCols position) := by
  intro e h
  unfold columnWithin at h
  simp only at h
  split at h <;> cases h
  rfl

theorem faultAt_rowWithin (digits : List Char) (nRows : Int) (position : Nat) :
    FaultAt position (rowWithin digits nRows position) := by
  intro e h
  unfold rowWithin rowNumberWithin at h
  split at h <;> cases h
  rfl

theorem faultAt_call (name : String) (arity : Arity) (args : List Expr) (position : Nat) :
    FaultAt position (call name arity args position) := by
  intro e h
  unfold call at h
  split at h <;> cases h
  rfl

/-! ## References -/

theorem before_columnReference (g : Grammar) (letters : List Char) (first : Int)
    (case : Option Text.LetterCase) (h : ∀ token ∈ tokens, token.position ≤ limit) :
    Before limit (g.columnReference letters first tokens case) := by
  unfold columnReference
  split
  · obtain ⟨-, hname, hrest⟩ := List.forall_mem_cons.1 h |>.imp_right List.forall_mem_cons.1
    refine (faultAt_splitReference _ _).bind hname ?_
    rintro ⟨lastLetters, digits⟩ -
    simp only
    split
    · exact hname
    · refine (faultAt_noteCase _ _ _).bind hname fun case _ => ?_
      exact (faultAt_columnWithin _ _ _).bind hname fun other _ => hrest
  · exact position_unexpected (List.forall_mem_cons.1 h).2
  · exact h

theorem before_cellReference (g : Grammar) (letters : List Char) (first : Coord)
    (case : Option Text.LetterCase) (h : ∀ token ∈ tokens, token.position ≤ limit) :
    Before limit (g.cellReference letters first tokens case) := by
  unfold cellReference
  split
  · obtain ⟨-, hname, hrest⟩ := List.forall_mem_cons.1 h |>.imp_right List.forall_mem_cons.1
    refine (faultAt_splitReference _ _).bind hname ?_
    rintro ⟨lastLetters, digits⟩ -
    refine (faultAt_noteCase _ _ _).bind hname fun case _ => ?_
    simp only
    split
    · exact hname
    · refine (faultAt_rowWithin _ _ _).bind hname fun row _ => ?_
      exact (faultAt_columnWithin _ _ _).bind hname fun col _ => hrest
  · obtain ⟨-, hafter⟩ := List.forall_mem_cons.1 h
    obtain ⟨hnumber, hrest⟩ := List.forall_mem_cons.1 hafter
    split
    · exact (faultAt_rowWithin _ _ _).bind hnumber fun row _ => hrest
    · exact position_unexpected hafter
  · exact position_unexpected (List.forall_mem_cons.1 h).2
  · exact h

theorem before_reference (g : Grammar) (name : String) (case : Option Text.LetterCase)
    (hposition : position ≤ limit) (h : ∀ token ∈ tokens, token.position ≤ limit) :
    Before limit (g.reference name position tokens case) := by
  refine (faultAt_splitReference _ _).bind hposition ?_
  rintro ⟨letters, digits⟩ -
  refine (faultAt_noteCase _ _ _).bind hposition fun case _ => ?_
  refine (faultAt_columnWithin _ _ _).bind hposition fun col _ => ?_
  split
  · exact before_columnReference g letters col case h
  · refine (faultAt_rowWithin _ _ _).bind hposition fun row _ => ?_
    exact before_cellReference g letters ⟨row, col⟩ case h

/-! ## Formulas -/

/-- By induction on the reading: of a formula at a level, of arguments, and of the operations that
follow a formula. -/
theorem before_expression (g : Grammar) (level : Nat) (tokens : List Token)
    (case : Option Text.LetterCase) (h : ∀ token ∈ tokens, token.position ≤ limit) :
    Before limit (g.expression level tokens case) := by
  revert h
  refine expression.induct g
    (fun level tokens case => (∀ token ∈ tokens, token.position ≤ limit) →
      Before limit (g.expression level tokens case))
    (fun tokens case => (∀ token ∈ tokens, token.position ≤ limit) →
      Before limit (g.arguments tokens case))
    (fun level left tokens case => (∀ token ∈ tokens, token.position ≤ limit) →
      Before limit (g.operations level left tokens case))
    ?_ ?_ ?_ ?_ ?_ ?_ ?_ ?_ ?_ ?_ ?_ ?_ ?_ ?_ ?_ level tokens case
  · -- a formula above level zero
    intro tokens case level ihFirst ihAll h
    rw [expression]
    refine (ihFirst h).bind fun first _ hfirst => ?_
    exact (ihAll first hfirst).bind fun all _ hall => hall
  · intro case position rest ih h
    rw [expression]
    exact (ih (List.forall_mem_cons.1 h).2).bind fun operand _ hoperand => hoperand
  · intro case spelling position rest h
    rw [expression]
    exact (List.forall_mem_cons.1 h).2
  · intro case content position rest h
    rw [expression]
    exact (List.forall_mem_cons.1 h).2
  · intro case spelling position rest h
    rw [expression]
    exact (List.forall_mem_cons.1 h).2
  · -- a formula in parentheses
    intro case position rest ih h
    rw [expression]
    refine (ih (List.forall_mem_cons.1 h).2).bind fun inner _ hinner => ?_
    exact before_closing hinner fun closed close _ _ hclosed => hclosed
  · intro case name position open' rest hnone h
    rw [expression, hnone]
    exact (List.forall_mem_cons.1 h).1
  · -- a call without arguments
    intro case name position open' function hfind close rest h
    rw [expression, hfind]
    obtain ⟨hclose, hrest⟩ := List.forall_mem_cons.1
      (List.forall_mem_cons.1 (List.forall_mem_cons.1 h).2).2
    exact (faultAt_call _ _ _ _).bind hclose fun value _ => hrest
  · intro case name position open' function hfind rest hrest ih h
    rw [expression, hfind]
    simp only
    refine (ih (List.forall_mem_cons.1 (List.forall_mem_cons.1 h).2).2).bind fun args _ hargs => ?_
    refine before_closing hargs fun closed close _ hclose hclosed => ?_
    exact (faultAt_call _ _ _ _).bind hclose fun value _ => hclosed
  · intro case name position rest hrest h
    rw [expression]
    · obtain ⟨hposition, hafter⟩ := List.forall_mem_cons.1 h
      exact before_reference g name case hposition hafter
    · exact hrest
  · -- no part starts with these tokens
    intro case tokens hminus hnumber hstring hdeleted hparen hcall hname h
    rw [expression]
    · exact position_unexpected h
    all_goals assumption
  · intro tokens case ihFirst ihOthers h
    rw [arguments]
    refine (ihFirst h).bind fun first _ hfirst => ?_
    split
    · exact hfirst
    · next before hbefore =>
      have hrest := fun token ht => hfirst token (rest_of_comma? hbefore token ht)
      exact (ihOthers before hrest).bind fun others _ hothers => hothers
  · intro level left case h
    rw [operations]
    exact h
  · intro level left case token rest hnone h
    rw [operations, hnone]
    exact h
  · intro level left case token rest op hop ihRight ihAll h
    rw [operations, hop]
    refine (ihRight (List.forall_mem_cons.1 h).2).bind fun right _ hright => ?_
    exact (ihAll right hright).bind fun all _ hall => hall

/-- The fault of a text that cannot be read lies in the text or at its end. -/
theorem position_le_of_parse {text : String} {e : ParseError} (h : g.parse text = .error e) :
    e.position ≤ text.length := by
  have htokens := position_le_of_tokensFrom 0 text.toList
  rw [Nat.zero_add, String.length_toList] at htokens
  obtain hread | ⟨tokens, hread, h⟩ := bind_eq_error.1 h
  · exact htokens.2 e hread
  have hbefore := before_expression g 3 tokens none (htokens.1 tokens hread)
  obtain hall | ⟨all, hall, h⟩ := bind_eq_error.1 h
  · rwa [hall] at hbefore
  · rw [hall] at hbefore
    split at h <;> cases h
    exact position_unexpected hbefore

end Grammar

end Spreadsheet

import Spreadsheet.Formula.Parser

/-!
# What formulas are read as

`Grammar.Closed` says that a property of formulas holds of the smallest ones a grammar reads and is
kept by the ways in which it puts them together; by induction on the reading it holds of every
formula that is read (`Closed.of_parse`).
-/

namespace Spreadsheet

/-- Both steps of a successful computation succeed. -/
theorem bind_eq_ok {ε α β : Type} {x : Except ε α} {f : α → Except ε β} {b : β} :
    x >>= f = .ok b ↔ ∃ a, x = .ok a ∧ f a = .ok b := by
  cases x with
  | error e => exact ⟨nofun, fun ⟨_, h, _⟩ => (nomatch h)⟩
  | ok a => exact ⟨fun h => ⟨a, rfl, h⟩, fun ⟨_, rfl, h⟩ => h⟩

/-- A computation fails if its first step does, or the second one after the first. -/
theorem bind_eq_error {ε α β : Type} {x : Except ε α} {f : α → Except ε β} {e : ε} :
    x >>= f = .error e ↔ x = .error e ∨ ∃ a, x = .ok a ∧ f a = .error e := by
  cases x with
  | error fault => simp [bind, Except.bind]
  | ok a => simp [bind, Except.bind]

theorem map_eq_ok {ε α β : Type} {x : Except ε α} {f : α → β} {b : β} :
    x.map f = .ok b ↔ ∃ a, x = .ok a ∧ f a = b := by
  cases x <;> simp [Except.map]

namespace Grammar

/-- The number that a formula has where it spells one. -/
def numberOf (spelling : String) : Binary64 :=
  ((Numeral.read? spelling.toList).map Decimal.toBinary64).getD (.zero false)

/-- The property holds of what a grammar reads if it does of the parts. -/
structure Closed (g : Grammar) (p : Expr → Prop) : Prop where
  number (spelling : String) : p (.number (numberOf spelling) spelling)
  string (content : String) : p (.string content)
  deletedReference : p .deletedReference
  reference {name : String} {position : Nat} {tokens : List Token} {case : Option Text.LetterCase}
    {part : Parsed Expr (tokens.length + 1)} :
    g.reference name position tokens case = .ok part → p part.value
  minus {e : Expr} : p e → p (.unary .minus e)
  operation {level : Nat} {lexeme : Lexeme} {op : BinaryOp} {left right : Expr} :
    operatorAt level lexeme = some op → p left → p right → p (.binary op left right)
  call {name : String} {function : Function} {args : List Expr} :
    g.functions.find? name = some function → function.arity.accepts args.length →
    (∀ arg ∈ args, p arg) → p (.call name args)

theorem value_of_closing {α : Type} {bound : Nat} {part part' : Parsed α bound} {position : Nat}
    (h : closing part = .ok (part', position)) : part'.value = part.value := by
  obtain ⟨value, _ | ⟨⟨lexeme, _⟩, rest⟩, case, fewer⟩ := part
  · cases h
  · cases lexeme <;> cases h
    rfl

theorem value_of_comma {α : Type} {bound : Nat} {part part' : Parsed α bound}
    (h : comma? part = some part') : part'.value = part.value := by
  obtain ⟨value, _ | ⟨⟨lexeme, _⟩, rest⟩, case, fewer⟩ := part
  · cases h
  · cases lexeme <;> cases h
    rfl

theorem eq_of_call {name : String} {arity : Arity} {args : List Expr} {position : Nat} {e : Expr}
    (h : call name arity args position = .ok e) :
    e = .call name args ∧ arity.accepts args.length := by
  unfold call at h
  split at h <;> cases h
  exact ⟨rfl, ‹_›⟩

variable {g : Grammar} {p : Expr → Prop}

/-- By induction on the reading: of formulas at a level, of arguments, and of the operations that
follow a formula for which the property holds. -/
theorem Closed.of_expression (hp : g.Closed p) (level : Nat) (tokens : List Token)
    (case : Option Text.LetterCase) : ∀ part, g.expression level tokens case = .ok part →
      p part.value := by
  refine expression.induct g
    (fun level tokens case => ∀ part, g.expression level tokens case = .ok part → p part.value)
    (fun tokens case => ∀ part, g.arguments tokens case = .ok part → ∀ arg ∈ part.value, p arg)
    (fun level left tokens case => p left →
      ∀ part, g.operations level left tokens case = .ok part → p part.value)
    ?_ ?_ ?_ ?_ ?_ ?_ ?_ ?_ ?_ ?_ ?_ ?_ ?_ ?_ ?_ level tokens case
  · -- a formula above level zero
    intro tokens case level ihFirst ihAll part h
    rw [expression] at h
    obtain ⟨first, hfirst, h⟩ := bind_eq_ok.1 h
    obtain ⟨all, hall, h⟩ := bind_eq_ok.1 h
    cases h
    exact ihAll first (ihFirst first hfirst) all hall
  · intro case position rest ih part h
    rw [expression] at h
    obtain ⟨operand, hoperand, h⟩ := bind_eq_ok.1 h
    cases h
    exact hp.minus (ih operand hoperand)
  · intro case spelling position rest part h
    rw [expression] at h
    cases h
    exact hp.number spelling
  · intro case content position rest part h
    rw [expression] at h
    cases h
    exact hp.string content
  · intro case spelling position rest part h
    rw [expression] at h
    cases h
    exact hp.deletedReference
  · intro case position rest ih part h
    rw [expression] at h
    obtain ⟨inner, hinner, h⟩ := bind_eq_ok.1 h
    obtain ⟨⟨closed, close⟩, hclosed, h⟩ := bind_eq_ok.1 h
    cases h
    exact value_of_closing hclosed ▸ ih inner hinner
  · intro case name position open' rest hnone part h
    rw [expression, hnone] at h
    cases h
  · -- a call without arguments
    intro case name position open' function hfind close rest part h
    rw [expression, hfind] at h
    obtain ⟨value, hvalue, h⟩ := bind_eq_ok.1 h
    cases h
    obtain ⟨rfl, haccepts⟩ := eq_of_call hvalue
    exact hp.call hfind haccepts (by simp)
  · intro case name position open' function hfind rest hrest ih part h
    rw [expression, hfind] at h
    simp only at h
    obtain ⟨args, hargs, h⟩ := bind_eq_ok.1 h
    obtain ⟨⟨closed, close⟩, hclosed, h⟩ := bind_eq_ok.1 h
    obtain ⟨value, hvalue, h⟩ := bind_eq_ok.1 h
    cases h
    obtain ⟨rfl, haccepts⟩ := eq_of_call hvalue
    exact hp.call hfind haccepts (value_of_closing hclosed ▸ ih args hargs)
  · intro case name position rest hrest part h
    rw [expression] at h
    · exact hp.reference h
    · exact hrest
  · -- no part starts with these tokens
    intro case tokens hminus hnumber hstring hdeleted hparen hcall hname part h
    rw [expression] at h
    · cases h
    all_goals assumption
  · intro tokens case ihFirst ihOthers part h
    rw [arguments] at h
    obtain ⟨first, hfirst, h⟩ := bind_eq_ok.1 h
    have hvalue := ihFirst first hfirst
    split at h
    · cases h
      simpa using hvalue
    · next before hbefore =>
      obtain ⟨others, hothers, h⟩ := bind_eq_ok.1 h
      cases h
      rw [← value_of_comma hbefore] at hvalue
      exact List.forall_mem_cons.2 ⟨hvalue, ihOthers before others hothers⟩
  · intro level left case hleft part h
    rw [operations] at h
    cases h
    exact hleft
  · intro level left case token rest hnone hleft part h
    rw [operations, hnone] at h
    cases h
    exact hleft
  · intro level left case token rest op hop ihRight ihAll hleft part h
    rw [operations, hop] at h
    obtain ⟨right, hright, h⟩ := bind_eq_ok.1 h
    obtain ⟨all, hall, h⟩ := bind_eq_ok.1 h
    cases h
    exact ihAll right (hp.operation hop hleft (ihRight right hright)) all hall

theorem Closed.of_parse (hp : g.Closed p) {text : String} {e : Expr} (h : g.parse text = .ok e) :
    p e := by
  obtain ⟨tokens, -, h⟩ := bind_eq_ok.1 h
  obtain ⟨all, hall, h⟩ := bind_eq_ok.1 h
  split at h <;> cases h
  exact hp.of_expression 3 tokens none all hall

end Grammar

end Spreadsheet

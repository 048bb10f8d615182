import Spreadsheet.Proofs.Formula.References

/-!
# What is read is a formula

Whatever the reader reads is derivable (`derives_of_expression`): the tokens that it takes are a
phrase of the grammar for the formula that it returns. A reader at a level takes a phrase of that
level, `phraseAt`; the reader of operations goes on with whatever phrase its left operand is.
-/

namespace Spreadsheet

namespace Grammar

variable {g : Grammar} {case : Text.LetterCase} {state : Option Text.LetterCase}

/-- The phrase that is read at a level. -/
def phraseAt : Nat → Phrase
  | 0 => .signed
  | 1 => .product
  | 2 => .sum
  | _ => .comparison

/-- Between the tokens and the rest stand words of which `p` holds, in whatever case the references
can still be in after them. -/
def Takes (tokens : List Token) (state : Option Text.LetterCase) (rest : List Token)
    (after : Option Text.LetterCase) (p : Text.LetterCase → List Lexeme → Prop) : Prop :=
  ∃ front, tokens = front ++ rest ∧ ∀ case, Fits after case → Fits state case ∧
    p case (front.map Token.lexeme)

/-- The words between parentheses in a call spell its arguments, of which there are some. -/
def DerivesAll (g : Grammar) (case : Text.LetterCase) (words : List Lexeme) (args : List Expr) :
    Prop :=
  ∃ arguments, words = listed arguments ∧ args = arguments.map Prod.snd ∧ arguments ≠ [] ∧
    ∀ argument ∈ arguments, g.Derives case .comparison argument.1 argument.2

namespace Takes

variable {tokens rest last : List Token} {after final : Option Text.LetterCase}
  {p q r : Text.LetterCase → List Lexeme → Prop}

theorem nil (h : ∀ case, p case []) : Takes tokens state tokens state p :=
  ⟨[], rfl, fun case hcase => ⟨hcase, h case⟩⟩

theorem cons {word : Lexeme} {position : Nat}
    (h : Takes tokens state rest after fun case words => p case (word :: words)) :
    Takes (⟨word, position⟩ :: tokens) state rest after p := by
  obtain ⟨front, rfl, hfront⟩ := h
  exact ⟨⟨word, position⟩ :: front, rfl, hfront⟩

theorem one {word : Lexeme} {position : Nat} (h : ∀ case, p case [word]) :
    Takes (⟨word, position⟩ :: tokens) state tokens state p :=
  ⟨[⟨word, position⟩], rfl, fun case hcase => ⟨hcase, h case⟩⟩

theorem trans (h : Takes tokens state rest after p) (h' : Takes rest after last final q)
    (hr : ∀ case words others, p case words → q case others → r case (words ++ others)) :
    Takes tokens state last final r := by
  obtain ⟨front, rfl, hfront⟩ := h
  obtain ⟨middle, rfl, hmiddle⟩ := h'
  refine ⟨front ++ middle, (List.append_assoc ..).symm, fun case hcase => ?_⟩
  obtain ⟨hafter, hq⟩ := hmiddle case hcase
  obtain ⟨hstate, hp⟩ := hfront case hafter
  exact ⟨hstate, by rw [List.map_append]; exact hr case _ _ hp hq⟩

theorem mono (h : Takes tokens state rest after p)
    (hq : ∀ case words, p case words → q case words) : Takes tokens state rest after q := by
  obtain ⟨front, rfl, hfront⟩ := h
  exact ⟨front, rfl, fun case hcase => ⟨(hfront case hcase).1, hq case _ (hfront case hcase).2⟩⟩

theorem formed (h : Takes tokens state rest after p)
    (hformed : ∀ token ∈ tokens, token.lexeme.Formed) : ∀ token ∈ rest, token.lexeme.Formed := by
  obtain ⟨front, rfl, -⟩ := h
  exact fun token ht => hformed token (List.mem_append_right _ ht)

end Takes

/-! ## One step -/

/-- A phrase is also one of the next level. -/
theorem Derives.lift {level : Nat} {words : List Lexeme} {e : Expr}
    (h : g.Derives case (phraseAt level) words e) :
    g.Derives case (phraseAt (level + 1)) words e := by
  match level with
  | 0 => exact .ofSigned h
  | 1 => exact .ofProduct h
  | 2 => exact .ofSum h
  | _ + 3 => exact h

/-- A phrase, an operator of its level and a phrase of the level below are a phrase. -/
theorem Derives.operation {level : Nat} {lexeme : Lexeme} {op : BinaryOp}
    {before after : List Lexeme} {left right : Expr} (hop : operatorAt level lexeme = some op)
    (hleft : g.Derives case (phraseAt level) before left)
    (hright : g.Derives case (phraseAt (level - 1)) after right) :
    g.Derives case (phraseAt level) (before ++ lexeme :: after) (.binary op left right) := by
  unfold operatorAt at hop
  split at hop
  all_goals try split at hop
  all_goals cases hop
  all_goals subst level
  · exact .compare _ hleft hright
  · exact .add hleft hright
  · exact .subtract hleft hright
  · exact .multiply hleft hright
  · exact .divide hleft hright

theorem rest_of_closing {α : Type} {bound : Nat} {part part' : Parsed α bound} {position : Nat}
    (h : closing part = .ok (part', position)) :
    part.rest = ⟨.rightParen, position⟩ :: part'.rest ∧ part'.case = part.case := by
  obtain ⟨value, _ | ⟨⟨lexeme, _⟩, rest⟩, case, fewer⟩ := part
  · cases h
  · cases lexeme <;> cases h
    exact ⟨rfl, rfl⟩

theorem rest_of_comma {α : Type} {bound : Nat} {part part' : Parsed α bound}
    (h : comma? part = some part') :
    ∃ position, part.rest = ⟨.comma, position⟩ :: part'.rest ∧ part'.case = part.case := by
  obtain ⟨value, _ | ⟨⟨lexeme, position⟩, rest⟩, case, fewer⟩ := part
  · cases h
  · cases lexeme <;> cases h
    exact ⟨position, rfl, rfl⟩

theorem DerivesAll.singleton {words : List Lexeme} {e : Expr}
    (h : g.Derives case .comparison words e) : g.DerivesAll case words [e] :=
  ⟨[(words, e)], (listed_singleton (words, e)).symm, rfl, by simp, List.forall_mem_singleton.2 h⟩

theorem DerivesAll.cons {words others : List Lexeme} {e : Expr} {es : List Expr}
    (h : g.Derives case .comparison words e) (hothers : g.DerivesAll case others es) :
    g.DerivesAll case (words ++ .comma :: others) (e :: es) := by
  obtain ⟨arguments, rfl, rfl, hne, hall⟩ := hothers
  obtain ⟨argument, arguments, rfl⟩ := List.exists_cons_of_ne_nil hne
  exact ⟨(words, e) :: argument :: arguments, (listed_cons_cons (words, e) ..).symm, rfl, by simp,
    List.forall_mem_cons.2 ⟨h, hall⟩⟩

/-! ## All steps -/

/-- By induction on the reading: of a formula at a level, of arguments, and of the operations that
follow a phrase. -/
theorem derives_of_expression {level : Nat} {tokens : List Token}
    (hformed : ∀ token ∈ tokens, token.lexeme.Formed) {part : Parsed Expr tokens.length}
    (h : g.expression level tokens state = .ok part) :
    Takes tokens state part.rest part.case fun case words =>
      g.Derives case (phraseAt level) words part.value := by
  revert hformed part h
  refine expression.induct g
    (fun level tokens state => (∀ token ∈ tokens, token.lexeme.Formed) →
      ∀ {part}, g.expression level tokens state = .ok part →
        Takes tokens state part.rest part.case fun case words =>
          g.Derives case (phraseAt level) words part.value)
    (fun tokens state => (∀ token ∈ tokens, token.lexeme.Formed) →
      ∀ {part}, g.arguments tokens state = .ok part →
        Takes tokens state part.rest part.case fun case words =>
          g.DerivesAll case words part.value)
    (fun level left tokens state => (∀ token ∈ tokens, token.lexeme.Formed) →
      ∀ {part}, g.operations level left tokens state = .ok part →
        Takes tokens state part.rest part.case fun case words => ∀ before,
          g.Derives case (phraseAt level) before left →
            g.Derives case (phraseAt level) (before ++ words) part.value)
    ?_ ?_ ?_ ?_ ?_ ?_ ?_ ?_ ?_ ?_ ?_ ?_ ?_ ?_ ?_ level tokens state
  · -- a formula above level zero
    intro tokens state level ihFirst ihAll hformed part h
    rw [expression] at h
    obtain ⟨first, hfirst, h⟩ := bind_eq_ok.1 h
    obtain ⟨all, hall, h⟩ := bind_eq_ok.1 h
    cases h
    have hfirst := ihFirst hformed hfirst
    exact hfirst.trans (ihAll first (hfirst.formed hformed) hall)
      fun case words others hwords hothers => hothers words hwords.lift
  · intro state position rest ih hformed part h
    rw [expression] at h
    obtain ⟨operand, hoperand, h⟩ := bind_eq_ok.1 h
    cases h
    have hoperand := ih (List.forall_mem_of_forall_mem_cons hformed) hoperand
    exact .cons (hoperand.mono fun case words hwords => .minus hwords)
  · intro state spelling position rest hformed part h
    rw [expression] at h
    cases h
    exact Takes.one fun case => .ofPart (.number spelling)
  · intro state content position rest hformed part h
    rw [expression] at h
    cases h
    exact Takes.one fun case => .ofPart (.string content)
  · intro state spelling position rest hformed part h
    rw [expression] at h
    cases h
    exact Takes.one fun case => .ofPart (.deletedReference spelling)
  · -- a formula in parentheses
    intro state position rest ih hformed part h
    rw [expression] at h
    obtain ⟨inner, hinner, h⟩ := bind_eq_ok.1 h
    obtain ⟨⟨closed, close⟩, hclosed, h⟩ := bind_eq_ok.1 h
    cases h
    have hinner := ih (List.forall_mem_of_forall_mem_cons hformed) hinner
    obtain ⟨hrest, hcase⟩ := rest_of_closing hclosed
    rw [hrest, ← hcase, ← value_of_closing hclosed] at hinner
    refine .cons (hinner.trans (.one fun case => Eq.refl [Lexeme.rightParen]) ?_)
    rintro case words _ hwords rfl
    exact .ofPart (.parenthesized hwords)
  · intro state name position open' rest hnone hformed part h
    rw [expression, hnone] at h
    cases h
  · -- a call without arguments
    intro state name position open' function hfind close rest hformed part h
    rw [expression, hfind] at h
    obtain ⟨value, hvalue, h⟩ := bind_eq_ok.1 h
    cases h
    obtain ⟨rfl, haccepts⟩ := eq_of_call hvalue
    refine .cons (.cons (.one fun case => .ofPart ?_))
    have harguments : ∀ argument ∈ ([] : List (List Lexeme × Expr)),
        g.Derives case .comparison argument.1 argument.2 := List.forall_mem_nil _
    have hcall := Derives.call hfind haccepts harguments
    exact hcall
  · intro state name position open' function hfind rest hrest ih hformed part h
    rw [expression, hfind] at h
    simp only at h
    obtain ⟨args, hargs, h⟩ := bind_eq_ok.1 h
    obtain ⟨⟨closed, close⟩, hclosed, h⟩ := bind_eq_ok.1 h
    obtain ⟨value, hvalue, h⟩ := bind_eq_ok.1 h
    cases h
    obtain ⟨rfl, haccepts⟩ := eq_of_call hvalue
    have hargs := ih (fun token ht => hformed token (by simp [ht])) hargs
    obtain ⟨hrest, hcase⟩ := rest_of_closing hclosed
    rw [hrest, ← hcase] at hargs
    refine .cons (.cons (hargs.trans (.one fun case => Eq.refl [Lexeme.rightParen]) ?_))
    rintro case words _ ⟨arguments, rfl, hvalue, -, hall⟩ rfl
    rw [value_of_closing hclosed, hvalue] at haccepts ⊢
    rw [List.length_map] at haccepts
    exact .ofPart (.call hfind haccepts hall)
  · intro state name position rest hrest hformed part h
    rw [expression] at h
    · obtain ⟨hname, hformed⟩ := List.forall_mem_cons.1 hformed
      obtain ⟨front, hfront, hrefers⟩ := refers_of_reference hname hformed h
      refine .cons ⟨front, hfront, fun case hcase => ?_⟩
      exact ⟨(hrefers case hcase).1, .ofPart (.reference (hrefers case hcase).2)⟩
    · exact hrest
  · -- no part starts with these tokens
    intro state tokens hminus hnumber hstring hdeleted hparen hcall hname hformed part h
    rw [expression] at h
    · cases h
    all_goals assumption
  · intro tokens state ihFirst ihOthers hformed part h
    rw [arguments] at h
    obtain ⟨first, hfirst, h⟩ := bind_eq_ok.1 h
    have hfirst := ihFirst hformed hfirst
    split at h
    · cases h
      exact hfirst.mono fun case words hwords => .singleton hwords
    · next before hbefore =>
      obtain ⟨others, hothers, h⟩ := bind_eq_ok.1 h
      cases h
      obtain ⟨position, hrest, hcase⟩ := rest_of_comma hbefore
      have hformed := hfirst.formed hformed
      rw [hrest] at hfirst hformed
      rw [← hcase, ← value_of_comma hbefore] at hfirst
      have hothers := ihOthers before (List.forall_mem_of_forall_mem_cons hformed) hothers
      have hrest : Takes (⟨.comma, position⟩ :: before.rest) before.case others.rest others.case
          fun case words =>
            ∃ after, words = .comma :: after ∧ g.DerivesAll case after others.value :=
        .cons (hothers.mono fun case words hwords => ⟨words, rfl, hwords⟩)
      refine hfirst.trans hrest ?_
      rintro case words _ hwords ⟨after, rfl, hafter⟩
      exact .cons hwords hafter
  · intro level left state hleft part h
    rw [operations] at h
    cases h
    exact Takes.nil fun case before hbefore => by rwa [List.append_nil]
  · intro level left state token rest hnone hformed part h
    rw [operations, hnone] at h
    cases h
    exact Takes.nil fun case before hbefore => by rwa [List.append_nil]
  · rintro level left state ⟨lexeme, position⟩ rest op hop ihRight ihAll hformed part h
    rw [operations, hop] at h
    obtain ⟨right, hright, h⟩ := bind_eq_ok.1 h
    obtain ⟨all, hall, h⟩ := bind_eq_ok.1 h
    cases h
    have hrest := List.forall_mem_of_forall_mem_cons hformed
    have hright := ihRight hrest hright
    have hall := ihAll right (hright.formed hrest) hall
    refine .cons (hright.trans hall fun case words others hwords hothers before hbefore => ?_)
    rw [← List.cons_append, ← List.append_assoc]
    exact hothers _ (hbefore.operation hop hwords)

theorem exists_fits (state : Option Text.LetterCase) : ∃ case, Fits state case :=
  match state with
  | none => ⟨.upper, nofun⟩
  | some case => ⟨case, fits_some.2 rfl⟩

/-- Whatever is read from a text is spelled by its tokens. -/
theorem spells_of_parse {text : String} {e : Expr} (h : g.parse text = .ok e) :
    ∃ tokens, tokenize text = .ok tokens ∧ g.Spells tokens e := by
  obtain ⟨tokens, htokens, h⟩ := bind_eq_ok.1 h
  obtain ⟨all, hall, h⟩ := bind_eq_ok.1 h
  obtain ⟨words, hwords, hformed⟩ := words_of_tokensFrom htokens
  obtain ⟨front, hfront, hderives⟩ := derives_of_expression (formed_of_tokensFrom htokens) hall
  obtain ⟨case, hcase⟩ := exists_fits all.case
  split at h
  · next position rest hrest =>
    cases h
    refine ⟨tokens, htokens, case, front.map Token.lexeme, ?_, (hderives case hcase).2⟩
    rw [hfront, hrest, List.map_append, List.map_cons] at hwords ⊢
    -- The stop is the last token, so nothing comes after it.
    rcases List.eq_nil_or_concat rest with rfl | ⟨others, last, rfl⟩
    · rfl
    · rw [List.concat_eq_append, List.map_append, ← List.cons_append, ← List.append_assoc] at hwords
      have hstop : Lexeme.stop ∈ words := by
        rw [← (List.append_inj' hwords rfl).1]
        simp
      exact absurd rfl (hformed _ hstop).2
  · cases h

end Grammar

end Spreadsheet

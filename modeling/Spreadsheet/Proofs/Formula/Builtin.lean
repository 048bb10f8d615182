import Spreadsheet.Proofs.Formula.Definite

/-!
# The builtin functions are lawful

Each of them takes its arguments as numbers, which are not NaN where the arguments are definite, or
as values. `Registry.lawful_builtin` collects the laws of all of them.
-/

namespace Spreadsheet

namespace Function

variable {args : List Argument} {xs : List Binary64} {x : Binary64}

/-! ## Arguments as numbers -/

theorem isNumber_of_mem_numbersOf {arg : Argument} (harg : arg.Definite)
    (h : numbersOf arg = .ok xs) (hx : x ∈ xs) : x.isNumber := by
  unfold numbersOf at h
  split at h
  · next range =>
    have hvalues : ∀ value ∈ range.values, value.Definite := harg
    clear harg
    generalize range.values = values at h hvalues
    induction values generalizing xs with
    | nil =>
      cases h
      cases hx
    | cons value values ih =>
      obtain ⟨hvalue, hrest⟩ := List.forall_mem_cons.1 hvalues
      rw [List.foldr_cons] at h
      split at h
      · cases h
      · obtain ⟨rest, hread, rfl⟩ := map_eq_ok.1 h
        rcases List.mem_cons.1 hx with rfl | hx
        · exact hvalue
        · exact ih hx hread hrest
      · exact ih hx h hrest
  · cases h
    cases hx
  · next value _ =>
    obtain ⟨y, hy, rfl⟩ := map_eq_ok.1 h
    cases List.mem_singleton.1 hx
    exact (Argument.definite_value.1 harg).toNumber hy

theorem isNumber_of_mem_numbers (hargs : ∀ arg ∈ args, arg.Definite) (h : numbers args = .ok xs)
    (hx : x ∈ xs) : x.isNumber := by
  induction args generalizing xs with
  | nil =>
    cases h
    cases hx
  | cons arg args ih =>
    obtain ⟨harg, hargs⟩ := List.forall_mem_cons.1 hargs
    obtain ⟨first, hfirst, h⟩ := bind_eq_ok.1 h
    obtain ⟨rest, hrest, h⟩ := bind_eq_ok.1 h
    cases h
    rcases List.mem_append.1 hx with hx | hx
    · exact isNumber_of_mem_numbersOf harg hfirst hx
    · exact ih hargs hrest hx

theorem proper_ofNumbers {result : List Binary64 → Except Failure Value}
    (hresult : ∀ xs : List Binary64, (∀ x ∈ xs, x.isNumber) → Proper (result xs))
    (hargs : ∀ arg ∈ args, arg.Definite) : Proper (ofNumbers result args) := by
  unfold ofNumbers
  split
  · next hxs => exact hresult _ fun _ => isNumber_of_mem_numbers hargs hxs
  · trivial

theorem proper_ofFirstNumber {result : Binary64 → List Argument → Except Failure Value}
    (hresult : ∀ x arg rest, args = arg :: rest → x.isNumber → Proper (result x rest))
    (hargs : ∀ arg ∈ args, arg.Definite) (hne : args ≠ []) :
    Proper (ofFirstNumber args result) := by
  unfold ofFirstNumber
  split
  · contradiction
  · next arg rest =>
    split
    · next x hx =>
      exact hresult x arg rest rfl ((hargs arg List.mem_cons_self).scalar.toNumber hx)
    · trivial

/-! ## Sums and means -/

theorem proper_sumOf (xs : List Binary64) : Proper (sumOf xs) := by
  unfold sumOf
  split
  · exact Value.definite_ofResult _
  · exact nofun

theorem proper_meanOf (xs : List Binary64) : Proper (meanOf xs) := by
  unfold meanOf
  split
  · trivial
  · split
    · exact Value.definite_ofResult _
    · exact nofun

/-! ## Extremes and counts -/

theorem isNumber_extreme (precedes : Binary64 → Binary64 → Bool) (hxs : ∀ x ∈ xs, x.isNumber) :
    (extreme precedes xs).isNumber := by
  cases xs with
  | nil => rfl
  | cons x xs =>
    rw [List.forall_mem_cons] at hxs
    obtain ⟨hx, hxs⟩ := hxs
    rw [extreme]
    induction xs generalizing x with
    | nil => exact hx
    | cons y xs ih =>
      obtain ⟨hy, hxs⟩ := List.forall_mem_cons.1 hxs
      rw [List.foldl_cons]
      split
      · exact ih y hy hxs
      · exact ih x hx hxs

theorem proper_extreme (precedes : Binary64 → Binary64 → Bool)
    (hargs : ∀ arg ∈ args, arg.Definite) :
    Proper (ofNumbers (fun xs => .ok (.number (extreme precedes xs))) args) :=
  proper_ofNumbers (fun _ => isNumber_extreme precedes) hargs

theorem lawful_count : count.Lawful := by
  intro args _ _
  simp only [count]
  split
  · exact Binary64.isNumber_ofNat _
  · trivial

/-! ## Rounding -/

theorem truncate_ne_missingArgument (x : Binary64) : truncate x ≠ .error .missingArgument := by
  cases x <;> simp [truncate]

theorem bind_ne_missingArgument {α β : Type} {a : Except Failure α} {f : α → Except Failure β}
    (ha : a ≠ .error .missingArgument) (hf : ∀ value, f value ≠ .error .missingArgument) :
    a >>= f ≠ .error .missingArgument := by
  cases a with
  | ok value => exact hf value
  | error failure => exact fun h => ha (by cases h; rfl)

theorem roundTo_ne_missingArgument (x : Binary64) (places : Int) :
    roundTo x places ≠ .error .missingArgument := by
  unfold roundTo
  simp only
  split <;> exact bind_ne_missingArgument (truncate_ne_missingArgument _) fun _ h => by cases h

theorem proper_map_ofResult {result : Except Failure Binary64}
    (h : result ≠ .error .missingArgument) : Proper (result.map .ofResult) := by
  cases result with
  | ok x => exact Value.definite_ofResult x
  | error failure => exact fun heq => h (heq ▸ rfl)

/-! ## All of them -/

theorem ne_nil_of_accepts {arity : Arity} (hleast : 0 < arity.least)
    (h : arity.accepts args.length) : args ≠ [] := by
  rintro rfl
  rw [Arity.accepts, Bool.and_eq_true, decide_eq_true_eq] at h
  exact absurd h.1 (Nat.not_le.2 hleast)

theorem lawful_absolute : absolute.Lawful := by
  intro args haccepts hargs
  refine proper_ofFirstNumber (fun x arg rest hsplit hx => ?_) hargs
    (ne_nil_of_accepts (by decide) haccepts)
  exact Binary64.isNumber_withSign hx false

theorem lawful_round : round.Lawful := by
  intro args haccepts hargs
  refine proper_ofFirstNumber (fun x arg rest hsplit hx => ?_) hargs
    (ne_nil_of_accepts (by decide) haccepts)
  split
  · exact proper_map_ofResult (roundTo_ne_missingArgument x 0)
  · split
    · next places _ =>
      cases hplaces : truncate places with
      | error failure => exact fun heq => truncate_ne_missingArgument places (heq ▸ hplaces)
      | ok places => exact proper_map_ofResult (roundTo_ne_missingArgument x places)
    · trivial

theorem lawful_conditional : conditional.Lawful := by
  intro args haccepts hargs
  refine proper_ofFirstNumber (fun x arg rest hsplit _ => ?_) hargs
    (ne_nil_of_accepts (by decide) haccepts)
  subst hsplit
  have hrest (choice : Argument) (hchoice : choice ∈ rest) : choice.scalar.Definite :=
    (hargs choice (List.mem_cons_of_mem _ hchoice)).scalar
  split
  · exact absurd haccepts (by simp [Arity.accepts, conditional])
  · exact hrest _ List.mem_cons_self
  · exact hrest _ (List.mem_cons_of_mem _ List.mem_cons_self)
  · rfl

end Function

namespace Registry

theorem builtin_cases {name : String} {function : Function}
    (h : builtin.find? name = some function) :
    function = .sum ∨ function = .average ∨ function = .minimum ∨ function = .maximum ∨
      function = .count ∨ function = .absolute ∨ function = .round ∨ function = .conditional := by
  obtain ⟨before, after, hentries, -⟩ := List.lookup_eq_some_iff.1 h
  have hmem : (key name, function) ∈ builtin.entries := by simp [hentries]
  have hfunction : function ∈ builtin.entries.map Prod.snd := List.mem_map_of_mem hmem
  simp only [builtin, List.map_cons, List.map_nil, List.mem_cons, List.not_mem_nil, or_false]
    at hfunction
  rcases hfunction with rfl | rfl | rfl | rfl | rfl | rfl | rfl | rfl | rfl <;> simp

theorem lawful_builtin : builtin.Lawful := by
  intro name function hfind
  rcases builtin_cases hfind with rfl | rfl | rfl | rfl | rfl | rfl | rfl | rfl
  · exact fun _ _ => Function.proper_ofNumbers fun xs _ => Function.proper_sumOf xs
  · exact fun _ _ => Function.proper_ofNumbers fun xs _ => Function.proper_meanOf xs
  · exact fun _ _ => Function.proper_extreme _
  · exact fun _ _ => Function.proper_extreme _
  · exact Function.lawful_count
  · exact Function.lawful_absolute
  · exact Function.lawful_round
  · exact Function.lawful_conditional

end Registry

end Spreadsheet

import Mathlib
import Spreadsheet.Proofs.Formula.Definite
import Spreadsheet.Sheet.Sort

/-!
# The order of sorted values

`Value.Below` says which values come before which when cells are sorted: numbers before texts, texts
before errors, and among each other numbers by size, texts by the code points of their caseless forms
and errors by their kinds. `Value.Ties` are values that sort alike. Sorted downwards the order is the
other way, but empty cells come last all the same (`Value.Before`).

Definite values have keys in a linear order that compare as the values do (`sortOrder_compares`), so
rows with such values are put in that order, and those that sort alike stay in the order in which
they were (`pairwise_mergeSort_rowAtMost`).
-/

namespace Spreadsheet

theorem compare_compares {α : Type} [LinearOrder α] (a b : α) : (compare a b).Compares a b :=
  cmp_eq_compare a b ▸ cmp_compares a b

theorem Text.order_compares (s t : List Char) : (Text.order s t).Compares s t := by
  induction s generalizing t with
  | nil =>
    cases t with
    | nil => rfl
    | cons b t => exact List.nil_lt_cons b t
  | cons a s ih =>
    cases t with
    | nil => exact List.nil_lt_cons a s
    | cons b t =>
      rw [order]
      rcases lt_trichotomy a b with hab | rfl | hba
      · have hfirst : compare a.toNat b.toNat = .lt := compare_lt_iff_lt.2 hab
        rw [hfirst]
        exact List.cons_lt_cons_iff.2 (.inl hab)
      · have hmono : StrictMono (a :: ·) := fun _ _ h => List.cons_lt_cons_iff.2 (.inr ⟨rfl, h⟩)
        have hfirst : compare a.toNat a.toNat = .eq := compare_eq_iff_eq.2 rfl
        rw [hfirst]
        exact hmono.compares.2 (ih t)
      · have hfirst : compare a.toNat b.toNat = .gt := compare_gt_iff_gt.2 hba
        rw [hfirst]
        exact List.cons_lt_cons_iff.2 (.inl hba)

namespace Binary64

/-- The place of a number between the infinities; NaN has none of its own. -/
def place : Binary64 → WithBot (WithTop Int)
  | .finite x => ((x.units : Int) : WithTop Int)
  | .infinity false => (⊤ : WithTop Int)
  | .infinity true | .nan => ⊥

theorem place_lt_infinity (x : Finite) : place (.finite x) < place (.infinity false) :=
  WithBot.coe_lt_coe.2 (WithTop.coe_lt_top x.units)

theorem infinity_lt_place (x : Finite) : place (.infinity true) < place (.finite x) :=
  WithBot.bot_lt_coe _

theorem infinity_lt_infinity : place (.infinity true) < place (.infinity false) :=
  WithBot.bot_lt_coe _

/-- Numbers compare as their places do. -/
theorem exists_compare? {x y : Binary64} (hx : x.isNumber) (hy : y.isNumber) :
    ∃ o : Ordering, x.compare? y = some o ∧ o.Compares x.place y.place := by
  cases x with
  | nan => cases hx
  | infinity negative =>
    cases y with
    | nan => cases hy
    | infinity other =>
      cases negative <;> cases other
      · exact ⟨.eq, rfl, rfl⟩
      · exact ⟨.gt, rfl, infinity_lt_infinity⟩
      · exact ⟨.lt, rfl, infinity_lt_infinity⟩
      · exact ⟨.eq, rfl, rfl⟩
    | finite y =>
      cases negative
      · exact ⟨.gt, rfl, place_lt_infinity y⟩
      · exact ⟨.lt, rfl, infinity_lt_place y⟩
  | finite x =>
    cases y with
    | nan => cases hy
    | infinity negative =>
      cases negative
      · exact ⟨.lt, rfl, place_lt_infinity x⟩
      · exact ⟨.gt, rfl, infinity_lt_place x⟩
    | finite y =>
      have hmono : StrictMono fun n : Int => ((n : WithTop Int) : WithBot (WithTop Int)) :=
        WithBot.coe_strictMono.comp WithTop.coe_strictMono
      exact ⟨_, rfl, hmono.compares.2 (compare_compares _ _)⟩

end Binary64

theorem ErrorKind.rank_injective : Function.Injective ErrorKind.rank := by
  intro a b h
  cases a <;> cases b <;> simp [rank] at h ⊢

namespace Value

/-- A value comes before another one when cells are sorted. -/
inductive Below : Value → Value → Prop
  | numbers {x y : Binary64} (h : x.less y) : Below (.number x) (.number y)
  | texts {s t : String} (h : Text.fold s.toList < Text.fold t.toList) : Below (.text s) (.text t)
  | errors {e f : CellError} (h : e.kind.rank < f.kind.rank) : Below (.error e) (.error f)
  | number_text (x : Binary64) (s : String) : Below (.number x) (.text s)
  | number_error (x : Binary64) (e : CellError) : Below (.number x) (.error e)
  | text_error (s : String) (e : CellError) : Below (.text s) (.error e)

/-- Two values sort alike. -/
inductive Ties : Value → Value → Prop
  | numbers {x y : Binary64} (h : x.equal y) : Ties (.number x) (.number y)
  | texts {s t : String} (h : Text.fold s.toList = Text.fold t.toList) : Ties (.text s) (.text t)
  | errors {e f : CellError} (h : e.kind = f.kind) : Ties (.error e) (.error f)
  | empty : Ties .empty .empty

/-- Where values stand when cells are sorted: numbers, then texts, then errors, then empty ones. -/
abbrev SortKey := WithBot (WithTop Int) ⊕ₗ List Char ⊕ₗ Nat ⊕ₗ Unit

def sortKey : Value → SortKey
  | .number x => toLex (.inl x.place)
  | .text s => toLex (.inr (toLex (.inl (Text.fold s.toList))))
  | .error e => toLex (.inr (toLex (.inr (toLex (.inl e.kind.rank)))))
  | .empty => toLex (.inr (toLex (.inr (toLex (.inr ())))))

variable {a b : Value}

/-- Definite values compare as their keys do. -/
theorem sortOrder_compares (ha : a.Definite) (hb : b.Definite) :
    (a.sortOrder b).Compares a.sortKey b.sortKey := by
  cases a <;> cases b
  case number.number x y =>
    obtain ⟨o, ho, hcompares⟩ := Binary64.exists_compare? ha hb
    rw [sortOrder, ho]
    exact Sum.Lex.inl_strictMono.compares.2 hcompares
  case text.text s t =>
    exact Sum.Lex.inr_strictMono.compares.2
      (Sum.Lex.inl_strictMono.compares.2 (Text.order_compares _ _))
  case error.error e f =>
    exact Sum.Lex.inr_strictMono.compares.2 (Sum.Lex.inr_strictMono.compares.2
      (Sum.Lex.inl_strictMono.compares.2 (compare_compares _ _)))
  case empty.empty => rfl
  all_goals simp [sortOrder, sortClass, sortKey, Ordering.Compares, compare, compareOfLessAndEq]

theorem below_of_sortOrder (hb : b ≠ .empty) (h : a.sortOrder b = .lt) : a.Below b := by
  cases a <;> cases b
  case number.number x y =>
    refine .numbers (beq_iff_eq.2 ?_)
    rw [sortOrder] at h
    cases hcompare : x.compare? y with
    | none => cases hcompare ▸ h
    | some o => rw [← h, hcompare, Option.getD_some]
  case text.text s t => exact .texts ((Text.order_compares _ _).eq_lt.1 h)
  case error.error e f => exact .errors (compare_lt_iff_lt.1 h)
  case number.text => exact .number_text ..
  case number.error => exact .number_error ..
  case text.error => exact .text_error ..
  case number.empty | text.empty | error.empty | empty.empty => exact absurd rfl hb
  all_goals cases h

theorem ties_of_sortOrder (ha : a.Definite) (hb : b.Definite) (h : a.sortOrder b = .eq) :
    a.Ties b := by
  cases a <;> cases b
  case number.number x y =>
    obtain ⟨o, ho, -⟩ := Binary64.exists_compare? ha hb
    rw [sortOrder, ho, Option.getD_some] at h
    exact .numbers (beq_iff_eq.2 (ho.trans (congrArg some h)))
  case text.text s t => exact .texts ((Text.order_compares _ _).eq_eq.1 h)
  case error.error e f => exact .errors (ErrorKind.rank_injective (compare_eq_iff_eq.1 h))
  case empty.empty => exact .empty
  all_goals cases h

theorem Below.sortOrder_eq (h : a.Below b) : a.sortOrder b = .lt := by
  cases h with
  | numbers h => rw [sortOrder, beq_iff_eq.1 h, Option.getD_some]
  | texts h => exact (Text.order_compares _ _).eq_lt.2 h
  | errors h => exact compare_lt_iff_lt.2 h
  | number_text | number_error | text_error => rfl

theorem Ties.sortOrder_eq (h : a.Ties b) : a.sortOrder b = .eq := by
  cases h with
  | numbers h => rw [sortOrder, beq_iff_eq.1 h, Option.getD_some]
  | texts h => exact (Text.order_compares _ _).eq_eq.2 h
  | errors h => exact compare_eq_iff_eq.2 (congrArg ErrorKind.rank h)
  | empty => rfl

theorem isEmpty_eq_true_iff : a.isEmpty = true ↔ a = .empty := by
  cases a <;> simp [isEmpty]

theorem not_isEmpty_iff : (!a.isEmpty) = true ↔ a ≠ .empty := by
  rw [Bool.not_eq_true', Ne, ← isEmpty_eq_true_iff, Bool.not_eq_true]

theorem Below.ne_empty (h : a.Below b) : a ≠ .empty ∧ b ≠ .empty := by
  cases h <;> simp

theorem Ties.eq_empty_iff (h : a.Ties b) : a = .empty ↔ b = .empty := by
  cases h <;> simp

end Value

/-! ## Sorting in a direction -/

/-- A value comes before another one when cells are sorted in a direction: empty cells come last in
both directions. -/
def Value.Before (descending : Bool) (a b : Value) : Prop :=
  (a ≠ .empty ∧ b = .empty) ∨ if descending then b.Below a else a.Below b

/-- A key may stand before another one when values are sorted in a direction. -/
def Value.SortKey.atMost (descending : Bool) (k k' : SortKey) : Bool :=
  if descending then decide (k' ≤ k) else decide (k ≤ k')

theorem Value.SortKey.atMost_trans (descending : Bool) (k₁ k₂ k₃ : SortKey)
    (h : atMost descending k₁ k₂) (h' : atMost descending k₂ k₃) : atMost descending k₁ k₃ := by
  cases descending with
  | true => exact decide_eq_true ((of_decide_eq_true h').trans (of_decide_eq_true h))
  | false => exact decide_eq_true ((of_decide_eq_true h).trans (of_decide_eq_true h'))

theorem Value.SortKey.atMost_total (descending : Bool) (k k' : SortKey) :
    atMost descending k k' || atMost descending k' k := by
  rw [Bool.or_eq_true]
  cases descending with
  | true => exact (le_total k' k).imp decide_eq_true decide_eq_true
  | false => exact (le_total k k').imp decide_eq_true decide_eq_true

/-- The keys of two values are in order, and only the second value may be empty, or both. -/
def Value.InOrder (descending : Bool) (a b : Value) : Prop :=
  b = .empty ∨ a ≠ .empty ∧ SortKey.atMost descending a.sortKey b.sortKey

theorem Value.inOrder_of_before {descending : Bool} {a b : Value} (ha : a.Definite)
    (hb : b.Definite) (h : a.Before descending b ∨ a.Ties b) : a.InOrder descending b := by
  rcases h with (⟨-, hempty⟩ | hbelow) | hties
  · exact .inl hempty
  · refine .inr ?_
    cases descending with
    | true =>
      have hlt := (sortOrder_compares hb ha).eq_lt.1 (Below.sortOrder_eq hbelow)
      exact ⟨(Below.ne_empty hbelow).2, decide_eq_true hlt.le⟩
    | false =>
      have hlt := (sortOrder_compares ha hb).eq_lt.1 (Below.sortOrder_eq hbelow)
      exact ⟨(Below.ne_empty hbelow).1, decide_eq_true hlt.le⟩
  · have hkey : a.sortKey = b.sortKey := (sortOrder_compares ha hb).eq_eq.1 hties.sortOrder_eq
    refine or_iff_not_imp_left.2 fun hne => ⟨mt hties.eq_empty_iff.1 hne, ?_⟩
    rw [hkey]
    simpa using SortKey.atMost_total descending b.sortKey b.sortKey

namespace Sheet

variable {col : Nat} {descending : Bool} {a b : List Cell}

theorem rowAtMost_eq (ha : (rowValue col a).Definite) (hb : (rowValue col b).Definite) :
    rowAtMost col descending a b =
      Value.SortKey.atMost descending (rowValue col a).sortKey (rowValue col b).sortKey := by
  have hcompares := Value.sortOrder_compares ha hb
  rw [Bool.eq_iff_iff, rowAtMost, Value.SortKey.atMost]
  cases descending with
  | true => simpa using hcompares.ne_lt
  | false => simpa using hcompares.ne_gt

/-- Of filled rows, one that may stand before another one has a value that comes before the other's,
or one that sorts alike, so that the other row may stand before it as well. -/
theorem before_or_ties_of_rowAtMost (ha : (rowValue col a).Definite)
    (hb : (rowValue col b).Definite) (hnea : rowValue col a ≠ .empty)
    (hneb : rowValue col b ≠ .empty) (h : rowAtMost col descending a b) :
    (rowValue col a).Before descending (rowValue col b) ∨
      (rowValue col a).Ties (rowValue col b) ∧ rowAtMost col descending b a := by
  have hcompares := Value.sortOrder_compares ha hb
  cases horder : (rowValue col a).sortOrder (rowValue col b) with
  | lt =>
    cases descending with
    | true => simp [rowAtMost, horder] at h
    | false => exact .inl (.inr (Value.below_of_sortOrder hneb horder))
  | eq =>
    have hkey : (rowValue col a).sortKey = (rowValue col b).sortKey := hcompares.eq_eq.1 horder
    rw [rowAtMost_eq ha hb, hkey] at h
    exact .inr ⟨Value.ties_of_sortOrder ha hb horder, by rwa [rowAtMost_eq hb ha, hkey]⟩
  | gt =>
    cases descending with
    | true =>
      have hback : (rowValue col b).sortOrder (rowValue col a) = .lt :=
        (Value.sortOrder_compares hb ha).eq_lt.2 (hcompares.eq_gt.1 horder)
      exact .inl (.inr (Value.below_of_sortOrder hnea hback))
    | false => simp [rowAtMost, horder] at h

end Sheet

/-! ## Stable sorting -/

/-- Entries that may change places keep their order when they are sorted, by induction on the
list. -/
theorem pairwise_mergeSort_stable {α : Type} {le : α → α → Bool} {R : α → α → Prop} {l : List α}
    (htrans : ∀ a b c, le a b → le b c → le a c) (htotal : ∀ a b, le a b || le b a)
    (hl : l.Pairwise R) : (l.mergeSort le).Pairwise fun a b => le a b ∧ (le b a → R a b) := by
  refine (List.pairwise_mergeSort htrans htotal l).and ?_
  induction l with
  | nil => simp
  | cons first rest ih =>
    obtain ⟨hfirst, hrest⟩ := List.pairwise_cons.1 hl
    obtain ⟨before, after, hcons, hsplit, hbefore⟩ := List.mergeSort_cons htrans htotal first rest
    have hsorted := ih hrest
    rw [hsplit, List.pairwise_append] at hsorted
    obtain ⟨hpairsBefore, hpairsAfter, hacross⟩ := hsorted
    have hafter (x : α) (hx : x ∈ after) : R first x :=
      hfirst x (List.mem_mergeSort.1 (hsplit ▸ List.mem_append_right before hx))
    rw [hcons]
    refine List.pairwise_append.2 ⟨hpairsBefore,
      List.pairwise_cons.2 ⟨fun x hx _ => hafter x hx, hpairsAfter⟩, fun x hx y hy => ?_⟩
    rcases List.mem_cons.1 hy with rfl | hy
    · intro hle
      -- The first entry stands before all that it may stand before.
      have hnot := hbefore x hx
      rw [hle] at hnot
      cases hnot
    · exact hacross x hx y hy

/-- Filled rows with their numbers are sorted by their values, and in the order of their numbers
where they sort alike. -/
theorem Sheet.pairwise_mergeSort_rowAtMost {col : Nat} {descending : Bool}
    {rows : List (List Cell × Nat)}
    (hrows : ∀ row ∈ rows, (rowValue col row.1).Definite ∧ rowValue col row.1 ≠ .empty)
    (hnumbers : rows.Pairwise fun a b => a.2 < b.2) :
    (rows.mergeSort fun a b => rowAtMost col descending a.1 b.1).Pairwise fun a b =>
      (rowValue col a.1).Before descending (rowValue col b.1) ∨
        (rowValue col a.1).Ties (rowValue col b.1) ∧ a.2 < b.2 := by
  let atMost (a b : List Cell × Nat) : Bool :=
    Value.SortKey.atMost descending (rowValue col a.1).sortKey (rowValue col b.1).sortKey
  have hatMost (a : List Cell × Nat) (ha : a ∈ rows) (b : List Cell × Nat) (hb : b ∈ rows) :
      rowAtMost col descending a.1 b.1 = atMost a b := rowAtMost_eq (hrows a ha).1 (hrows b hb).1
  have hsame : rows.mergeSort (fun a b => rowAtMost col descending a.1 b.1) =
      rows.mergeSort atMost := by
    have hmap := List.map_mergeSort (f := id) hatMost
    rwa [List.map_id, List.map_id] at hmap
  have hsorted : (rows.mergeSort atMost).Pairwise fun a b => atMost a b ∧ (atMost b a → a.2 < b.2) :=
    pairwise_mergeSort_stable (fun _ _ _ => Value.SortKey.atMost_trans descending _ _ _)
      (fun _ _ => Value.SortKey.atMost_total descending _ _) hnumbers
  rw [hsame]
  refine hsorted.imp_of_mem fun {a b} ha hb hab => ?_
  have ha := List.mem_mergeSort.1 ha
  have hb := List.mem_mergeSort.1 hb
  obtain ⟨hdefa, hnea⟩ := hrows a ha
  obtain ⟨hdefb, hneb⟩ := hrows b hb
  refine (before_or_ties_of_rowAtMost hdefa hdefb hnea hneb ?_).imp_right fun hties => ?_
  · exact (hatMost a ha b hb).trans hab.1
  · exact ⟨hties.1, hab.2 ((hatMost b hb a ha).symm.trans hties.2)⟩

end Spreadsheet

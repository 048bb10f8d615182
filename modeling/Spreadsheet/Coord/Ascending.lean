import Spreadsheet.Coord.Basic

/-!
# Ascending lists of cells

A finite set of cells is kept as the list of its members in ascending order, each once:
`ascending` has the members of the list it is made of (`mem_ascending`), its result ascends
(`ascends_ascending`), and ascending lists of the same cells are equal (`Ascends.ext`).
-/

namespace Spreadsheet.Coord

/-- The ascending list with one more cell. -/
def insert (cell : Coord) : List Coord → List Coord
  | [] => [cell]
  | other :: rest =>
    if cell.before other then cell :: other :: rest
    else if cell = other then other :: rest
    else other :: insert cell rest

/-- The cells of a list in ascending order, each once. -/
def ascending (cells : List Coord) : List Coord := cells.foldr insert []

@[simp] theorem mem_insert {a cell : Coord} {cells : List Coord} :
    a ∈ insert cell cells ↔ a = cell ∨ a ∈ cells := by
  induction cells with
  | nil => simp [insert]
  | cons other rest ih =>
    simp only [insert]
    split
    · simp
    · split
      · next h => simp [h]
      · simp only [List.mem_cons, ih]
        exact or_left_comm

@[simp] theorem mem_ascending {a : Coord} {cells : List Coord} :
    a ∈ ascending cells ↔ a ∈ cells := by
  induction cells with
  | nil => simp [ascending]
  | cons cell rest ih =>
    rw [ascending, List.foldr_cons, mem_insert, List.mem_cons]
    exact or_congr_right ih

/-- Each cell of the list comes before all later ones. -/
def Ascends (cells : List Coord) : Prop := cells.Pairwise fun a b => a.before b = true

theorem Ascends.insert {cell : Coord} {cells : List Coord} (h : Ascends cells) :
    Ascends (insert cell cells) := by
  induction cells with
  | nil => simp [Coord.insert, Ascends]
  | cons other rest ih =>
    have ⟨hother, hrest⟩ := List.pairwise_cons.1 h
    simp only [Coord.insert]
    split
    · next hbefore =>
      refine List.pairwise_cons.2 ⟨fun a ha => ?_, h⟩
      rcases List.mem_cons.1 ha with rfl | ha
      · exact hbefore
      · exact before_trans hbefore (hother a ha)
    · next hbefore =>
      split
      · exact h
      · next hne =>
        refine List.pairwise_cons.2 ⟨fun a ha => ?_, ih hrest⟩
        rcases mem_insert.1 ha with rfl | ha
        · exact before_of_not_before (Bool.eq_false_iff.2 hbefore) hne
        · exact hother a ha

theorem ascends_ascending (cells : List Coord) : Ascends (ascending cells) := by
  induction cells with
  | nil => exact List.Pairwise.nil
  | cons cell rest ih => exact ih.insert

/-- Ascending lists with the same members are equal. -/
theorem Ascends.ext {xs ys : List Coord} (hxs : Ascends xs) (hys : Ascends ys)
    (h : ∀ a, a ∈ xs ↔ a ∈ ys) : xs = ys := by
  induction xs generalizing ys with
  | nil =>
    cases ys with
    | nil => rfl
    | cons y ys => exact absurd ((h y).2 (List.mem_cons_self)) List.not_mem_nil
  | cons x xs ih =>
    cases ys with
    | nil => exact absurd ((h x).1 (List.mem_cons_self)) List.not_mem_nil
    | cons y ys =>
      have ⟨hx, hxs⟩ := List.pairwise_cons.1 hxs
      have ⟨hy, hys'⟩ := List.pairwise_cons.1 hys
      have heq : x = y := by
        rcases List.mem_cons.1 ((h x).1 List.mem_cons_self) with hxy | hxy
        · exact hxy
        · rcases List.mem_cons.1 ((h y).2 List.mem_cons_self) with hyx | hyx
          · exact hyx.symm
          · have := before_trans (hx y hyx) (hy x hxy)
            rw [before_irrefl] at this
            contradiction
      subst heq
      congr 1
      refine ih hxs hys' fun a => ?_
      have ha := h a
      simp only [List.mem_cons] at ha
      constructor
      · intro hmem
        rcases ha.1 (Or.inr hmem) with rfl | hmem'
        · have := hx a hmem
          rw [before_irrefl] at this
          contradiction
        · exact hmem'
      · intro hmem
        rcases ha.2 (Or.inr hmem) with rfl | hmem'
        · have := hy a hmem
          rw [before_irrefl] at this
          contradiction
        · exact hmem'

end Spreadsheet.Coord

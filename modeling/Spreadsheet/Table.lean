import Spreadsheet.Coord.Basic

/-!
# Tables

A table is a list of rows. `Table.get?` finds the entry at a place and `Table.modify` changes it;
`get?_modify` says which entries that touches. `Table.entryFromEitherEnd` also takes negative
rows and columns, which count from the end. Lists of entries with keys are tables as well, of which
`lookup_filter_ne` takes a key away.
-/

namespace Spreadsheet

/-- Rows of entries. -/
abbrev Table (α : Type) := List (List α)

namespace Table

variable {α : Type}

/-- The entry at a place, if there is one. -/
def get? (table : Table α) (cell : Coord) : Option α :=
  if 0 ≤ cell.row ∧ 0 ≤ cell.col then (table[cell.row.toNat]?).bind (·[cell.col.toNat]?) else none

/-- The table with the entry at a place changed. -/
def modify (table : Table α) (cell : Coord) (change : α → α) : Table α :=
  if 0 ≤ cell.row ∧ 0 ≤ cell.col then
    List.modify table cell.row.toNat (·.modify cell.col.toNat change)
  else table

@[simp] theorem length_modify (table : Table α) (cell : Coord) (change : α → α) :
    (table.modify cell change).length = table.length := by
  unfold modify
  split <;> simp

/-- A change of an entry changes that entry and no other one. -/
theorem get?_modify (table : Table α) (cell other : Coord) (change : α → α) :
    (table.modify cell change).get? other =
      if other = cell then (table.get? other).map change else table.get? other := by
  obtain ⟨row, col⟩ := cell
  obtain ⟨otherRow, otherCol⟩ := other
  simp only [get?, modify, Coord.mk.injEq]
  by_cases hother : 0 ≤ otherRow ∧ 0 ≤ otherCol
  · by_cases hcell : 0 ≤ row ∧ 0 ≤ col
    · rw [if_pos hcell, if_pos hother, if_pos hother, List.getElem?_modify]
      by_cases hrow : row.toNat = otherRow.toNat
      · have heq : otherRow = row := by omega
        by_cases hcol : col.toNat = otherCol.toNat
        · have heqCol : otherCol = col := by omega
          cases table[otherRow.toNat]? <;> simp [heq, heqCol]
        · have hne : otherCol ≠ col := by omega
          cases table[otherRow.toNat]? <;> simp [hrow, hne, hcol]
      · have hne : otherRow ≠ row := by omega
        cases table[otherRow.toNat]? <;> simp [hrow, hne]
    · rw [if_neg hcell, if_pos hother, if_neg (by rintro ⟨rfl, rfl⟩; exact hcell hother)]
  · simp [hother]

/-! ## Counting from the end -/

/-- Why a list has no member at an index. -/
inductive IndexFault where
  | outside
  /-- The index does not fit 64 bits. -/
  | tooLarge
  deriving DecidableEq

/-- The wording of a fault, given what kind of list it is. -/
def IndexFault.message (kind : String) : IndexFault → String
  | .outside => s!"{kind} index out of range"
  | .tooLarge => "cannot fit 'int' into an index-sized integer"

/-- The member of a list at an index, counted from the end if the index is negative. -/
def fromEitherEnd (xs : List α) (index : Int) : Except IndexFault α :=
  if index < -Nat.pow 2 63 ∨ Nat.pow 2 63 ≤ index then .error .tooLarge
  else
    let place := if 0 ≤ index then index else xs.length + index
    match if 0 ≤ place then xs[place.toNat]? else none with
    | some x => .ok x
    | none => .error .outside

/-- The entry at a place, each of its coordinates counted from the end if it is negative. -/
def entryFromEitherEnd (table : Table α) (cell : Coord) : Except IndexFault α := do
  fromEitherEnd (← fromEitherEnd table cell.row) cell.col

end Table

/-! ## Entries with keys -/

/-- What is found among entries without those of a key. -/
theorem lookup_filter_ne {κ ν : Type} [DecidableEq κ] [BEq κ] [LawfulBEq κ] (key other : κ)
    (entries : List (κ × ν)) : (entries.filter fun entry => entry.1 != key).lookup other =
      if other = key then none else entries.lookup other := by
  induction entries with
  | nil => simp
  | cons entry rest ih =>
    obtain ⟨first, value⟩ := entry
    by_cases hkey : first = key
    · subst hkey
      rw [List.filter_cons_of_neg (by simp), ih]
      by_cases hother : other = first
      · rw [if_pos hother, if_pos hother]
      · simp [hother, List.lookup_cons, beq_eq_false_iff_ne.2 hother]
    · by_cases hother : other = first
      · subst hother
        simp [hkey]
      · simp [hkey, List.lookup_cons, beq_eq_false_iff_ne.2 hother, ih]

end Spreadsheet

import Spreadsheet.Proofs.Formula.Relocation

/-!
# Copies of formulas

A formula that is copied to another place keeps its references at a distance from it
(`Expr.copied`). What leaves the sheet becomes a reference to a cell that is gone, and nothing else
changes (`Expr.shiftReference_eq`). So the copy means on one sheet what the formula means on another
one whose cells are at that distance (`Expr.copied_spec`), and a copy of a copy is a copy by both
distances (`Expr.copied_copied`).
-/

namespace Spreadsheet

/-! ## Places at a distance -/

namespace Coord

/-- The place that lies so many rows further down and columns further right. -/
def moved (rows cols : Int) (cell : Coord) : Coord := ⟨cell.row + rows, cell.col + cols⟩

theorem map_moved_span (offset first : Int) (count : Nat) :
    (span first count).map (· + offset) = span (first + offset) count := by
  induction count generalizing first with
  | zero => rfl
  | succ count ih =>
    have hnext : first + 1 + offset = first + offset + 1 := by omega
    rw [span, List.map_cons, ih, hnext, span]

theorem extent_add (offset first last : Int) :
    extent (first + offset) (last + offset) = extent first last := by
  rw [extent, extent]
  omega

/-- The cells of a rectangle at a distance are those at that distance from its cells. -/
theorem map_moved_rectangle (rows cols top left bottom right : Int) :
    (rectangle top left bottom right).map (moved rows cols) =
      rectangle (top + rows) (left + cols) (bottom + rows) (right + cols) := by
  rw [rectangle, rectangle, extent_add, extent_add, block, block, ← map_moved_span rows top,
    ← map_moved_span cols left, List.flatMap_map, List.map_flatMap]
  refine congrArg (List.flatMap · _) (funext fun row => ?_)
  rw [List.map_map, List.map_map]
  rfl

end Coord

namespace Expr

variable {nRows nCols nRows' nCols' rows cols rows' cols' : Int} {e ref : Expr}

/-- The corners of a reference lie on a sheet of the size; of whole columns these are columns. -/
def InBounds (nRows nCols : Int) : Expr → Prop
  | .cell target _ => target.Within nRows nCols
  | .range top left bottom right _ =>
    Coord.Within ⟨top, left⟩ nRows nCols ∧ Coord.Within ⟨bottom, right⟩ nRows nCols
  | .columns first last _ => (0 ≤ first ∧ first < nCols) ∧ 0 ≤ last ∧ last < nCols
  | _ => True

instance (nRows nCols : Int) : (e : Expr) → Decidable (e.InBounds nRows nCols)
  | .cell target _ => inferInstanceAs (Decidable (target.Within nRows nCols))
  | .range top left bottom right _ => inferInstanceAs (Decidable
      (Coord.Within ⟨top, left⟩ nRows nCols ∧ Coord.Within ⟨bottom, right⟩ nRows nCols))
  | .columns first last _ =>
    inferInstanceAs (Decidable ((0 ≤ first ∧ first < nCols) ∧ 0 ≤ last ∧ last < nCols))
  | .number .. | .string .. | .deletedReference | .unary .. | .binary .. | .call .. =>
    isTrue trivial

/-- The reference at a distance, wherever that is. Whole columns move sideways alone. -/
def moved (rows cols : Int) : Expr → Expr
  | .cell target small => .cell (target.moved rows cols) small
  | .range top left bottom right small =>
    .range (top + rows) (left + cols) (bottom + rows) (right + cols) small
  | .columns first last small => .columns (first + cols) (last + cols) small
  | e => e

/-- The formula copied to a place at a distance, on a sheet of the size. -/
def copied (rows cols nRows nCols : Int) (e : Expr) : Expr :=
  (e.shifted? rows cols nRows nCols).getD e

/-! ## References -/

theorem isReference_moved (href : ref.isReference) : (ref.moved rows cols).isReference := by
  cases ref with
  | cell | range | columns => rfl
  | _ => cases href

theorem moved_moved (ref : Expr) :
    (ref.moved rows cols).moved rows' cols' = ref.moved (rows + rows') (cols + cols') := by
  cases ref with
  | cell | range | columns => simp only [moved, Coord.moved, Int.add_assoc]
  | _ => rfl

theorem moved_zero (ref : Expr) : ref.moved 0 0 = ref := by
  cases ref with
  | cell | range | columns => simp only [moved, Coord.moved, Int.add_zero]
  | _ => rfl

/-- A reference moves with all its corners, or what it is to is gone. -/
theorem shiftReference_eq (href : ref.isReference) :
    shiftReference rows cols nRows nCols ref =
      if (ref.moved rows cols).InBounds nRows nCols then ref.moved rows cols
      else .deletedReference := by
  cases ref with
  | cell target small =>
    simp only [shiftReference, lineAt?, moved, InBounds, Coord.moved, Coord.Within]
    by_cases hrow : 0 ≤ target.row + rows ∧ target.row + rows < nRows
    · by_cases hcol : 0 ≤ target.col + cols ∧ target.col + cols < nCols <;> simp [hrow, hcol]
    · simp [hrow]
  | range top left bottom right small =>
    simp only [shiftReference, lineAt?, moved, InBounds, Coord.Within]
    by_cases htop : 0 ≤ top + rows ∧ top + rows < nRows
    · by_cases hbottom : 0 ≤ bottom + rows ∧ bottom + rows < nRows
      · by_cases hleft : 0 ≤ left + cols ∧ left + cols < nCols
        · by_cases hright : 0 ≤ right + cols ∧ right + cols < nCols <;>
            simp [htop, hbottom, hleft, hright]
        · simp [htop, hbottom, hleft]
      · simp [htop, hbottom]
    · simp [htop]
  | columns first last small =>
    simp only [shiftReference, lineAt?, moved, InBounds]
    by_cases hfirst : 0 ≤ first + cols ∧ first + cols < nCols
    · by_cases hlast : 0 ≤ last + cols ∧ last + cols < nCols <;> simp [hfirst, hlast]
    · simp [hfirst]
  | _ => cases href

theorem replaceReferences_shiftReference (href : ref.isReference) :
    (ref.replaceReferences fun ref => some (shiftReference rows cols nRows nCols ref)) =
      if (ref.moved rows cols).InBounds nRows nCols then ref.moved rows cols
      else .deletedReference := by
  rw [replaceReferences_some href, shiftReference_eq href]

/-! ## Formulas -/

/-- Copies have their references moved. A formula copied to its own place is not written anew, which
makes no difference to references on the sheet. -/
theorem copied_eq (h : rows = 0 → cols = 0 → e.Throughout (InBounds nRows nCols)) :
    e.copied rows cols nRows nCols =
      e.replaceReferences fun ref => some (shiftReference rows cols nRows nCols ref) := by
  rw [copied, shifted?]
  split
  · next hzero =>
    obtain ⟨rfl, rfl⟩ := hzero
    refine (replaceReferences_none e).symm.trans (replaceReferences_congr fun ref hnode href => ?_)
    rw [replaceReferences_none, replaceReferences_shiftReference href, moved_zero,
      if_pos (h rfl rfl ref hnode)]
  · rw [replaceReferences]

/-- The copy of a formula has its references at the distance, if they are still on the sheet. -/
theorem copied_eq_of_inBounds
    (h : e.Throughout fun node => (node.moved rows cols).InBounds nRows nCols) :
    e.copied rows cols nRows nCols = e.replaceReferences fun ref => some (ref.moved rows cols) := by
  refine (copied_eq ?_).trans (replaceReferences_congr fun ref hnode href => ?_)
  · rintro rfl rfl
    exact h.mono fun node hnode => moved_zero node ▸ hnode
  · rw [replaceReferences_shiftReference href, if_pos (h ref hnode), replaceReferences_some href]

theorem SameRoot.inBounds {node node' : Expr} (h : SameRoot node node') :
    node'.InBounds nRows nCols := by
  cases h <;> trivial

/-- A copy of a copy is a copy, where the first one loses no reference. -/
theorem copied_copied (h : e.Throughout (InBounds nRows nCols))
    (hmoved : e.Throughout fun node => (node.moved rows cols).InBounds nRows nCols) :
    (e.copied rows cols nRows nCols).copied rows' cols' nRows nCols =
      e.copied (rows + rows') (cols + cols') nRows nCols := by
  have hfirst := copied_eq_of_inBounds hmoved
  have hcopy : (e.copied rows cols nRows nCols).Throughout (InBounds nRows nCols) := by
    rw [hfirst]
    exact hmoved.replaceReferences
      (fun ref href hp => (throughout_of_isReference (isReference_moved href)).2 hp)
      fun node node' hroot _ => hroot.inBounds
  rw [copied_eq fun _ _ => hcopy, hfirst, copied_eq fun _ _ => h,
    replaceReferences_replaceReferences]
  refine replaceReferences_congr fun ref _ href => ?_
  rw [replaceReferences_some href, replaceReferences_some href, replaceReferences_some href,
    replaceReferences_some (isReference_moved href), shiftReference_eq href,
    shiftReference_eq (isReference_moved href), moved_moved]

/-! ## References that are lost -/

theorem Placed.inBounds {lowercase : Bool} (h : e.Placed nRows nCols lowercase) :
    e.InBounds nRows nCols := by
  cases e with
  | cell target small => exact h.1
  | range top left bottom right small =>
    obtain ⟨⟨htop, hheight, hbottom⟩, ⟨hleft, hwidth, hright⟩, -⟩ := h
    exact ⟨⟨⟨htop, Int.lt_of_le_of_lt hheight hbottom⟩, hleft, Int.lt_of_le_of_lt hwidth hright⟩,
      ⟨Int.le_trans htop hheight, hbottom⟩, Int.le_trans hleft hwidth, hright⟩
  | columns first last small =>
    obtain ⟨⟨hfirst, hwidth, hlast⟩, -⟩ := h
    exact ⟨⟨hfirst, Int.lt_of_le_of_lt hwidth hlast⟩, Int.le_trans hfirst hwidth, hlast⟩
  | _ => trivial

/-- Of two counts of a list the one of a weaker property is greater, unless what has it has the
stronger one. -/
theorem forall_of_countP_eq {α : Type} {p q : α → Bool} {xs : List α} (hpq : ∀ x, p x → q x)
    (h : xs.countP q = xs.countP p) : ∀ x ∈ xs, q x → p x := by
  rw [List.countP_eq_length_filter, List.countP_eq_length_filter] at h
  have hfilter := (List.monotone_filter_right xs hpq).eq_of_length h.symm
  intro x hx hq
  have hmem : x ∈ xs.filter p := hfilter ▸ List.mem_filter.2 ⟨hx, hq⟩
  exact (List.mem_filter.1 hmem).2

/-- A copy with no more references to cells that are gone has the others on the sheet. -/
theorem inBounds_of_deletedReferences (h : e.Throughout (InBounds nRows nCols))
    (hsame : (e.copied rows cols nRows nCols).deletedReferences = e.deletedReferences) :
    e.Throughout fun node => (node.moved rows cols).InBounds nRows nCols := by
  rw [copied_eq fun _ _ => h, deletedReferences, deletedReferences, nodes_replaceReferences,
    List.countP_map] at hsame
  · have hlost := forall_of_countP_eq ?_ hsame
    · intro node hmem
      cases hisRef : node.isReference with
      | true =>
        by_contra hout
        have hdeleted := hlost node hmem
        rw [Function.comp_apply, replaceReferences_shiftReference hisRef, if_neg hout,
          isDeleted_of_isReference hisRef] at hdeleted
        exact absurd (hdeleted rfl) Bool.false_ne_true
      | false =>
        cases node with
        | cell | range | columns => cases hisRef
        | _ => trivial
    · intro node hdeleted
      cases hisRef : node.isReference with
      | true =>
        rw [isDeleted_of_isReference hisRef] at hdeleted
        cases hdeleted
      | false => rwa [Function.comp_apply, (sameRoot_replaceReferences hisRef).isDeleted]
  · intro node _ hisRef
    rw [replaceReferences_shiftReference hisRef]
    split
    · exact nodes_of_isReference (isReference_moved hisRef)
    · rfl

/-! ## The values of copies -/

section Values

variable {source source' : Source} {origin origin' : Option Coord}

theorem mapM_read_moved {cells : List Coord}
    (h : ∀ cell ∈ cells, source'.valueAt cell = source.valueAt (cell.moved rows cols)) :
    (cells.map (Coord.moved rows cols)).mapM source.read = cells.mapM source'.read := by
  induction cells with
  | nil => rfl
  | cons cell cells ih =>
    obtain ⟨hcell, hcells⟩ := List.forall_mem_cons.1 h
    rw [List.map_cons, List.mapM_cons, List.mapM_cons, ih hcells, Source.read, Source.read, hcell]

/-- A reference to some cells covers the same values as that to the cells at the distance. -/
theorem argument_moved (hcolumns : ∀ first last small, ref ≠ .columns first last small)
    (h : ref.InBounds source'.nRows source'.nCols)
    (hmoved : (ref.moved rows cols).InBounds source.nRows source.nCols)
    (hvalues : ∀ cell ∈ ref.coveredCells source'.nRows origin',
      source'.valueAt cell = source.valueAt (cell.moved rows cols)) :
    source.argument origin (ref.moved rows cols) = source'.argument origin' ref := by
  cases ref with
  | cell target small =>
    have hwithin : target.Within source'.nRows source'.nCols := h
    have hwithin' : (target.moved rows cols).Within source.nRows source.nCols := hmoved
    have hread : source.read (target.moved rows cols) = source'.read target := by
      rw [Source.read, Source.read, hvalues target (List.mem_singleton.2 rfl)]
    rw [moved, Source.argument, Source.argument, Source.cellValue, Source.cellValue,
      if_pos hwithin, if_pos hwithin', hread]
  | range top left bottom right small =>
    have hcorner : ¬(source'.nRows ≤ bottom ∨ source'.nCols ≤ right) := by
      obtain ⟨-, ⟨-, hbottom⟩, -, hright⟩ := h
      simp only at hbottom hright
      omega
    have hcorner' : ¬(source.nRows ≤ bottom + rows ∨ source.nCols ≤ right + cols) := by
      obtain ⟨-, ⟨-, hbottom⟩, -, hright⟩ := hmoved
      simp only at hbottom hright
      omega
    have hheight : bottom + rows - (top + rows) + 1 = bottom - top + 1 := by omega
    have hwidth : right + cols - (left + cols) + 1 = right - left + 1 := by omega
    have hread : source.readRectangle none (top + rows) (left + cols) (bottom + rows)
        (right + cols) = source'.readRectangle none top left bottom right := by
      have hall (cells : List Coord) : cells.filter (some · != none) = cells :=
        List.filter_eq_self.2 fun _ _ => rfl
      rw [Source.readRectangle_eq, Source.readRectangle_eq, hall, hall,
        ← Coord.map_moved_rectangle]
      exact mapM_read_moved hvalues
    rw [moved, Source.argument, Source.argument, if_neg hcorner, if_neg hcorner', hread, hheight,
      hwidth]
  | columns first last small => exact absurd rfl (hcolumns first last small)
  | _ => rfl

/-- The copy of a formula at no distance is the formula itself. Any other copy has each reference at
the distance, if that is on the sheet with all its corners, and one to a cell that is gone if not,
and is the same formula in all else. Where the references are on the sheet, to cells or ranges, it
has on one sheet the value of the formula on another one that has the values of the cells at the
distance in the cells that the formula reads. -/
theorem copied_spec (e : Expr) (rows cols nRows nCols : Int) :
    e.shifted? 0 0 nRows nCols = none ∧
      (¬(rows = 0 ∧ cols = 0) →
        e.SameBut (fun ref ref' => ref' =
          if (ref.moved rows cols).InBounds nRows nCols then ref.moved rows cols
          else .deletedReference) (e.copied rows cols nRows nCols)) ∧
      ∀ (functions : Registry) (source source' : Source) (origin origin' : Option Coord),
        (e.Throughout fun node => (∀ first last small, node ≠ .columns first last small) ∧
          node.InBounds source'.nRows source'.nCols ∧
          (node.moved rows cols).InBounds source.nRows source.nCols ∧
          (node.moved rows cols).InBounds nRows nCols) →
        (∀ cell ∈ e.reads source'.nRows origin',
          source'.valueAt cell = source.valueAt (cell.moved rows cols)) →
        (e.copied rows cols nRows nCols).eval functions source origin =
          e.eval functions source' origin' := by
  refine ⟨if_pos ⟨rfl, rfl⟩, fun hzero => ?_,
    fun functions source source' origin origin' h hvalues => ?_⟩
  · rw [copied_eq fun hrows hcols => absurd ⟨hrows, hcols⟩ hzero]
    exact sameBut_replaceReferences fun ref _ href => replaceReferences_shiftReference href
  · rw [copied_eq_of_inBounds (h.mono fun node hnode => hnode.2.2.2)]
    let Moved (ref ref' : Expr) : Prop := ref'.isReference ∧
      source.argument origin ref' = source'.argument origin' ref
    have hsame : e.SameBut Moved (e.replaceReferences fun ref => some (ref.moved rows cols)) := by
      refine sameBut_replaceReferences fun ref hnode href => ?_
      obtain ⟨hcolumns, hbounds, hmoved, -⟩ := h ref hnode
      rw [replaceReferences_some href]
      refine ⟨isReference_moved href, argument_moved hcolumns hbounds hmoved fun cell hcell => ?_⟩
      exact hvalues cell (Coord.mem_ascending.2 (List.mem_flatMap.2 ⟨ref, hnode, hcell⟩))
    exact hsame.eval_eq functions.sees_id fun ref ref' _ hrel =>
      ⟨hrel.1, congrArg (Except.map id) hrel.2⟩

/-- `a1+SUM(a1:b1)` is copied down by a row, and means there what it means on a sheet of the second
row alone. Further down nothing is left of its references. -/
theorem copied_spec_sum :
    let e : Expr := .binary (.arithmetic .add) (.cell ⟨0, 0⟩ true)
      (.call "SUM" [.range 0 0 0 1 true])
    let source : Source := ⟨2, 2, fun cell => .ok (if cell.row = 0 then .empty else .text "7")⟩
    let source' : Source := ⟨1, 2, fun _ => .ok (.text "7")⟩
    (e.copied 1 0 2 2).eval .builtin source (some ⟨1, 1⟩) =
        e.eval .builtin source' (some ⟨0, 1⟩) ∧
      e.SameBut (fun ref ref' => ref' =
        if (ref.moved 2 0).InBounds 2 2 then ref.moved 2 0 else .deletedReference)
        (e.copied 2 0 2 2) := by
  intro e source source'
  obtain ⟨-, -, heval⟩ := copied_spec e 1 0 2 2
  obtain ⟨-, hsame, -⟩ := copied_spec e 2 0 2 2
  refine ⟨heval .builtin source source' (some ⟨1, 1⟩) (some ⟨0, 1⟩) ?_ fun cell hcell => ?_,
    hsame (by decide)⟩
  · intro node hnode
    have hnodes : e.nodes = [e, .cell ⟨0, 0⟩ true, .call "SUM" [.range 0 0 0 1 true],
      .range 0 0 0 1 true] := rfl
    rw [hnodes] at hnode
    simp only [List.mem_cons, List.not_mem_nil, or_false] at hnode
    rcases hnode with rfl | rfl | rfl | rfl <;>
      exact ⟨by simp [e], by decide, by decide, by decide⟩
  · have hreads : e.reads source'.nRows (some ⟨0, 1⟩) = [⟨0, 0⟩, ⟨0, 1⟩] := by decide
    rw [hreads] at hcell
    simp only [List.mem_cons, List.not_mem_nil, or_false] at hcell
    rcases hcell with rfl | rfl <;> rfl

end Values

end Expr

end Spreadsheet

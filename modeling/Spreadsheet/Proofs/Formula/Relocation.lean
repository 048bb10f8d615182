import Spreadsheet.Proofs.Formula.Area

/-!
# Formulas that move with the cells they read

When the cells of a sheet move to another one, and the references of formulas with them (`Moves`),
a formula reads in its new place the cells that it read before, as far as these are left
(`Moves.mem_reads`). If all of them are left and have kept their values, and the cells that have
come in between are empty, it has the same value (`Moves.eval_eq`), and no more of its references
are to cells that are gone (`Moves.deletedReferences_eq`).
-/

namespace Spreadsheet

/-! ## References to cells that are gone -/

namespace Expr

/-- The tree is a reference to a cell that is gone. -/
def isDeleted : Expr → Bool
  | .deletedReference => true
  | _ => false

/-- How many references of a formula are to cells that are gone. -/
def deletedReferences (e : Expr) : Nat := e.nodes.countP isDeleted

theorem isDeleted_of_isReference {e : Expr} (h : e.isReference) : e.isDeleted = false := by
  cases e with
  | deletedReference => cases h
  | _ => rfl

theorem SameRoot.isDeleted {node node' : Expr} (h : SameRoot node node') :
    node'.isDeleted = node.isDeleted := by
  cases h <;> rfl

end Expr

/-! ## Cells that move -/

/-- A sheet of the size with a value in every cell. -/
def Grammar.source (g : Grammar) (value : Coord → Value) : Source where
  nRows := g.nRows
  nCols := g.nCols
  valueAt cell := .ok (value cell)

/-- The cells of one sheet move to another one: `place?` says where a cell is then, if it is left,
and `replace` what a reference is then, as it does for `Expr.replaceReferences`. -/
structure Moves (g g' : Grammar) (place? : Coord → Option Coord)
    (replace : Expr → Option Expr) : Prop where
  within : ∀ {cell cell' : Coord}, cell.Within g.nRows g.nCols → place? cell = some cell' →
    cell'.Within g'.nRows g'.nCols
  before : ∀ {a b a' b' : Coord}, a.before b → place? a = some a' → place? b = some b' →
    a'.before b'
  /-- A reference stays one or is one to a cell that is gone. -/
  reference : ∀ {ref : Expr} {lowercase : Bool}, ref.isReference →
    ref.Placed g.nRows g.nCols lowercase →
    ref.replaceReferences replace = .deletedReference ∨
      (ref.replaceReferences replace).isReference ∧
        (ref.replaceReferences replace).Placed g'.nRows g'.nCols lowercase
  /-- A reference covers the same cells. -/
  covers : ∀ {ref : Expr} {lowercase : Bool} {origin origin' cell cell' : Coord},
    ref.isReference → ref.Placed g.nRows g.nCols lowercase →
    place? origin = some origin' → cell.Within g.nRows g.nCols → place? cell = some cell' →
    (cell' ∈ (ref.replaceReferences replace).coveredCells g'.nRows (some origin') ↔
      cell ∈ ref.coveredCells g.nRows (some origin))
  /-- A reference to cells that are all left stays one, and it is one to a single cell if it was. -/
  single : ∀ {ref : Expr} {lowercase : Bool} {origin origin' : Coord} {a : Area},
    ref.Placed g.nRows g.nCols lowercase → ref.area? g.nRows = some a →
    origin.Within g.nRows g.nCols → place? origin = some origin' →
    (∀ cell ∈ ref.coveredCells g.nRows (some origin), (place? cell).isSome) →
    ∃ a', (ref.replaceReferences replace).area? g'.nRows = some a' ∧
      (a'.IsSingle ↔ a.IsSingle) ∧ (a'.IsSingle → ∀ cell', a'.Contains cell' →
        ∃ cell : Coord, cell.Within g.nRows g.nCols ∧ place? cell = some cell')

namespace Moves

variable {g g' : Grammar} {place? : Coord → Option Coord} {replace : Expr → Option Expr}
  {origin origin' cell cell' : Coord} {e ref : Expr} {lowercase : Bool}

/-! ## What formulas read -/

theorem nodes_replaceReferences (h : Moves g g' place? replace)
    (he : e.Throughout (Expr.Placed g.nRows g.nCols lowercase)) :
    (e.replaceReferences replace).nodes = e.nodes.map (Expr.replaceReferences replace) := by
  refine Expr.nodes_replaceReferences (he.mono fun ref hplaced href => ?_)
  obtain hdeleted | ⟨hreference, -⟩ := h.reference href hplaced
  · rw [hdeleted]
    rfl
  · exact Expr.nodes_of_isReference hreference

/-- The cells that are left are read by a formula if they were. -/
theorem mem_reads (h : Moves g g' place? replace)
    (he : e.Throughout (Expr.Placed g.nRows g.nCols lowercase))
    (horigin : place? origin = some origin') (hcell : cell.Within g.nRows g.nCols)
    (hplace : place? cell = some cell') :
    cell' ∈ (e.replaceReferences replace).reads g'.nRows (some origin') ↔
      cell ∈ e.reads g.nRows (some origin) := by
  rw [Expr.reads, Expr.reads, Coord.mem_ascending, Coord.mem_ascending,
    h.nodes_replaceReferences he, List.flatMap_map, List.mem_flatMap, List.mem_flatMap]
  refine exists_congr fun node => and_congr_right fun hnode => ?_
  cases hreference : node.isReference with
  | true => exact h.covers hreference (he node hnode) horigin hcell hplace
  | false =>
    rw [Expr.coveredCells_of_not_isReference hreference,
      Expr.coveredCells_of_not_isReference (Expr.sameRoot_replaceReferences hreference).isReference]
    simp

/-! ## The values of formulas -/

/-- Of the cells that the new reference covers, those that were there before are the cells that the
old one covered. -/
theorem filter_coveredCells (h : Moves g g' place? replace) {a' : Area}
    (hplaced : ref.Placed g.nRows g.nCols lowercase) (href : ref.isReference)
    (horigin : place? origin = some origin')
    (ha' : (ref.replaceReferences replace).area? g'.nRows = some a') {p : Coord → Bool}
    (himages : ∀ cell', a'.Contains cell' → p cell' →
      ∃ cell : Coord, cell.Within g.nRows g.nCols ∧ place? cell = some cell') :
    ((ref.replaceReferences replace).coveredCells g'.nRows (some origin')).filter p =
      ((ref.coveredCells g.nRows (some origin)).filterMap place?).filter p := by
  obtain ⟨a, ha⟩ := Expr.exists_area? href g.nRows
  have hmoved : Coord.Ascends ((ref.coveredCells g.nRows (some origin)).filterMap place?) :=
    List.pairwise_filterMap.2 <| (Expr.ascends_coveredCells ha).imp
      fun hbefore _ ha _ hb => h.before hbefore ha hb
  have hnew : Coord.Ascends
      ((ref.replaceReferences replace).coveredCells g'.nRows (some origin')) :=
    Expr.ascends_coveredCells ha'
  refine Coord.Ascends.ext (hnew.filter p) (hmoved.filter p) fun cell' => ?_
  rw [List.mem_filter, List.mem_filter, List.mem_filterMap]
  refine and_congr_left fun hp => ⟨fun hcell' => ?_, fun ⟨cell, hcell, hplace⟩ => ?_⟩
  · obtain ⟨cell, hcell, hplace⟩ := himages cell' ((Expr.mem_coveredCells ha').1 hcell').1 hp
    exact ⟨cell, (h.covers href hplaced horigin hcell hplace).1 hcell', hplace⟩
  · exact (h.covers href hplaced horigin (hplaced.within_of_mem hcell) hplace).2 hcell

variable {value value' : Coord → Value}

/-- A reference to cells that are left with their values looks the same. -/
theorem looksAlike (h : Moves g g' place? replace)
    (hplaced : ref.Placed g.nRows g.nCols lowercase) (hwithin : origin.Within g.nRows g.nCols)
    (horigin : place? origin = some origin')
    (hleft : ∀ cell ∈ ref.coveredCells g.nRows (some origin),
      (place? cell).map value' = some (value cell))
    (hblank : ∀ cell', (∀ cell : Coord, cell.Within g.nRows g.nCols → place? cell ≠ some cell') →
      value' cell' = .empty) :
    Expr.LooksAlike (g.source value) (g'.source value') (some origin) (some origin') replace
      ref := by
  intro href
  obtain ⟨a, ha⟩ := Expr.exists_area? href g.nRows
  obtain ⟨a', ha', hsingle, himages⟩ := h.single hplaced ha hwithin horigin fun cell hcell => by
    obtain ⟨cell', hplace, -⟩ := Option.map_eq_some_iff.1 (hleft cell hcell)
    exact hplace ▸ rfl
  have href' := Expr.isReference_of_area? ha'
  have hplaced' : (ref.replaceReferences replace).Placed g'.nRows g'.nCols lowercase := by
    obtain hdeleted | ⟨-, hplaced'⟩ := h.reference href hplaced
    · rw [hdeleted] at href'
      cases href'
    · exact hplaced'
  have hvalues : ((ref.coveredCells g.nRows (some origin)).filterMap place?).map value' =
      (ref.coveredCells g.nRows (some origin)).map value := by
    rw [List.map_filterMap, ← List.filterMap_eq_map]
    exact List.filterMap_congr hleft
  refine ⟨href', ?_⟩
  rw [hplaced'.argument_eq ha' fun _ => rfl, hplaced.argument_eq ha fun _ => rfl]
  refine congrArg Except.ok (Area.view_rangeValue_eq hsingle (fun hone => ?_) ?_)
  · have hcovered := h.filter_coveredCells (p := fun _ => true) hplaced href horigin ha'
      fun cell' hcell' _ => himages (hsingle.2 hone) cell' hcell'
    rw [List.filter_true, List.filter_true] at hcovered
    exact (congrArg (List.map value') hcovered).trans hvalues
  · have hcovered := h.filter_coveredCells (p := (!·.isEmpty) ∘ value') hplaced href horigin ha'
      fun cell' _ hvalue => by
        by_contra hnone
        have hempty := hblank cell' fun cell hcell hplace => hnone ⟨cell, hcell, hplace⟩
        simp [hempty, Value.isEmpty] at hvalue
    refine Eq.trans ?_ (congrArg (List.filter (!·.isEmpty)) hvalues)
    rw [List.filter_map, List.filter_map]
    exact congrArg (List.map value') hcovered

/-- A formula all of whose cells are left with their values keeps its value. -/
theorem eval_eq (h : Moves g g' place? replace) {functions : Registry}
    (hfunctions : functions.IgnoresBlanks)
    (he : e.Throughout (Expr.Placed g.nRows g.nCols lowercase))
    (hwithin : origin.Within g.nRows g.nCols) (horigin : place? origin = some origin')
    (hleft : ∀ cell ∈ e.reads g.nRows (some origin),
      (place? cell).map value' = some (value cell))
    (hblank : ∀ cell', (∀ cell : Coord, cell.Within g.nRows g.nCols → place? cell ≠ some cell') →
      value' cell' = .empty) :
    (e.replaceReferences replace).eval functions (g'.source value') (some origin') =
      e.eval functions (g.source value) (some origin) := by
  refine Expr.eval_replaceReferences hfunctions fun node hnode => ?_
  refine h.looksAlike (he node hnode) hwithin horigin (fun cell hcell => hleft cell ?_) hblank
  exact Coord.mem_ascending.2 (List.mem_flatMap.2 ⟨node, hnode, hcell⟩)

/-! ## What is left of formulas -/

/-- If all cells are left that a formula reads, no more of its references are to cells that are
gone. -/
theorem deletedReferences_eq (h : Moves g g' place? replace)
    (he : e.Throughout (Expr.Placed g.nRows g.nCols lowercase))
    (hwithin : origin.Within g.nRows g.nCols) (horigin : place? origin = some origin')
    (hleft : ∀ cell ∈ e.reads g.nRows (some origin), (place? cell).isSome) :
    (e.replaceReferences replace).deletedReferences = e.deletedReferences := by
  rw [Expr.deletedReferences, Expr.deletedReferences, h.nodes_replaceReferences he,
    List.countP_map]
  refine List.countP_congr fun node hnode => ?_
  rw [Function.comp_apply]
  cases href : node.isReference with
  | true =>
    obtain ⟨a, ha⟩ := Expr.exists_area? href g.nRows
    obtain ⟨a', ha', -⟩ := h.single (he node hnode) ha hwithin horigin fun cell hcell =>
      hleft cell (Coord.mem_ascending.2 (List.mem_flatMap.2 ⟨node, hnode, hcell⟩))
    rw [Expr.isDeleted_of_isReference (Expr.isReference_of_area? ha'),
      Expr.isDeleted_of_isReference href]
  | false => rw [(Expr.sameRoot_replaceReferences href).isDeleted]

end Moves

end Spreadsheet

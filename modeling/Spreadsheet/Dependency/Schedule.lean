import Spreadsheet.Dependency.Graph

/-!
# The order of evaluation

A `Schedule` puts cells in an order in which each comes after those it reads (`Links.schedule`).
At every step the first cell, by place on the sheet, is taken that reads no cell still waiting.
Cells that never become ready, those on a cycle and those that depend on one, are left over.
-/

namespace Spreadsheet

/-- Cells in an order of evaluation, and the cells that have none in ascending order. -/
structure Schedule where
  order : List Coord
  stuck : List Coord
  deriving DecidableEq

/-- The cells of a schedule, placed or not. -/
def Schedule.cells (s : Schedule) : List Coord := s.order ++ s.stuck

/-- Cells that wait to be placed, each with the waiting cells that it reads. -/
abbrev Waiting := List (Coord × List Coord)

namespace Waiting

/-- The first cell that waits for nothing. -/
def ready? (waiting : Waiting) : Option Coord :=
  (waiting.find? fun entry => entry.2.isEmpty).map Prod.fst

/-- The cells that go on waiting after one is placed. -/
def place (cell : Coord) (waiting : Waiting) : Waiting :=
  (waiting.filter fun entry => entry.1 != cell).map fun entry =>
    (entry.1, entry.2.filter (· != cell))

theorem length_place_lt {waiting : Waiting} {cell : Coord} (h : waiting.ready? = some cell) :
    (place cell waiting).length < waiting.length := by
  obtain ⟨entry, hentry, rfl⟩ := Option.map_eq_some_iff.1 h
  have hmem := List.mem_of_find?_eq_some hentry
  rw [place, List.length_map]
  exact List.length_filter_lt_length_iff_exists.2 ⟨entry, hmem, by simp⟩

/-- Places the ready cells one by one. -/
def schedule (waiting : Waiting) : Schedule :=
  match _h : waiting.ready? with
  | none => ⟨[], waiting.map Prod.fst⟩
  | some cell =>
    let later := schedule (place cell waiting)
    ⟨cell :: later.order, later.stuck⟩
termination_by waiting.length
decreasing_by exact length_place_lt _h

end Waiting

namespace Links

/-- The schedule of a set of cells. Reads of other cells do not matter. -/
def schedule (links : Links) (cells : List Coord) : Schedule :=
  let cells := Coord.ascending cells
  Waiting.schedule (cells.map fun cell => (cell, (links.reads cell).filter cells.contains))

/-- The schedule of the cells to evaluate after a change of the roots: the roots and all cells that
depend on them. -/
def scheduleFrom (links : Links) (roots : List Coord) : Schedule :=
  links.schedule (roots ++ links.downstream roots)

/-- The depth of a cell over cells of known depths: one more than the deepest that it reads. -/
def depthOver (links : Links) (known : List (Coord × Nat)) (cell : Coord) : Nat :=
  (links.reads cell).foldl (fun depth ref =>
    match known.lookup ref with
    | some below => max depth (below + 1)
    | none => depth) 0

/-- The depths of cells in their order of evaluation, the last cell first. -/
def depths (links : Links) (order : List Coord) : List (Coord × Nat) :=
  order.foldl (fun known cell => (cell, links.depthOver known cell) :: known) []

/-- The length of the longest chain of cells, each read by the next, that starts at a root and
whose cells but the last have a place in the order of evaluation. -/
def depth (links : Links) (roots : List Coord) : Nat :=
  let schedule := links.scheduleFrom roots
  let known := links.depths schedule.order
  (schedule.cells.map (links.depthOver known)).foldl max 0

end Links

end Spreadsheet

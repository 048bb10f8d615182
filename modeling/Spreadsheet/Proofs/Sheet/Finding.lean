import Mathlib
import Spreadsheet.Proofs.Formula.Area
import Spreadsheet.Sheet.Find

/-!
# Finding texts all around a sheet

The cells follow each other in a circle: row by row, after the last one the first again. From a
start on, and up to the start, they are ordered by `Coord.Sooner`. `Sheet.find?` gives the soonest
cell that shows the text (`Sheet.find?_eq_some_iff`), and searches from one find to the next go once
round all of them (`Sheet.find_spec`).
-/

namespace Spreadsheet

/-! ## The circle of cells -/

namespace Coord

/-- From the start on, row by row and around the end, the first cell comes sooner than the second
one. The start itself comes last. -/
def Sooner (start a b : Coord) : Prop :=
  (start.before a ∧ ¬start.before b) ∨ ((start.before a ↔ start.before b) ∧ a.before b)

variable {start a b c : Coord}

theorem before_iff : a.before b ↔ a.row < b.row ∨ a.row = b.row ∧ a.col < b.col := by
  simp [before]

theorem Sooner.trans (hab : Sooner start a b) (hbc : Sooner start b c) : Sooner start a c := by
  simp only [Sooner, before_iff] at *
  omega

theorem Sooner.asymm (hab : Sooner start a b) : ¬Sooner start b a := by
  simp only [Sooner, before_iff] at *
  omega

theorem Sooner.ne (hab : Sooner start a b) : a ≠ b := by
  rintro rfl
  exact hab.asymm hab

/-- What comes later from the start on comes later from a cell in between on. -/
theorem Sooner.of_later (hab : Sooner start a b) (hbc : Sooner start b c) : Sooner a b c := by
  simp only [Sooner, before_iff] at *
  omega

/-- What comes sooner from the start on is reached around the end from the cells that follow. -/
theorem Sooner.of_sooner (hca : Sooner start c a) (hab : Sooner start a b) : Sooner a b c := by
  simp only [Sooner, before_iff] at *
  omega

/-- Every other cell comes sooner than the start. -/
theorem sooner_start (h : a ≠ start) : Sooner start a start := by
  obtain ⟨row, col⟩ := a
  obtain ⟨startRow, startCol⟩ := start
  simp only [ne_eq, Coord.mk.injEq] at h
  simp only [Sooner, before_iff]
  omega

/-- The start ends every list of cells in order that has it. -/
theorem getLast?_of_sooner {round : List Coord} (hsorted : round.Pairwise (Sooner start))
    (hmem : start ∈ round) : round.getLast? = some start := by
  obtain ⟨earlier, later, rfl⟩ := List.append_of_mem hmem
  cases later with
  | nil => exact List.getLast?_concat
  | cons cell later =>
    have hlater := (List.pairwise_cons.1 (List.pairwise_append.1 hsorted).2.1).1 cell
      List.mem_cons_self
    exact absurd (sooner_start hlater.ne.symm) hlater.asymm

end Coord

/-- Of elements in an order, the first one with a property precedes all others with it. -/
theorem find?_eq_some_iff_of_pairwise {α : Type} {R : α → α → Prop} {p : α → Bool} {x : α}
    {xs : List α} (hxs : xs.Pairwise R) (hasymm : ∀ x y, R x y → ¬R y x) :
    xs.find? p = some x ↔ (x ∈ xs ∧ p x) ∧ ∀ y ∈ xs, p y → y ≠ x → R x y := by
  rw [List.find?_eq_some_iff_append]
  constructor
  · rintro ⟨hx, earlier, later, rfl, hnone⟩
    refine ⟨⟨by simp, hx⟩, fun y hy hpy hne => ?_⟩
    have hlater := (List.pairwise_cons.1 (List.pairwise_append.1 hxs).2.1).1
    rcases List.mem_append.1 hy with hearlier | hlast
    · exact absurd hpy (by simpa using hnone y hearlier)
    · exact hlater y ((List.mem_cons.1 hlast).resolve_left hne)
  · rintro ⟨⟨hmem, hx⟩, hfirst⟩
    obtain ⟨earlier, later, rfl⟩ := List.append_of_mem hmem
    refine ⟨hx, earlier, later, rfl, fun y hy => ?_⟩
    have hyx : R y x := (List.pairwise_append.1 hxs).2.2 y hy x List.mem_cons_self
    by_contra hpy
    have hne : y ≠ x := by
      rintro rfl
      exact hasymm y y hyx hyx
    exact hasymm y x hyx (hfirst y (List.mem_append_left _ hy) (by simpa using hpy) hne)

/-- The numbers above one and then the others are all numbers, turned to begin above that one. -/
theorem filter_range_append {first total : Nat} (hfirst : first < total) :
    (List.range total).filter (first < ·) ++
        (List.range total).filter (fun number => !decide (first < number)) =
      (List.range total).rotate (first + 1) := by
  obtain ⟨later, rfl⟩ := Nat.exists_eq_add_of_le (Nat.succ_le_of_lt hfirst)
  have hsplit : List.range (first.succ + later) =
      List.range (first + 1) ++ List.range' (first + 1) later := by
    have happend := @List.range'_append_1 0 (first + 1) later
    rw [Nat.zero_add] at happend
    rw [List.range_eq_range', List.range_eq_range', happend]
  have hlow : ∀ number ∈ List.range (first + 1), ¬first < number := fun number hnumber =>
    Nat.not_lt.2 (Nat.le_of_lt_succ (List.mem_range.1 hnumber))
  have hhigh : ∀ number ∈ List.range' (first + 1) later, first < number := fun number hnumber =>
    (List.mem_range'_1.1 hnumber).1
  have hrotate := List.rotate_append_length_eq (List.range (first + 1))
    (List.range' (first + 1) later)
  rw [List.length_range] at hrotate
  rw [hsplit, hrotate, List.filter_append, List.filter_append,
    List.filter_eq_nil_iff.2 fun number hnumber => by simpa using hlow number hnumber,
    List.filter_eq_self.2 fun number hnumber => by simpa using hhigh number hnumber,
    List.filter_eq_self.2 fun number hnumber => by simpa using hlow number hnumber,
    List.filter_eq_nil_iff.2 fun number hnumber => by simpa using hhigh number hnumber,
    List.nil_append, List.append_nil]

/-- A text contains what occurs in it. -/
theorem Text.contains_iff {text part : List Char} : contains text part ↔ part <:+: text := by
  induction text with
  | nil => simp [contains]
  | cons c rest ih => simp [contains, List.infix_cons_iff, ih]

namespace Sheet

variable {s : Sheet} {text : String} {start cell : Coord}

/-- The cells of the sheet from the one after the start on, up to the start. -/
def cellsFrom (s : Sheet) (start : Coord) : List Coord :=
  s.cells.filter (start.before ·) ++ s.cells.filter (!start.before ·)

theorem mem_cellsFrom : cell ∈ s.cellsFrom start ↔ cell.Within s.nRows s.nCols := by
  rw [← Coord.mem_block_zero]
  simp only [cellsFrom, List.mem_append, List.mem_filter]
  cases start.before cell <;> simp [cells]

theorem pairwise_cellsFrom (s : Sheet) (start : Coord) :
    (s.cellsFrom start).Pairwise (Coord.Sooner start) := by
  have hcells : Coord.Ascends s.cells := Coord.ascends_block ..
  refine List.pairwise_append.2 ⟨?_, ?_, fun a ha b hb => ?_⟩
  · refine (hcells.filter _).imp_of_mem fun ha hb hbefore => Or.inr ⟨?_, hbefore⟩
    exact iff_of_true (List.mem_filter.1 ha).2 (List.mem_filter.1 hb).2
  · refine (hcells.filter _).imp_of_mem fun ha hb hbefore => Or.inr ⟨?_, hbefore⟩
    exact iff_of_false (by simpa using (List.mem_filter.1 ha).2)
      (by simpa using (List.mem_filter.1 hb).2)
  · exact Or.inl ⟨(List.mem_filter.1 ha).2, by simpa using (List.mem_filter.1 hb).2⟩

theorem find?_eq (hstart : start.Within s.nRows s.nCols) :
    s.find? text start = .ok ((s.cellsFrom start).find? (s.showsText text)) := by
  have hcells : start ∈ s.cells := Coord.mem_block_zero.2 hstart
  have hnonempty : s.cells.isEmpty = false := by
    cases hlist : s.cells with
    | nil => rw [hlist] at hcells; cases hcells
    | cons => rfl
  rw [find?, hnonempty, checkCell, if_pos hstart, List.partition_eq_filter_filter]
  simp only [Bool.false_eq_true, if_false, cellsFrom, Function.comp_def, Bool.not_not]
  rfl

/-! ## Cells by their numbers -/

/-- The cell with a number, where cells are counted row by row from zero. -/
def numbered (s : Sheet) (number : Nat) : Coord where
  row := (number / s.nCols : Nat)
  col := (number % s.nCols : Nat)

/-- The cells in turn whose numbers follow that of the start. After the last cell comes that with
number zero. -/
def walk (s : Sheet) (start : Coord) : List Coord :=
  (List.range' 1 (s.nRows * s.nCols)).map fun step : Nat =>
    let number := (start.row * s.nCols + start.col + step) % (s.nRows * s.nCols : Nat)
    ⟨number / s.nCols, number % s.nCols⟩

/-- A cell has a lesser number than those that come after it. -/
theorem before_numbered (hcols : 0 < s.nCols) (m n : Nat) :
    (s.numbered m).before (s.numbered n) = decide (m < n) := by
  have hm := Nat.div_add_mod m s.nCols
  have hn := Nat.div_add_mod n s.nCols
  have hmod := Nat.mod_lt m hcols
  have hmod' := Nat.mod_lt n hcols
  rw [Bool.eq_iff_iff, Coord.before_iff, decide_eq_true_iff, numbered, numbered]
  simp only [Int.ofNat_lt, Int.ofNat_inj]
  constructor
  · rintro (hrow | ⟨hrow, hcol⟩)
    · have hle : s.nCols * (m / s.nCols + 1) ≤ s.nCols * (n / s.nCols) := Nat.mul_le_mul_left _ hrow
      rw [Nat.mul_add] at hle
      omega
    · rw [hrow] at hm
      omega
  · intro hlt
    have hle : m / s.nCols ≤ n / s.nCols := Nat.div_le_div_right (Nat.le_of_lt hlt)
    rcases Nat.lt_or_eq_of_le hle with hrow | hrow
    · exact Or.inl hrow
    · rw [hrow] at hm
      exact Or.inr ⟨hrow, by omega⟩

theorem numbered_within {number : Nat} (h : number < s.nRows * s.nCols) :
    (s.numbered number).Within s.nRows s.nCols := by
  have hcols : 0 < s.nCols := Nat.pos_of_ne_zero fun hzero => by simp [hzero] at h
  have hrow : number / s.nCols < s.nRows := Nat.div_lt_of_lt_mul (Nat.mul_comm _ _ ▸ h)
  have hcol := Nat.mod_lt number hcols
  exact ⟨⟨Int.natCast_nonneg _, Int.ofNat_lt.2 hrow⟩, Int.natCast_nonneg _, Int.ofNat_lt.2 hcol⟩

/-- Every cell of the sheet has a number. -/
theorem exists_numbered (h : cell.Within s.nRows s.nCols) :
    ∃ number < s.nRows * s.nCols, s.numbered number = cell ∧
      cell.row * s.nCols + cell.col = number := by
  obtain ⟨row, col⟩ := cell
  obtain ⟨⟨hrow, hrows⟩, hcol, hcols⟩ := h
  obtain ⟨row, rfl⟩ := Int.eq_ofNat_of_zero_le hrow
  obtain ⟨col, rfl⟩ := Int.eq_ofNat_of_zero_le hcol
  simp only [Int.ofNat_lt] at hrows hcols
  refine ⟨row * s.nCols + col, ?_, ?_, by push_cast; rfl⟩
  · have hle : (row + 1) * s.nCols ≤ s.nRows * s.nCols := Nat.mul_le_mul_right _ hrows
    rw [Nat.add_mul] at hle
    omega
  · have hpos : 0 < s.nCols := by omega
    rw [numbered, Nat.mul_comm, Nat.mul_add_div hpos, Nat.div_eq_of_lt hcols, Nat.mul_add_mod,
      Nat.mod_eq_of_lt hcols, Nat.add_zero]

theorem cells_eq_map_numbered (hcols : 0 < s.nCols) :
    s.cells = (List.range (s.nRows * s.nCols)).map s.numbered := by
  refine Coord.Ascends.ext (Coord.ascends_block ..) ?_ fun cell => ?_
  · refine List.pairwise_map.2 (List.pairwise_lt_range.imp fun {m n} hlt => ?_)
    rw [before_numbered hcols]
    exact decide_eq_true hlt
  · rw [cells, Coord.mem_block_zero, List.mem_map]
    constructor
    · intro h
      obtain ⟨number, hlt, heq, -⟩ := exists_numbered h
      exact ⟨number, List.mem_range.2 hlt, heq⟩
    · rintro ⟨number, hlt, rfl⟩
      exact numbered_within (List.mem_range.1 hlt)

theorem cellsFrom_numbered (hcols : 0 < s.nCols) {first : Nat}
    (hfirst : first < s.nRows * s.nCols) :
    s.cellsFrom (s.numbered first) = s.cells.rotate (first + 1) := by
  have hbefore : ((s.numbered first).before ·) ∘ s.numbered =
      fun number => decide (first < number) :=
    funext (before_numbered hcols first)
  have hnot : (!(s.numbered first).before ·) ∘ s.numbered =
      fun number => !decide (first < number) :=
    funext fun number => congrArg not (before_numbered hcols first number)
  rw [cellsFrom, cells_eq_map_numbered hcols, List.filter_map, List.filter_map, hbefore, hnot,
    ← List.map_append, filter_range_append hfirst, List.map_rotate]

/-- Going on by numbers is going around the circle of cells. -/
theorem walk_eq_cellsFrom (hstart : start.Within s.nRows s.nCols) :
    s.walk start = s.cellsFrom start := by
  have hcols : 0 < s.nCols := by
    have hcol := hstart.2
    omega
  obtain ⟨first, hfirst, hcell, hnumber⟩ := exists_numbered hstart
  rw [← hcell, cellsFrom_numbered hcols hfirst, cells_eq_map_numbered hcols, hcell, walk, hnumber]
  refine List.ext_getElem (by simp) fun i hi hi' => ?_
  have hsum : (first : Int) + (1 + 1 * i : Nat) = (i + (first + 1) : Nat) := by omega
  rw [List.getElem_map, List.getElem_range', hsum, List.getElem_rotate, List.getElem_map,
    List.getElem_range, List.length_map, List.length_range, ← Int.natCast_emod]
  rfl

/-! ## What is found -/

/-- The cell is on the sheet, and its value is a text in which the given one occurs. -/
def Shows (s : Sheet) (text : String) (cell : Coord) : Prop :=
  cell.Within s.nRows s.nCols ∧
    ∃ shown, s.valueAt cell = .text shown ∧ text.toList <:+: shown.toList

theorem showsText_iff : s.showsText text cell ↔
    ∃ shown, s.valueAt cell = .text shown ∧ text.toList <:+: shown.toList := by
  rw [showsText]
  cases s.valueAt cell with
  | text shown =>
    simp only [Text.contains_iff, Value.text.injEq]
    exact ⟨fun h => ⟨shown, rfl, h⟩, fun ⟨_, heq, h⟩ => heq ▸ h⟩
  | _ => simp

theorem mem_filter_cellsFrom :
    cell ∈ (s.cellsFrom start).filter (s.showsText text) ↔ s.Shows text cell := by
  rw [List.mem_filter, mem_cellsFrom, showsText_iff, Shows]

/-- The cell that is found is the soonest one that shows the text. -/
theorem find?_eq_some_iff (hstart : start.Within s.nRows s.nCols) :
    s.find? text start = .ok (some cell) ↔ s.Shows text cell ∧
      ∀ other, s.Shows text other → other ≠ cell → Coord.Sooner start cell other := by
  rw [find?_eq hstart, Except.ok.injEq,
    find?_eq_some_iff_of_pairwise (s.pairwise_cellsFrom start) fun _ _ => Coord.Sooner.asymm]
  simp only [mem_cellsFrom, showsText_iff, Shows, and_imp]

theorem find?_eq_none_iff (hstart : start.Within s.nRows s.nCols) :
    s.find? text start = .ok none ↔ ∀ cell, ¬s.Shows text cell := by
  rw [find?_eq hstart, Except.ok.injEq, List.find?_eq_none]
  simp only [mem_cellsFrom, showsText_iff, Shows, not_and]

/-! ## Searches from find to find -/

/-- The finds of so many searches, each from the find before on, as long as there is one. -/
def findAgain (s : Sheet) (text : String) : Nat → Coord → Except EditFault (List Coord)
  | 0, _ => .ok []
  | count + 1, start => do
    match ← s.find? text start with
    | none => return []
    | some cell => return cell :: (← s.findAgain text count cell)

theorem findAgain_succ {count : Nat} {finds : List Coord}
    (hfind : s.find? text start = .ok (some cell))
    (hfinds : s.findAgain text count cell = .ok finds) :
    s.findAgain text (count + 1) start = .ok (cell :: finds) := by
  rw [findAgain, hfind]
  change (do return cell :: (← s.findAgain text count cell)) = _
  rw [hfinds]
  rfl

/-- Of all cells that show the text, in the order from the start on, those that follow one of them
are found in turn from that one on. -/
theorem findAgain_of_round {round earlier later : List Coord}
    (hsorted : round.Pairwise (Coord.Sooner start))
    (hround : ∀ cell, cell ∈ round ↔ s.Shows text cell) (heq : round = earlier ++ cell :: later) :
    s.findAgain text later.length cell = .ok later := by
  induction later generalizing earlier cell with
  | nil => rfl
  | cons next later ih =>
    have hshows : s.Shows text cell := (hround cell).1 (by simp [heq])
    have hnext : s.Shows text next := (hround next).1 (by simp [heq])
    obtain ⟨-, hfrom, hearlier⟩ := List.pairwise_append.1 (heq ▸ hsorted)
    obtain ⟨hcell, hfrom⟩ := List.pairwise_cons.1 hfrom
    have hcellNext := hcell next List.mem_cons_self
    have hfind : s.find? text cell = .ok (some next) := by
      refine (find?_eq_some_iff hshows.1).2 ⟨hnext, fun other hother hne => ?_⟩
      have hmem := (hround other).2 hother
      rw [heq, List.mem_append, List.mem_cons, List.mem_cons] at hmem
      rcases hmem with hmem | rfl | rfl | hmem
      · exact (hearlier other hmem cell List.mem_cons_self).of_sooner hcellNext
      · exact Coord.sooner_start hne.symm
      · exact absurd rfl hne
      · exact hcellNext.of_later ((List.pairwise_cons.1 hfrom).1 other hmem)
    exact findAgain_succ hfind (ih (heq.trans (List.append_cons ..)))

/-- A search from a cell of the sheet goes through all cells in the order of their numbers, over the
last one to the first and up to the start. So it finds the soonest cell that shows the text, if
there is one. Searches from a cell that shows it, each from the find before, give every such cell
once, in turn, and the first one at last. -/
theorem find_spec (s : Sheet) (text : String) {start : Coord}
    (hstart : start.Within s.nRows s.nCols) :
    s.find? text start = .ok ((s.walk start).find? (s.showsText text)) ∧
    (∀ cell, s.find? text start = .ok (some cell) ↔ s.Shows text cell ∧
      ∀ other, s.Shows text other → other ≠ cell → Coord.Sooner start cell other) ∧
    (s.find? text start = .ok none ↔ ∀ cell, ¬s.Shows text cell) ∧
    (s.Shows text start → ∃ round : List Coord,
      round.Nodup ∧ (∀ cell, cell ∈ round ↔ s.Shows text cell) ∧
      round.Pairwise (Coord.Sooner start) ∧ round.getLast? = some start ∧
      s.findAgain text round.length start = .ok round) := by
  refine ⟨by rw [walk_eq_cellsFrom hstart, find?_eq hstart], fun cell => find?_eq_some_iff hstart,
    find?_eq_none_iff hstart, fun hshows => ?_⟩
  have hsorted : ((s.cellsFrom start).filter (s.showsText text)).Pairwise (Coord.Sooner start) :=
    (s.pairwise_cellsFrom start).filter _
  have hround (cell : Coord) := @mem_filter_cellsFrom s text start cell
  generalize (s.cellsFrom start).filter (s.showsText text) = round at hsorted hround
  refine ⟨round, hsorted.imp Coord.Sooner.ne, hround, hsorted,
    Coord.getLast?_of_sooner hsorted ((hround start).2 hshows), ?_⟩
  cases round with
  | nil => rfl
  | cons cell later =>
    have hfind : s.find? text start = .ok (some cell) := by
      refine (find?_eq_some_iff hstart).2 ⟨(hround cell).1 List.mem_cons_self, ?_⟩
      intro other hother hne
      have hmem := List.mem_of_ne_of_mem hne ((hround other).2 hother)
      exact (List.pairwise_cons.1 hsorted).1 other hmem
    exact findAgain_succ hfind (findAgain_of_round hsorted hround (List.nil_append _).symm)

/-- Of two texts with `apple` in them each is found from the other. -/
theorem find_spec_apple :
    let s : Sheet := {
      columns := [⟨none, 10⟩, ⟨none, 10⟩]
      rows := [[⟨"apple", none, .text "apple"⟩, ⟨"x", none, .text "x"⟩],
        [⟨"pineapple", none, .text "pineapple"⟩, ⟨"", none, .empty⟩]]
      fixedRows := 0
      links := ⟨[]⟩
      options := .standard
      functions := .builtin }
    s.find? "apple" ⟨0, 0⟩ = .ok (some ⟨1, 0⟩) ∧
      ∃ round : List Coord, (∀ cell, cell ∈ round ↔ s.Shows "apple" cell) ∧
        s.findAgain "apple" round.length ⟨0, 0⟩ = .ok round := by
  intro s
  have hstart : (⟨0, 0⟩ : Coord).Within s.nRows s.nCols := by decide
  obtain ⟨hwalk, -, -, hround⟩ := find_spec s "apple" hstart
  obtain ⟨round, -, hmem, -, -, hfinds⟩ :=
    hround ⟨hstart, "apple", rfl, List.infix_rfl⟩
  exact ⟨hwalk.trans (by cbv), round, hmem, hfinds⟩

end Sheet

end Spreadsheet

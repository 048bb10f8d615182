import Spreadsheet.Proofs.Sheet.Sorting
import Spreadsheet.Proofs.Text.Ascii

/-!
# Sorted texts and compared texts

Cells are sorted by the caseless forms of their texts, and formulas compare texts by their small
letters. Where the two are the same, as they are for ASCII texts, a column of texts that is sorted
compares as sorted, row by row (`Reachable.compare_sorted_spec`). Where they differ it need not: `Σ`
and `ς` have the same caseless form but different small letters (`compare_sigmaSample`).
-/

namespace Spreadsheet

/-- The formula that compares a cell with the one below it. -/
def Expr.atMostBelow (row : Nat) (col : Int) : Expr :=
  .binary (.comparison .atMost) (.cell ⟨row, col⟩ false) (.cell ⟨(row + 1 : Nat), col⟩ false)

/-- Texts that do not spell numbers compare by their small letters. -/
theorem Comparison.eval_atMost_texts {s t : String} (hs : readNumber? s = none) :
    Comparison.eval .atMost (.text s) (.text t) =
      .ofBool (decide (Text.lower s.toList ≤ Text.lower t.toList)) := by
  have hcompares := Text.order_compares (Text.lower s.toList) (Text.lower t.toList)
  have hcompare : (Value.text s).compare? (.text t) =
      some (Text.order (Text.lower s.toList) (Text.lower t.toList)) := by
    rw [Value.compare?, Value.comparableNumber?, hs]
    rfl
  have hholds : Comparison.holds .atMost ((Value.text s).compare? (.text t)) =
      decide (Text.lower s.toList ≤ Text.lower t.toList) := by
    rw [hcompare, Bool.eq_iff_iff, decide_eq_true_iff, ← hcompares.ne_gt, Comparison.holds]
    cases Text.order (Text.lower s.toList) (Text.lower t.toList) <;> decide
  rw [← hholds]
  rfl

/-- A text that is no formula and whose value is a text does not spell a number. -/
theorem Cell.Sound.readNumber?_eq_none {options : Options} {functions : Registry} {c : Cell}
    {text : String} (h : c.Sound options functions) (hformula : c.formula = none)
    (hvalue : c.value = .text text) : readNumber? text = none := by
  cases hbody : options.formulaBody? c.raw with
  | some body =>
    have hread : options.isFormula c.raw := by rw [Options.isFormula, hbody]; rfl
    obtain ⟨e, -, herror⟩ := h.unreadable hread hformula
    cases hvalue.symm.trans herror
  | none =>
    have hliteral := hvalue.symm.trans (h.literal hbody).2
    unfold Value.ofLiteral at hliteral
    split at hliteral
    · cases hliteral
    · split at hliteral
      · cases hliteral
      · next hnone =>
        cases hliteral
        exact hnone

/-- Texts that come one before the other when cells are sorted, or sort alike, have their caseless
forms in order. -/
theorem Value.fold_le_of_texts {s t : String}
    (h : (Value.text s).Before false (.text t) ∨ (Value.text s).Ties (.text t)) :
    Text.fold s.toList ≤ Text.fold t.toList := by
  rcases h with (⟨-, hempty⟩ | hbelow) | hties
  · cases hempty
  · cases hbelow with
    | texts hlt => exact hlt.le
  · cases hties with
    | texts heq => exact heq.le

namespace Sheet

variable {functions : Registry} {s t : Sheet}

/-- The cell holds a text that is no formula. -/
def HoldsText (s : Sheet) (cell : Coord) (text : String) : Prop :=
  (s.cellAt cell).formula = none ∧ s.valueAt cell = .text text

/-- The text stands in a row that is not fixed of the column. -/
def HasText (s : Sheet) (col : Int) (text : String) : Prop :=
  ∃ row : Nat, s.fixedRows ≤ row ∧ row < s.nRows ∧ s.HoldsText ⟨row, col⟩ text

theorem HoldsText.cellValue {cell : Coord} {text : String} (h : t.HoldsText cell text)
    (hcell : cell.Within t.nRows t.nCols) : t.source.cellValue cell = .ok (.text text) := by
  have hvalue : t.source.valueAt cell = .ok (.text text) := congrArg Except.ok h.2
  rw [Source.cellValue, if_pos (show cell.Within t.source.nRows t.source.nCols from hcell),
    Source.read, hvalue]
  rfl

/-- The formula compares the small letters of two texts one below the other. -/
theorem eval_atMostBelow (ht : t.Sound) {row : Nat} {col : Int} (hcol : 0 ≤ col ∧ col < t.nCols)
    (hrow : row + 1 < t.nRows) {upper lower : String} (hupper : t.HoldsText ⟨row, col⟩ upper)
    (hlower : t.HoldsText ⟨(row + 1 : Nat), col⟩ lower) (functions : Registry)
    (origin : Option Coord) :
    (Expr.atMostBelow row col).eval functions t.source origin =
      .ok (.ofBool (decide (Text.lower upper.toList ≤ Text.lower lower.toList))) := by
  have hnone := (ht.cells _).readNumber?_eq_none hupper.1 hupper.2
  have hwithin (place : Nat) (hplace : place < t.nRows) :
      (⟨place, col⟩ : Coord).Within t.nRows t.nCols :=
    ⟨⟨Int.natCast_nonneg place, Int.ofNat_lt.2 hplace⟩, hcol⟩
  rw [Expr.atMostBelow, Expr.eval, Expr.eval, Expr.eval,
    hupper.cellValue (hwithin row (Nat.lt_of_succ_lt hrow)), hlower.cellValue (hwithin _ hrow)]
  exact congrArg _ (Comparison.eval_atMost_texts hnone)

/-- Where all cells of a column hold texts, so they do when the rows are in another order. -/
theorem Reordered.exists_holdsText {col place : Nat} {descending : Bool}
    (h : s.Reordered t (s.sortedNumbers col descending))
    (htexts : ∀ row : Nat, s.fixedRows ≤ row → row < s.nRows →
      ∃ text, s.HoldsText ⟨row, col⟩ text)
    (hfixed : s.fixedRows ≤ place) (hplace : place < s.nRows) : ∃ row text,
      (s.sortedNumbers col descending)[place]? = some row ∧ s.valueAt ⟨row, col⟩ = .text text ∧
        s.HasText col text ∧ t.HoldsText ⟨place, col⟩ text := by
  have hlength : place < (s.sortedNumbers col descending).length := by
    rwa [h.perm.length_eq, List.length_range]
  have hrow := List.getElem?_eq_getElem hlength
  obtain ⟨hle, hlt⟩ := fixedRows_le_of_sorted hfixed hrow
  obtain ⟨text, hnone, hvalue⟩ := htexts _ hle hlt
  exact ⟨_, text, hrow, hvalue, ⟨_, hle, hlt, hnone, hvalue⟩,
    (h.formula place _ hrow col).trans hnone, (h.value place _ hrow col hnone).trans hvalue⟩

/-- Texts one below the other in a column that is sorted upwards have their caseless forms in
order. -/
theorem Reordered.exists_fold_le {col row : Nat} (h : s.Reordered t (s.sortedNumbers col false))
    (hs : s.Sound) (htexts : ∀ row : Nat, s.fixedRows ≤ row → row < s.nRows →
      ∃ text, s.HoldsText ⟨row, col⟩ text)
    (hfixed : s.fixedRows ≤ row) (hrow : row + 1 < s.nRows) : ∃ upper lower,
      s.HasText col upper ∧ s.HasText col lower ∧ t.HoldsText ⟨row, col⟩ upper ∧
        t.HoldsText ⟨(row + 1 : Nat), col⟩ lower ∧
        Text.fold upper.toList ≤ Text.fold lower.toList := by
  obtain ⟨number, upper, hnumber, hvalue, hold, hupper⟩ :=
    h.exists_holdsText htexts hfixed (Nat.lt_of_succ_lt hrow)
  obtain ⟨number', lower, hnumber', hvalue', hold', hlower⟩ :=
    h.exists_holdsText htexts (Nat.le_succ_of_le hfixed) hrow
  have hbefore := rowBefore_of_sorted hs hfixed (Nat.lt_succ_self row) hnumber hnumber'
  rw [RowBefore, hvalue, hvalue'] at hbefore
  exact ⟨upper, lower, hold, hold', hupper, hlower,
    Value.fold_le_of_texts (hbefore.imp_right And.left)⟩

end Sheet

open Sheet

variable {functions : Registry} {s : Sheet}

/-- Sorting a column of texts upwards leaves texts one below the other whose caseless forms are in
order. The formula that compares two of them says whether their small letters are in order. So it
is one for all of them if the small letters of the texts are their caseless forms. -/
theorem Reachable.compare_sorted_spec (hlawful : functions.Lawful) (h : Reachable functions s)
    {col : Int} (hcol : 0 ≤ col ∧ col < s.nCols)
    (htexts : ∀ row : Nat, s.fixedRows ≤ row → row < s.nRows →
      ∃ text, s.HoldsText ⟨row, col⟩ text) :
    ∃ (t : Sheet) (r : Recalc), s.sort col false = .ok (t, r) ∧
      (∀ row : Nat, s.fixedRows ≤ row → row + 1 < s.nRows → ∃ upper lower,
        t.HoldsText ⟨row, col⟩ upper ∧ t.HoldsText ⟨(row + 1 : Nat), col⟩ lower ∧
        Text.fold upper.toList ≤ Text.fold lower.toList ∧
        ∀ origin, (Expr.atMostBelow row col).eval functions t.source origin =
          .ok (.ofBool (decide (Text.lower upper.toList ≤ Text.lower lower.toList)))) ∧
      ((∀ text, s.HasText col text → Text.lower text.toList = Text.fold text.toList) →
        ∀ row : Nat, s.fixedRows ≤ row → row + 1 < s.nRows → ∀ origin,
          (Expr.atMostBelow row col).eval functions t.source origin =
            .ok (.number (.ofNat 1))) := by
  obtain ⟨index, rfl⟩ := Int.eq_ofNat_of_zero_le hcol.1
  have hs := (h.consistent hlawful).1.sound
  obtain ⟨t, r, hsort, hreordered, ht, -⟩ := hs.exists_sort (by omega : index < s.nCols) false
  have hsize := hreordered.frame.sameSize
  refine ⟨t, r, hsort, fun row hfixed hrow => ?_, fun hcase row hfixed hrow origin => ?_⟩
  · obtain ⟨upper, lower, -, -, hupper, hlower, hfold⟩ :=
      hreordered.exists_fold_le hs htexts hfixed hrow
    exact ⟨upper, lower, hupper, hlower, hfold,
      eval_atMostBelow ht (hsize.nCols ▸ hcol) (hsize.nRows ▸ hrow) hupper hlower functions⟩
  · obtain ⟨upper, lower, hold, hold', hupper, hlower, hfold⟩ :=
      hreordered.exists_fold_le hs htexts hfixed hrow
    rw [eval_atMostBelow ht (hsize.nCols ▸ hcol) (hsize.nRows ▸ hrow) hupper hlower,
      hcase upper hold, hcase lower hold', decide_eq_true hfold]
    rfl

namespace Sheet

/-- A column of three texts, two of which differ by case alone. -/
def textSample : Sheet :=
  let first := ((blank 3 1 .standard .builtin).setTextAt ⟨0, 0⟩ "b").1
  let second := (first.setTextAt ⟨1, 0⟩ "A").1
  (second.setTextAt ⟨2, 0⟩ "a").1

theorem reachable_textSample : Reachable .builtin textSample := by
  have hstart : Reachable .builtin (blank 3 1 .standard .builtin) :=
    @Reachable.make .builtin 3 1 [] .standard _ rfl
  have hfirst := hstart.setTextAt ⟨0, 0⟩ (by decide) "b"
  have hsecond := hfirst.setTextAt ⟨1, 0⟩
    (by simp only [nRows_setTextAt, nCols_setTextAt]; decide) "A"
  exact hsecond.setTextAt ⟨2, 0⟩ (by simp only [nRows_setTextAt, nCols_setTextAt]; decide) "a"

theorem rows_textSample : textSample.rows =
    [[⟨"b", none, .text "b"⟩], [⟨"A", none, .text "A"⟩], [⟨"a", none, .text "a"⟩]] := by
  cbv

theorem size_textSample : textSample.nRows = 3 ∧ textSample.nCols = 1 := by
  simp only [textSample, nRows_setTextAt, nCols_setTextAt]
  exact ⟨rfl, rfl⟩

theorem fixedRows_textSample : textSample.fixedRows = 0 := by
  cbv

/-- The texts of the column. -/
theorem holdsText_textSample {row : Nat} (hrow : row < 3) :
    ∃ text : String, textSample.HoldsText ⟨row, 0⟩ text ∧ ∀ c ∈ text.toList, c.toNat < 128 := by
  simp only [HoldsText, valueAt, cellAt, rows_textSample]
  interval_cases row
  · exact ⟨"b", ⟨rfl, rfl⟩, by simp⟩
  · exact ⟨"A", ⟨rfl, rfl⟩, by simp⟩
  · exact ⟨"a", ⟨rfl, rfl⟩, by simp⟩

end Sheet

theorem compare_sorted_spec_sample :
    ∃ (t : Sheet) (r : Recalc), textSample.sort 0 false = .ok (t, r) ∧
      ∀ row : Nat, row + 1 < 3 → ∀ origin,
        (Expr.atMostBelow row 0).eval .builtin t.source origin = .ok (.number (.ofNat 1)) := by
  obtain ⟨t, r, hsort, -, hone⟩ := @Reachable.compare_sorted_spec .builtin textSample
    Registry.lawful_builtin reachable_textSample 0 (by rw [size_textSample.2]; decide)
    fun row _ hrow => by
      obtain ⟨text, htext, -⟩ := holdsText_textSample (size_textSample.1 ▸ hrow)
      exact ⟨text, htext⟩
  refine ⟨t, r, hsort, fun row hrow => hone (fun text htext => ?_) row ?_ ?_⟩
  · obtain ⟨row, -, hlt, hholds⟩ := htext
    obtain ⟨other, hother, hascii⟩ := holdsText_textSample (size_textSample.1 ▸ hlt)
    cases hholds.2.symm.trans hother.2
    exact Text.lower_eq_fold_of_ascii hascii
  · exact fixedRows_textSample ▸ Nat.zero_le row
  · rwa [size_textSample.1]

namespace Sheet

/-- The capital sigma above the small one of the end of a word. -/
def sigmaSample : Sheet :=
  (((blank 2 1 .standard .builtin).setTextAt ⟨0, 0⟩ "Σ").1.setTextAt ⟨1, 0⟩ "ς").1

theorem reachable_sigmaSample : Reachable .builtin sigmaSample := by
  have hstart : Reachable .builtin (blank 2 1 .standard .builtin) :=
    @Reachable.make .builtin 2 1 [] .standard _ rfl
  have hfirst := hstart.setTextAt ⟨0, 0⟩ (by decide) "Σ"
  exact hfirst.setTextAt ⟨1, 0⟩ (by simp only [nRows_setTextAt, nCols_setTextAt]; decide) "ς"

theorem rows_sigmaSample : sigmaSample.rows =
    [[⟨"Σ", none, .text "Σ"⟩], [⟨"ς", none, .text "ς"⟩]] := by
  cbv

theorem size_sigmaSample : sigmaSample.nRows = 2 ∧ sigmaSample.nCols = 1 := by
  simp only [sigmaSample, nRows_setTextAt, nCols_setTextAt]
  exact ⟨rfl, rfl⟩

theorem links_sigmaSample : sigmaSample.links = ⟨[]⟩ := by
  cbv

end Sheet

/-- The texts sort alike and so stay where they are, but the comparison of the upper one with the
lower one does not hold. -/
theorem compare_sigmaSample : Reachable .builtin sigmaSample ∧
    (∀ row : Nat, row < 2 → ∃ text, sigmaSample.HoldsText ⟨row, 0⟩ text) ∧
    ∃ r, sigmaSample.sort 0 false = .ok (sigmaSample, r) ∧ ∀ origin,
      (Expr.atMostBelow 0 0).eval .builtin sigmaSample.source origin = .ok (.number (.ofNat 0)) := by
  have hs := (reachable_sigmaSample.consistent Registry.lawful_builtin).1.sound
  have hupper : sigmaSample.HoldsText ⟨(0 : Nat), 0⟩ "Σ" := by
    simp only [HoldsText, valueAt, cellAt, rows_sigmaSample]
    exact ⟨rfl, rfl⟩
  have hlower : sigmaSample.HoldsText ⟨(0 + 1 : Nat), 0⟩ "ς" := by
    simp only [HoldsText, valueAt, cellAt, rows_sigmaSample]
    exact ⟨rfl, rfl⟩
  refine ⟨reachable_sigmaSample, fun row hrow => ?_, sigmaSample.rebuild.2, ?_, fun origin => ?_⟩
  · interval_cases row
    · exact ⟨"Σ", hupper⟩
    · exact ⟨"ς", hlower⟩
  · have hties : (Value.text "Σ").Ties (.text "ς") := .texts (by decide +kernel)
    have hpairs : sigmaSample.rows.Pairwise fun a b =>
        (rowValue 0 a).InOrder false (rowValue 0 b) := by
      rw [rows_sigmaSample]
      exact List.pairwise_pair.2 (Value.inOrder_of_before trivial trivial (.inr hties))
    have hacyclic : sigmaSample.links.Acyclic := by
      rw [links_sigmaSample]
      exact Links.acyclic_of_beingRead (by decide)
    have hsorted : sigmaSample.sorted 0 false = sigmaSample :=
      sorted_eq_self hs (hpairs.sublist (List.drop_sublist _ _))
    have hsort := @sort_eq sigmaSample 0 (by rw [size_sigmaSample.2]; decide) false
    rw [hsorted] at hsort
    refine hsort.trans (congrArg _ (Prod.ext ?_ rfl))
    exact (reachable_sigmaSample.rebuilt hacyclic).rebuild_eq_self
  · have hsmall : ¬ Text.lower "Σ".toList ≤ Text.lower "ς".toList := by decide +kernel
    rw [eval_atMostBelow hs ⟨le_rfl, by rw [size_sigmaSample.2]; decide⟩
      (by rw [size_sigmaSample.1]; decide) hupper hlower, decide_eq_false hsmall]
    rfl

end Spreadsheet

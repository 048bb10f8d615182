import Mathlib
import Spreadsheet.Proofs.Delimited.Limit

/-!
# Dumping values only

A sheet that is dumped without its formulas is dumped as the rows of its fields
(`Delimited.dump_eq`): the field of a formula is its value, that of any other cell its text. The
value is written as it is, so what is loaded has a formula again where the value of one is written
with the marker in front (`Reachable.load_flattened`).
-/

namespace Spreadsheet

open Delimited

namespace Delimited

variable {options : Options} {s : Sheet}

/-- The rows of values. -/
theorem fieldRows_values (s : Sheet) :
    fieldRows s false false = s.rows.map (·.map (cellField s.options false)) := rfl

theorem get?_fieldRows_values (s : Sheet) (cell : Coord) :
    (Table.get? (fieldRows s false false) cell).getD "" =
      cellField s.options false (s.cellAt cell) := by
  have hblank : cellField s.options false .blank = "" := rfl
  rw [fieldRows_values, Table.get?_map, Sheet.cellAt]
  cases s.rows.get? cell with
  | none => exact hblank.symm
  | some c => rfl

/-- What holds of the empty text holds of the fields of all cells if it does of the members of all
rows of values. -/
theorem forall_cellField {p : String → Prop} (hempty : p "") :
    (∀ cell, p (cellField s.options false (s.cellAt cell))) ↔
      ∀ row ∈ fieldRows s false false, ∀ field ∈ row, p field := by
  rw [Sheet.forall_cellAt (p := fun c => p (cellField s.options false c)) hempty]
  simp [fieldRows_values]

/-- The field of a cell is a text or a value. -/
theorem cellField_cases {p : String → Prop} {cell : Cell} (hraw : p cell.raw)
    (hvalue : p cell.value.serialize) : p (cellField options false cell) := by
  rw [cellField]
  split
  · exact hraw
  · exact hvalue

/-- A field has the marker in front if the value of a formula is written so. -/
theorem isFormula_cellField {cell : Cell} :
    options.isFormula (cellField options false cell) = true ↔
      options.isFormula cell.raw = true ∧ options.isFormula cell.value.serialize = true := by
  rw [cellField]
  cases hraw : options.isFormula cell.raw with
  | false => simp [hraw]
  | true => simp

end Delimited

open Sheet

variable {functions : Registry} {s : Sheet} {d : Char}

/-- A sheet that is dumped without its formulas is loaded with the values of formulas as texts, if
none of them is too long. A cell that is loaded has a formula exactly where there was one whose
value is written with the marker in front. -/
theorem Reachable.load_flattened (h : Reachable functions s) (hd : d ∈ knownSeparators)
    (hrows : 0 < s.nRows) (hcols : 0 < s.nCols)
    (hreturn : ∀ cell, '\r' ∉ (s.cellAt cell).raw.toList ∧
      '\r' ∉ (s.valueAt cell).serialize.toList) :
    ∃ text, dump (String.singleton d) s false false = .ok text ∧
      ((∀ cell, (cellField s.options false (s.cellAt cell)).length ≤ fieldLimit) →
        ∃ t, load (some (String.singleton d)) text false s.options functions = .ok t ∧
          t.nRows = s.nRows ∧ t.nCols = s.nCols ∧ ∀ cell,
            (t.cellAt cell).raw = cellField s.options false (s.cellAt cell) ∧
            (s.options.isFormula (t.cellAt cell).raw = true ↔
              s.options.isFormula (s.cellAt cell).raw = true ∧
                s.options.isFormula (s.valueAt cell).serialize = true)) ∧
      ((∃ cell, fieldLimit < (cellField s.options false (s.cellAt cell)).length) →
        load (some (String.singleton d)) text false s.options functions =
          .error (.malformed .longField)) := by
  have hs := h.inStep.1.rectangular
  have hlength : (fieldRows s false false).length = s.nRows := List.length_map ..
  have hne : fieldRows s false false ≠ [] := List.length_pos_iff.1 (by rwa [hlength])
  have hwidth : ∀ row ∈ fieldRows s false false, row.length = s.nCols := by
    refine List.forall_mem_map.2 fun row hrow => ?_
    rw [List.length_map, hs row hrow]
  have hreturn : ∀ row ∈ fieldRows s false false, ∀ field ∈ row, '\r' ∉ field.toList :=
    (forall_cellField (p := fun field => '\r' ∉ field.toList) (by simp)).1 fun cell =>
      cellField_cases (p := fun field => '\r' ∉ field.toList) (hreturn cell).1 (hreturn cell).2
  have hfits : Fits (fieldRows s false false) ↔
      ∀ cell, (cellField s.options false (s.cellAt cell)).length ≤ fieldLimit := by
    rw [forall_cellField (p := fun field => field.length ≤ fieldLimit) (Nat.zero_le _)]
    simp only [Fits, String.length_toList]
  refine ⟨_, dump_eq d s false false, fun hshort => ?_, fun hlong => ?_⟩
  · obtain ⟨t, ht, htRows, htCols, htexts⟩ := exists_load_writeRows hd hreturn (hfits.2 hshort) hne
      hwidth hcols s.options functions
    refine ⟨t, ht, htRows.trans hlength, htCols, fun cell => ?_⟩
    rw [htexts, get?_fieldRows_values]
    exact ⟨rfl, isFormula_cellField⟩
  · have hlast : (fieldRows s false false).getLast? ≠ some [] := by
      intro hempty
      have hzero := hwidth [] (List.mem_of_getLast? hempty)
      exact hcols.ne hzero
    have hlong : ¬ Fits (fieldRows s false false) := by
      obtain ⟨cell, hcell⟩ := hlong
      exact fun h => absurd (hfits.1 h cell) (not_le.2 hcell)
    rw [load_writeRows_of_not_mem hd hreturn hlast, if_neg hlong]

namespace Sheet

/-- A sheet of one cell with a formula whose value is a text with the marker in front. -/
def markedSample : Sheet := ((blank 1 1 .standard .builtin).setTextAt ⟨0, 0⟩ "=\"=1\"").1

theorem reachable_markedSample : Reachable .builtin markedSample :=
  (@Reachable.make .builtin 1 1 [] .standard _ rfl).setTextAt ⟨0, 0⟩ (by decide) "=\"=1\""

theorem rows_markedSample :
    markedSample.rows = [[⟨"=\"=1\"", some (.string "=1"), .text "=1"⟩]] := by
  cbv

theorem options_markedSample : markedSample.options = .standard := by
  cbv

theorem size_markedSample : markedSample.nRows = 1 ∧ markedSample.nCols = 1 := by
  rw [markedSample, nRows_setTextAt, nCols_setTextAt]
  decide

theorem fieldRows_markedSample : fieldRows markedSample false false = [["=1"]] := by
  rw [fieldRows_values, rows_markedSample, options_markedSample]
  rfl

theorem no_return_markedSample (cell : Coord) : '\r' ∉ (markedSample.cellAt cell).raw.toList ∧
    '\r' ∉ (markedSample.valueAt cell).serialize.toList := by
  refine (forall_cellAt (p := fun c => '\r' ∉ c.raw.toList ∧ '\r' ∉ c.value.serialize.toList)
    (by decide)).2 ?_ cell
  rw [rows_markedSample]
  simp [Value.serialize]

end Sheet

/-- A formula comes back in place of a value: that of a text with the marker in front. -/
theorem load_markedSample : Reachable .builtin markedSample ∧ markedSample.nRows = 1 ∧
    markedSample.nCols = 1 ∧
    (∀ cell, '\r' ∉ (markedSample.cellAt cell).raw.toList ∧
      '\r' ∉ (markedSample.valueAt cell).serialize.toList) ∧
    dump "," markedSample false false = .ok "=1\n" ∧
    ∃ t, load (some ",") "=1\n" false markedSample.options .builtin = .ok t ∧
      markedSample.options.isFormula (t.cellAt ⟨0, 0⟩).raw = true := by
  have htext : writeRows ',' (fieldRows markedSample false false) = "=1\n" := by
    rw [fieldRows_markedSample]
    rfl
  refine ⟨reachable_markedSample, size_markedSample.1, size_markedSample.2,
    no_return_markedSample, ?_, ?_⟩
  · exact htext ▸ dump_eq ',' markedSample false false
  · have hwidth : ∀ row ∈ [["=1"]], row.length = 1 := by simp
    obtain ⟨t, ht, -, -, htexts⟩ := exists_load_writeRows (d := ',') (by decide) (by simp)
      (by decide) (by simp) hwidth Nat.one_pos markedSample.options .builtin
    refine ⟨t, ht, ?_⟩
    rw [htexts, options_markedSample]
    rfl

theorem load_flattened_sample : ∃ text t, dump "," markedSample false false = .ok text ∧
    load (some ",") text false markedSample.options .builtin = .ok t ∧
    ∀ cell, markedSample.options.isFormula (t.cellAt cell).raw = true ↔
      markedSample.options.isFormula (markedSample.cellAt cell).raw = true ∧
        markedSample.options.isFormula (markedSample.valueAt cell).serialize = true := by
  obtain ⟨text, hdump, hload, -⟩ := reachable_markedSample.load_flattened (d := ',') (by decide)
    (by rw [size_markedSample.1]; decide) (by rw [size_markedSample.2]; decide)
    no_return_markedSample
  have hshort : ∀ cell,
      (cellField markedSample.options false (markedSample.cellAt cell)).length ≤ fieldLimit := by
    refine (forall_cellField (p := fun field => field.length ≤ fieldLimit) (by decide)).2 ?_
    rw [fieldRows_markedSample]
    have hlength : "=1".length ≤ fieldLimit := by decide
    simpa using hlength
  obtain ⟨t, ht, -, -, hcells⟩ := hload hshort
  exact ⟨text, t, hdump, ht, fun cell => (hcells cell).2⟩

end Spreadsheet

import Spreadsheet.Proofs.Formula.Builtin
import Spreadsheet.Proofs.Formula.WellFormed

/-!
# Evaluation does not fail

With the builtin functions a formula that is read from a text has a value on every source that has
the cells its size promises, whatever values these are (`Grammar.exists_eval_of_parse`). The words
that are converted to numbers on the way all spell one (`Lexeme.IsNumeral.isSome_read?`).
-/

namespace Spreadsheet

theorem Lexeme.IsNumeral.isSome_read? {spelling : String} (h : IsNumeral spelling) :
    (Numeral.read? spelling.toList).isSome := by
  obtain ⟨n, hn, rfl⟩ := h
  have hends : Numeral.Ends [] := nofun
  have hscan := Numeral.scan_spelling hn hends
  rw [List.append_nil] at hscan
  rw [String.toList_ofList, Numeral.read?, hscan]
  rfl

/-! ## Functions that miss no argument -/

namespace Function

/-- With as many arguments as it takes, whatever they are, the function misses none. -/
def Total (function : Function) : Prop :=
  ∀ args : List Argument, function.arity.accepts args.length →
    function.apply args ≠ .error .missingArgument

variable {args : List Argument}

theorem ofNumbers_ne_missingArgument {result : List Binary64 → Except Failure Value}
    (hresult : ∀ xs, result xs ≠ .error .missingArgument) (args : List Argument) :
    ofNumbers result args ≠ .error .missingArgument := by
  unfold ofNumbers
  split
  · exact hresult _
  · simp

theorem ofFirstNumber_ne_missingArgument
    {result : Binary64 → List Argument → Except Failure Value} (hne : args ≠ [])
    (hresult : ∀ x arg rest, args = arg :: rest → result x rest ≠ .error .missingArgument) :
    ofFirstNumber args result ≠ .error .missingArgument := by
  unfold ofFirstNumber
  split
  · contradiction
  · next arg rest =>
    split
    · exact hresult _ arg rest rfl
    · simp

theorem total_count : count.Total := by
  intro args _
  simp only [count]
  split <;> simp

theorem total_absolute : absolute.Total := fun args haccepts =>
  ofFirstNumber_ne_missingArgument (ne_nil_of_accepts (by decide) haccepts) fun _ _ _ _ => by simp

theorem total_round : round.Total := by
  intro args haccepts
  refine ofFirstNumber_ne_missingArgument (ne_nil_of_accepts (by decide) haccepts)
    fun x arg rest _ => ?_
  split
  · exact (proper_map_ofResult (roundTo_ne_missingArgument x 0)).ne_missingArgument
  · split
    · refine bind_ne_missingArgument (truncate_ne_missingArgument _) fun places => ?_
      exact bind_ne_missingArgument (roundTo_ne_missingArgument x places) fun _ => by
        simp [pure, Except.pure]
    · simp

theorem total_conditional : conditional.Total := by
  intro args haccepts
  refine ofFirstNumber_ne_missingArgument (ne_nil_of_accepts (by decide) haccepts)
    fun x arg rest hsplit => ?_
  subst hsplit
  split
  · exact absurd haccepts (by simp [Arity.accepts, conditional])
  all_goals simp

end Function

theorem Registry.total_builtin {name : String} {function : Function}
    (h : builtin.find? name = some function) : function.Total := by
  rcases builtin_cases h with rfl | rfl | rfl | rfl | rfl | rfl | rfl | rfl
  · exact fun args _ => Function.ofNumbers_ne_missingArgument
      (fun xs => (Function.proper_sumOf xs).ne_missingArgument) args
  · exact fun args _ => Function.ofNumbers_ne_missingArgument
      (fun xs => (Function.proper_meanOf xs).ne_missingArgument) args
  · exact fun args _ => Function.ofNumbers_ne_missingArgument (by simp) args
  · exact fun args _ => Function.ofNumbers_ne_missingArgument (by simp) args
  · exact Function.total_count
  · exact Function.total_absolute
  · exact Function.total_round
  · exact Function.total_conditional

/-- Builtin functions have a result whatever their arguments. -/
theorem Registry.keeps_builtin : builtin.Keeps fun _ => True where
  definite _ _ := trivial
  negate _ _ := trivial
  call name function args hfind haccepts _ := by
    obtain ⟨value, hvalue, -⟩ := Registry.exists_call hfind (total_builtin hfind args haccepts)
    exact ⟨value, hvalue, trivial⟩

/-! ## Formulas that are read -/

/-- The source has a value wherever its size promises one. -/
def Source.Complete (source : Source) : Prop :=
  ∀ cell, cell.Within source.nRows source.nCols → ∃ value, source.valueAt cell = .ok value

/-- References on a sheet cover no cells before the first row or column, however many rows they are
taken to have. -/
theorem Expr.Placed.nonneg {nRows nCols count : Int} {lowercase : Bool} {origin : Option Coord}
    {node : Expr} {cell : Coord} (h : node.Placed nRows nCols lowercase)
    (hcell : cell ∈ node.coveredCells count origin) : 0 ≤ cell.row ∧ 0 ≤ cell.col := by
  cases node with
  | cell target small =>
    rw [List.mem_singleton.1 hcell]
    exact ⟨h.1.1.1, h.1.2.1⟩
  | range top left bottom right small =>
    obtain ⟨hrow, hcol⟩ := Coord.mem_rectangle.1 hcell
    obtain ⟨hrows, hcols, -⟩ := h
    omega
  | columns first last small =>
    obtain ⟨hrow, hcol⟩ := Coord.mem_rectangle.1 (List.mem_filter.1 hcell).1
    obtain ⟨hcols, -⟩ := h
    omega
  | _ => cases hcell

/-- A formula that was read has a value on every source that has the cells its size promises. -/
theorem Grammar.exists_eval_of_parse {g : Grammar} {text : String} {e : Expr}
    (h : g.parse text = .ok e) (hfunctions : g.functions.Keeps fun _ => True) {source : Source}
    (hsource : source.Complete) (origin : Option Coord) :
    ∃ value, e.eval g.functions source origin = .ok value := by
  obtain ⟨lowercase, hprintable⟩ := exists_printable_of_parse h
  have hcells : e.Throughout fun node =>
      source.Offers (fun _ => True) (node.coveredCells source.nRows origin) := by
    intro node hnode cell hcell hrow hcol
    obtain ⟨hrowFirst, hcolFirst⟩ := (hprintable node hnode).placed.nonneg hcell
    obtain ⟨value, hvalue⟩ := hsource cell ⟨⟨hrowFirst, hrow⟩, hcolFirst, hcol⟩
    exact ⟨value, hvalue, trivial⟩
  obtain ⟨value, hvalue, -⟩ := Expr.exists_eval_of_keeps hfunctions (evaluable_of_parse h) hcells
  exact ⟨value, hvalue⟩

end Spreadsheet

import Spreadsheet.Proofs.Formula.Definite
import Spreadsheet.Proofs.Formula.Replacement

/-!
# Sources that lack cells

A formula that has a value has it also on every source that has all values of its own one
(`Expr.eval_of_includedIn`). In particular it has it on the source in which cells that are lacking
are empty (`Source.filled`), and so its value is definite if those of the cells are, even where
some cells have none (`Expr.definite_of_eval`).
-/

namespace Spreadsheet

/-- Results that are there for every member of a list stay there with a function that gives no
fewer. -/
theorem mapM_eq_ok_of_imp {α β ε : Type} {f f' : α → Except ε β} {xs : List α} {ys : List β}
    (h : ∀ x ∈ xs, ∀ y, f x = .ok y → f' x = .ok y) (hf : xs.mapM f = .ok ys) :
    xs.mapM f' = .ok ys := by
  induction xs generalizing ys with
  | nil => exact hf
  | cons x xs ih =>
    obtain ⟨hx, hxs⟩ := List.forall_mem_cons.1 h
    rw [List.mapM_cons] at hf ⊢
    obtain ⟨y, hy, hf⟩ := bind_eq_ok.1 hf
    obtain ⟨others, hothers, hf⟩ := bind_eq_ok.1 hf
    exact bind_eq_ok.2 ⟨y, hx y hy, bind_eq_ok.2 ⟨others, ih hxs hothers, hf⟩⟩

/-- The second source has the size of the first one and every value that the first one has. -/
structure Source.IncludedIn (source source' : Source) : Prop where
  nRows : source'.nRows = source.nRows
  nCols : source'.nCols = source.nCols
  valueAt : ∀ cell value, source.valueAt cell = .ok value → source'.valueAt cell = .ok value

/-- The source with empty cells in place of those that it lacks. -/
def Source.filled (source : Source) : Source :=
  { source with valueAt := fun cell => .ok ((source.valueAt cell).toOption.getD .empty) }

namespace Source

variable {source source' : Source} {origin : Option Coord} {cell : Coord} {value : Value}

theorem includedIn_filled (source : Source) : source.IncludedIn source.filled where
  nRows := rfl
  nCols := rfl
  valueAt cell value h := by
    have hfilled : source.filled.valueAt cell =
        .ok ((source.valueAt cell).toOption.getD .empty) := rfl
    rw [hfilled, h]
    rfl

theorem definite_filled (h : ∀ cell value, source.valueAt cell = .ok value → value.Definite) :
    source.filled.Definite := by
  intro cell
  refine ⟨_, rfl, ?_⟩
  cases hvalue : source.valueAt cell with
  | error fault => trivial
  | ok value => exact h cell value hvalue

namespace IncludedIn

theorem read (h : source.IncludedIn source') (hread : source.read cell = .ok value) :
    source'.read cell = .ok value := by
  rw [Source.read] at hread ⊢
  cases hvalue : source.valueAt cell with
  | error fault =>
    rw [hvalue] at hread
    cases hread
  | ok found =>
    rw [hvalue] at hread
    rw [h.valueAt cell found hvalue]
    exact hread

theorem cellValue (h : source.IncludedIn source') (hvalue : source.cellValue cell = .ok value) :
    source'.cellValue cell = .ok value := by
  rw [Source.cellValue] at hvalue ⊢
  rw [h.nRows, h.nCols]
  split at hvalue
  · next hwithin => rw [if_pos hwithin, h.read hvalue]
  · next hwithin => rw [if_neg hwithin, hvalue]

theorem readRectangle (h : source.IncludedIn source') {skip : Option Coord}
    {top left bottom right : Int} {values : List Value}
    (hvalues : source.readRectangle skip top left bottom right = .ok values) :
    source'.readRectangle skip top left bottom right = .ok values := by
  rw [readRectangle_eq] at hvalues ⊢
  exact mapM_eq_ok_of_imp (fun _ _ _ => h.read) hvalues

/-- A reference covers the same values. -/
theorem argument (h : source.IncludedIn source') {ref : Expr} {arg : Argument}
    (harg : source.argument origin ref = .ok arg) : source'.argument origin ref = .ok arg := by
  cases ref with
  | cell target lowercase =>
    rw [Source.argument] at harg ⊢
    obtain ⟨value, hvalue, harg⟩ := bind_eq_ok.1 harg
    exact bind_eq_ok.2 ⟨value, h.cellValue hvalue, harg⟩
  | range top left bottom right lowercase =>
    rw [Source.argument] at harg ⊢
    rw [h.nRows, h.nCols]
    split at harg
    · next houtside => rw [if_pos houtside, harg]
    · next houtside =>
      obtain ⟨values, hvalues, harg⟩ := bind_eq_ok.1 harg
      rw [if_neg houtside]
      exact bind_eq_ok.2 ⟨values, h.readRectangle hvalues, harg⟩
  | columns first last lowercase =>
    rw [Source.argument] at harg ⊢
    rw [h.nRows, h.nCols]
    split at harg
    · next houtside => rw [if_pos houtside, harg]
    · next houtside =>
      obtain ⟨values, hvalues, harg⟩ := bind_eq_ok.1 harg
      rw [if_neg houtside]
      exact bind_eq_ok.2 ⟨values, h.readRectangle hvalues, harg⟩
  | _ => exact harg

end IncludedIn

end Source

namespace Expr

variable {functions : Registry} {source source' : Source} {origin : Option Coord} {e : Expr}
  {value : Value}

/-- A formula has the value that it has on a source also on one that includes it. -/
theorem eval_of_includedIn (h : source.IncludedIn source')
    (hvalue : e.eval functions source origin = .ok value) :
    e.eval functions source' origin = .ok value := by
  induction e using Expr.induction generalizing value with
  | number | string | deletedReference =>
    rw [eval] at hvalue ⊢
    exact hvalue
  | reference ref href =>
    rw [eval_of_isReference href] at hvalue ⊢
    obtain ⟨arg, harg, hvalue⟩ := map_eq_ok.1 hvalue
    exact map_eq_ok.2 ⟨arg, h.argument harg, hvalue⟩
  | unary op operand ih =>
    rw [eval] at hvalue ⊢
    obtain ⟨x, hx, hvalue⟩ := bind_eq_ok.1 hvalue
    exact bind_eq_ok.2 ⟨x, ih hx, hvalue⟩
  | binary op left right ihLeft ihRight =>
    rw [eval] at hvalue ⊢
    obtain ⟨x, hx, hvalue⟩ := bind_eq_ok.1 hvalue
    obtain ⟨y, hy, hvalue⟩ := bind_eq_ok.1 hvalue
    exact bind_eq_ok.2 ⟨x, ihLeft hx, bind_eq_ok.2 ⟨y, ihRight hy, hvalue⟩⟩
  | call name args ih =>
    rw [eval] at hvalue ⊢
    split at hvalue
    · next hfind =>
      obtain ⟨values, hvalues, hvalue⟩ := bind_eq_ok.1 hvalue
      rw [evalAll_eq_mapM] at hvalues
      rw [if_pos hfind, evalAll_eq_mapM]
      refine bind_eq_ok.2 ⟨values, mapM_eq_ok_of_imp (fun arg harg y hy => ?_) hvalues, hvalue⟩
      rw [evalArgument] at hy ⊢
      split at hy
      · next href => rw [if_pos href, h.argument hy]
      · next href =>
        obtain ⟨x, hx, hy⟩ := map_eq_ok.1 hy
        rw [if_neg href]
        exact map_eq_ok.2 ⟨x, ih arg harg hx, hy⟩
    · next hfind => rw [if_neg hfind, hvalue]

/-- The value of an evaluable formula is definite if the values that the source has are. -/
theorem definite_of_eval (hfunctions : functions.Lawful) (he : e.Evaluable functions)
    (hsource : ∀ cell value, source.valueAt cell = .ok value → value.Definite)
    (hvalue : e.eval functions source origin = .ok value) : value.Definite := by
  obtain ⟨value', hvalue', hdefinite⟩ :=
    exists_eval hfunctions (Source.definite_filled hsource) origin he
  cases hvalue'.symm.trans (eval_of_includedIn source.includedIn_filled hvalue)
  exact hdefinite

end Expr

end Spreadsheet

import Mathlib.Data.List.Forall2
import Spreadsheet.Proofs.Formula.Evaluable
import Spreadsheet.Proofs.Formula.Evaluation
import Spreadsheet.Proofs.Formula.Replacement

/-!
# Formulas that differ in their spelling

Two formulas are `EqualUpTo` relations of numbers and of names if they have the same operators,
texts and cells in the same places, and related numbers and names of functions. How numbers are
written, and whether references are in small letters, is no part of that. They are `Equals` if the
numbers are equal and the names the same, and `SameButSpelling` if the names are of the same
functions; then they read the same cells and have the same value (`SameButSpelling.eval_eq`).
-/

namespace Spreadsheet.Expr

/-- The formulas are the same up to numbers and names that are related and to the way in which
numbers and references are written. -/
inductive EqualUpTo (numbers : Binary64 → Binary64 → Prop) (names : String → String → Prop) :
    Expr → Expr → Prop
  | number {value value' : Binary64} (h : numbers value value') (spelling spelling' : String) :
      EqualUpTo numbers names (.number value spelling) (.number value' spelling')
  | string (text : String) : EqualUpTo numbers names (.string text) (.string text)
  | cell (target : Coord) (small small' : Bool) :
      EqualUpTo numbers names (.cell target small) (.cell target small')
  | range (top left bottom right : Int) (small small' : Bool) :
      EqualUpTo numbers names (.range top left bottom right small)
        (.range top left bottom right small')
  | columns (first last : Int) (small small' : Bool) :
      EqualUpTo numbers names (.columns first last small) (.columns first last small')
  | deletedReference : EqualUpTo numbers names .deletedReference .deletedReference
  | unary (op : UnaryOp) {operand operand' : Expr} (h : EqualUpTo numbers names operand operand') :
      EqualUpTo numbers names (.unary op operand) (.unary op operand')
  | binary (op : BinaryOp) {left left' right right' : Expr}
      (hleft : EqualUpTo numbers names left left') (hright : EqualUpTo numbers names right right') :
      EqualUpTo numbers names (.binary op left right) (.binary op left' right')
  | call {name name' : String} (hname : names name name') {args args' : List Expr}
      (hargs : List.Forall₂ (EqualUpTo numbers names) args args') :
      EqualUpTo numbers names (.call name args) (.call name' args')

/-- The formulas are equal: equal numbers and the same texts, cells, operators and names. -/
def Equals (e e' : Expr) : Prop := e.EqualUpTo (fun x y => x.equal y) Eq e'

/-- The formulas are the same but for the letters in which numbers, names of functions and
references are written. -/
def SameButSpelling (e e' : Expr) : Prop :=
  e.EqualUpTo Eq (fun name name' => Registry.key name = Registry.key name') e'

variable {functions : Registry} {source : Source} {origin : Option Coord} {e e' : Expr}

namespace SameButSpelling

theorem isReference_eq (h : e.SameButSpelling e') : e'.isReference = e.isReference := by
  cases h <;> rfl

/-- References cover the same values. -/
theorem argument_eq (h : e.SameButSpelling e') :
    source.argument origin e' = source.argument origin e := by
  cases h <;> rfl

/-- Formulas that are the same but for their spelling cover the same cells. -/
theorem flatMap_coveredCells (h : e.SameButSpelling e') (nRows : Int) :
    e'.nodes.flatMap (coveredCells nRows origin) = e.nodes.flatMap (coveredCells nRows origin) := by
  induction e using Expr.induction generalizing e' with
  | number | string | deletedReference => cases h; rfl
  | reference ref href => cases h <;> first | rfl | cases href
  | unary op operand ih =>
    cases h with
    | unary _ h => simpa [nodes, coveredCells] using ih h
  | binary op left right ihLeft ihRight =>
    cases h with
    | binary _ hleft hright => simp [nodes, coveredCells, ihLeft hleft, ihRight hright]
  | call name args ih =>
    cases h with
    | call _ hargs =>
      rw [nodes, nodes, List.flatMap_cons, List.flatMap_cons,
        flatMap_nodesOfAll hargs fun arg harg _ => ih arg harg]
      rfl

theorem reads_eq (h : e.SameButSpelling e') (nRows : Int) (origin : Option Coord) :
    e'.reads nRows origin = e.reads nRows origin :=
  congrArg Coord.ascending (h.flatMap_coveredCells nRows)

/-- A function is found under each of its names. -/
theorem call_eq {name name' : String} (h : Registry.key name = Registry.key name')
    (hfind : (functions.find? name).isSome) :
    functions.find? name' = functions.find? name ∧ functions.call name' = functions.call name := by
  have hsame : functions.find? name' = functions.find? name := by
    rw [Registry.find?, Registry.find?, h]
  obtain ⟨function, hfunction⟩ := Option.isSome_iff_exists.1 hfind
  refine ⟨hsame, funext fun args => ?_⟩
  rw [Registry.call, Registry.call, hsame, hfunction]

theorem evalAll_eq {args args' : List Expr} (h : List.Forall₂ SameButSpelling args args')
    (heval : ∀ arg ∈ args, ∀ arg' : Expr, arg.SameButSpelling arg' →
      arg'.eval functions source origin = arg.eval functions source origin) :
    evalAll functions source origin args' = evalAll functions source origin args := by
  induction h with
  | nil => rfl
  | cons harg _ ih =>
    obtain ⟨hfirst, hrest⟩ := List.forall_mem_cons.1 heval
    rw [evalAll, evalAll, harg.isReference_eq, harg.argument_eq, hfirst _ harg, ih hrest]

/-- Formulas that are the same but for their spelling have the same value, if the functions that
they call are known. -/
theorem eval_eq (h : e.SameButSpelling e') (he : e.Evaluable functions) :
    e'.eval functions source origin = e.eval functions source origin := by
  induction e using Expr.induction generalizing e' with
  | number value spelling =>
    cases h with
    | number h =>
      rw [eval, eval, h]
  | string | deletedReference => cases h; rfl
  | reference ref href =>
    rw [eval_of_isReference href, eval_of_isReference (h.isReference_eq ▸ href), h.argument_eq]
  | unary op operand ih =>
    cases h with
    | unary _ h => rw [eval, eval, ih h (evaluable_unary.1 he)]
  | binary op left right ihLeft ihRight =>
    obtain ⟨-, hleftKnown, hrightKnown⟩ := evaluable_binary.1 he
    cases h with
    | binary _ hleft hright =>
      rw [eval, eval, ihLeft hleft hleftKnown, ihRight hright hrightKnown]
  | call name args ih =>
    obtain ⟨⟨function, hfunction, -⟩, hargsKnown⟩ := evaluable_call.1 he
    cases h with
    | @call _ name' hname _ args' hargs =>
      have hfind := Option.isSome_of_eq_some hfunction
      obtain ⟨hsame, hcall⟩ := call_eq hname hfind
      have hvalues := evalAll_eq hargs fun arg harg _ h => ih arg harg h (hargsKnown arg harg)
      rw [eval, eval, hsame, if_pos hfind, if_pos hfind, hcall, hvalues]

end SameButSpelling

end Spreadsheet.Expr

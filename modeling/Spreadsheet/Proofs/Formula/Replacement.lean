import Mathlib.Data.List.Forall2
import Spreadsheet.Proofs.Formula.Evaluation
import Spreadsheet.Proofs.Formula.Nodes

/-!
# Formulas that differ in their references

Two formulas that are the same but for their references (`Expr.SameBut`) have the same value if each
reference of the one looks to functions like that of the other (`SameBut.eval_eq`). What functions
see of an argument is a parameter of this (`Registry.Sees`): every function sees the argument itself
at most (`Registry.sees_id`).
-/

namespace Spreadsheet

variable {α β γ ε : Type} {view : Argument → α} {functions : Registry}

/-! ## What functions see -/

/-- The functions see no more of an argument than the view of it. -/
structure Registry.Sees (functions : Registry) (view : Argument → α) : Prop where
  scalar : ∀ arg arg', view arg = view arg' → arg.scalar = arg'.scalar
  call : ∀ (name : String) (args args' : List Argument), args.map view = args'.map view →
    functions.call name args = functions.call name args'

/-- Functions see nothing but their arguments. -/
theorem Registry.sees_id (functions : Registry) : functions.Sees id where
  scalar _ _ h := congrArg Argument.scalar h
  call name args args' h := by
    rw [List.map_id, List.map_id] at h
    rw [h]

namespace Expr

/-! ## Arguments of calls -/

/-- A formula as an argument of a call: a reference as all its cells. -/
def evalArgument (functions : Registry) (source : Source) (origin : Option Coord) (e : Expr) :
    Except EvalFault Argument :=
  if e.isReference then source.argument origin e
  else Argument.value <$> e.eval functions source origin

theorem evalAll_eq_mapM (functions : Registry) (source : Source) (origin : Option Coord)
    (args : List Expr) :
    evalAll functions source origin args = args.mapM (evalArgument functions source origin) := by
  induction args with
  | nil =>
    rw [evalAll]
    rfl
  | cons arg args ih =>
    rw [evalAll, ih, List.mapM_cons, evalArgument]
    cases arg.isReference <;> rfl

/-- What goes on with a result is the same where it depends on the view of it alone. -/
theorem bind_eq_of_map_view {view : β → α} {f : β → Except ε γ} {result result' : Except ε β}
    (h : result'.map view = result.map view)
    (hf : ∀ x x', view x = view x' → f x = f x') : result' >>= f = result >>= f := by
  cases result' with
  | error fault =>
    cases result with
    | error fault' => exact congrArg Except.error (Except.error.inj h)
    | ok x => cases h
  | ok x' =>
    cases result with
    | error fault => cases h
    | ok x => exact hf x' x (Except.ok.inj h)

/-! ## Two formulas -/

/-- What is listed of the nodes of arguments is the same if it is so of related ones, one by one. -/
theorem flatMap_nodesOfAll {R : Expr → Expr → Prop} {f : Expr → List α} {args args' : List Expr}
    (h : List.Forall₂ R args args')
    (hf : ∀ arg ∈ args, ∀ arg', R arg arg' → arg'.nodes.flatMap f = arg.nodes.flatMap f) :
    (nodesOfAll args').flatMap f = (nodesOfAll args).flatMap f := by
  induction h with
  | nil => rfl
  | cons harg _ ih =>
    obtain ⟨hfirst, hrest⟩ := List.forall_mem_cons.1 hf
    rw [nodesOfAll, nodesOfAll, List.flatMap_append, List.flatMap_append, hfirst _ harg, ih hrest]

/-- The two formulas are the same but for references, which are related. -/
inductive SameBut (R : Expr → Expr → Prop) : Expr → Expr → Prop
  | number (value : Binary64) (spelling : String) :
      SameBut R (.number value spelling) (.number value spelling)
  | string (text : String) : SameBut R (.string text) (.string text)
  | reference {ref ref' : Expr} (href : ref.isReference) (h : R ref ref') : SameBut R ref ref'
  | deletedReference : SameBut R .deletedReference .deletedReference
  | unary (op : UnaryOp) {operand operand' : Expr} (h : SameBut R operand operand') :
      SameBut R (.unary op operand) (.unary op operand')
  | binary (op : BinaryOp) {left left' right right' : Expr} (hleft : SameBut R left left')
      (hright : SameBut R right right') :
      SameBut R (.binary op left right) (.binary op left' right')
  | call (name : String) {args args' : List Expr} (h : List.Forall₂ (SameBut R) args args') :
      SameBut R (.call name args) (.call name args')

variable {R : Expr → Expr → Prop} {e e' : Expr} {source source' : Source}
  {origin origin' : Option Coord} {replace : Expr → Option Expr}

/-- A formula is the same but for its references when these are replaced. -/
theorem sameBut_replaceReferences
    (h : e.Throughout fun node => node.isReference → R node (node.replaceReferences replace)) :
    e.SameBut R (e.replaceReferences replace) := by
  induction e using Expr.induction with
  | number value spelling => exact .number value spelling
  | string text => exact .string text
  | deletedReference => exact .deletedReference
  | reference ref href => exact .reference href ((throughout_of_isReference href).1 h href)
  | unary op operand ih =>
    rw [replaceReferences_unary]
    exact .unary op (ih (throughout_unary.1 h).2)
  | binary op left right ihLeft ihRight =>
    obtain ⟨-, hleft, hright⟩ := throughout_binary.1 h
    rw [replaceReferences_binary]
    exact .binary op (ihLeft hleft) (ihRight hright)
  | call name args ih =>
    obtain ⟨-, hargs⟩ := throughout_call.1 h
    rw [replaceReferences_call]
    refine .call name (List.forall₂_map_right_iff.2 (List.forall₂_same.2 fun arg harg => ?_))
    exact ih arg harg (hargs arg harg)

namespace SameBut

/-- Where references become references, the formulas are both references or both not. -/
theorem isReference_eq (hR : ∀ ref ref' : Expr, ref.isReference → R ref ref' → ref'.isReference)
    (h : e.SameBut R e') : e'.isReference = e.isReference := by
  cases h with
  | reference href h => rw [href, hR _ _ href h]
  | _ => rfl

/-- What is listed of the nodes of a formula is the same, if it is listed of references alone and
the same of those that are related. -/
theorem flatMap_nodes {f : Expr → List α} (hf : ∀ node, node.isReference = false → f node = [])
    (hR : ∀ ref ref' : Expr, ref.isReference → R ref ref' →
      ref'.isReference ∧ f ref' = f ref) (h : e.SameBut R e') :
    e'.nodes.flatMap f = e.nodes.flatMap f := by
  induction e using Expr.induction generalizing e' with
  | number | string | deletedReference =>
    cases h with
    | reference href => cases href
    | _ => rfl
  | reference ref href =>
    cases h with
    | reference _ h =>
      obtain ⟨href', heq⟩ := hR _ _ href h
      rw [nodes_of_isReference href, nodes_of_isReference href', List.flatMap_singleton,
        List.flatMap_singleton, heq]
    | _ => cases href
  | unary op operand ih =>
    cases h with
    | reference href => cases href
    | unary _ h => rw [nodes, nodes, List.flatMap_cons, List.flatMap_cons, hf _ rfl, hf _ rfl, ih h]
  | binary op left right ihLeft ihRight =>
    cases h with
    | reference href => cases href
    | binary _ hleft hright =>
      rw [nodes, nodes, List.flatMap_cons, List.flatMap_cons, List.flatMap_append,
        List.flatMap_append, hf _ rfl, hf _ rfl, ihLeft hleft, ihRight hright]
  | call name args ih =>
    cases h with
    | reference href => cases href
    | call _ hargs =>
      rw [nodes, nodes, List.flatMap_cons, List.flatMap_cons, hf _ rfl, hf _ rfl,
        flatMap_nodesOfAll hargs fun arg harg _ => ih arg harg]

/-! ## Their values -/

/-- Arguments that are evaluated to such as are viewed alike, one by one, are viewed alike. -/
theorem map_view_mapM {args args' : List γ} {f f' : γ → Except ε β} {view : β → α}
    (h : List.Forall₂ (fun arg arg' => (f' arg').map view = (f arg).map view) args args') :
    (args'.mapM f').map (List.map view) = (args.mapM f).map (List.map view) := by
  have hcons (f : γ → Except ε β) (arg : γ) (args : List γ) :
      ((arg :: args).mapM f).map (List.map view) = (do
        let first ← (f arg).map view
        let rest ← (args.mapM f).map (List.map view)
        return first :: rest) := by
    rw [List.mapM_cons]
    cases f arg with
    | error fault => rfl
    | ok first => cases args.mapM f <;> rfl
  induction h with
  | nil => rfl
  | cons harg _ ih => rw [hcons, hcons, harg, ih]

/-- A related argument is viewed alike if a related formula has the same value. -/
theorem map_view_evalArgument
    (hR : ∀ ref ref' : Expr, ref.isReference → R ref ref' → ref'.isReference ∧
      (source'.argument origin' ref').map view = (source.argument origin ref).map view)
    (h : e.SameBut R e')
    (heval : e'.eval functions source' origin' = e.eval functions source origin) :
    (evalArgument functions source' origin' e').map view =
      (evalArgument functions source origin e).map view := by
  have heq := h.isReference_eq fun ref ref' href hrel => (hR ref ref' href hrel).1
  rw [evalArgument, evalArgument, heq, heval]
  cases href : e.isReference with
  | true =>
    cases h with
    | reference _ h => exact (hR _ _ href h).2
    | _ => cases href
  | false => rfl

/-- Two formulas have the same value, each in its place on its sheet, where the references of the
one look to the functions like those of the other. -/
theorem eval_eq (hfunctions : functions.Sees view)
    (hR : ∀ ref ref' : Expr, ref.isReference → R ref ref' → ref'.isReference ∧
      (source'.argument origin' ref').map view = (source.argument origin ref).map view)
    (h : e.SameBut R e') :
    e'.eval functions source' origin' = e.eval functions source origin := by
  have hreference {ref ref' : Expr} (href : ref.isReference) (h : R ref ref') :
      ref'.eval functions source' origin' = ref.eval functions source origin := by
    obtain ⟨href', hview⟩ := hR _ _ href h
    rw [eval_of_isReference href, eval_of_isReference href']
    exact bind_eq_of_map_view hview fun arg arg' harg =>
      congrArg Except.ok (hfunctions.scalar arg arg' harg)
  induction e using Expr.induction generalizing e' with
  | number | string | deletedReference =>
    cases h with
    | reference href => cases href
    | _ => rw [eval, eval]
  | reference ref href =>
    cases h with
    | reference _ h => exact hreference href h
    | _ => cases href
  | unary op operand ih =>
    cases h with
    | reference href => cases href
    | unary _ h => rw [eval, eval, ih h]
  | binary op left right ihLeft ihRight =>
    cases h with
    | reference href => cases href
    | binary _ hleft hright => rw [eval, eval, ihLeft hleft, ihRight hright]
  | call name args ih =>
    cases h with
    | reference href => cases href
    | @call _ _ args' hargs =>
      have hviews : (evalAll functions source' origin' args').map (List.map view) =
          (evalAll functions source origin args).map (List.map view) := by
        rw [evalAll_eq_mapM, evalAll_eq_mapM]
        refine map_view_mapM ((List.forall₂_and_left _ _).2 ⟨ih, hargs⟩ |>.imp ?_)
        rintro arg arg' ⟨ih, harg⟩
        exact map_view_evalArgument hR harg (ih harg)
      rw [eval, eval]
      refine ite_congr rfl (fun _ => ?_) fun _ => rfl
      exact bind_eq_of_map_view hviews (hfunctions.call name)

end SameBut

end Expr

end Spreadsheet

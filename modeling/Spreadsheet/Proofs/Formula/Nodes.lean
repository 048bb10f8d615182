import Spreadsheet.Formula.Move

/-!
# Properties of all nodes of a formula

`Expr.Throughout p` says that `p` holds of a tree and of all its subtrees. When references are
replaced, every other node keeps its root (`Expr.SameRoot`), so a property that looks at roots alone
need only be checked of what references become (`Throughout.replaceReferences`).
-/

namespace Spreadsheet.Expr

variable {p q : Expr → Prop}

/-- Induction on a formula, over all arguments of a call at once. -/
@[elab_as_elim]
theorem induction {motive : Expr → Prop}
    (number : ∀ value spelling, motive (.number value spelling))
    (string : ∀ text, motive (.string text))
    (reference : ∀ ref : Expr, ref.isReference → motive ref)
    (deletedReference : motive .deletedReference)
    (unary : ∀ op operand, motive operand → motive (.unary op operand))
    (binary : ∀ op left right, motive left → motive right → motive (.binary op left right))
    (call : ∀ name args, (∀ arg ∈ args, motive arg) → motive (.call name args)) (e : Expr) :
    motive e :=
  e.rec (motive_2 := fun args => ∀ arg ∈ args, motive arg) number string
    (fun _ _ => reference _ rfl) (fun _ _ _ _ _ => reference _ rfl) (fun _ _ _ => reference _ rfl)
    deletedReference unary binary call (fun _ h => absurd h List.not_mem_nil)
    fun _ _ hfirst hrest => List.forall_mem_cons.2 ⟨hfirst, hrest⟩

theorem mem_nodesOfAll {node : Expr} {args : List Expr} :
    node ∈ nodesOfAll args ↔ ∃ arg ∈ args, node ∈ arg.nodes := by
  induction args with
  | nil => simp [nodesOfAll]
  | cons arg args ih => simp [nodesOfAll, ih]

/-- The property holds of the tree and of all its subtrees. -/
def Throughout (p : Expr → Prop) (e : Expr) : Prop := ∀ node ∈ e.nodes, p node

theorem throughout_unary {op : UnaryOp} {operand : Expr} :
    (Expr.unary op operand).Throughout p ↔ p (.unary op operand) ∧ operand.Throughout p := by
  rw [Throughout, nodes, List.forall_mem_cons]
  rfl

theorem throughout_binary {op : BinaryOp} {left right : Expr} :
    (Expr.binary op left right).Throughout p ↔
      p (.binary op left right) ∧ left.Throughout p ∧ right.Throughout p := by
  rw [Throughout, nodes, List.forall_mem_cons, List.forall_mem_append]
  rfl

theorem throughout_call {name : String} {args : List Expr} :
    (Expr.call name args).Throughout p ↔
      p (.call name args) ∧ ∀ arg ∈ args, arg.Throughout p := by
  rw [Throughout, nodes, List.forall_mem_cons]
  refine and_congr_right fun _ => ⟨fun h arg harg node hnode => ?_, fun h node hnode => ?_⟩
  · exact h node (mem_nodesOfAll.2 ⟨arg, harg, hnode⟩)
  · obtain ⟨arg, harg, hnode⟩ := mem_nodesOfAll.1 hnode
    exact h arg harg node hnode

theorem throughout_of_nodes {e : Expr} (h : e.nodes = [e]) : e.Throughout p ↔ p e := by
  rw [Throughout, h, List.forall_mem_singleton]

theorem nodes_of_isReference {e : Expr} (h : e.isReference) : e.nodes = [e] := by
  cases e <;> first | rfl | cases h

theorem throughout_of_isReference {e : Expr} (h : e.isReference) : e.Throughout p ↔ p e :=
  throughout_of_nodes (nodes_of_isReference h)

theorem Throughout.mono {e : Expr} (h : e.Throughout p) (hpq : ∀ node, p node → q node) :
    e.Throughout q :=
  fun node hnode => hpq node (h node hnode)

/-! ## Replaced references -/

/-- The two trees have the same root, and it is no reference. -/
inductive SameRoot : Expr → Expr → Prop
  | number (value : Binary64) (spelling : String) :
      SameRoot (.number value spelling) (.number value spelling)
  | string (text : String) : SameRoot (.string text) (.string text)
  | deletedReference : SameRoot .deletedReference .deletedReference
  | unary (op : UnaryOp) (operand operand' : Expr) :
      SameRoot (.unary op operand) (.unary op operand')
  | binary (op : BinaryOp) (left left' right right' : Expr) :
      SameRoot (.binary op left right) (.binary op left' right')
  | call (name : String) {args args' : List Expr} (h : args.length = args'.length) :
      SameRoot (.call name args) (.call name args')

/-- The formula with its references replaced where `replace` gives something for them. -/
def replaceReferences (replace : Expr → Option Expr) (e : Expr) : Expr :=
  (e.mapReferences? replace).getD e

variable {replace : Expr → Option Expr}

theorem replaceReferences_unary (op : UnaryOp) (operand : Expr) :
    (Expr.unary op operand).replaceReferences replace =
      .unary op (operand.replaceReferences replace) := by
  rw [replaceReferences, mapReferences?, replaceReferences]
  cases operand.mapReferences? replace <;> rfl

theorem replaceReferences_binary (op : BinaryOp) (left right : Expr) :
    (Expr.binary op left right).replaceReferences replace =
      .binary op (left.replaceReferences replace) (right.replaceReferences replace) := by
  rw [replaceReferences, mapReferences?, replaceReferences, replaceReferences]
  cases left.mapReferences? replace <;> cases right.mapReferences? replace <;> rfl

theorem getD_mapAllReferences? (args : List Expr) :
    (mapAllReferences? replace args).getD args = args.map (replaceReferences replace) := by
  induction args with
  | nil => rfl
  | cons e es ih =>
    rw [mapAllReferences?, List.map_cons, ← ih, replaceReferences]
    cases e.mapReferences? replace <;> cases mapAllReferences? replace es <;> rfl

theorem replaceReferences_call (name : String) (args : List Expr) :
    (Expr.call name args).replaceReferences replace =
      .call name (args.map (replaceReferences replace)) := by
  rw [← getD_mapAllReferences?, replaceReferences, mapReferences?]
  cases mapAllReferences? replace args <;> rfl

theorem replaceReferences_of_isReference {ref : Expr} (h : ref.isReference) :
    ref.replaceReferences replace = (replace ref).getD ref := by
  cases ref <;> first | rfl | cases h

theorem replaceReferences_some {f : Expr → Expr} {ref : Expr} (h : ref.isReference) :
    ref.replaceReferences (fun ref => some (f ref)) = f ref :=
  replaceReferences_of_isReference h

theorem SameRoot.isReference {node node' : Expr} (h : SameRoot node node') :
    node'.isReference = false := by
  cases h <;> rfl

/-- A tree that is no reference keeps its root. -/
theorem sameRoot_replaceReferences {e : Expr} (h : e.isReference = false) :
    SameRoot e (e.replaceReferences replace) := by
  cases e with
  | number value spelling => exact .number value spelling
  | string text => exact .string text
  | deletedReference => exact .deletedReference
  | unary op operand => exact replaceReferences_unary op operand ▸ .unary op operand _
  | binary op left right => exact replaceReferences_binary op left right ▸ .binary op left _ right _
  | call name args => exact replaceReferences_call name args ▸ .call name (List.length_map _).symm
  | _ => cases h

theorem nodesOfAll_map {f : Expr → Expr} {args : List Expr}
    (h : ∀ arg ∈ args, (f arg).nodes = arg.nodes.map f) :
    nodesOfAll (args.map f) = (nodesOfAll args).map f := by
  induction args with
  | nil => rfl
  | cons arg args ih =>
    obtain ⟨harg, hargs⟩ := List.forall_mem_cons.1 h
    rw [List.map_cons, nodesOfAll, nodesOfAll, List.map_append, harg, ih hargs]

/-- Where each reference is replaced by one node, the new formula has a node for each old one. -/
theorem nodes_replaceReferences {e : Expr}
    (h : e.Throughout fun node => node.isReference →
      (node.replaceReferences replace).nodes = [node.replaceReferences replace]) :
    (e.replaceReferences replace).nodes = e.nodes.map (replaceReferences replace) := by
  induction e using Expr.induction with
  | number | string | deletedReference => rfl
  | reference ref href =>
    rw [(throughout_of_isReference href).1 h href, nodes_of_isReference href, List.map_singleton]
  | unary op operand ih =>
    rw [nodes, List.map_cons, ← ih (throughout_unary.1 h).2, replaceReferences_unary, nodes]
  | binary op left right ihLeft ihRight =>
    obtain ⟨-, hleft, hright⟩ := throughout_binary.1 h
    rw [nodes, List.map_cons, List.map_append, ← ihLeft hleft, ← ihRight hright,
      replaceReferences_binary, nodes]
  | call name args ih =>
    obtain ⟨-, hargs⟩ := throughout_call.1 h
    rw [nodes, List.map_cons, ← nodesOfAll_map fun arg harg => ih arg harg (hargs arg harg),
      replaceReferences_call, nodes]

/-- A formula stays as it is where no reference is replaced. -/
theorem replaceReferences_none (e : Expr) : e.replaceReferences (fun _ => none) = e := by
  induction e using Expr.induction with
  | number | string | deletedReference => rfl
  | reference ref href => exact replaceReferences_of_isReference href
  | unary op operand ih => rw [replaceReferences_unary, ih]
  | binary op left right ihLeft ihRight => rw [replaceReferences_binary, ihLeft, ihRight]
  | call name args ih => rw [replaceReferences_call, List.map_congr_left ih, List.map_id']

/-- A formula becomes the same under two replacements that agree on its references. -/
theorem replaceReferences_congr {replace' : Expr → Option Expr} {e : Expr}
    (h : e.Throughout fun node => node.isReference →
      node.replaceReferences replace = node.replaceReferences replace') :
    e.replaceReferences replace = e.replaceReferences replace' := by
  induction e using Expr.induction with
  | number | string | deletedReference => rfl
  | reference ref href => exact (throughout_of_isReference href).1 h href
  | unary op operand ih =>
    rw [replaceReferences_unary, replaceReferences_unary, ih (throughout_unary.1 h).2]
  | binary op left right ihLeft ihRight =>
    obtain ⟨-, hleft, hright⟩ := throughout_binary.1 h
    rw [replaceReferences_binary, replaceReferences_binary, ihLeft hleft, ihRight hright]
  | call name args ih =>
    obtain ⟨-, hargs⟩ := throughout_call.1 h
    rw [replaceReferences_call, replaceReferences_call,
      List.map_congr_left fun arg harg => ih arg harg (hargs arg harg)]

/-- References replaced twice are replaced by what they become in the end. -/
theorem replaceReferences_replaceReferences (first second : Expr → Option Expr) (e : Expr) :
    (e.replaceReferences first).replaceReferences second =
      e.replaceReferences fun ref =>
        some ((ref.replaceReferences first).replaceReferences second) := by
  induction e using Expr.induction with
  | number | string | deletedReference => rfl
  | reference ref href => rw [replaceReferences_some href]
  | unary op operand ih =>
    rw [replaceReferences_unary, replaceReferences_unary, ih, replaceReferences_unary]
  | binary op left right ihLeft ihRight =>
    rw [replaceReferences_binary, replaceReferences_binary, ihLeft, ihRight,
      replaceReferences_binary]
  | call name args ih =>
    rw [replaceReferences_call, replaceReferences_call, List.map_map, replaceReferences_call]
    exact congrArg (Expr.call name) (List.map_congr_left ih)

/-- A property of roots holds of the new formula if it holds of what references become. -/
theorem Throughout.replaceReferences {e : Expr} (h : e.Throughout p)
    (hreference : ∀ ref, ref.isReference → p ref → ((replace ref).getD ref).Throughout q)
    (hroot : ∀ node node', SameRoot node node' → p node → q node') :
    (e.replaceReferences replace).Throughout q := by
  induction e using Expr.induction with
  | number value spelling =>
    exact (throughout_of_nodes rfl).2 (hroot _ _ (.number ..) ((throughout_of_nodes rfl).1 h))
  | string text =>
    exact (throughout_of_nodes rfl).2 (hroot _ _ (.string ..) ((throughout_of_nodes rfl).1 h))
  | deletedReference =>
    exact (throughout_of_nodes rfl).2 (hroot _ _ .deletedReference ((throughout_of_nodes rfl).1 h))
  | reference ref href =>
    rw [replaceReferences_of_isReference href]
    exact hreference ref href ((throughout_of_isReference href).1 h)
  | unary op operand ih =>
    obtain ⟨hp, hoperand⟩ := throughout_unary.1 h
    rw [replaceReferences_unary]
    exact throughout_unary.2 ⟨hroot _ _ (.unary ..) hp, ih hoperand⟩
  | binary op left right ihLeft ihRight =>
    obtain ⟨hp, hleft, hright⟩ := throughout_binary.1 h
    rw [replaceReferences_binary]
    exact throughout_binary.2 ⟨hroot _ _ (.binary ..) hp, ihLeft hleft, ihRight hright⟩
  | call name args ih =>
    obtain ⟨hp, hargs⟩ := throughout_call.1 h
    rw [replaceReferences_call]
    refine throughout_call.2 ⟨hroot _ _ (.call name (List.length_map _).symm) hp, ?_⟩
    exact List.forall_mem_map.2 fun arg harg => ih arg harg (hargs arg harg)

end Spreadsheet.Expr

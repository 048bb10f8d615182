import Spreadsheet.Proofs.Sheet.Procedure

/-!
# Steps that keep the frame of a sheet

Steps that only write cells and what these read leave the rest of the sheet as it is, wherever one
of them fails (`Procedure.KeepsFrame`). These are all steps that enter texts, write formulas or
compute them.
-/

namespace Spreadsheet.Procedure

/-- The state after steps that were all made, or after the one that failed. -/
def stateAfter {σ α : Type} (p : EStateM StepFault σ α) (s : σ) : σ :=
  match p.run s with
  | .ok _ t => t
  | .error _ t => t

section Bind

variable {σ α β : Type} {p : EStateM StepFault σ α} {k : α → EStateM StepFault σ β} {s t : σ}
  {a : α} {e : StepFault}

theorem stateAfter_of_ok (h : p.run s = .ok a t) : stateAfter p s = t := by
  rw [stateAfter, h]

theorem stateAfter_of_error (h : p.run s = .error e t) : stateAfter p s = t := by
  rw [stateAfter, h]

theorem stateAfter_bind (h : p.run s = .ok a t) :
    stateAfter (p >>= k) s = stateAfter (k a) t := by
  rw [stateAfter, run_bind h, stateAfter]

theorem stateAfter_map (f : α → β) (p : EStateM StepFault σ α) (s : σ) :
    stateAfter (f <$> p) s = stateAfter p s := by
  simp only [stateAfter, EStateM.run, Functor.map, EStateM.map]
  cases p s <;> rfl

end Bind

variable {α β : Type} {p : Procedure α} {k : α → Procedure β} {s t : Sheet}

/-- The steps leave the frame of the sheet as it is, also where one of them fails. -/
def KeepsFrame (p : Procedure α) : Prop := ∀ s : Sheet, s.SameFrame (stateAfter p s)

/-! ## Steps one after the other -/

theorem keepsFrame_pure (a : α) : KeepsFrame (pure a) := Sheet.SameFrame.refl

theorem KeepsFrame.bind (h : KeepsFrame p) (hk : ∀ a, KeepsFrame (k a)) : KeepsFrame (p >>= k) := by
  intro s
  have hs := h s
  cases hrun : p.run s with
  | ok a t =>
    rw [stateAfter_of_ok hrun] at hs
    rw [stateAfter_bind hrun]
    exact hs.trans (hk a t)
  | error e t =>
    rw [stateAfter_of_error hrun] at hs
    rwa [stateAfter_of_error (run_bind_of_error hrun)]

theorem KeepsFrame.map (h : KeepsFrame p) (f : α → β) : KeepsFrame (f <$> p) := by
  intro s
  rw [stateAfter_map]
  exact h s

theorem keepsFrame_get {k : Sheet → Procedure β} (h : ∀ s, KeepsFrame (k s)) :
    KeepsFrame (get >>= k) := fun s => h s s

theorem keepsFrame_forM {loop : α → Procedure Unit} (h : ∀ x, KeepsFrame (loop x)) (xs : List α) :
    KeepsFrame (xs.forM loop) := by
  induction xs with
  | nil => exact keepsFrame_pure ()
  | cons x xs ih => exact (h x).bind fun _ => ih

/-! ## Single steps -/

theorem keepsFrame_throw (e : StepFault) : KeepsFrame (throw e : Procedure α) :=
  Sheet.SameFrame.refl

theorem keepsFrame_check (result : Sheet → Except EditFault α) : KeepsFrame (check result) := by
  refine keepsFrame_get fun s => ?_
  cases result s with
  | ok a => exact keepsFrame_pure a
  | error fault => exact keepsFrame_throw _

theorem keepsFrame_write {change : Sheet → Sheet} (h : ∀ s : Sheet, s.SameFrame (change s)) :
    KeepsFrame (write change) := h

theorem run_compute_of_error {change : Sheet → Except EvalFault Sheet} {fault : EvalFault}
    (h : change s = .error fault) : (compute change).run s = .error (.value fault) s := by
  simp only [compute, EStateM.run, bind, EStateM.bind, get, getThe, MonadStateOf.get, EStateM.get,
    h]
  rfl

theorem keepsFrame_compute {change : Sheet → Except EvalFault Sheet}
    (h : ∀ s t, change s = .ok t → s.SameFrame t) : KeepsFrame (compute change) := by
  intro s
  cases hchange : change s with
  | ok t =>
    rw [stateAfter_of_ok (run_compute hchange)]
    exact h s t hchange
  | error fault =>
    rw [stateAfter_of_error (run_compute_of_error hchange)]
    exact .refl s

theorem keepsFrame_lookUp (cell : Coord) : KeepsFrame (lookUp cell) := by
  refine keepsFrame_get fun s => ?_
  cases s.rows.get? cell with
  | some c => exact keepsFrame_pure c
  | none => exact keepsFrame_throw _

theorem keepsFrame_checkText (formula : Expr) : KeepsFrame (checkText formula) := by
  unfold checkText
  split
  · exact keepsFrame_throw _
  · exact keepsFrame_pure ()

theorem keepsFrame_checkWords (body : String) : KeepsFrame (checkWords body) := by
  unfold checkWords
  split
  · refine keepsFrame_forM (fun token => ?_) _
    split
    · unfold checkNumber
      split
      · exact keepsFrame_pure ()
      · exact keepsFrame_throw _
    · exact keepsFrame_pure ()
  · exact keepsFrame_pure ()

/-! ## Computing -/

theorem sameFrame_evaluateCell? {cell : Coord} (h : s.evaluateCell? cell = .ok t) :
    s.SameFrame t := by
  unfold Sheet.evaluateCell? at h
  split at h
  · split at h
    · obtain ⟨value, -, h⟩ := bind_eq_ok.1 h
      cases h
      exact s.sameFrame_modifyCell cell _
    · cases h
      exact .refl s
  · cases h

theorem sameFrame_markCircular? {cell : Coord} (h : s.markCircular? cell = .ok t) :
    s.SameFrame t := by
  unfold Sheet.markCircular? at h
  split at h
  · cases h
    exact s.sameFrame_modifyCell cell _
  · cases h

theorem keepsFrame_settle (schedule : Schedule) (before : Sheet) (depth : Nat) :
    KeepsFrame (settle schedule before depth) := by
  refine (keepsFrame_forM (fun cell => (keepsFrame_lookUp cell).map _) _).bind fun _ => ?_
  refine (keepsFrame_forM (fun cell => keepsFrame_compute ?_) _).bind fun _ => ?_
  · exact fun s t => sameFrame_evaluateCell?
  refine (keepsFrame_forM (fun cell => keepsFrame_compute ?_) _).bind fun _ => ?_
  · exact fun s t => sameFrame_markCircular?
  exact keepsFrame_get fun _ => keepsFrame_pure _

theorem keepsFrame_recalculate : KeepsFrame recalculate :=
  keepsFrame_get fun s => keepsFrame_settle _ s 0

theorem keepsFrame_recalculateFrom (edited : List Coord) (before : Sheet) :
    KeepsFrame (recalculateFrom edited before) :=
  keepsFrame_get fun _ => keepsFrame_settle _ before _

theorem keepsFrame_link (cells : List Coord) : KeepsFrame (cells.forM fun cell => do
    discard (lookUp cell)
    write (·.link cell)) := by
  refine keepsFrame_forM (fun cell => ((keepsFrame_lookUp cell).map _).bind fun _ => ?_) cells
  exact keepsFrame_write fun _ => ⟨rfl, rfl⟩

theorem keepsFrame_unlink : KeepsFrame (write ({ · with links := .empty })) :=
  keepsFrame_write fun _ => ⟨rfl, rfl⟩

theorem keepsFrame_rebuild : KeepsFrame rebuild :=
  keepsFrame_unlink.bind fun _ => keepsFrame_get fun s =>
    (keepsFrame_link s.formulaCells).bind fun _ => keepsFrame_recalculate

/-! ## Entering texts -/

theorem keepsFrame_install (cell : Coord) (raw : String) : KeepsFrame (install cell raw) := by
  refine ((keepsFrame_lookUp cell).map _).bind fun _ => ?_
  refine (keepsFrame_write fun s => s.sameFrame_modifyCell cell _).bind fun _ => ?_
  have hwrite : KeepsFrame (write (·.install cell raw)) :=
    keepsFrame_write fun s => s.sameFrame_install cell raw
  refine keepsFrame_get fun s => ?_
  cases s.options.formulaBody? raw with
  | none => exact hwrite
  | some body => exact (keepsFrame_checkWords body).bind fun _ => hwrite

theorem keepsFrame_setText (cell : Coord) (raw : String) : KeepsFrame (setText cell raw) :=
  (keepsFrame_check _).bind fun _ => keepsFrame_get fun before =>
    (keepsFrame_install cell raw).bind fun _ => keepsFrame_recalculateFrom [cell] before

theorem keepsFrame_fill (origin target : Coord) : KeepsFrame (fill origin target) := by
  refine (keepsFrame_check _).bind fun _ => (keepsFrame_check _).bind fun _ =>
    (keepsFrame_lookUp origin).bind fun c => keepsFrame_get fun s => ?_
  have hrest (rows cols : Int) :
      KeepsFrame (check (·.filledText c rows cols) >>= setText target) :=
    (keepsFrame_check _).bind fun raw => keepsFrame_setText target raw
  cases c.formula with
  | none => exact hrest _ _
  | some formula => exact (keepsFrame_checkText _).bind fun _ => hrest _ _

theorem keepsFrame_installAll (entries : List (Coord × String)) :
    KeepsFrame (entries.forM fun entry => install entry.1 entry.2) := by
  refine keepsFrame_forM (fun entry => ?_) entries
  exact keepsFrame_install entry.1 entry.2

theorem keepsFrame_load (entries : List (Coord × String)) : KeepsFrame (load entries) :=
  (keepsFrame_forM (fun _ => keepsFrame_check _) _).bind fun _ =>
    (keepsFrame_installAll _).bind fun _ => keepsFrame_recalculate

/-! ## Formulas that follow a row or column -/

theorem keepsFrame_adjustCell (edit : LineEdit) (cell : Coord) :
    KeepsFrame (adjustCell edit cell) := by
  refine (keepsFrame_lookUp cell).bind fun c => ?_
  cases c.formula.bind (·.afterEdit? edit) with
  | none => exact keepsFrame_pure ()
  | some formula =>
    exact (keepsFrame_write fun s => s.sameFrame_modifyCell cell _).bind fun _ =>
      (keepsFrame_checkText formula).bind fun _ =>
        keepsFrame_write fun s => s.sameFrame_modifyCell cell _

theorem keepsFrame_adjustFormulas (edit : LineEdit) : KeepsFrame (adjustFormulas edit) :=
  keepsFrame_get fun s => keepsFrame_forM (keepsFrame_adjustCell edit) s.cells

end Spreadsheet.Procedure

import GripperDriver.Framework.Program

/-! # Programs Run Alone

    A thread with nobody else around, whose actions are partial functions. A program
    without loops can then be evaluated, and what a triple says of its complete runs holds
    of the one run that there is.

    * `Prog.eval`: the evaluation,
    * `Prog.LoopFree`: the programs that it evaluates,
    * `Triple.eval`: from partial to total correctness.
-/

namespace Interleaving

section evaluation
variable {S : Type} {A : Type → Type} {α β σ : Type}
  {step : {α : Type} → A α → S → Option (α × S)}

/-- Run a program, each action by `step`. `none` where an action has no answer, and at a loop. -/
def Prog.eval (step : {α : Type} → A α → S → Option (α × S)) :
    {α : Type} → Prog A α → S → Option (α × S)
  | _, .pure a, s => some (a, s)
  | _, .act a, s => step a s
  | _, .bind p k, s => (Prog.eval step p s).bind fun r => Prog.eval step (k r.1) r.2
  | _, .iter _ _, _ => none

/-- The thread whose actions are `step`, and that nobody disturbs. -/
def Thread.alone (step : {α : Type} → A α → S → Option (α × S)) : Thread S A where
  env _ _ := False
  perform a s r s' := step a s = some (r, s')

theorem runs_of_eval {p : Prog A α} {s s' : S} {a : α} (h : p.eval step s = some (a, s')) :
    Runs (Thread.alone step) p s (some a) s' := by
  induction p generalizing s s' with
  | pure b =>
    cases h
    exact runs_pure
  | act b => exact runs_act .refl h
  | bind p k ihp ihk =>
    obtain ⟨r, hr, hrest⟩ := Option.bind_eq_some_iff.mp h
    exact runs_bind (ihp hr) (ihk r.1 hrest)
  | iter body x => cases h

/-- Nobody takes a step. -/
theorem stable_alone (P : S → Prop) : Stable (Thread.alone step) P :=
  fun _ _ _ henv => henv.elim

/-! ## Without loops -/

def Prog.LoopFree : {α : Type} → Prog A α → Prop
  | _, .pure _ => True
  | _, .act _ => True
  | _, .bind p k => p.LoopFree ∧ ∀ a, (k a).LoopFree
  | _, .iter _ _ => False

/-- Where every action has an answer, so has every program without loops. -/
theorem eval_isSome (hstep : ∀ {β : Type} (a : A β) (s : S), (step a s).isSome) {p : Prog A α}
    (hfree : p.LoopFree) (s : S) : ∃ r, p.eval step s = some r := by
  induction p generalizing s with
  | pure a => exact ⟨(a, s), rfl⟩
  | act a => exact Option.isSome_iff_exists.mp (hstep a s)
  | bind p k ihp ihk =>
    obtain ⟨r, hr⟩ := ihp hfree.1 s
    obtain ⟨r', hr'⟩ := ihk r.1 (hfree.2 r.1) r.2
    exact ⟨r', Option.bind_eq_some_iff.mpr ⟨r, hr, hr'⟩⟩
  | iter body x => exact hfree.elim

/-- **Total correctness**: the evaluation comes to an end, in the postcondition. -/
theorem Triple.eval {I P : S → Prop} {Q : α → S → Prop} {p : Prog A α}
    (h : Triple (Thread.alone step) I P p Q)
    (hstep : ∀ {β : Type} (a : A β) (s : S), (step a s).isSome) (hfree : p.LoopFree)
    {s : S} (hs : P s) : ∃ a s', p.eval step s = some (a, s') ∧ Q a s' := by
  obtain ⟨r, hr⟩ := eval_isSome hstep hfree s
  exact ⟨r.1, r.2, hr, h.done hs (runs_of_eval hr)⟩

end evaluation

end Interleaving

import Mathlib.Logic.Relation

/-! # Labelled Systems with an Executable Next State

    A system is given by its initial states and by a partial function from a
    state and a label to the next state: the label settles every choice, and
    `none` says that the label is not enabled.

    * `Reachable`, `Within`: states reached from an initial state, and along
      labels of one kind only,
    * `Reachable.invariant`: the induction behind every safety proof,
    * `Within.keeps`, `Within.relates`: what a run of one kind of labels keeps,
    * `ReachableWhile`: the runs whose steps are all taken under a condition,
    * `replay`: runs a list of labels, so that a run can be exhibited by
      evaluation.
-/

open Relation

namespace Interleaving

/-- A labelled system. -/
structure System (State Label : Type) where
  init : State → Prop
  next? : State → Label → Option State

namespace System
variable {State Label : Type} (sys : System State Label)

/-- One step under the label `l`. -/
def Step (s : State) (l : Label) (s' : State) : Prop := sys.next? s l = some s'

/-- One step under some label that satisfies `L`. -/
def StepIn (L : Label → Prop) (s s' : State) : Prop := ∃ l, L l ∧ sys.Step s l s'

/-- `s'` is reached from `s` along labels that satisfy `L`. -/
abbrev Within (L : Label → Prop) : State → State → Prop := ReflTransGen (sys.StepIn L)

/-- The states that occur in some run. -/
inductive Reachable : State → Prop where
  | init {s : State} : sys.init s → Reachable s
  | step {s s' : State} (l : Label) : Reachable s → sys.Step s l s' → Reachable s'

variable {sys} {L L' : Label → Prop}

/-- **Invariance**: what holds initially and is kept by every step from a
    reachable state holds in every reachable state. -/
theorem Reachable.invariant {P : State → Prop}
    (hinit : ∀ s, sys.init s → P s)
    (hstep : ∀ s l s', sys.Reachable s → P s → sys.Step s l s' → P s')
    {s : State} (h : sys.Reachable s) : P s := by
  induction h with
  | init hs => exact hinit _ hs
  | step l hs hl ih => exact hstep _ l _ hs ih hl

theorem Within.weaken (hL : ∀ l, L l → L' l) {s s' : State} (h : sys.Within L s s') :
    sys.Within L' s s' := by
  induction h with
  | refl => exact .refl
  | tail _ hstep ih =>
    obtain ⟨l, hl, hl'⟩ := hstep
    exact ih.tail ⟨l, hL l hl, hl'⟩

theorem Reachable.within {s s' : State} (h : sys.Reachable s) (hto : sys.Within L s s') :
    sys.Reachable s' := by
  induction hto with
  | refl => exact h
  | tail _ hstep ih =>
    obtain ⟨l, _, hl⟩ := hstep
    exact .step l ih hl

/-- What every step of one kind keeps, a whole run of that kind keeps. -/
theorem Within.keeps {P : State → Prop}
    (hstep : ∀ s l s', P s → L l → sys.Step s l s' → P s')
    {s s' : State} (h : sys.Within L s s') (hs : P s) : P s' := by
  induction h with
  | refl => exact hs
  | tail _ hl ih =>
    obtain ⟨l, hL, hl⟩ := hl
    exact hstep _ l _ ih hL hl

/-- A relation to the start that holds at once and is kept by every step of one
    kind holds along a whole run of that kind. -/
theorem Within.relates {R : State → State → Prop} {s₀ : State} (hrefl : R s₀ s₀)
    (hstep : ∀ s l s', R s₀ s → L l → sys.Step s l s' → R s₀ s')
    {s : State} (h : sys.Within L s₀ s) : R s₀ s :=
  h.keeps hstep hrefl

/-! ### Runs whose steps all meet a condition -/

/-- The states that occur in the runs whose steps are all taken where `G` lets them. -/
inductive ReachableWhile (sys : System State Label) (G : State → Label → Prop) : State → Prop where
  | init {s : State} : sys.init s → ReachableWhile sys G s
  | step {s s' : State} (l : Label) : ReachableWhile sys G s → G s l → sys.Step s l s' →
      ReachableWhile sys G s'

theorem ReachableWhile.reachable {G : State → Label → Prop} {s : State}
    (h : sys.ReachableWhile G s) : sys.Reachable s := by
  induction h with
  | init hs => exact .init hs
  | step l _ _ hl ih => exact .step l ih hl

/-- **Invariance**, for these runs. -/
theorem ReachableWhile.invariant {G : State → Label → Prop} {P : State → Prop}
    (hinit : ∀ s, sys.init s → P s)
    (hstep : ∀ s l s', sys.Reachable s → P s → G s l → sys.Step s l s' → P s')
    {s : State} (h : sys.ReachableWhile G s) : P s := by
  induction h with
  | init hs => exact hinit _ hs
  | step l hs hG hl ih => exact hstep _ l _ hs.reachable ih hG hl

/-! ### Replaying -/

/-- Run a list of labels. -/
def replay (sys : System State Label) (s : State) : List Label → Option State
  | [] => some s
  | l :: ls => (sys.next? s l).bind fun s' => sys.replay s' ls

/-- What `replay` accepts is a run. -/
theorem replay_within {ls : List Label} {s s' : State} (hL : ∀ l ∈ ls, L l)
    (h : sys.replay s ls = some s') : sys.Within L s s' := by
  induction ls generalizing s with
  | nil =>
    cases h
    exact .refl
  | cons l ls ih =>
    obtain ⟨s₁, hl, hrest⟩ := Option.bind_eq_some_iff.mp h
    exact .head ⟨l, hL l (by simp), hl⟩ (ih (fun m hm => hL m (by simp [hm])) hrest)

theorem Step.within {s s' : State} {l : Label} (hL : L l) (h : sys.Step s l s') :
    sys.Within L s s' :=
  .single ⟨l, hL, h⟩

end System

end Interleaving

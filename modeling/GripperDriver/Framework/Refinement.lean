import GripperDriver.Framework.Program
import GripperDriver.Framework.System

/-! # Programs that Refine a Labelled System

    A thread may have a labelled system for its abstract view: what its program does in
    many actions the system does in one step, and what the others do are steps there, too.
    How far the program has come shows in the system, and not in the shared state.

    * `Shadow`: a run of the system has come to a state that stands for the present one,
    * `Shadow.step`, `Shadow.stutter`: the system takes a step, or none,
    * `Mirrored`: what the other threads do, the system can do.

    The place of the program goes into the assertion `P` of the system's states.
-/

open Relation

namespace Interleaving

variable {S State Label : Type} {A : Type → Type} {T : Thread S A} {sys : System State Label}
  {R : S → State → Prop} {s₀ : State} {P Q : State → Prop} {c c' : S}

/-- Some run of the system, from `s₀` on, has come to a state in `P` that stands for `c`. -/
def Shadow (sys : System State Label) (R : S → State → Prop) (s₀ : State) (P : State → Prop)
    (c : S) : Prop :=
  ∃ w, sys.Within (fun _ => True) s₀ w ∧ R c w ∧ P w

theorem shadow_start (hR : R c s₀) (hP : P s₀) : Shadow sys R s₀ P c := ⟨s₀, .refl, hR, hP⟩

/-- The system goes along. -/
theorem Shadow.step (h : Shadow sys R s₀ P c)
    (hstep : ∀ w, R c w → P w → ∃ l w', sys.Step w l w' ∧ R c' w' ∧ Q w') :
    Shadow sys R s₀ Q c' := by
  obtain ⟨w, hwithin, hR, hP⟩ := h
  obtain ⟨l, w', hl, hR', hQ⟩ := hstep w hR hP
  exact ⟨w', hwithin.tail ⟨l, trivial, hl⟩, hR', hQ⟩

/-- What the system does not see. -/
theorem Shadow.stutter (h : Shadow sys R s₀ P c) (hstep : ∀ w, R c w → P w → R c' w ∧ Q w) :
    Shadow sys R s₀ Q c' := by
  obtain ⟨w, hwithin, hR, hP⟩ := h
  obtain ⟨hR', hQ⟩ := hstep w hR hP
  exact ⟨w, hwithin, hR', hQ⟩

theorem Shadow.mono (h : Shadow sys R s₀ P c) (hPQ : ∀ w, R c w → P w → Q w) :
    Shadow sys R s₀ Q c :=
  h.stutter fun w hR hP => ⟨hR, hPQ w hR hP⟩

/-- What the other threads do is a step of the system, or nothing to it, and leaves the
    program at its place. -/
def Mirrored (T : Thread S A) (sys : System State Label) (R : S → State → Prop)
    (P : State → Prop) : Prop :=
  ∀ c c' w, R c w → P w → T.env c c' →
    R c' w ∨ ∃ l w', sys.Step w l w' ∧ R c' w' ∧ P w'

/-- **Others do not part a program from its shadow.** -/
theorem stable_shadow (h : Mirrored T sys R P) : Stable T (Shadow sys R s₀ P) := by
  intro c c' hc henv
  obtain ⟨w, hwithin, hR, hP⟩ := hc
  rcases h c c' w hR hP henv with hsame | ⟨l, w', hl, hR', hP'⟩
  · exact ⟨w, hwithin, hsame, hP⟩
  · exact ⟨w', hwithin.tail ⟨l, trivial, hl⟩, hR', hP'⟩

end Interleaving

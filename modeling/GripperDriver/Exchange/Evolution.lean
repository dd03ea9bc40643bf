import GripperDriver.Exchange.Chronicle

/-! # The Device Along the History

    The history accounts for the device: each write finds it in the state that
    the events before have left. What the writes and the passage of time keep,
    a stretch of the history keeps.
-/

namespace GripperDriver

open Interleaving

section evolution
variable {dev : Device}

/-- The events take the device from `d` to `d'`. -/
def Evolves (d : dev.State) : List (Event dev) → dev.State → Prop
  | [], d' => d' = d
  | .applied _ c e :: es, d' => e = d ∧ Evolves (dev.write d c) es d'
  | .elapsed e e' :: es, d' => e = d ∧ (∃ t t', e' = dev.elapse d t t') ∧ Evolves e' es d'
  | _ :: es, d' => Evolves d es d'

variable {d d' : dev.State} {es es' : List (Event dev)} {w w' : World dev} {l : Label}

theorem evolves_append :
    Evolves d (es ++ es') d' ↔ ∃ e, Evolves d es e ∧ Evolves e es' d' := by
  induction es generalizing d with
  | nil => simp [Evolves]
  | cons e es ih => cases e <;> simp [Evolves, ih, and_assoc]

/-- What the writes and the changes of a stretch keep, the stretch keeps. -/
theorem Evolves.keeps {P : dev.State → Prop} (h : Evolves d es d')
    (happlied : ∀ k c e, .applied k c e ∈ es → P e → P (dev.write e c))
    (helapsed : ∀ e t t', .elapsed e (dev.elapse e t t') ∈ es → P e → P (dev.elapse e t t'))
    (hd : P d) : P d' := by
  induction es generalizing d with
  | nil => exact h ▸ hd
  | cons e es ih =>
    have ih := fun {d} (h : Evolves d es d') (hd : P d) => ih h
      (fun k c e he => happlied k c e (List.mem_cons_of_mem _ he))
      (fun e t t' he => helapsed e t t' (List.mem_cons_of_mem _ he)) hd
    cases e with
    | applied k c e =>
      obtain ⟨rfl, h⟩ := h
      exact ih h (happlied k c _ List.mem_cons_self hd)
    | elapsed e e' =>
      obtain ⟨rfl, ⟨t, t', rfl⟩, h⟩ := h
      exact ih h (helapsed _ t t' List.mem_cons_self hd)
    | _ => exact ih h hd

theorem Evolves.step (h : Evolves d w.trace w.device) (hmove : Move w l w') :
    Evolves d w'.trace w'.device := by
  cases hmove with
  | deliver c hpc => exact evolves_append.mpr ⟨_, h, rfl, rfl⟩
  | tick t hle => exact evolves_append.mpr ⟨_, h, rfl, ⟨_, _, rfl⟩, rfl⟩
  | _ => first | exact h | exact evolves_append.mpr ⟨_, h, rfl⟩

/-- **The history accounts for the device.** -/
theorem evolves_of_reachable (h : w.Reachable) : ∃ d, Evolves d w.trace w.device := by
  induction h with
  | init hinit =>
    obtain ⟨device, fresh, at_, rfl⟩ := hinit
    exact ⟨device, rfl⟩
  | step l _ hstep ih =>
    obtain ⟨d, h⟩ := ih
    exact ⟨d, h.step (move_of_step hstep)⟩

/-- The stretch between two writes. -/
theorem evolves_between (h : w.Reachable) {before between after : List (Event dev)}
    {k k' : Nat} {c c' : GripperCommand} {e e' : dev.State}
    (htrace : w.trace = before ++ .applied k c e :: (between ++ .applied k' c' e' :: after)) :
    Evolves (dev.write e c) between e' := by
  obtain ⟨d, hd⟩ := evolves_of_reachable h
  rw [htrace, evolves_append] at hd
  obtain ⟨_, _, rfl, hrest⟩ := hd
  obtain ⟨_, hbetween, rfl, _⟩ := evolves_append.mp hrest
  exact hbetween

end evolution

end GripperDriver

import GripperDriver.Framework.History

/-! # Repeated Actions

    A machine takes a list of actions, one after the other. When an action
    taken twice in a row does no more than taken once, the machine cannot tell
    a list from the same list with repeats in it.

    * `Idempotent`: an action taken again at once changes nothing,
    * `Stutters`: a list, with every element repeated a positive number of times,
    * `Stutters.foldl_eq`, `foldl_destutter`: what such a machine cannot tell.
-/

namespace Interleaving

variable {S A : Type}

/-- Taken a second time at once, an action changes nothing. -/
def Idempotent (step : S → A → S) : Prop := ∀ s a, step (step s a) a = step s a

/-- `Stutters l l'`: the list `l'` is `l` with each element repeated, a positive
    number of times of its own. -/
inductive Stutters : List A → List A → Prop where
  | nil : Stutters [] []
  | cons {l l' : List A} (a : A) (again : Nat) :
      Stutters l l' → Stutters (a :: l) (List.replicate (again + 1) a ++ l')

section machine
variable {step : S → A → S}

/-- Repeats of the action that was just taken. -/
theorem Idempotent.foldl_replicate (h : Idempotent step) (s : S) (a : A) (again : Nat) :
    (List.replicate again a).foldl step (step s a) = step s a := by
  induction again with
  | zero => rfl
  | succ again ih => rw [List.replicate_succ, List.foldl_cons, h s a, ih]

/-- **A list and its stuttered form end in the same state.** -/
theorem Stutters.foldl_eq (h : Idempotent step) {l l' : List A} (hl : Stutters l l') (s : S) :
    l'.foldl step s = l.foldl step s := by
  induction hl generalizing s with
  | nil => rfl
  | cons a again _ ih =>
    rw [List.foldl_append, List.replicate_succ, List.foldl_cons, h.foldl_replicate, List.foldl_cons,
      ih]

/-- Whatever was taken, its last action is one that changes nothing any more. -/
theorem Idempotent.step_of_getLast? (h : Idempotent step) {l : List A} {a : A}
    (hlast : l.getLast? = some a) (s : S) : step (l.foldl step s) a = l.foldl step s := by
  obtain ⟨l', rfl⟩ := List.getLast?_eq_some_iff.mp hlast
  rw [List.foldl_append, List.foldl_cons, List.foldl_nil, h]

variable [DecidableEq A]

/-- **Without its adjacent repeats a list ends in the same state.** -/
theorem Idempotent.foldl_destutter (h : Idempotent step) (l : List A) (s : S) :
    (l.destutter (· ≠ ·)).foldl step s = l.foldl step s := by
  induction l using List.reverseRecOn with
  | nil => rfl
  | append_singleton l a ih =>
    rw [destutter_append_singleton, List.foldl_append]
    split
    · next hlast => rw [ih, List.foldl_cons, List.foldl_nil, h.step_of_getLast? hlast]
    · rw [List.foldl_append, ih]

/-- Two lists that differ in their adjacent repeats only end in the same state. -/
theorem Idempotent.foldl_congr (h : Idempotent step) {l l' : List A}
    (heq : l.destutter (· ≠ ·) = l'.destutter (· ≠ ·)) (s : S) :
    l.foldl step s = l'.foldl step s := by
  rw [← h.foldl_destutter l, heq, h.foldl_destutter l']

end machine

end Interleaving

import Mathlib.Data.List.Destutter

/-! # Sampling a Register with a History

    A register keeps every value ever written to it; a sampler copies the
    newest one from time to time. `Sampled h l` collects the pairs of a write
    history `h` and the samples `l` taken while it grew. However writes and
    samples alternate, the samples without adjacent repeats are, in order, a
    subsequence of the writes.

    A history of outcomes, in turn, falls into maximal runs of failures, each
    but the last ended by a success: `failureRuns` measures them.
-/

namespace Interleaving

variable {α : Type} [DecidableEq α]

/-! ## Removing repeats at the end of a list -/

theorem getLast?_destutter' (a : α) (l : List α) :
    (l.destutter' (· ≠ ·) a).getLast? = (a :: l).getLast? := by
  induction l generalizing a with
  | nil => rfl
  | cons b l ih =>
    by_cases h : a ≠ b
    · rw [List.destutter'_cons_pos _ h, List.getLast?_cons_cons, ← ih b, List.getLast?_cons]
      cases hl : (l.destutter' (· ≠ ·) b).getLast? with
      | none => exact absurd (List.getLast?_eq_none_iff.mp hl) (List.destutter'_ne_nil _ _)
      | some c => rfl
    · have hab : a = b := not_not.mp h
      subst hab
      rw [List.destutter'_cons_neg _ h, ih a, List.getLast?_cons_cons]

theorem destutter'_append_singleton (a c : α) (l : List α) :
    (l ++ [c]).destutter' (· ≠ ·) a =
      if (a :: l).getLast? = some c then l.destutter' (· ≠ ·) a
      else l.destutter' (· ≠ ·) a ++ [c] := by
  induction l generalizing a with
  | nil => by_cases h : a = c <;> simp [h]
  | cons b l ih =>
    by_cases h : a ≠ b
    · rw [List.cons_append, List.destutter'_cons_pos _ h, List.destutter'_cons_pos _ h, ih b,
        List.getLast?_cons_cons]
      split <;> simp
    · have hab : a = b := not_not.mp h
      subst hab
      rw [List.cons_append, List.destutter'_cons_neg _ h, List.destutter'_cons_neg _ h, ih a,
        List.getLast?_cons_cons]

/-- One more sample is dropped when it repeats the last, and kept otherwise. -/
theorem destutter_append_singleton (l : List α) (c : α) :
    (l ++ [c]).destutter (· ≠ ·) =
      if l.getLast? = some c then l.destutter (· ≠ ·) else l.destutter (· ≠ ·) ++ [c] := by
  cases l with
  | nil => rfl
  | cons a l => exact destutter'_append_singleton a c l

theorem getLast?_destutter (l : List α) :
    (l.destutter (· ≠ ·)).getLast? = l.getLast? := by
  cases l with
  | nil => rfl
  | cons a l => exact getLast?_destutter' a l

/-! ## Samples -/

/-- `Sampled h l`: the samples `l` were taken, in this order, from a register
    whose write history has grown to `h`. -/
inductive Sampled : List α → List α → Prop where
  | start (h : List α) : Sampled h []
  | write {h l : List α} (a : α) : Sampled h l → Sampled (h ++ [a]) l
  | sample {h l : List α} {a : α} : Sampled h l → h.getLast? = some a → Sampled h (l ++ [a])

omit [DecidableEq α] in
/-- A list that ends otherwise fits before the last element. -/
theorem sublist_of_sublist_append_singleton {l h : List α} {a : α}
    (hsub : l.Sublist (h ++ [a])) (hlast : l.getLast? ≠ some a) : l.Sublist h := by
  obtain ⟨l₁, l₂, rfl, h₁, h₂⟩ := List.sublist_append_iff.mp hsub
  cases l₂ with
  | nil => simpa using h₁
  | cons b l₂ =>
    exfalso
    have hb : b = a ∧ l₂ = [] := by
      have := h₂.length_le
      have hnil : l₂ = [] := List.length_eq_zero_iff.mp (by simpa using this)
      subst hnil
      simpa using h₂
    obtain ⟨rfl, rfl⟩ := hb
    exact hlast (by simp)

/-- **The samples, repeats removed, are in order a subsequence of the writes.** -/
theorem Sampled.destutter_sublist {h l : List α} (hs : Sampled h l) :
    (l.destutter (· ≠ ·)).Sublist h := by
  induction hs with
  | start h => exact List.nil_sublist h
  | write a _ ih => exact ih.trans (List.sublist_append_left _ _)
  | @sample h l a _ hlast ih =>
    rw [destutter_append_singleton]
    split
    · exact ih
    · next hne =>
      -- the history ends in the sampled value, and the samples so far do not
      obtain ⟨h', rfl⟩ := List.getLast?_eq_some_iff.mp hlast
      rw [← getLast?_destutter] at hne
      exact (sublist_of_sublist_append_singleton ih hne).append (List.Sublist.refl [a])

/-! ## Runs of failures -/

/-- The lengths of the maximal runs of failures in a history of outcomes: those a
    success has ended, in order, and the one still open. A run may be empty. -/
structure FailureRuns where
  ended : List Nat := []
  ongoing : Nat := 0
  deriving DecidableEq, Repr

namespace FailureRuns

/-- One more outcome, `true` for a success. -/
def add (runs : FailureRuns) : Bool → FailureRuns
  | true => { ended := runs.ended ++ [runs.ongoing], ongoing := 0 }
  | false => { runs with ongoing := runs.ongoing + 1 }

/-- The history that has these runs. -/
def outcomes (runs : FailureRuns) : List Bool :=
  runs.ended.flatMap (fun n => List.replicate n false ++ [true]) ++
    List.replicate runs.ongoing false

theorem outcomes_add (runs : FailureRuns) (b : Bool) :
    (runs.add b).outcomes = runs.outcomes ++ [b] := by
  cases b with
  | true => simp [add, outcomes]
  | false => simp [add, outcomes, List.replicate_succ']

/-- With the outcome in hand, if there is one. -/
def withOutcome (runs : FailureRuns) : Option Bool → FailureRuns
  | none => runs
  | some b => runs.add b

@[simp] theorem withOutcome_none (runs : FailureRuns) : runs.withOutcome none = runs := rfl

@[simp] theorem withOutcome_some (runs : FailureRuns) (b : Bool) :
    runs.withOutcome (some b) = runs.add b := rfl

theorem outcomes_withOutcome (runs : FailureRuns) (o : Option Bool) :
    (runs.withOutcome o).outcomes = runs.outcomes ++ o.toList := by
  cases o with
  | none => simp
  | some b => exact runs.outcomes_add b

end FailureRuns

def failureRuns (history : List Bool) : FailureRuns := history.foldl FailureRuns.add {}

@[simp] theorem failureRuns_concat (history : List Bool) (b : Bool) :
    failureRuns (history ++ [b]) = (failureRuns history).add b := by
  rw [failureRuns, List.foldl_append]
  rfl

/-- The runs of a history make up the history. -/
theorem outcomes_failureRuns (history : List Bool) :
    (failureRuns history).outcomes = history := by
  induction history using List.reverseRecOn with
  | nil => rfl
  | append_singleton history b ih => rw [failureRuns_concat, FailureRuns.outcomes_add, ih]

end Interleaving

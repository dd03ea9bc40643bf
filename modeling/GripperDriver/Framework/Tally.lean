import Mathlib.Algebra.BigOperators.Group.Finset.Basic
import Mathlib.Algebra.Order.BigOperators.Group.Finset

/-! # Counting Threads

    `tally p f` is the number of threads that stand at a point of the kind `p`,
    `f` giving the point of each. A step of one thread changes it by what its own
    two points say (`tally_update`), so that the arithmetic of a counter or of a
    semaphore can be left to a decision procedure.
-/

namespace Interleaving

variable {Thread Point : Type} [Fintype Thread]

/-- The threads at a point of the kind `p`. -/
def tally (p : Point → Bool) (f : Thread → Point) : Nat :=
  Finset.sum Finset.univ fun i => (p (f i)).toNat

/-- One thread moves. -/
theorem tally_update [DecidableEq Thread] (p : Point → Bool) (f : Thread → Point) (i : Thread)
    (a : Point) :
    tally p (Function.update f i a) + (p (f i)).toNat = tally p f + (p a).toNat := by
  have hothers : Finset.sum (Finset.univ.erase i)
        (fun j => (p (Function.update f i a j)).toNat)
      = Finset.sum (Finset.univ.erase i) fun j => (p (f j)).toNat := by
    apply Finset.sum_congr rfl
    intro j hj
    rw [Function.update_of_ne (Finset.ne_of_mem_erase hj)]
  have hbefore := Finset.add_sum_erase Finset.univ (fun j => (p (f j)).toNat) (Finset.mem_univ i)
  have hafter := Finset.add_sum_erase Finset.univ
    (fun j => (p (Function.update f i a j)).toNat) (Finset.mem_univ i)
  simp only [Function.update_self] at hafter
  unfold tally
  omega

/-- A wider kind. -/
theorem tally_le {p q : Point → Bool} (h : ∀ a, p a = true → q a = true) (f : Thread → Point) :
    tally p f ≤ tally q f := by
  apply Finset.sum_le_sum
  intro i _
  cases hp : p (f i) with
  | false => exact Nat.zero_le _
  | true => rw [h _ hp]

theorem tally_pos {p : Point → Bool} {f : Thread → Point} {i : Thread} (h : p (f i) = true) :
    0 < tally p f := by
  have hle := Finset.single_le_sum (fun j _ => Nat.zero_le (p (f j)).toNat) (Finset.mem_univ i)
  rw [h] at hle
  exact hle

theorem tally_eq_zero {p : Point → Bool} {f : Thread → Point} (h : ∀ i, p (f i) = false) :
    tally p f = 0 := by
  apply Finset.sum_eq_zero
  intro i _
  rw [h i]
  rfl

end Interleaving

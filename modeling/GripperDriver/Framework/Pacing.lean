import Mathlib.Algebra.Order.Group.Basic
import Mathlib.Tactic.Abel

/-! # Loops Paced by a Clock

    A loop gives each of its turns a slot: a turn starts at its slot or later,
    and the next slot is one period after this one, or the end of the turn if
    the turn overran.

    * `Turn`, `Paced`: the turns of such a loop, and the slot of the next one,
    * `Paced.slot_of_punctual`: without an overrun the slots are evenly spaced,
    * `Paced.window_le`: how many turns start in a window, whatever overran,
    * `PacedWithin`: such a loop on a clock that may wake it up too early by a slack; on time
      its turns would be `Paced` (`PacedWithin.onTime`), and so it has the same slots.
-/

namespace Interleaving

/-- One turn: when it was due, when it started, and when it ended. -/
structure Turn (G : Type) where
  slot : G
  start : G
  finish : G

section pacing
variable {G : Type} [AddCommGroup G] [LinearOrder G]

/-- `Paced period origin turns next`: the turns were taken one after the other, the first
    due at `origin`, and the one after them is due at `next`. -/
inductive Paced (period origin : G) : List (Turn G) → G → Prop where
  | nil : Paced period origin [] origin
  | turn {turns : List (Turn G)} {next start finish : G} :
      Paced period origin turns next → next ≤ start → start ≤ finish →
      Paced period origin (turns ++ [⟨next, start, finish⟩]) (max (next + period) finish)

variable {period origin next t u : G} {turns : List (Turn G)}

/-! ## Slots -/

/-- **Without an overrun** the next slot is where the period alone has taken it. -/
theorem Paced.slot_eq (h : Paced period origin turns next)
    (hpunctual : ∀ c ∈ turns, c.finish ≤ c.slot + period) :
    next = origin + turns.length • period := by
  induction h with
  | nil => rw [List.length_nil, zero_nsmul, add_zero]
  | @turn turns next start finish _ hstart hfinish ih =>
    have hnext := ih fun c hc => hpunctual c (List.mem_append_left _ hc)
    have hlast : finish ≤ next + period := hpunctual ⟨next, start, finish⟩ (by simp)
    rw [max_eq_left hlast, hnext, List.length_append, List.length_singleton, add_nsmul, one_nsmul,
      add_assoc]

/-- Up to any of its slots the loop was paced. -/
theorem Paced.take (h : Paced period origin turns next) {k : Nat} {slot : G}
    (hslot : (turns.map (·.slot) ++ [next])[k]? = some slot) :
    Paced period origin (turns.take k) slot ∧ k ≤ turns.length := by
  induction h with
  | nil =>
    cases k with
    | zero =>
      cases hslot
      exact ⟨.nil, Nat.le_refl _⟩
    | succ k => cases hslot
  | @turn turns next start finish h hstart hfinish ih =>
    rw [List.map_append, List.map_cons, List.map_nil] at hslot
    rcases Nat.lt_or_ge k (turns.map (·.slot) ++ [next]).length with hlt | hge
    · -- a slot before the last one
      rw [List.getElem?_append_left hlt] at hslot
      obtain ⟨hpaced, hle⟩ := ih hslot
      rw [List.take_append_of_le_length hle, List.length_append]
      exact ⟨hpaced, Nat.le_add_right_of_le hle⟩
    · -- the last slot, behind every turn
      obtain ⟨hk, hlast⟩ := List.getElem?_eq_some_iff.mp hslot
      have hall : k = (turns ++ [(⟨next, start, finish⟩ : Turn G)]).length := by
        simp only [List.length_append, List.length_map, List.length_singleton] at hk hge ⊢
        omega
      have heq : slot = max (next + period) finish := by
        rw [← hlast]
        exact List.getElem_concat_length (by simpa using hall) _
      rw [hall, List.take_length, heq]
      exact ⟨.turn h hstart hfinish, Nat.le_refl _⟩

/-- **As long as no turn overruns**, the `k`-th slot is `k` periods after the first. -/
theorem Paced.slot_of_punctual (h : Paced period origin turns next) {k : Nat} {slot : G}
    (hslot : (turns.map (·.slot) ++ [next])[k]? = some slot)
    (hpunctual : ∀ c ∈ turns.take k, c.finish ≤ c.slot + period) :
    slot = origin + k • period := by
  obtain ⟨hpaced, hle⟩ := h.take hslot
  have hslot_eq := hpaced.slot_eq hpunctual
  rw [List.length_take_of_le hle] at hslot_eq
  exact hslot_eq

/-! ## Windows -/

/-- Every turn starts before the next one is due. -/
theorem Paced.start_le (h : Paced period origin turns next) : ∀ c ∈ turns, c.start ≤ next := by
  induction h with
  | nil => simp
  | turn _ hstart hfinish ih =>
    intro c hc
    rcases List.mem_append.mp hc with hbefore | hlast
    · exact (ih c hbefore).trans (hstart.trans (hfinish.trans (le_max_right _ _)))
    · rw [List.mem_singleton.mp hlast]
      exact hfinish.trans (le_max_right _ _)

/-- No turn starts after the next one is due. -/
theorem Paced.none_since (h : Paced period origin turns next) (hnext : next < t) :
    turns.countP (fun c => t ≤ c.start) = 0 := by
  rw [List.countP_eq_zero]
  intro c hc
  simpa using (h.start_le c hc).trans_lt hnext

variable [IsOrderedAddMonoid G]

/-- The turns since `t` take a period each, but for the first of them. -/
theorem Paced.since_le (h : Paced period origin turns next) (hperiod : 0 ≤ period)
    (ht : t ≤ next) : turns.countP (fun c => t ≤ c.start) • period ≤ next - t + period := by
  induction h with
  | nil =>
    rw [List.countP_nil, zero_nsmul]
    exact add_nonneg (sub_nonneg.mpr ht) hperiod
  | @turn turns next start finish h hstart hfinish ih =>
    rw [List.countP_append, add_nsmul]
    by_cases hnext : t ≤ next
    · -- the slot moves on by a period at least, which pays for this turn
      have hlast : [(⟨next, start, finish⟩ : Turn G)].countP (fun c => t ≤ c.start) = 1 := by
        simpa using hnext.trans hstart
      rw [hlast, one_nsmul]
      apply add_le_add_left
      calc turns.countP (fun c => t ≤ c.start) • period
          ≤ next - t + period := ih hnext
        _ = next + period - t := by abel
        _ ≤ max (next + period) finish - t := sub_le_sub_right (le_max_left _ _) t
    · -- this turn is the first one since `t`, if it is one
      rw [h.none_since (not_le.mp hnext), zero_nsmul, zero_add]
      refine le_add_of_nonneg_of_le (sub_nonneg.mpr ht) ?_
      calc _ ≤ 1 • period := nsmul_le_nsmul_left hperiod List.countP_le_length
        _ = period := one_nsmul _

/-- **However long a turn overran, it is not made up for by a burst**: the turns that start in a
    window take a period each, but for two of them. -/
theorem Paced.window_le (h : Paced period origin turns next) (hperiod : 0 ≤ period)
    (htu : t ≤ u) :
    turns.countP (fun c => t ≤ c.start ∧ c.start ≤ u) • period ≤ u - t + 2 • period := by
  induction h with
  | nil =>
    rw [List.countP_nil, zero_nsmul]
    exact add_nonneg (sub_nonneg.mpr htu) (nsmul_nonneg hperiod 2)
  | @turn turns next start finish h hstart hfinish ih =>
    rw [List.countP_append, add_nsmul]
    by_cases hin : start ≤ u
    · -- the turn is due in the window, or no turn before it is in the window
      have hone : [(⟨next, start, finish⟩ : Turn G)].countP
          (fun c => t ≤ c.start ∧ c.start ≤ u) • period ≤ period := by
        calc _ ≤ 1 • period := nsmul_le_nsmul_left hperiod List.countP_le_length
          _ = period := one_nsmul _
      have hsince : turns.countP (fun c => t ≤ c.start ∧ c.start ≤ u) ≤
          turns.countP (fun c => t ≤ c.start) := by
        apply List.countP_mono_left
        intro c _
        simpa using fun hc _ => hc
      have hbefore : turns.countP (fun c => t ≤ c.start ∧ c.start ≤ u) • period ≤
          u - t + period := by
        refine (nsmul_le_nsmul_left hperiod hsince).trans ?_
        by_cases hnext : t ≤ next
        · exact (h.since_le hperiod hnext).trans
            (add_le_add_left (sub_le_sub_right (hstart.trans hin) t) _)
        · rw [h.none_since (not_le.mp hnext), zero_nsmul]
          exact add_nonneg (sub_nonneg.mpr htu) hperiod
      calc _ ≤ (u - t + period) + period := add_le_add hbefore hone
        _ = u - t + 2 • period := by abel
    · have hlast : [(⟨next, start, finish⟩ : Turn G)].countP
          (fun c => t ≤ c.start ∧ c.start ≤ u) = 0 := by
        simpa using fun _ => not_le.mp hin
      rw [hlast, zero_nsmul, add_zero]
      exact ih

/-! ## Turns that start too early -/

/-- As `Paced`, but a turn may start up to `slack` before its slot. -/
inductive PacedWithin (slack period origin : G) : List (Turn G) → G → Prop where
  | nil : PacedWithin slack period origin [] origin
  | turn {turns : List (Turn G)} {next start finish : G} :
      PacedWithin slack period origin turns next → next ≤ start + slack → start ≤ finish →
      PacedWithin slack period origin (turns ++ [⟨next, start, finish⟩]) (max (next + period) finish)

/-- The turn, had it waited for its slot. -/
def Turn.onTime (c : Turn G) : Turn G := ⟨c.slot, max c.start c.slot, max c.finish c.slot⟩

variable {slack : G}

/-- **The slots do not see an early start.** -/
theorem PacedWithin.onTime (h : PacedWithin slack period origin turns next)
    (hperiod : 0 ≤ period) : Paced period origin (turns.map Turn.onTime) next := by
  induction h with
  | nil => exact .nil
  | @turn turns next start finish h hstart hfinish ih =>
    rw [List.map_append]
    have hturn := Paced.turn ih (le_max_right start next) (max_le_max_right next hfinish)
    -- a turn that ended before its slot has not overrun
    have hnext : max (next + period) (max finish next) = max (next + period) finish := by
      rw [max_comm finish next, ← max_assoc, max_eq_left (le_add_of_nonneg_right hperiod)]
    rw [hnext] at hturn
    exact hturn

omit [IsOrderedAddMonoid G] in
/-- No turn starts before its slot by more than the slack. -/
theorem PacedWithin.early_le (h : PacedWithin slack period origin turns next) :
    ∀ c ∈ turns, c.slot ≤ c.start + slack := by
  induction h with
  | nil => simp
  | turn _ hstart _ ih =>
    intro c hc
    rcases List.mem_append.mp hc with hbefore | hlast
    · exact ih c hbefore
    · rw [List.mem_singleton.mp hlast]
      exact hstart

/-- **Nor does an early start make a burst**: the window is longer by the slack. -/
theorem PacedWithin.window_le (h : PacedWithin slack period origin turns next)
    (hperiod : 0 ≤ period) (hslack : 0 ≤ slack) (htu : t ≤ u) :
    turns.countP (fun c => t ≤ c.start ∧ c.start ≤ u) • period ≤ u + slack - t + 2 • period := by
  have hlong : t ≤ u + slack := htu.trans (le_add_of_nonneg_right hslack)
  refine le_trans (nsmul_le_nsmul_left hperiod ?_) ((h.onTime hperiod).window_le hperiod hlong)
  rw [List.countP_map]
  apply List.countP_mono_left
  intro c hc hin
  have hin : t ≤ c.start ∧ c.start ≤ u := of_decide_eq_true hin
  apply decide_eq_true
  refine ⟨hin.1.trans (le_max_left _ _), max_le ?_ ?_⟩
  · exact hin.2.trans (le_add_of_nonneg_right hslack)
  · exact (h.early_le c hc).trans (add_le_add_left hin.2 slack)

end pacing

end Interleaving

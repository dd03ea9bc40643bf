import GripperDriver.Client.Deadlines
import GripperDriver.Platform.ThreadXConditionVariable
import Mathlib.Order.Bounds.Basic

/-! # Ticks in 64 Bits

    `blockingTicks` as the machine computes it, for every tick rate that a
    firmware may choose: the clamp in nanoseconds, the scaled product and the
    division that rounds up.

    * `ticksCovering`: the ticks that cover a duration, rounded up,
    * `blockingTicks_eq`: the code computes them, up to its cap,
    * `Machine.blockingTicks`: every operation in 64 bits,
    * `blockingTicks_exact`: none of them overflows.
-/

namespace GripperDriver

namespace ThreadXConditionVariable

/-! ## Rounding up -/

/-- The ticks that last `scaled` billionths of a tick, rounded up. -/
def ticksCovering (scaled : Int) : Int := (scaled + nanosPerSecond - 1) / nanosPerSecond

theorem ticksCovering_le_iff {scaled ticks : Int} :
    ticksCovering scaled ≤ ticks ↔ scaled ≤ ticks * nanosPerSecond := by
  unfold ticksCovering nanosPerSecond
  omega

/-- The largest wait that is not one without end. -/
def maxTicks : Int := txWaitForever - 1

section rate
variable {ticksPerSecond duration : Int}

/-- The longest duration that is not clamped. -/
def maxNanos (ticksPerSecond : Int) : Int := maxTicks * nanosPerSecond / ticksPerSecond

theorem blockingTicks_of_pos (hpos : 0 < duration) :
    blockingTicks ticksPerSecond duration =
      ticksCovering (min duration (maxNanos ticksPerSecond) * ticksPerSecond) := by
  simp only [blockingTicks, if_neg (Int.not_le.mpr hpos)]
  rfl

theorem blockingTicks_of_nonpos (hpast : duration ≤ 0) :
    blockingTicks ticksPerSecond duration = 0 :=
  if_pos hpast

/-- The clamp is below the cap, ... -/
theorem maxNanos_mul_le (hrate : 1 ≤ ticksPerSecond) :
    maxNanos ticksPerSecond * ticksPerSecond ≤ maxTicks * nanosPerSecond :=
  Int.ediv_mul_le _ (by omega)

/-- ... and one nanosecond more is past it. -/
theorem lt_maxNanos_mul (hrate : 1 ≤ ticksPerSecond) :
    maxTicks * nanosPerSecond < maxNanos ticksPerSecond * ticksPerSecond + ticksPerSecond := by
  have := Int.lt_ediv_add_one_mul_self (maxTicks * nanosPerSecond) (by omega : 0 < ticksPerSecond)
  rw [Int.add_mul, Int.one_mul] at this
  exact this

/-- **The code rounds up, and caps**: the clamp in nanoseconds is the cap in ticks, at every rate
    of at most one tick a nanosecond. -/
theorem blockingTicks_eq (hrate : 1 ≤ ticksPerSecond) (hfast : ticksPerSecond ≤ nanosPerSecond)
    (hpos : 0 < duration) :
    blockingTicks ticksPerSecond duration =
      min (ticksCovering (duration * ticksPerSecond)) maxTicks := by
  have hbelow := maxNanos_mul_le hrate
  have hpast := lt_maxNanos_mul hrate
  rw [blockingTicks_of_pos hpos]
  rcases le_or_gt duration (maxNanos ticksPerSecond) with hle | hlt
  · -- nothing is clamped, and the cap is not reached
    have hscaled := Int.mul_le_mul_of_nonneg_right hle (by omega : 0 ≤ ticksPerSecond)
    have hcap : ticksCovering (duration * ticksPerSecond) ≤ maxTicks :=
      ticksCovering_le_iff.mpr (hscaled.trans hbelow)
    rw [min_eq_left hle, min_eq_left hcap]
  · -- the clamp rounds up to the cap, and so the duration is past it
    have hscaled := Int.mul_le_mul_of_nonneg_right (Int.add_one_le_of_lt hlt)
      (by omega : 0 ≤ ticksPerSecond)
    rw [Int.add_mul, Int.one_mul] at hscaled
    rw [min_eq_right hlt.le]
    have hclamp : ticksCovering (maxNanos ticksPerSecond * ticksPerSecond) = maxTicks := by
      generalize maxNanos ticksPerSecond * ticksPerSecond = scaled at hbelow hpast
      unfold ticksCovering nanosPerSecond at *
      omega
    have hcap : maxTicks ≤ ticksCovering (duration * ticksPerSecond) := by
      generalize duration * ticksPerSecond = scaled at hscaled
      generalize maxNanos ticksPerSecond * ticksPerSecond = clamp at hscaled hpast
      unfold ticksCovering nanosPerSecond at *
      omega
    rw [hclamp, min_eq_right hcap]

theorem blockingTicks_pos (hrate : 1 ≤ ticksPerSecond) (hfast : ticksPerSecond ≤ nanosPerSecond)
    (hpos : 0 < duration) : 0 < blockingTicks ticksPerSecond duration := by
  have hscaled : 0 < duration * ticksPerSecond := Int.mul_pos hpos (by omega)
  rw [blockingTicks_eq hrate hfast hpos]
  apply lt_min
  · generalize duration * ticksPerSecond = scaled at hscaled
    unfold ticksCovering nanosPerSecond
    omega
  · decide

theorem blockingTicks_mono (hrate : 1 ≤ ticksPerSecond) (hfast : ticksPerSecond ≤ nanosPerSecond)
    {longer : Int} (hle : duration ≤ longer) :
    blockingTicks ticksPerSecond duration ≤ blockingTicks ticksPerSecond longer := by
  rcases le_or_gt longer 0 with hpast | hlonger
  · rw [blockingTicks_of_nonpos hpast, blockingTicks_of_nonpos (hle.trans hpast)]
  rcases le_or_gt duration 0 with hpast | hpos
  · rw [blockingTicks_of_nonpos hpast]
    exact (blockingTicks_pos hrate hfast hlonger).le
  · rw [blockingTicks_eq hrate hfast hpos, blockingTicks_eq hrate hfast hlonger]
    have hscaled := Int.mul_le_mul_of_nonneg_right hle (by omega : 0 ≤ ticksPerSecond)
    apply min_le_min_right
    exact ticksCovering_le_iff.mpr (hscaled.trans (ticksCovering_le_iff.mp le_rfl))

theorem blockingTicks_le (hrate : 1 ≤ ticksPerSecond) (hfast : ticksPerSecond ≤ nanosPerSecond) :
    blockingTicks ticksPerSecond duration ≤ maxTicks := by
  rcases le_or_gt duration 0 with hpast | hpos
  · rw [blockingTicks_of_nonpos hpast]
    decide
  · rw [blockingTicks_eq hrate hfast hpos]
    exact min_le_right _ _

end rate

/-! ## In 64 bits -/

end ThreadXConditionVariable

open ThreadXConditionVariable

/-- `blockingTicks`, with the operations that the source has. -/
def Machine.blockingTicks (ticksPerSecond : Int) (duration : Time) : Option Int := do
  let maxTicks ← fit (txWaitForever - 1)
  let product ← fit (maxTicks * nanosPerSecond)
  let maxNanos := product.tdiv ticksPerSecond
  if duration ≤ 0 then some 0
  else do
    let scaled ← fit (min duration maxNanos * ticksPerSecond)
    let raised ← fit (scaled + nanosPerSecond)
    let raised ← fit (raised - 1)
    some (raised.tdiv nanosPerSecond)

section machine
variable {ticksPerSecond duration : Int}

/-- **No operation overflows**, whatever the duration. -/
theorem machine_blockingTicks (hrate : 1 ≤ ticksPerSecond) :
    Machine.blockingTicks ticksPerSecond duration = some (blockingTicks ticksPerSecond duration) := by
  have hcap : fit (txWaitForever - 1) = some maxTicks := by decide
  have hproduct : fit (maxTicks * nanosPerSecond) = some (maxTicks * nanosPerSecond) := by decide
  have hdiv : (maxTicks * nanosPerSecond).tdiv ticksPerSecond = maxNanos ticksPerSecond :=
    Int.tdiv_eq_ediv_of_nonneg (by decide)
  simp only [Machine.blockingTicks, hcap, hproduct, hdiv, Option.bind_eq_bind, Option.bind_some]
  rcases le_or_gt duration 0 with hpast | hpos
  · rw [if_pos hpast, blockingTicks_of_nonpos hpast]
  · rw [if_neg (Int.not_le.mpr hpos), blockingTicks_of_pos hpos]
    -- the scaled product is at most the cap, scaled
    have hscaled := (Int.mul_le_mul_of_nonneg_right (min_le_right duration (maxNanos ticksPerSecond))
      (by omega : 0 ≤ ticksPerSecond)).trans (maxNanos_mul_le hrate)
    have hnonneg : 0 ≤ min duration (maxNanos ticksPerSecond) * ticksPerSecond := by
      apply Int.mul_nonneg
      · exact le_min hpos.le (Int.ediv_nonneg (by decide) (by omega))
      · omega
    generalize min duration (maxNanos ticksPerSecond) * ticksPerSecond = scaled at *
    have hbound : maxTicks * nanosPerSecond = 4294967294000000000 := by decide
    have hsecond : nanosPerSecond = 1000000000 := rfl
    rw [fit_eq (by unfold int64Min; omega) (by unfold int64Max; omega), Option.bind_some,
      fit_eq (by unfold int64Min; omega) (by unfold int64Max; omega), Option.bind_some,
      fit_eq (by unfold int64Min; omega) (by unfold int64Max; omega), Option.bind_some,
      Int.tdiv_eq_ediv_of_nonneg (by omega)]
    rfl

/-- **`blockingTicks` is exact over 64 bits**, at every rate from one tick a second to one a
    nanosecond: it computes without overflow the least number of ticks that covers the
    duration, capped below `TX_WAIT_FOREVER`, and 0 only for what is past. -/
theorem blockingTicks_exact (ticksPerSecond : Int) (hrate : 1 ≤ ticksPerSecond)
    (hfast : ticksPerSecond ≤ nanosPerSecond) :
    (∀ duration, int64Min ≤ duration → duration ≤ int64Max →
      Machine.blockingTicks ticksPerSecond duration =
        some (blockingTicks ticksPerSecond duration)) ∧
    (∀ duration, blockingTicks ticksPerSecond duration = 0 ↔ duration ≤ 0) ∧
    (∀ duration, 0 < duration →
      ∃ least, IsLeast {n : Int | duration * ticksPerSecond ≤ n * nanosPerSecond} least ∧
        blockingTicks ticksPerSecond duration = min least (2 ^ 32 - 2)) ∧
    (∀ duration longer, duration ≤ longer →
      blockingTicks ticksPerSecond duration ≤ blockingTicks ticksPerSecond longer) ∧
    (∀ duration, blockingTicks ticksPerSecond duration ≠ txWaitForever ∧
      0 ≤ blockingTicks ticksPerSecond duration ∧
      blockingTicks ticksPerSecond duration < 2 ^ 32) := by
  refine ⟨?_, ?_, ?_, ?_, ?_⟩
  · intro duration _ _
    exact machine_blockingTicks hrate
  · intro duration
    constructor
    · intro hzero
      by_contra hpos
      have := blockingTicks_pos hrate hfast (Int.not_le.mp hpos)
      omega
    · exact blockingTicks_of_nonpos
  · intro duration hpos
    refine ⟨ticksCovering (duration * ticksPerSecond), ⟨?_, ?_⟩, blockingTicks_eq hrate hfast hpos⟩
    · exact ticksCovering_le_iff.mp le_rfl
    · intro n hn
      exact ticksCovering_le_iff.mpr hn
  · intro duration longer hle
    exact blockingTicks_mono hrate hfast hle
  · intro duration
    have hle : blockingTicks ticksPerSecond duration ≤ maxTicks := blockingTicks_le hrate hfast
    have hnonneg : 0 ≤ blockingTicks ticksPerSecond duration := by
      rcases le_or_gt duration 0 with hpast | hpos
      · rw [blockingTicks_of_nonpos hpast]
      · exact (blockingTicks_pos hrate hfast hpos).le
    have hcap : maxTicks = 4294967294 := by decide
    have hforever : txWaitForever = 4294967295 := rfl
    refine ⟨?_, hnonneg, ?_⟩ <;> omega

/-- Three ticks a second, a rate that does not divide it. -/
theorem blockingTicks_exact_three :
    Machine.blockingTicks 3 int64Max = some (blockingTicks 3 int64Max) ∧
      ∃ least, IsLeast {n : Int | 333333334 * 3 ≤ n * nanosPerSecond} least ∧
        blockingTicks 3 333333334 = min least (2 ^ 32 - 2) := by
  obtain ⟨hfits, _, hleast, _⟩ := blockingTicks_exact 3 (by decide) (by decide)
  exact ⟨hfits int64Max (by decide) (by decide), hleast 333333334 (by decide)⟩

end machine

end GripperDriver

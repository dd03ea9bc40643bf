import Mathlib.Algebra.Order.Round
import Mathlib.Algebra.Order.Field.Basic
import Mathlib.Tactic.Linarith
import Mathlib.Tactic.FieldSimp
import Mathlib.Tactic.Ring

/-! # Rounding a Line onto a Band of Integers

    Clamping and rounding over any ordered field with a floor:

    * `clamp`: a value, or the nearer of two bounds,
    * `lround`: the nearest integer, halves away from zero,
    * `quantize` and `fraction`: a fraction between 0 and 1 as a step of a
      band of integers, and the fraction that a step stands for.
-/

namespace Rounding

/-! ## Clamping -/

/-- The value itself, or the bound that it is beyond. -/
def clamp {α : Type u} [LinearOrder α] (value low high : α) : α :=
  if value < low then low else if high < value then high else value

section clamp
variable {α : Type u} [LinearOrder α] {low high : α}

theorem clamp_eq (h : low ≤ high) (value : α) :
    clamp value low high = max low (min value high) := by
  simp only [clamp]
  split_ifs with hlow hhigh
  · rw [min_eq_left (hlow.le.trans h), max_eq_left hlow.le]
  · rw [min_eq_right hhigh.le, max_eq_right h]
  · rw [min_eq_left (not_lt.mp hhigh), max_eq_right (not_lt.mp hlow)]

theorem clamp_mono (h : low ≤ high) {x y : α} (hxy : x ≤ y) :
    clamp x low high ≤ clamp y low high := by
  rw [clamp_eq h, clamp_eq h]
  exact max_le_max le_rfl (min_le_min hxy le_rfl)

theorem le_clamp (h : low ≤ high) (value : α) : low ≤ clamp value low high := by
  rw [clamp_eq h]
  exact le_max_left _ _

theorem clamp_le (h : low ≤ high) (value : α) : clamp value low high ≤ high := by
  rw [clamp_eq h]
  exact max_le h (min_le_right _ _)

theorem clamp_of_mem {value : α} (hlow : low ≤ value) (hhigh : value ≤ high) :
    clamp value low high = value := by
  rw [clamp, if_neg (not_lt.mpr hlow), if_neg (not_lt.mpr hhigh)]

theorem clamp_of_lt {value : α} (h : value < low) : clamp value low high = low :=
  if_pos h

theorem clamp_of_gt (h : low ≤ high) {value : α} (hhigh : high < value) :
    clamp value low high = high := by
  rw [clamp, if_neg (not_lt.mpr (h.trans hhigh.le)), if_pos hhigh]

end clamp

/-! ## Rounding -/

section round
variable {K : Type u} [Field K] [LinearOrder K] [IsStrictOrderedRing K] [FloorRing K]

/-- The nearest integer; a half goes away from zero. -/
def lround (x : K) : ℤ :=
  if 0 ≤ x then ⌊x + 1 / 2⌋ else -⌊-x + 1 / 2⌋

omit [IsStrictOrderedRing K] in
theorem lround_of_nonneg {x : K} (h : 0 ≤ x) : lround x = ⌊x + 1 / 2⌋ := if_pos h

omit [IsStrictOrderedRing K] in
theorem lround_of_neg {x : K} (h : x < 0) : lround x = -⌊-x + 1 / 2⌋ :=
  if_neg (not_le.mpr h)

theorem abs_lround_sub (x : K) : |(lround x : K) - x| ≤ 1 / 2 := by
  rw [abs_le]
  rcases le_or_gt 0 x with h | h
  · rw [lround_of_nonneg h]
    have hle := Int.floor_le (x + 1 / 2)
    have hlt := Int.lt_floor_add_one (x + 1 / 2)
    constructor <;> linarith
  · rw [lround_of_neg h]
    push_cast
    have hle := Int.floor_le (-x + 1 / 2)
    have hlt := Int.lt_floor_add_one (-x + 1 / 2)
    constructor <;> linarith

theorem lround_mono {x y : K} (h : x ≤ y) : lround x ≤ lround y := by
  rcases le_or_gt 0 x with hx | hx
  · rw [lround_of_nonneg hx, lround_of_nonneg (hx.trans h)]
    exact Int.floor_mono (by linarith)
  · rcases le_or_gt 0 y with hy | hy
    · -- on either side of zero, each is rounded towards its own side
      have hneg : lround x ≤ 0 := by
        rw [lround_of_neg hx]
        have := Int.floor_nonneg.mpr (show (0 : K) ≤ -x + 1 / 2 by linarith)
        omega
      have hpos : 0 ≤ lround y := by
        rw [lround_of_nonneg hy]
        exact Int.floor_nonneg.mpr (by linarith)
      exact hneg.trans hpos
    · rw [lround_of_neg hx, lround_of_neg hy]
      have := Int.floor_mono (show -y + 1 / 2 ≤ -x + 1 / 2 by linarith)
      omega

theorem lround_intCast (n : ℤ) : lround (n : K) = n := by
  have hfloor : ∀ m : ℤ, ⌊(m : K) + 1 / 2⌋ = m := by
    intro m
    rw [Int.floor_intCast_add, Int.floor_eq_zero_iff.mpr, add_zero]
    constructor <;> norm_num
  rcases le_or_gt 0 (n : K) with h | h
  · rw [lround_of_nonneg h, hfloor]
  · rw [lround_of_neg h, ← Int.cast_neg, hfloor, neg_neg]

theorem le_lround {n : ℤ} {x : K} (h : n ≤ x) : n ≤ lround x := by
  rw [← lround_intCast (K := K) n]
  exact lround_mono h

theorem lround_le {n : ℤ} {x : K} (h : x ≤ n) : lround x ≤ n := by
  rw [← lround_intCast (K := K) n]
  exact lround_mono h

end round

/-! ## A band of integers -/

section band
variable {K : Type u} [Field K] [LinearOrder K] [IsStrictOrderedRing K] [FloorRing K]
variable {first last : ℤ}

/-- The step of the band `first` to `last` that is nearest to a fraction of it. -/
def quantize (first last : ℤ) (x : K) : ℤ := lround (first + x * (last - first))

/-- The fraction of the band that a step stands for. -/
def fraction (first last : ℤ) (step : ℤ) : K := clamp ((step - first) / (last - first)) 0 1

theorem band_pos (h : first < last) : (0 : K) < last - first := by
  exact_mod_cast sub_pos.mpr h

theorem quantize_mono (h : first < last) {x y : K} (hxy : x ≤ y) :
    quantize first last x ≤ quantize first last y := by
  apply lround_mono
  have := mul_le_mul_of_nonneg_right hxy (band_pos (K := K) h).le
  linarith

theorem first_le_quantize (h : first < last) {x : K} (hx : 0 ≤ x) :
    first ≤ quantize first last x := by
  apply le_lround
  have := mul_nonneg hx (band_pos (K := K) h).le
  linarith

theorem quantize_le_last (h : first < last) {x : K} (hx : x ≤ 1) :
    quantize first last x ≤ last := by
  apply lround_le
  have := mul_le_mul_of_nonneg_right hx (band_pos (K := K) h).le
  linarith

omit [IsStrictOrderedRing K] in
theorem fraction_nonneg (first last step : ℤ) : (0 : K) ≤ fraction first last step :=
  le_clamp zero_le_one _

omit [IsStrictOrderedRing K] in
theorem fraction_le_one (first last step : ℤ) : fraction first last step ≤ (1 : K) :=
  clamp_le zero_le_one _

theorem fraction_of_mem (h : first < last) {step : ℤ} (hfirst : first ≤ step)
    (hlast : step ≤ last) : fraction first last step = ((step : K) - first) / (last - first) := by
  have hpos := band_pos (K := K) h
  have hf : (first : K) ≤ step := by exact_mod_cast hfirst
  have hl : (step : K) ≤ last := by exact_mod_cast hlast
  apply clamp_of_mem
  · exact div_nonneg (sub_nonneg.mpr hf) hpos.le
  · rw [div_le_one hpos]
    linarith

/-- A step comes back as itself, and one beyond the band as the end that it is beyond. -/
theorem quantize_fraction (h : first < last) (step : ℤ) :
    quantize first last (fraction first last step : K) = clamp step first last := by
  have hpos := band_pos (K := K) h
  rcases lt_or_ge step first with hlow | hlow
  · have hneg : ((step : K) - first) / (last - first) < 0 := by
      apply div_neg_of_neg_of_pos _ hpos
      exact_mod_cast sub_neg.mpr hlow
    rw [clamp_of_lt hlow, fraction, clamp_of_lt hneg, quantize, zero_mul, add_zero,
      lround_intCast]
  · rcases lt_or_ge last step with hhigh | hhigh
    · have hone : 1 < ((step : K) - first) / (last - first) := by
        rw [one_lt_div hpos]
        have : (last : K) < step := by exact_mod_cast hhigh
        linarith
      rw [clamp_of_gt h.le hhigh, fraction, clamp_of_gt zero_le_one hone, quantize, one_mul,
        add_sub_cancel, lround_intCast]
    · rw [clamp_of_mem hlow hhigh, fraction_of_mem h hlow hhigh, quantize,
        div_mul_cancel₀ _ hpos.ne', add_sub_cancel, lround_intCast]

/-- A fraction comes back to within half a step. -/
theorem abs_fraction_quantize_sub (h : first < last) {x : K} (h0 : 0 ≤ x) (h1 : x ≤ 1) :
    |fraction first last (quantize first last x) - x| ≤ 1 / (last - first) / 2 := by
  have hpos := band_pos (K := K) h
  rw [fraction_of_mem h (first_le_quantize h h0) (quantize_le_last h h1)]
  have hstep : ((quantize first last x : K) - first) / (last - first) - x
      = ((quantize first last x : K) - (first + x * (last - first))) / (last - first) := by
    field_simp
    ring
  rw [hstep, abs_div, abs_of_pos hpos, div_right_comm]
  exact div_le_div_of_nonneg_right (abs_lround_sub _) hpos.le

end band

end Rounding

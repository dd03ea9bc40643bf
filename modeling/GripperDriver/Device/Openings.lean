import GripperDriver.Framework.Rounding
import GripperDriver.Device.Blocks
import Mathlib.Data.Rat.Floor
import Mathlib.Tactic.LinearCombination

/-! # Openings and Register Positions

    A profile relates the opening between the fingers to the position register:
    widest at `openPosition`, narrowest at `closedPosition`. Every number of an
    ordered field is finite; floating-point rounding is set aside.

    * `DeviceProfile`: the measured ends of both,
    * `openingToRegister`, `openingFromRegister`: the two conversions,
    * `opening_conversions`: they are inverse to within a half step.
-/

namespace GripperDriver

open Rounding

/-- The specifications of a gripper model, with its fingers. -/
structure DeviceProfile (K : Type u) where
  /-- m/s -/
  minSpeed : K
  maxSpeed : K
  /-- The opening at `closedPosition`, in metres. -/
  minOpening : K
  /-- The opening at `openPosition`. -/
  maxOpening : K
  openPosition : Byte
  closedPosition : Byte
  deriving Repr

section
variable {K : Type u} [Field K] [LinearOrder K]

def DeviceProfile.registerPositionRange (profile : DeviceProfile K) : K :=
  profile.closedPosition.toNat - profile.openPosition.toNat

def DeviceProfile.openingRange (profile : DeviceProfile K) : K :=
  profile.maxOpening - profile.minOpening

/-- What is rounded is narrowed to eight bits. -/
def roundedRegister [FloorRing K] (steps : K) : Byte := BitVec.ofInt 8 (lround steps)

def registerFromSpan [FloorRing K] (value minimum maximum : K) : Option Byte :=
  if value < 0 ∨ maximum ≤ minimum then none
  else
    let fraction := clamp ((value - minimum) / (maximum - minimum)) 0 1
    some (roundedRegister (fraction * 0xFF))

def speedToRegister [FloorRing K] (speed : K) (profile : DeviceProfile K) : Option Byte :=
  registerFromSpan speed profile.minSpeed profile.maxSpeed

def effortToRegister [FloorRing K] (effort : K) : Option Byte :=
  registerFromSpan effort 0 1

def openFraction (opening : K) (profile : DeviceProfile K) : K :=
  clamp ((opening - profile.minOpening) / profile.openingRange) 0 1

/-- How far an opening is along the position register, before it is rounded. -/
def openingSteps (opening : K) (profile : DeviceProfile K) : K :=
  profile.openPosition.toNat + (1 - openFraction opening profile) * profile.registerPositionRange

def openingToRegister [FloorRing K] (opening : K) (profile : DeviceProfile K) : Option Byte :=
  if profile.openingRange ≤ 0 ∨ profile.registerPositionRange ≤ 0 then none
  else some (roundedRegister (openingSteps opening profile))

def openingFromRegister (value : Byte) (profile : DeviceProfile K) : Option K :=
  let band := profile.registerPositionRange
  let span := profile.openingRange
  if band ≤ 0 ∨ span ≤ 0 then none
  else
    -- the positions are promoted to int before the division
    let closedFraction := clamp (((value.toNat - profile.openPosition.toNat : ℤ) : K) / band) 0 1
    some (profile.minOpening + (1 - closedFraction) * span)

/-! ## A profile with room between its ends -/

variable [IsStrictOrderedRing K] {profile : DeviceProfile K}

omit [Field K] [LinearOrder K] [IsStrictOrderedRing K] in
theorem positions_lt (h : profile.openPosition < profile.closedPosition) :
    (profile.openPosition.toNat : ℤ) < profile.closedPosition.toNat := by
  exact_mod_cast BitVec.lt_def.mp h

theorem openingRange_pos (h : profile.minOpening < profile.maxOpening) :
    0 < profile.openingRange :=
  sub_pos.mpr h

theorem registerPositionRange_pos (h : profile.openPosition < profile.closedPosition) :
    0 < profile.registerPositionRange := by
  rw [DeviceProfile.registerPositionRange, sub_pos]
  exact_mod_cast BitVec.lt_def.mp h

theorem openFraction_mono (hspan : profile.minOpening < profile.maxOpening) {o o' : K}
    (h : o ≤ o') : openFraction o profile ≤ openFraction o' profile := by
  apply clamp_mono zero_le_one
  apply div_le_div_of_nonneg_right _ (openingRange_pos hspan).le
  linarith

theorem closed_nonneg (opening : K) (profile : DeviceProfile K) :
    0 ≤ 1 - openFraction opening profile :=
  sub_nonneg.mpr (clamp_le zero_le_one _)

theorem closed_le_one (opening : K) (profile : DeviceProfile K) :
    1 - openFraction opening profile ≤ 1 :=
  sub_le_self 1 (le_clamp zero_le_one _)

/-- An opening between the two ends is its own fraction of the way. -/
theorem openFraction_of_mem (hspan : profile.minOpening < profile.maxOpening) {x : K}
    (h0 : 0 ≤ x) (h1 : x ≤ 1) :
    openFraction (profile.minOpening + x * profile.openingRange) profile = x := by
  have hpos := openingRange_pos hspan
  rw [openFraction, add_sub_cancel_left, mul_div_cancel_right₀ _ hpos.ne', clamp_of_mem h0 h1]

theorem minOpening_add (hspan : profile.minOpening < profile.maxOpening) {o : K}
    (hmin : profile.minOpening ≤ o) (hmax : o ≤ profile.maxOpening) :
    profile.minOpening + openFraction o profile * profile.openingRange = o := by
  have hpos := openingRange_pos hspan
  rw [openFraction, clamp_of_mem, div_mul_cancel₀ _ hpos.ne', add_sub_cancel]
  · exact div_nonneg (sub_nonneg.mpr hmin) hpos.le
  · rw [div_le_one hpos, DeviceProfile.openingRange]
    linarith

variable [FloorRing K]

omit [IsStrictOrderedRing K] in
/-- What is rounded is a step of the band between the two positions. -/
theorem lround_openingSteps (opening : K) :
    lround (openingSteps opening profile)
      = quantize profile.openPosition.toNat profile.closedPosition.toNat
          (1 - openFraction opening profile) := by
  simp only [openingSteps, quantize, DeviceProfile.registerPositionRange, Int.cast_natCast]

omit [IsStrictOrderedRing K] in
theorem roundedRegister_toNat {steps : K} (first last : Byte) (h0 : first.toNat ≤ lround steps)
    (h1 : lround steps ≤ last.toNat) : ((roundedRegister steps).toNat : ℤ) = lround steps := by
  have hlast := last.isLt
  rw [roundedRegister, BitVec.toNat_ofInt]
  omega

/-- A span takes all the steps of a register: a value of it the one nearest to it, however far
    it is beyond the maximum. -/
theorem registerFromSpan_eq {value minimum maximum : K} (h : 0 ≤ value)
    (hspan : minimum < maximum) :
    ∃ register, registerFromSpan value minimum maximum = some register ∧
      (register.toNat : ℤ) = quantize 0 255 (clamp ((value - minimum) / (maximum - minimum)) 0 1)
      := by
  have hlt : (0 : ℤ) < 255 := by decide
  refine ⟨_, if_neg (not_or.mpr ⟨not_lt.mpr h, not_le.mpr hspan⟩), ?_⟩
  have hsteps : ∀ x : K, lround (x * 0xFF) = quantize 0 255 x := by
    intro x
    rw [quantize]
    norm_num
  rw [roundedRegister_toNat 0 255, hsteps]
  · rw [hsteps]
    exact first_le_quantize hlt (le_clamp zero_le_one _)
  · rw [hsteps]
    exact quantize_le_last hlt (clamp_le zero_le_one _)

/-- A greater speed is never asked for with a smaller register. -/
theorem speedToRegister_mono (hspan : profile.minSpeed < profile.maxSpeed) {speed faster : K}
    (h0 : 0 ≤ speed) (h : speed ≤ faster) {register register' : Byte}
    (hreg : speedToRegister speed profile = some register)
    (hreg' : speedToRegister faster profile = some register') : register ≤ register' := by
  obtain ⟨_, hsome, hstep⟩ := registerFromSpan_eq h0 hspan
  obtain ⟨_, hsome', hstep'⟩ := registerFromSpan_eq (h0.trans h) hspan
  cases hsome.symm.trans hreg
  cases hsome'.symm.trans hreg'
  have hmono : clamp ((speed - profile.minSpeed) / (profile.maxSpeed - profile.minSpeed)) 0 1
      ≤ clamp ((faster - profile.minSpeed) / (profile.maxSpeed - profile.minSpeed)) 0 1 := by
    apply clamp_mono zero_le_one
    apply div_le_div_of_nonneg_right _ (sub_pos.mpr hspan).le
    linarith
  have hle := quantize_mono (by decide : (0 : ℤ) < 255) hmono
  rw [BitVec.le_def]
  omega

section register
variable (hspan : profile.minOpening < profile.maxOpening)
  (hband : profile.openPosition < profile.closedPosition)
include hspan hband

theorem openingToRegister_eq (opening : K) :
    openingToRegister opening profile = some (roundedRegister (openingSteps opening profile)) := by
  rw [openingToRegister, if_neg]
  rw [not_or, not_le, not_le]
  exact ⟨openingRange_pos hspan, registerPositionRange_pos hband⟩

omit [FloorRing K] in
theorem openingFromRegister_eq (value : Byte) :
    openingFromRegister value profile
      = some (profile.minOpening
          + (1 - fraction profile.openPosition.toNat profile.closedPosition.toNat value.toNat)
            * profile.openingRange) := by
  rw [openingFromRegister, if_neg]
  · simp only [fraction, DeviceProfile.registerPositionRange, Int.cast_natCast, Int.cast_sub]
  · rw [not_or, not_le, not_le]
    exact ⟨registerPositionRange_pos hband, openingRange_pos hspan⟩

omit hspan in
theorem openingSteps_toNat (opening : K) :
    ((roundedRegister (openingSteps opening profile)).toNat : ℤ)
      = quantize profile.openPosition.toNat profile.closedPosition.toNat
          (1 - openFraction opening profile) := by
  have hlt := positions_lt hband
  rw [roundedRegister_toNat profile.openPosition profile.closedPosition, lround_openingSteps]
  · rw [lround_openingSteps]
    exact first_le_quantize hlt (closed_nonneg opening profile)
  · rw [lround_openingSteps]
    exact quantize_le_last hlt (closed_le_one opening profile)

/-- A register comes back as the position of the band that is nearest to it. -/
theorem openingSteps_fromRegister (value : Byte) {opening : K}
    (h : openingFromRegister value profile = some opening) :
    ((roundedRegister (openingSteps opening profile)).toNat : ℤ)
      = clamp (value.toNat : ℤ) profile.openPosition.toNat profile.closedPosition.toNat := by
  have hlt := positions_lt hband
  rw [openingFromRegister_eq hspan hband, Option.some.injEq] at h
  have h0 := fraction_nonneg (K := K) profile.openPosition.toNat profile.closedPosition.toNat
    value.toNat
  have h1 := fraction_le_one (K := K) profile.openPosition.toNat profile.closedPosition.toNat
    value.toNat
  rw [openingSteps_toNat hband, ← h, openFraction_of_mem hspan (by linarith) (by linarith),
    sub_sub_cancel, quantize_fraction hlt]

/-- An opening comes back to within half a register step. -/
theorem openingFromRegister_near {opening : K} (hmin : profile.minOpening ≤ opening)
    (hmax : opening ≤ profile.maxOpening) :
    ∃ back, openingFromRegister (roundedRegister (openingSteps opening profile)) profile
        = some back ∧
      |back - opening| ≤ profile.openingRange / profile.registerPositionRange / 2 := by
  have hlt := positions_lt hband
  have hpos := openingRange_pos hspan
  have hnear := abs_fraction_quantize_sub hlt (closed_nonneg opening profile)
    (closed_le_one opening profile)
  rw [← openingSteps_toNat hband] at hnear
  generalize hf : fraction (K := K) _ _ _ = f at hnear
  refine ⟨_, openingFromRegister_eq hspan hband _, ?_⟩
  rw [hf]
  have hback : profile.minOpening + (1 - f) * profile.openingRange - opening
      = (1 - openFraction opening profile - f) * profile.openingRange := by
    linear_combination minOpening_add hspan hmin hmax
  calc |profile.minOpening + (1 - f) * profile.openingRange - opening|
      = |f - (1 - openFraction opening profile)| * profile.openingRange := by
        rw [hback, abs_mul, abs_of_pos hpos, abs_sub_comm]
    _ ≤ 1 / profile.registerPositionRange / 2 * profile.openingRange := by
        apply mul_le_mul_of_nonneg_right _ hpos.le
        simpa only [DeviceProfile.registerPositionRange, Int.cast_natCast] using hnear
    _ = profile.openingRange / profile.registerPositionRange / 2 := by ring

end register

/-- For every profile with room between its ends: an opening is a position of the band, no
    greater for a wider opening and never narrowed; a register comes back as the position of
    the band nearest to it, and an opening to within half a register step. -/
theorem opening_conversions (profile : DeviceProfile K)
    (hspan : profile.minOpening < profile.maxOpening)
    (hband : profile.openPosition < profile.closedPosition) :
    (∀ opening, ∃ register, openingToRegister opening profile = some register ∧
      profile.openPosition ≤ register ∧ register ≤ profile.closedPosition ∧
      (register.toNat : ℤ) = lround (openingSteps opening profile)) ∧
    (∀ opening wider register register', opening ≤ wider →
      openingToRegister opening profile = some register →
      openingToRegister wider profile = some register' → register' ≤ register) ∧
    (∀ register, ∃ opening, openingFromRegister register profile = some opening ∧
      (profile.openPosition ≤ register → register ≤ profile.closedPosition →
        openingToRegister opening profile = some register) ∧
      (register < profile.openPosition →
        openingToRegister opening profile = some profile.openPosition) ∧
      (profile.closedPosition < register →
        openingToRegister opening profile = some profile.closedPosition)) ∧
    (∀ opening, profile.minOpening ≤ opening → opening ≤ profile.maxOpening →
      ∃ register back, openingToRegister opening profile = some register ∧
        openingFromRegister register profile = some back ∧
        |back - opening| ≤ profile.openingRange / profile.registerPositionRange / 2) := by
  have hconv := openingToRegister_eq hspan hband
  have hlt := positions_lt hband
  constructor
  · intro opening
    have hsteps := openingSteps_toNat hband opening
    have hfirst := first_le_quantize hlt (closed_nonneg opening profile)
    have hlast := quantize_le_last hlt (closed_le_one opening profile)
    refine ⟨_, hconv opening, ?_, ?_, ?_⟩
    · rw [BitVec.le_def]
      omega
    · rw [BitVec.le_def]
      omega
    · rw [hsteps, lround_openingSteps]
  constructor
  · intro opening wider register register' h hreg hreg'
    rw [hconv, Option.some.injEq] at hreg hreg'
    have hmono := quantize_mono (K := K) hlt
      (sub_le_sub_left (openFraction_mono hspan h) 1)
    rw [← openingSteps_toNat hband, ← openingSteps_toNat hband, hreg, hreg'] at hmono
    rw [BitVec.le_def]
    omega
  constructor
  · intro register
    refine ⟨_, openingFromRegister_eq hspan hband register, ?_⟩
    have hback := openingSteps_fromRegister hspan hband register
      (openingFromRegister_eq hspan hband register)
    rw [hconv]
    refine ⟨?_, ?_, ?_⟩
    · intro hfirst hlast
      rw [clamp_of_mem (by exact_mod_cast hfirst) (by exact_mod_cast hlast)] at hback
      exact congrArg some (BitVec.eq_of_toNat_eq (by exact_mod_cast hback))
    · intro hlow
      rw [clamp_of_lt (by exact_mod_cast BitVec.lt_def.mp hlow)] at hback
      exact congrArg some (BitVec.eq_of_toNat_eq (by exact_mod_cast hback))
    · intro hhigh
      rw [clamp_of_gt hlt.le (by exact_mod_cast BitVec.lt_def.mp hhigh)] at hback
      exact congrArg some (BitVec.eq_of_toNat_eq (by exact_mod_cast hback))
  · intro opening hmin hmax
    obtain ⟨back, hback, hnear⟩ := openingFromRegister_near hspan hband hmin hmax
    exact ⟨_, back, hconv opening, hback, hnear⟩

end

/-! ## A measured profile -/

def k2F85 : DeviceProfile ℚ where
  minSpeed := 20 / 1000
  maxSpeed := 150 / 1000
  minOpening := 0
  maxOpening := 85 / 1000
  openPosition := 3
  closedPosition := 230

-- half way is half way along 227 steps, and the half step is rounded up
example : openingToRegister (85 / 2000) k2F85 = some 117 := by decide +kernel

theorem opening_conversions_2F85 :
    (k2F85.minOpening < k2F85.maxOpening ∧ k2F85.openPosition < k2F85.closedPosition) ∧
    ∀ opening, k2F85.minOpening ≤ opening → opening ≤ k2F85.maxOpening →
      ∃ register back, openingToRegister opening k2F85 = some register ∧
        openingFromRegister register k2F85 = some back ∧
        |back - opening| ≤ k2F85.openingRange / k2F85.registerPositionRange / 2 := by
  have hspan : k2F85.minOpening < k2F85.maxOpening := by
    norm_num [k2F85]
  have hband : k2F85.openPosition < k2F85.closedPosition := by decide
  exact ⟨⟨hspan, hband⟩, (opening_conversions k2F85 hspan hband).2.2.2⟩

end GripperDriver

import Mathlib

/-! # Shift Registers with Feedback

    A register of `w` bits that takes in one bit at a time, as cyclic redundancy checks
    do. The bit is added to the lowest place, everything moves down by one place, and
    where a one falls out at the bottom `tap` is added to what is left.

    * `step`, `feed`, `run`: one move, one bit taken in, and a whole list of them,
    * `run_xor`: the register is linear over exclusive or, so that what two inputs
      differ in can be run on its own,
    * `run_eq_zero_iff`: the last `w` bits that bring the register to zero,
    * the differences that are never lost: those within `w` bits (`spread_of_run_zero`),
      an odd number of them (`even_of_run_zero`), two of them (`returns_of_run_zero`).
-/

namespace ShiftRegister

variable {w : Nat}

/-! ## The register -/

def bit (b : Bool) : BitVec w := if b then 1#w else 0#w

/-- Everything moves down; a one that falls out comes back as `tap`. -/
def step (tap r : BitVec w) : BitVec w :=
  if r.getLsbD 0 then (r >>> 1) ^^^ tap else r >>> 1

/-- One bit is taken in. -/
def feed (tap r : BitVec w) (b : Bool) : BitVec w := step tap (r ^^^ bit b)

def run (tap r : BitVec w) (bits : List Bool) : BitVec w := bits.foldl (feed tap) r

/-- The register that holds these bits, the first one lowest. -/
def ofBits : List Bool → BitVec w
  | [] => 0#w
  | b :: bits => (ofBits bits <<< 1) ^^^ bit b

variable {tap : BitVec w}

@[simp] theorem run_nil (r : BitVec w) : run tap r [] = r := rfl

@[simp] theorem run_cons (r : BitVec w) (b : Bool) (bits : List Bool) :
    run tap r (b :: bits) = run tap (feed tap r b) bits := rfl

theorem run_append (r : BitVec w) (bits bits' : List Bool) :
    run tap r (bits ++ bits') = run tap (run tap r bits) bits' := List.foldl_append

theorem getLsbD_bit (b : Bool) (i : Nat) :
    (bit b : BitVec w).getLsbD i = (decide (i < w) && decide (i = 0) && b) := by
  cases b
  · simp [bit]
  · by_cases hi : i = 0 <;> simp [bit, hi, BitVec.getLsbD_one]

theorem getLsbD_ofBits (bits : List Bool) (i : Nat) :
    (ofBits bits : BitVec w).getLsbD i = (decide (i < w) && bits.getD i false) := by
  induction bits generalizing i with
  | nil => simp [ofBits]
  | cons b bits ih =>
    rw [ofBits, BitVec.getLsbD_xor, BitVec.getLsbD_shiftLeft, ih, getLsbD_bit]
    cases i with
    | zero => simp
    | succ i =>
      by_cases hi : i + 1 < w
      · simp [hi, Nat.lt_of_succ_lt hi]
      · simp [hi]

/-! ## It is linear -/

@[simp] theorem bit_false : (bit false : BitVec w) = 0#w := rfl

theorem bit_xor (b b' : Bool) : (bit (b ^^ b') : BitVec w) = bit b ^^^ bit b' := by
  cases b <;> cases b' <;> simp [bit]

theorem xor_xor_xor_comm (x y z t : BitVec w) : x ^^^ y ^^^ (z ^^^ t) = x ^^^ z ^^^ (y ^^^ t) := by
  ac_rfl

theorem step_xor (x y : BitVec w) : step tap (x ^^^ y) = step tap x ^^^ step tap y := by
  unfold step
  rw [BitVec.getLsbD_xor, BitVec.ushiftRight_xor_distrib]
  -- where both lowest places hold a one, the two taps cancel
  cases x.getLsbD 0 <;> cases y.getLsbD 0
  · simp
  · simp [BitVec.xor_assoc]
  · simp only [Bool.xor_false, if_true, Bool.false_eq_true, if_false]
    ac_rfl
  · simp only [bne_self_eq_false, Bool.false_eq_true, if_false, if_true]
    rw [xor_xor_xor_comm, BitVec.xor_self, BitVec.xor_zero]

@[simp] theorem step_zero : step tap 0#w = 0#w := by simp [step]

theorem feed_xor (x y : BitVec w) (b b' : Bool) :
    feed tap (x ^^^ y) (b ^^ b') = feed tap x b ^^^ feed tap y b' := by
  unfold feed
  rw [bit_xor, xor_xor_xor_comm, step_xor]

/-- **Linearity**: two inputs of one length, and what they differ in. -/
theorem run_xor {bits bits' : List Bool} (h : bits.length = bits'.length) (x y : BitVec w) :
    run tap (x ^^^ y) (List.zipWith xor bits bits') = run tap x bits ^^^ run tap y bits' := by
  induction bits generalizing x y bits' with
  | nil =>
    obtain rfl := List.length_eq_zero_iff.mp h.symm
    rfl
  | cons b bits ih =>
    cases bits' with
    | nil => cases h
    | cons b' bits' =>
      rw [List.zipWith_cons_cons, run_cons, feed_xor, ih (Nat.succ.inj h), run_cons, run_cons]

/-- Without a one in the input the register only moves. -/
theorem run_quiet {bits : List Bool} (h : true ∉ bits) (r : BitVec w) :
    run tap r bits = (step tap)^[bits.length] r := by
  induction bits generalizing r with
  | nil => rfl
  | cons b bits ih =>
    cases b with
    | true => exact absurd List.mem_cons_self h
    | false =>
      rw [run_cons, ih (fun hmem => h (List.mem_cons_of_mem _ hmem)), List.length_cons,
        Function.iterate_succ_apply, feed, bit_false, BitVec.xor_zero]

@[simp] theorem iterate_step_zero (n : Nat) : (step tap)^[n] 0#w = 0#w :=
  Function.iterate_fixed step_zero n

/-! ## What brings it to zero

    From here on a one that falls out comes back at the top, so that no move loses
    anything. -/

section feedback
variable (htap : tap.msb = true)
include htap

theorem width_pos : 0 < w := by
  by_contra h
  obtain rfl : w = 0 := by omega
  simp [BitVec.msb] at htap

theorem step_eq_zero {r : BitVec w} (h : step tap r = 0#w) : r = 0#w := by
  unfold step at h
  by_cases hr : r.getLsbD 0 = true
  · -- the top place would be that of `tap`
    rw [if_pos hr] at h
    have hmsb := congrArg BitVec.msb h
    simp [htap, BitVec.msb_ushiftRight] at hmsb
  · rw [if_neg hr] at h
    apply BitVec.eq_of_getLsbD_eq
    intro i _
    cases i with
    | zero => simpa using hr
    | succ i =>
      have hi := congrArg (fun x => x.getLsbD i) h
      simpa [Nat.add_comm] using hi

theorem iterate_step_eq_zero {n : Nat} {r : BitVec w} (h : (step tap)^[n] r = 0#w) : r = 0#w := by
  induction n generalizing r with
  | zero => exact h
  | succ n ih => exact step_eq_zero htap (ih h)

/-- What has not reached the bottom only moves down. -/
theorem step_shiftLeft {bits : List Bool} (h : bits.length < w) :
    step tap (ofBits bits <<< 1) = ofBits bits := by
  have hw := width_pos htap
  unfold step
  rw [if_neg (by simp)]
  apply BitVec.eq_of_getLsbD_eq
  intro i hi
  rw [BitVec.getLsbD_ushiftRight, BitVec.getLsbD_shiftLeft, getLsbD_ofBits, getLsbD_ofBits]
  by_cases hlast : 1 + i < w
  · simp [hlast, hi]
  · have hnone : bits[i]? = none := List.getElem?_eq_none (by omega)
    simp [hlast, hnone]

/-- As many bits as the register has places may be taken in at once. -/
theorem run_eq_iterate {bits : List Bool} (h : bits.length ≤ w) (r : BitVec w) :
    run tap r bits = (step tap)^[bits.length] (r ^^^ ofBits bits) := by
  induction bits generalizing r with
  | nil => simp [ofBits]
  | cons b bits ih =>
    have hstep : step tap (r ^^^ ofBits (b :: bits)) = feed tap r b ^^^ ofBits bits := by
      rw [ofBits, BitVec.xor_comm (ofBits bits <<< 1), ← BitVec.xor_assoc, step_xor,
        step_shiftLeft htap h]
      rfl
    rw [run_cons, ih (Nat.le_of_succ_le h), List.length_cons, Function.iterate_succ_apply, hstep]

/-- **What closes a message**: at the end, only the bits that the register holds bring
    it to zero. -/
theorem run_eq_zero_iff {bits : List Bool} (h : bits.length ≤ w) (r : BitVec w) :
    run tap r bits = 0#w ↔ r = ofBits bits := by
  rw [run_eq_iterate htap h]
  constructor
  · intro hzero
    exact BitVec.xor_eq_zero_iff.mp (iterate_step_eq_zero htap hzero)
  · intro hr
    rw [hr, BitVec.xor_self, iterate_step_zero]

/-! ## Differences within one register's width -/

/-- **Bursts**: what the register does not see spans more than its width. -/
theorem spread_of_run_zero {bits : List Bool} (h : run tap 0#w bits = 0#w) (hone : true ∈ bits) :
    ∃ i j, i + w ≤ j ∧ bits[i]? = some true ∧ bits[j]? = some true := by
  have hw := width_pos htap
  obtain ⟨front, rest, rfl, hfront⟩ := List.eq_append_cons_of_mem hone
  rw [run_append, run_quiet hfront, iterate_step_zero] at h
  have hat (n : Nat) : (front ++ true :: rest)[front.length + n]? = (true :: rest)[n]? := by
    rw [List.getElem?_append_right (by omega), Nat.add_sub_cancel_left]
  by_cases hlate : true ∈ (true :: rest).drop w
  · obtain ⟨n, hn⟩ := List.mem_iff_getElem?.mp hlate
    refine ⟨front.length, front.length + (w + n), by omega, by simp, ?_⟩
    rw [hat, ← List.getElem?_drop, hn]
  · -- all the ones are within the width, and would be in the register
    exfalso
    rw [← List.take_append_drop w (true :: rest), run_append, run_quiet hlate] at h
    have hzero := iterate_step_eq_zero htap h
    rw [run_eq_zero_iff htap (List.length_take_le _ _)] at hzero
    have hlow : (0#w).getLsbD 0 = true := by
      rw [hzero, getLsbD_ofBits]
      simp [hw]
    simp at hlow

/-! ## Two differences -/

/-- **Pairs**: two ones are not seen only where the register has come round to where it
    was after the first. -/
theorem returns_of_run_zero {bits : List Bool} (h : run tap 0#w bits = 0#w)
    (htwo : bits.count true = 2) : ∃ n < bits.length, 0 < n ∧ (step tap)^[n] 1#w = 1#w := by
  obtain ⟨front, rest, rfl, hfront⟩ :=
    List.eq_append_cons_of_mem (List.count_pos_iff.mp (htwo ▸ Nat.two_pos))
  have hrest : rest.count true = 1 := by
    rw [List.count_append, List.count_eq_zero_of_not_mem hfront, List.count_cons_self] at htwo
    omega
  obtain ⟨between, back, rfl, hbetween⟩ :=
    List.eq_append_cons_of_mem (List.count_pos_iff.mp (hrest ▸ Nat.one_pos))
  have hback : true ∉ back := by
    rw [List.count_append, List.count_eq_zero_of_not_mem hbetween, List.count_cons_self] at hrest
    exact List.count_eq_zero.mp (by omega)
  refine ⟨between.length + 1, by simp; omega, Nat.succ_pos _, ?_⟩
  -- the second one meets the first, wherever that has got to
  rw [run_append, run_quiet hfront, iterate_step_zero, run_cons, run_append, run_quiet hbetween,
    run_cons, run_quiet hback] at h
  have hmeet := step_eq_zero htap (iterate_step_eq_zero htap h)
  rw [BitVec.xor_eq_zero_iff, feed, BitVec.zero_xor] at hmeet
  exact hmeet

end feedback

/-- `step`, on numbers. -/
def stepNat (tap r : Nat) : Nat := (r / 2) ^^^ (r % 2 * tap)

theorem toNat_step (r : BitVec w) : (step tap r).toNat = stepNat tap.toNat r.toNat := by
  have hlow : r.getLsbD 0 = decide (r.toNat % 2 = 1) := by
    rw [BitVec.getLsbD, Nat.testBit_zero]
  unfold step stepNat
  rw [hlow, ← Nat.shiftRight_one]
  rcases Nat.mod_two_eq_zero_or_one r.toNat with heven | hodd
  · simp [heven]
  · simp [hodd]

/-- In its next moves the register does not come to `x`. -/
def staysAway (tap x : Nat) : Nat → Nat → Bool
  | 0, _ => true
  | n + 1, r => stepNat tap r != x && staysAway tap x n (stepNat tap r)

theorem iterate_step_ne {n : Nat} {x r : BitVec w}
    (h : staysAway tap.toNat x.toNat n r.toNat = true) {k : Nat} (hpos : 0 < k) (hk : k ≤ n) :
    (step tap)^[k] r ≠ x := by
  induction n generalizing r k with
  | zero => omega
  | succ n ih =>
    obtain ⟨k, rfl⟩ := Nat.exists_eq_succ_of_ne_zero hpos.ne'
    rw [staysAway, ← toNat_step, Bool.and_eq_true, bne_iff_ne] at h
    obtain ⟨hne, hrest⟩ := h
    rw [Function.iterate_succ_apply]
    by_cases hzero : k = 0
    · subst hzero
      intro hx
      exact hne (congrArg BitVec.toNat hx)
    · exact ih hrest (Nat.pos_of_ne_zero hzero) (Nat.le_of_succ_le_succ hk)

/-! ## How many differences -/

/-- The number of ones, modulo two. -/
def parity (r : BitVec w) : ZMod 2 := ∑ i ∈ Finset.range w, ((r.getLsbD i).toNat : ZMod 2)

theorem cast_xor (b b' : Bool) :
    ((b ^^ b').toNat : ZMod 2) = (b.toNat : ZMod 2) + (b'.toNat : ZMod 2) := by
  cases b <;> cases b' <;> decide

theorem parity_xor (x y : BitVec w) : parity (x ^^^ y) = parity x + parity y := by
  unfold parity
  rw [← Finset.sum_add_distrib]
  apply Finset.sum_congr rfl
  intro i _
  rw [BitVec.getLsbD_xor, cast_xor]

/-- What falls out at the bottom is missing. -/
theorem parity_shiftRight (r : BitVec w) :
    parity (r >>> 1) + (r.getLsbD 0).toNat = parity r := by
  have hsum : ∑ i ∈ Finset.range (w + 1), ((r.getLsbD i).toNat : ZMod 2) = parity r := by
    rw [Finset.sum_range_succ, BitVec.getLsbD_of_ge r w le_rfl]
    simp [parity]
  rw [← hsum, Finset.sum_range_succ']
  simp [parity, Nat.add_comm]

section odd
variable (hodd : parity tap = 1)
include hodd

/-- With an odd `tap` no move changes the parity. -/
theorem parity_step (r : BitVec w) : parity (step tap r) = parity r := by
  unfold step
  rw [← parity_shiftRight r]
  cases r.getLsbD 0 with
  | false => simp
  | true => simp [parity_xor, hodd]

theorem parity_feed (r : BitVec w) (b : Bool) :
    parity (feed tap r b) = parity r + (b.toNat : ZMod 2) := by
  rw [feed, parity_step hodd, parity_xor]
  congr 1
  cases b with
  | false => simp [parity]
  | true =>
    -- a register without places has no odd `tap`
    cases w with
    | zero => simp [parity] at hodd
    | succ w =>
      unfold parity
      rw [Finset.sum_range_succ']
      simp only [getLsbD_bit]
      simp

theorem parity_run (r : BitVec w) (bits : List Bool) :
    parity (run tap r bits) = parity r + (bits.count true : ZMod 2) := by
  induction bits generalizing r with
  | nil => simp
  | cons b bits ih =>
    rw [run_cons, ih, parity_feed hodd, List.count_cons, add_assoc]
    cases b <;> simp [add_comm]

/-- **Parity**: an odd number of ones is always seen. -/
theorem even_of_run_zero {bits : List Bool} (h : run tap 0#w bits = 0#w) :
    Even (bits.count true) := by
  have hzero : parity (0#w) = 0 := by simp [parity]
  have hrun := parity_run hodd 0#w bits
  rw [h, hzero, zero_add] at hrun
  exact (ZMod.natCast_eq_zero_iff_even).mp hrun.symm

end odd

end ShiftRegister

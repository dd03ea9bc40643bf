import GripperDriver.Framework.ShiftRegister
import GripperDriver.Modbus.Acceptance

/-! # What the Checksum Detects

    The checksum of nanoMODBUS is a shift register over the bits of the frame, in the
    order in which a serial line sends them.

    * `wireBits`, `differences`: the bits of a frame, and where two frames differ,
    * `Damaged`: what noise may do to a frame without adding or losing a byte,
    * `frames_apart`: two frames that are both in order are far apart.

    A reply that came damaged is never taken for a status (`damaged_reply_throws`).
-/

namespace GripperDriver

open Interleaving ShiftRegister

/-! ## Bits on the line -/

/-- A serial line sends the lowest bit first. -/
def byteBits (b : Byte) : List Bool := (List.range 8).map b.getLsbD

def wireBits (bytes : List Byte) : List Bool := bytes.flatMap byteBits

/-- For each bit on the line, whether the two differ there. -/
def differences (f g : List Byte) : List Bool := List.zipWith xor (wireBits f) (wireBits g)

@[simp] theorem wireBits_nil : wireBits [] = [] := rfl

@[simp] theorem wireBits_cons (b : Byte) (bytes : List Byte) :
    wireBits (b :: bytes) = byteBits b ++ wireBits bytes := rfl

@[simp] theorem wireBits_append (f g : List Byte) : wireBits (f ++ g) = wireBits f ++ wireBits g :=
  List.flatMap_append

@[simp] theorem length_byteBits (b : Byte) : (byteBits b).length = 8 := by simp [byteBits]

@[simp] theorem length_wireBits (bytes : List Byte) : (wireBits bytes).length = 8 * bytes.length := by
  induction bytes with
  | nil => rfl
  | cons b bytes ih =>
    rw [wireBits_cons, List.length_append, ih, length_byteBits, List.length_cons]
    omega

theorem byteBits_inj {b b' : Byte} (h : byteBits b = byteBits b') : b = b' := by
  apply BitVec.eq_of_getLsbD_eq
  intro i hi
  exact List.map_inj_left.mp h i (List.mem_range.mpr hi)

theorem wireBits_inj {f g : List Byte} (h : wireBits f = wireBits g) : f = g := by
  have hlength := congrArg List.length h
  rw [length_wireBits, length_wireBits] at hlength
  induction f generalizing g with
  | nil =>
    cases g with
    | nil => rfl
    | cons b' g => simp at hlength
  | cons b f ih =>
    cases g with
    | nil => simp at hlength
    | cons b' g =>
      rw [wireBits_cons, wireBits_cons] at h
      obtain ⟨hb, hrest⟩ := List.append_inj h (by simp)
      rw [byteBits_inj hb, ih hrest (by simpa using hlength)]

theorem zipWith_xor_self_of_quiet {bits bits' : List Bool} (hlength : bits.length = bits'.length)
    (h : true ∉ List.zipWith xor bits bits') : bits = bits' := by
  induction bits generalizing bits' with
  | nil => exact (List.length_eq_zero_iff.mp hlength.symm).symm
  | cons b bits ih =>
    cases bits' with
    | nil => cases hlength
    | cons b' bits' =>
      rw [List.zipWith_cons_cons, List.mem_cons, not_or] at h
      have hb : b = b' := by
        cases b <;> cases b' <;> simp at h ⊢
      rw [hb, ih (Nat.succ.inj hlength) h.2]

/-- Frames of one length that differ do so in some bit. -/
theorem mem_differences {f g : List Byte} (hlength : f.length = g.length) (hne : f ≠ g) :
    true ∈ differences f g := by
  by_contra h
  exact hne (wireBits_inj (zipWith_xor_self_of_quiet (by simp [hlength]) h))

/-! ## The checksum as a shift register -/

/-- The polynomial of `crcBit`. -/
abbrev kCrcTap : Register := 0xA001

theorem crcByte_eq (crc : Register) (b : Byte) : crcByte crc b = run kCrcTap crc (byteBits b) := by
  have hloaded : ofBits (byteBits b) = b.setWidth 16 := by
    apply BitVec.eq_of_getLsbD_eq
    intro i hi
    rw [getLsbD_ofBits, BitVec.getLsbD_setWidth]
    by_cases hbyte : i < 8
    · simp [byteBits, hi, hbyte]
    · simp [byteBits, hi, hbyte, BitVec.getLsbD_of_ge b i (by omega)]
  rw [run_eq_iterate (by decide) (by simp), length_byteBits, hloaded]
  rfl

theorem foldl_crcByte (crc : Register) (bytes : List Byte) :
    bytes.foldl crcByte crc = run kCrcTap crc (wireBits bytes) := by
  induction bytes generalizing crc with
  | nil => rfl
  | cons b bytes ih => rw [List.foldl_cons, ih, crcByte_eq, wireBits_cons, run_append]

/-- The two bytes of the checksum go out as the register holds them. -/
theorem ofBits_checksum (crc : Register) :
    ofBits (wireBits (put2 ((crc <<< 8) ||| (crc >>> 8)))) = crc := by
  apply BitVec.eq_of_getLsbD_eq
  intro i hi
  rw [getLsbD_ofBits, put2, wireBits_cons, wireBits_cons, wireBits_nil, List.append_nil]
  by_cases hbyte : i < 8
  · rw [List.getD_append _ _ _ _ (by simpa using hbyte)]
    have hhigh : crc.getLsbD (8 + (8 + i)) = false := BitVec.getLsbD_of_ge _ _ (by omega)
    have hfit : 8 + i < 16 := by omega
    simp [byteBits, highByte, hbyte, hi, hhigh, hfit]
  · rw [List.getD_append_right _ _ _ _ (by simpa using hbyte)]
    have hlow : i - 8 < 8 := by omega
    have hback : 8 + (i - 8) = i := by omega
    simp [byteBits, lowByte_eq_setWidth, hlow, hi, hback]

/-- A frame with its checksum brings the register to zero. -/
theorem run_withCrc (body : List Byte) : run kCrcTap 0xFFFF (wireBits (withCrc body)) = 0#16 := by
  rw [withCrc, wireBits_append, run_append, ← foldl_crcByte 0xFFFF,
    run_eq_zero_iff (by decide) (by simp [put2]), nmbsCrcCalc, ofBits_checksum]

/-- What two frames differ in, the register does not see. -/
theorem run_differences {body body' : List Byte} (h : body.length = body'.length) :
    run kCrcTap 0#16 (differences (withCrc body) (withCrc body')) = 0#16 := by
  have hlength : (wireBits (withCrc body)).length = (wireBits (withCrc body')).length := by
    simp [withCrc, put2, h]
  calc run kCrcTap 0#16 (differences (withCrc body) (withCrc body'))
      = run kCrcTap (0xFFFF ^^^ 0xFFFF) (differences (withCrc body) (withCrc body')) := by
        rw [BitVec.xor_self]
    _ = run kCrcTap 0xFFFF (wireBits (withCrc body)) ^^^
          run kCrcTap 0xFFFF (wireBits (withCrc body')) := run_xor hlength _ _
    _ = 0#16 := by rw [run_withCrc, run_withCrc, BitVec.xor_self]

/-! ## Frames are far apart -/

/-- The longest frame, in bytes, in which the register does not come round. -/
def kLongestApart : Nat := 4095

theorem tap_msb : kCrcTap.msb = true := by decide

theorem tap_parity : parity kCrcTap = 1 := by decide

/-- The register comes round to one after 32767 moves, not earlier. -/
theorem staysAway_crc : staysAway kCrcTap.toNat 1 32766 1 = true := by decide +kernel

theorem two_le_of_mem {bits : List Bool} (h : true ∈ bits) (heven : Even (bits.count true)) :
    2 ≤ bits.count true := by
  have hpos := List.count_pos_iff.mpr h
  obtain ⟨n, hn⟩ := heven
  omega

/-- What the register does not see. -/
theorem unseen_of_run_zero {bits : List Bool} (h : run kCrcTap 0#16 bits = 0#16)
    (hone : true ∈ bits) :
    (∃ i j, i + 16 ≤ j ∧ bits[i]? = some true ∧ bits[j]? = some true) ∧
      Even (bits.count true) ∧ (bits.length ≤ 8 * kLongestApart → 4 ≤ bits.count true) := by
  have heven := even_of_run_zero tap_parity h
  refine ⟨spread_of_run_zero tap_msb h hone, heven, ?_⟩
  intro hlength
  by_contra hfew
  have htwo : bits.count true = 2 := by
    have := two_le_of_mem hone heven
    obtain ⟨n, hn⟩ := heven
    omega
  obtain ⟨n, hn, hpos, hreturn⟩ := returns_of_run_zero tap_msb h htwo
  have hround : n ≤ 32766 := by
    unfold kLongestApart at hlength
    omega
  exact iterate_step_ne (x := 1#16) (r := 1#16) staysAway_crc hpos hround hreturn

/-- **Two frames in order are far apart.** Where the bodies have one length, the frames
    differ in two bits that are 16 or more apart, in an even number of bits, and, up to
    4095 bytes, in four bits at least. -/
theorem frames_apart {body body' : List Byte} (hlength : body.length = body'.length)
    (hne : body ≠ body') :
    (∃ i j, i + 16 ≤ j ∧ (differences (withCrc body) (withCrc body'))[i]? = some true ∧
        (differences (withCrc body) (withCrc body'))[j]? = some true) ∧
      Even ((differences (withCrc body) (withCrc body')).count true) ∧
      (body.length + 2 ≤ kLongestApart →
        4 ≤ (differences (withCrc body) (withCrc body')).count true) := by
  have hframes : withCrc body ≠ withCrc body' := by
    intro h
    exact hne (List.append_inj_left h hlength)
  have hframe : (withCrc body).length = (withCrc body').length := by simp [withCrc, put2, hlength]
  obtain ⟨hspread, heven, hfour⟩ :=
    unseen_of_run_zero (run_differences hlength) (mem_differences hframe hframes)
  refine ⟨hspread, heven, ?_⟩
  intro hshort
  apply hfour
  simp [differences, withCrc, put2, hlength] at hshort ⊢
  omega

/-- One bit of one byte, four bits of the frame. -/
theorem apart_of_one_bit : 4 ≤ (differences (withCrc [0, 1]) (withCrc [0, 3])).count true :=
  (frames_apart (by decide) (by decide)).2.2 (by decide)

/-! ## Damage -/

/-- All the differences are within 16 bits. -/
def WithinBurst (bits : List Bool) : Prop :=
  ∀ i j, bits[i]? = some true → bits[j]? = some true → j < i + 16

/-- What came is what was sent, but for bits turned over by noise: within 16 bits, an odd
    number of them, or up to three. -/
structure Damaged (sent came : List Byte) : Prop where
  length_eq : sent.length = came.length
  ne : sent ≠ came
  few : WithinBurst (differences sent came) ∨ ¬Even ((differences sent came).count true) ∨
    ((differences sent came).count true ≤ 3 ∧ sent.length ≤ kLongestApart)

/-- **Damage is seen**: no frame in order comes of another one so. -/
theorem not_damaged_withCrc (body body' : List Byte) : ¬Damaged (withCrc body) (withCrc body') := by
  intro hdamaged
  have hlength : body.length = body'.length := by
    have := hdamaged.length_eq
    simp [withCrc, put2] at this
    exact this
  have hne : body ≠ body' := by
    rintro rfl
    exact hdamaged.ne rfl
  obtain ⟨⟨i, j, hij, hi, hj⟩, heven, hfour⟩ := frames_apart hlength hne
  rcases hdamaged.few with hburst | hodd | ⟨hthree, hshort⟩
  · have := hburst i j hi hj
    omega
  · exact hodd heven
  · have := hfour (by simpa [withCrc, put2] using hshort)
    omega

/-! ## A damaged reply -/

/-- **A damaged reply is not a status.** Whatever part of it the client reads, and whoever
    sent it, the cycle throws, and leaves record, count and command to the other threads. -/
theorem damaged_reply_throws {nmbs nmbs' : Nmbs} {address : Byte} {data : ReplyData}
    {came : List Byte} (hdamaged : Damaged (withCrc ([address, 23, 6] ++ data.toList)) came)
    {w w' : CycleWorld} {result : Except String Unit}
    (h : Runs cycleThread (exchangeOnce nmbs) w (some (result, nmbs')) w')
    (hread : bytesOf (served w'.serial) <+: came) :
    (∃ e, result = .error (failureText "exchange" e)) ∧ OnlySet w w' := by
  obtain ⟨hok, herror⟩ := exchangeOnce_outcome h
  cases result with
  | error text =>
    obtain ⟨⟨e, rfl⟩, hset⟩ := herror text rfl
    exact ⟨⟨e, rfl⟩, hset⟩
  | ok =>
    -- then what was read is a whole reply, and all of what came
    obtain ⟨data', hgood⟩ := hok.mp rfl
    have hlength : (bytesOf (served w'.serial)).length = came.length := by
      rw [hgood.frame, ← hdamaged.length_eq]
      simp [withCrc, put2]
    rw [← hread.eq_of_length hlength, hgood.frame] at hdamaged
    exact absurd hdamaged (not_damaged_withCrc _ _)

/-- The reply of `goodReply`, with one bit turned over in its data. -/
def damagedReply : List SerialChoice :=
  [.go, .answer (some []), .sent true, .answer (some [9]), .answer (some [23]), .answer (some [6]),
    .answer (some [1, 2, 3, 4, 5, 7]),
    .answer (some (put2 (nmbsCrcCalc [9, 23, 6, 1, 2, 3, 4, 5, 6]))), .go]

theorem throws_on_damaged_reply : ∃ e w' nmbs',
    Runs cycleThread (exchangeOnce (clientNmbs 100 9)) {}
      (some (.error (failureText "exchange" e), nmbs')) w' ∧ OnlySet {} w' := by
  let came := [9, 23, 6, 1, 2, 3, 4, 5, 7] ++ put2 (nmbsCrcCalc [9, 23, 6, 1, 2, 3, 4, 5, 6])
  have hreplay : ((exchangeOnce (clientNmbs 100 9)).replay CycleWorld.alone {} damagedReply).any
      (fun r => bytesOf (served r.2.1.serial) == came) = true := by
    decide +kernel
  obtain ⟨⟨⟨result, nmbs'⟩, w', rest⟩, hrun, hcame⟩ := (Option.any_eq_true _ _).mp hreplay
  have hrun := runs_of_replay CycleWorld.alone_runs hrun
  have hdamaged : Damaged (withCrc ([9, 23, 6] ++ (#v[1, 2, 3, 4, 5, 6] : ReplyData).toList)) came :=
    ⟨by decide +kernel, by decide +kernel, .inr (.inl (by decide +kernel))⟩
  obtain ⟨⟨e, rfl⟩, hset⟩ :=
    damaged_reply_throws hdamaged hrun (beq_iff_eq.mp hcame ▸ List.prefix_rfl)
  exact ⟨e, w', nmbs', hrun, hset⟩

end GripperDriver

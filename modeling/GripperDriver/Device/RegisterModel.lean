import GripperDriver.Device.Blocks

/-! # The Fake Gripper's Register Model

    The device's protocol without the physics: what the status block reports
    given what the command block asked for. Activation completes instantly and
    the fingers arrive the moment they are commanded.

    * packing between byte blocks and 16-bit registers, most significant byte
      first,
    * writers for the packed fields of a status,
    * `RegisterModel`: the register file with the rACT edge tracking, `read`,
      `write` and `processCommand`,
    * what one write leaves behind, field by field of the status.
-/

namespace GripperDriver

/-! ## Byte packing -/

/-- `(high << 8) | low`. -/
def packRegister (high low : Byte) : Register := (high.setWidth 16 <<< 8) ||| low.setWidth 16

def highByte (r : Register) : Byte := (r >>> 8).setWidth 8

def lowByte (r : Register) : Byte := (r &&& 0xFF).setWidth 8

@[simp] theorem highByte_packRegister (high low : Byte) :
    highByte (packRegister high low) = high := by
  apply BitVec.eq_of_getLsbD_eq
  intro i hi
  have hlow : low.getLsbD (8 + i) = false := BitVec.getLsbD_of_ge low (8 + i) (by omega)
  simp only [highByte, packRegister, BitVec.getLsbD_setWidth, BitVec.getLsbD_ushiftRight,
    BitVec.getLsbD_or, BitVec.getLsbD_shiftLeft, hlow]
  simp [hi, (by omega : i < 16)]
  omega

theorem lowByte_eq_setWidth (r : Register) : lowByte r = r.setWidth 8 := by
  rw [lowByte, BitVec.setWidth_and]
  exact BitVec.and_allOnes

@[simp] theorem lowByte_packRegister (high low : Byte) :
    lowByte (packRegister high low) = low := by
  rw [lowByte_eq_setWidth]
  apply BitVec.eq_of_getLsbD_eq
  intro i hi
  simp only [packRegister, BitVec.getLsbD_setWidth, BitVec.getLsbD_or, BitVec.getLsbD_shiftLeft]
  simp [hi, (by omega : i < 16)]

/-- The two bytes of a register make up the register. -/
theorem packRegister_bytes (r : Register) : packRegister (highByte r) (lowByte r) = r := by
  rw [lowByte_eq_setWidth]
  apply BitVec.eq_of_getLsbD_eq
  intro i hi
  simp only [packRegister, highByte, BitVec.getLsbD_or, BitVec.getLsbD_shiftLeft,
    BitVec.getLsbD_setWidth, BitVec.getLsbD_ushiftRight]
  by_cases hlow : i < 8
  · simp [hlow, hi]
  · simp [hlow, hi, show 8 + (i - 8) = i by omega, show i - 8 < 8 by omega,
      show i - 8 < 16 by omega]

/-- The first `n` registers of a block. -/
def registersFromBytes (n : Nat) (bytes : Vector Byte 16) (hn : 2 * n ≤ 16 := by decide) :
    Vector Register n :=
  Vector.ofFn fun i : Fin n => packRegister (bytes.get ⟨2 * i.val, by omega⟩)
    (bytes.get ⟨2 * i.val + 1, by omega⟩)

/-- Fill in the first bytes of a block from registers; the rest is left alone. -/
def bytesFromRegisters {n : Nat} (registers : Vector Register n) (bytes : Vector Byte 16) :
    Vector Byte 16 :=
  Vector.ofFn fun j : Fin 16 =>
    if h : j.val / 2 < n then
      if j.val % 2 = 0 then highByte registers[j.val / 2] else lowByte registers[j.val / 2]
    else bytes[j.val]

theorem getElem_bytesFromRegisters {n : Nat} (registers : Vector Register n)
    (bytes : Vector Byte 16) (i : Nat) (hi : i < 16) (h : i / 2 < n) :
    (bytesFromRegisters registers bytes)[i] =
      if i % 2 = 0 then highByte registers[i / 2] else lowByte registers[i / 2] := by
  rw [bytesFromRegisters, Vector.getElem_ofFn, dif_pos h]

theorem getElem_bytesFromRegisters_past {n : Nat} (registers : Vector Register n)
    (bytes : Vector Byte 16) (i : Nat) (hi : i < 16) (h : ¬ i / 2 < n) :
    (bytesFromRegisters registers bytes)[i] = bytes[i] := by
  rw [bytesFromRegisters, Vector.getElem_ofFn, dif_neg h]

/-- Unpacking packed bytes gives them back, as far as the registers reach. -/
theorem bytesFromRegisters_registersFromBytes (n : Nat) (hn : 2 * n ≤ 16)
    (bytes rest : Vector Byte 16) (i : Nat) (hi : i < 16) :
    (bytesFromRegisters (registersFromBytes n bytes hn) rest)[i] =
      if i < 2 * n then bytes[i] else rest[i] := by
  simp only [bytesFromRegisters, registersFromBytes, Vector.getElem_ofFn]
  by_cases h : i / 2 < n
  · rw [dif_pos h, if_pos (by omega : i < 2 * n)]
    split
    · rw [highByte_packRegister]
      show bytes[2 * (i / 2)] = bytes[i]
      congr 1
      omega
    · rw [lowByte_packRegister]
      show bytes[2 * (i / 2) + 1] = bytes[i]
      congr 1
      omega
  · rw [dif_neg h, if_neg (by omega : ¬ i < 2 * n)]

/-! ## Status writers -/

/-- Replace the bits under `mask` with `value`, already shifted into place. -/
def withField (bits mask value : Byte) : Byte := (bits &&& ~~~ mask) ||| (value &&& mask)

def withFlag (bits mask : Byte) (set : Bool) : Byte :=
  if set then bits ||| mask else bits &&& ~~~ mask

namespace GripperStatus

/-- Every writer of a packed flag replaces byte 0. -/
def withFlags (s : GripperStatus) (f : Byte → Byte) : GripperStatus :=
  { s with gripperStatus := ⟨f s.gripperStatus.raw⟩ }

def setActivated (s : GripperStatus) (activated : Bool) : GripperStatus :=
  s.withFlags fun bits => withFlag bits kActivationStatusMask activated

def setGoToEnabled (s : GripperStatus) (enabled : Bool) : GripperStatus :=
  s.withFlags fun bits => withFlag bits kGoToEchoMask enabled

def setActivationState (s : GripperStatus) (state : ActivationState) : GripperStatus :=
  s.withFlags fun bits =>
    withField bits kActivationStateMask (state.toBits <<< kActivationStateShift)

def setObjectDetection (s : GripperStatus) (detection : ObjectDetection) : GripperStatus :=
  s.withFlags fun bits =>
    withField bits kObjectDetectionMask (detection.toBits <<< kObjectDetectionShift)

def setFaultStatusByte (s : GripperStatus) (byte : Byte) : GripperStatus :=
  { s with faultStatus := ⟨byte⟩ }

end GripperStatus

/-! ## The model -/

def kCommandAddress : Nat := 0x03E8
def kCommandRegisterCount : Nat := 3
def kStatusAddress : Nat := 0x07D0
def kStatusRegisterCount : Nat := 3

/-- The registers of a command lie within its block. -/
theorem commandRegisters_fit : 2 * kCommandRegisterCount ≤ 16 := by decide

/-- Registers per command or status block. -/
def kBlockRegisters : Nat := 8

/-- gCU reported in every status block. -/
def kReportedCurrent : Byte := 0x2A

/-- One contiguous span, address 0 through the end of the status block. -/
def kRegisterCount : Nat := kStatusAddress + kBlockRegisters

/-- The register file, by address (only addresses below `kRegisterCount` are read
    or written), and the rACT edge tracking. -/
structure RegisterModel where
  registers : Nat → Register := fun _ => 0
  previousActivateBit : Bool := false
  activationDone : Bool := false

namespace RegisterModel

/-- Whether the register map covers `[address, address + quantity)`; the last
    address is computed in 32 bits. -/
def containsRange (address quantity : Nat) : Bool :=
  (address + quantity + 2 ^ 32 - 1) % 2 ^ 32 < kRegisterCount

/-- Read holding registers; `none` when the range is refused, which is logged.
    Command-block reads answer zeros. -/
def read (m : RegisterModel) (address quantity : Nat) : Option (Vector Register quantity) :=
  if containsRange address quantity then
    some (Vector.ofFn fun i : Fin quantity =>
      let reg := address + i.val
      if kCommandAddress ≤ reg ∧ reg < kCommandAddress + kBlockRegisters then 0
      else m.registers reg)
  else none

/-- The registers of the block at `address`. -/
def blockAt (m : RegisterModel) (address : Nat) : Vector Register kBlockRegisters :=
  Vector.ofFn fun i : Fin kBlockRegisters => m.registers (address + i.val)

/-- Overwrite the registers from `address` on. -/
def copyTo (m : RegisterModel) {n : Nat} (address : Nat) (values : Vector Register n) :
    RegisterModel :=
  { m with registers := fun a =>
      if h : address ≤ a ∧ a - address < n then values[a - address] else m.registers a }

def command (m : RegisterModel) : GripperCommand :=
  .ofData (bytesFromRegisters (m.blockAt kCommandAddress) (Vector.replicate 16 0))

def status (m : RegisterModel) : GripperStatus :=
  .ofData (bytesFromRegisters (m.blockAt kStatusAddress) (Vector.replicate 16 0))

def setStatus (m : RegisterModel) (s : GripperStatus) : RegisterModel :=
  m.copyTo kStatusAddress (registersFromBytes kBlockRegisters s.data)

/-- The device's answer to the command block, and its edge tracking afterwards. -/
def processCommand (m : RegisterModel) (command : GripperCommand)
    (currentStatus : GripperStatus) : GripperStatus × RegisterModel :=
  let activateBit := command.activateBit
  let fault := currentStatus.faultStatus.raw
  -- rising edge: the sweep completes instantly
  let activationDone := if activateBit && !m.previousActivateBit then true else m.activationDone
  -- a latched fault survives until rACT is cleared
  let activationDone := if !activateBit then false else activationDone
  let fault := if !activateBit then 0 else fault
  let nextStatus : GripperStatus := ({} : GripperStatus).setFaultStatusByte fault
  let nextStatus := nextStatus.setActivated activateBit
  let nextStatus :=
    if activateBit && activationDone then
      let nextStatus := nextStatus.setActivationState .complete
      if command.goToBit then
        (nextStatus.setGoToEnabled true).setObjectDetection .atRequestedPosition
      else nextStatus
    else nextStatus
  ({ nextStatus with
      positionRequestEcho := command.positionRequest
      position := command.positionRequest
      current := kReportedCurrent },
    { m with previousActivateBit := activateBit, activationDone := activationDone })

/-- Write holding registers, then let the device act on them; a refused range is logged
    and changes nothing. -/
def write (m : RegisterModel) {n : Nat} (address : Nat) (values : Vector Register n) :
    RegisterModel :=
  if containsRange address n then
    let m := m.copyTo address values
    let (nextStatus, m) := m.processCommand m.command m.status
    m.setStatus nextStatus
  else m

/-- The status block as the three registers of an exchange carry it. -/
def answer (m : RegisterModel) : GripperStatus :=
  match m.read kStatusAddress kStatusRegisterCount with
  | some registers => .ofData (bytesFromRegisters registers (Vector.replicate 16 0))
  | none => {}

/-- The write of an exchange: the documented bytes of the block. -/
def writeCommand (m : RegisterModel) (c : GripperCommand) : RegisterModel :=
  m.write kCommandAddress (registersFromBytes kCommandRegisterCount c.data)

/-! ## What a write leaves behind -/

/-- A register inside the span just written. -/
theorem copyTo_registers_of_mem (m : RegisterModel) {n : Nat} (address i : Nat)
    (values : Vector Register n) (hi : i < n) :
    (m.copyTo address values).registers (address + i) = values[i] := by
  simp only [copyTo]
  rw [dif_pos ⟨by omega, by omega⟩]
  simp only [Nat.add_sub_cancel_left]

/-- A register past the span just written. -/
theorem copyTo_registers_of_le (m : RegisterModel) {n : Nat} (address i : Nat)
    (values : Vector Register n) (hi : n ≤ i) :
    (m.copyTo address values).registers (address + i) = m.registers (address + i) := by
  simp only [copyTo]
  rw [dif_neg (by omega)]

@[simp] theorem setStatus_activationDone (m : RegisterModel) (s : GripperStatus) :
    (m.setStatus s).activationDone = m.activationDone := rfl

@[simp] theorem setStatus_previousActivateBit (m : RegisterModel) (s : GripperStatus) :
    (m.setStatus s).previousActivateBit = m.previousActivateBit := rfl

theorem status_setStatus (m : RegisterModel) (s : GripperStatus) :
    (m.setStatus s).status = s := by
  have hblock : (m.setStatus s).blockAt kStatusAddress
      = registersFromBytes kBlockRegisters s.data := by
    apply Vector.ext
    intro i hi
    rw [blockAt, Vector.getElem_ofFn, setStatus, copyTo_registers_of_mem _ _ _ _ hi]
  have hbytes : bytesFromRegisters (registersFromBytes kBlockRegisters s.data)
      (Vector.replicate 16 0) = s.data := by
    apply Vector.ext
    intro i hi
    -- eight registers carry all sixteen bytes
    rw [bytesFromRegisters_registersFromBytes, if_pos (by simp only [kBlockRegisters]; omega)]
  rw [status, hblock, hbytes, GripperStatus.ofData_data]

/-- **The answer to an exchange** is the status block without its reserved tail. -/
theorem answer_eq (m : RegisterModel) :
    m.answer = { m.status with reservedTail := Vector.replicate 10 0 } := by
  have hread : m.read kStatusAddress kStatusRegisterCount
      = some (Vector.ofFn fun i : Fin kStatusRegisterCount => m.registers (kStatusAddress + i)) := by
    rw [read, if_pos (by decide)]
    apply congrArg some
    apply Vector.ext
    intro i hi
    have hfar : kCommandAddress + kBlockRegisters ≤ kStatusAddress := by decide
    rw [Vector.getElem_ofFn, Vector.getElem_ofFn]
    exact if_neg (by omega)
  simp only [answer, hread]
  -- the zeros stay a variable, or every unification would evaluate them
  generalize hw : Vector.replicate 16 (0 : Byte) = zeros
  suffices hbytes : bytesFromRegisters (Vector.ofFn fun i : Fin kStatusRegisterCount =>
      m.registers (kStatusAddress + i)) zeros
      = GripperStatus.data { m.status with reservedTail := Vector.replicate 10 0 } by
    rw [hbytes, GripperStatus.ofData_data]
  apply Vector.ext
  intro i hi
  by_cases hhead : i < 6
  · -- a documented byte: the register is one of the three that are read
    have hthree : i / 2 < kStatusRegisterCount := by simp only [kStatusRegisterCount]; omega
    have height : i / 2 < kBlockRegisters := by simp only [kBlockRegisters]; omega
    rw [GripperStatus.getElem_data_of_lt _ _ i hhead, status, GripperStatus.data_ofData,
      getElem_bytesFromRegisters _ _ i hi hthree, getElem_bytesFromRegisters _ _ i hi height,
      Vector.getElem_ofFn, blockAt, Vector.getElem_ofFn]
  · -- a byte of the tail: no register of the three reaches it
    obtain ⟨j, rfl⟩ : ∃ j, i = 6 + j := ⟨i - 6, by omega⟩
    have hpast : ¬ (6 + j) / 2 < kStatusRegisterCount := by simp only [kStatusRegisterCount]; omega
    rw [GripperStatus.data, getElem_block_tail _ _ j (by omega),
      getElem_bytesFromRegisters_past _ _ _ hi hpast, ← hw]
    simp only [Vector.getElem_replicate]

/-- A status without a reserved tail comes back whole in the answer to an exchange. -/
theorem answer_setStatus (m : RegisterModel) (s : GripperStatus)
    (htail : s.reservedTail = Vector.replicate 10 0) : (m.setStatus s).answer = s := by
  rw [answer_eq, status_setStatus, ← htail]

/-- The command block after the write of an exchange: its documented bytes, and
    the reserved tail as it was. -/
theorem command_copyTo (m : RegisterModel) (c : GripperCommand) :
    (m.copyTo kCommandAddress (registersFromBytes kCommandRegisterCount c.data)).command
      = { c with reservedTail := m.command.reservedTail } := by
  generalize hw : m.copyTo kCommandAddress (registersFromBytes kCommandRegisterCount c.data) = w
  suffices hbytes : bytesFromRegisters (w.blockAt kCommandAddress) (Vector.replicate 16 0)
      = GripperCommand.data { c with reservedTail := m.command.reservedTail } by
    rw [command, hbytes, GripperCommand.ofData_data]
  apply Vector.ext
  intro i hi
  have h8 : i / 2 < kBlockRegisters := by simp only [kBlockRegisters]; omega
  rw [getElem_bytesFromRegisters _ _ _ _ h8, blockAt, Vector.getElem_ofFn, ← hw]
  by_cases h6 : i < 6
  · -- a documented byte: the register is one of the three just written
    have h3 : i / 2 < kCommandRegisterCount := by simp only [kCommandRegisterCount]; omega
    have hpacked := bytesFromRegisters_registersFromBytes kCommandRegisterCount (by decide) c.data
      (Vector.replicate 16 0) i hi
    rw [getElem_bytesFromRegisters _ _ _ _ h3, if_pos (c := i < 2 * kCommandRegisterCount)
      (by simp only [kCommandRegisterCount]; omega)] at hpacked
    rw [copyTo_registers_of_mem _ _ _ _ h3, hpacked, GripperCommand.data, GripperCommand.data,
      getElem_block_head _ _ _ h6, getElem_block_head _ _ _ h6]
  · -- a byte of the tail: the register is as it was
    have hbyte : (if i % 2 = 0 then highByte (m.registers (kCommandAddress + i / 2))
        else lowByte (m.registers (kCommandAddress + i / 2)))
        = (bytesFromRegisters (m.blockAt kCommandAddress) (Vector.replicate 16 0))[i] := by
      rw [getElem_bytesFromRegisters _ _ _ _ h8, blockAt, Vector.getElem_ofFn]
    rw [copyTo_registers_of_le _ _ _ _ (by simp only [kCommandRegisterCount]; omega), hbyte]
    obtain ⟨j, rfl⟩ : ∃ j, i = 6 + j := ⟨i - 6, by omega⟩
    rw [GripperCommand.data, getElem_block_tail _ _ j (by omega), command, GripperCommand.ofData]
    simp only [Vector.getElem_ofFn]

/-- The registers of the status block. -/
def InStatusBlock (a : Nat) : Prop := kStatusAddress ≤ a ∧ a < kStatusAddress + kBlockRegisters

/-- A write to other registers leaves the status block alone. -/
theorem status_copyTo_of_apart (m : RegisterModel) {n : Nat} {address : Nat}
    (values : Vector Register n) (hapart : ∀ i < n, ¬ InStatusBlock (address + i)) :
    (m.copyTo address values).status = m.status := by
  have hblock : (m.copyTo address values).blockAt kStatusAddress = m.blockAt kStatusAddress := by
    apply Vector.ext
    intro i hi
    rw [blockAt, blockAt, Vector.getElem_ofFn, Vector.getElem_ofFn]
    simp only [copyTo]
    apply dif_neg
    intro hwritten
    apply hapart _ hwritten.2
    constructor <;> omega
  rw [status, status, hblock]

/-- A write that ends within the command block does. -/
theorem apart_of_block {n address : Nat} (hto : address + n ≤ kCommandAddress + kBlockRegisters) :
    ∀ i < n, ¬ InStatusBlock (address + i) := by
  intro i hi hin
  have hfar : kCommandAddress + kBlockRegisters ≤ kStatusAddress := by decide
  have hfrom := hin.1
  omega

theorem status_copyTo_of_block (m : RegisterModel) {n : Nat} {address : Nat}
    (values : Vector Register n) (hto : address + n ≤ kCommandAddress + kBlockRegisters) :
    (m.copyTo address values).status = m.status :=
  m.status_copyTo_of_apart values (apart_of_block hto)

theorem status_copyTo_command (m : RegisterModel) (values : Vector Register kCommandRegisterCount) :
    (m.copyTo kCommandAddress values).status = m.status :=
  m.status_copyTo_of_block values (by decide)

/-- A new status leaves the command block alone. -/
theorem command_setStatus (m : RegisterModel) (s : GripperStatus) :
    (m.setStatus s).command = m.command := by
  have hblock : (m.setStatus s).blockAt kCommandAddress = m.blockAt kCommandAddress := by
    apply Vector.ext
    intro i hi
    have hfar : kCommandAddress + kBlockRegisters ≤ kStatusAddress := by decide
    rw [blockAt, blockAt, Vector.getElem_ofFn, Vector.getElem_ofFn]
    simp only [setStatus, copyTo]
    rw [dif_neg (by omega)]
  rw [command, command, hblock]

/-- A write within the command block is accepted. -/
theorem containsRange_of_block {n address : Nat} (hfrom : kCommandAddress ≤ address)
    (hto : address + n ≤ kCommandAddress + kBlockRegisters) : containsRange address n = true := by
  -- the sum of the range check does not wrap inside the block
  have hlast : (address + n + 2 ^ 32 - 1) % 2 ^ 32 < kRegisterCount := by
    simp only [kRegisterCount, kStatusAddress, kBlockRegisters, kCommandAddress] at hfrom hto ⊢
    omega
  exact decide_eq_true hlast

/-- An accepted write, as the device acts on it. -/
theorem write_of_range (m : RegisterModel) {n : Nat} {address : Nat} (values : Vector Register n)
    (hrange : containsRange address n = true) :
    m.write address values =
      let written := m.copyTo address values
      let processed := written.processCommand written.command written.status
      processed.2.setStatus processed.1 := by
  rw [write, if_pos hrange]

/-- A refused write changes nothing. -/
theorem write_of_refused (m : RegisterModel) {n : Nat} {address : Nat} (values : Vector Register n)
    (hrange : containsRange address n = false) : m.write address values = m := by
  rw [write, if_neg (by simp [hrange])]

/-! ### The device's answer, field by field -/

section answers
variable (m : RegisterModel) (c : GripperCommand) (s : GripperStatus)

/-- Whether the activation is done after `c`. -/
def doneAfter : Bool :=
  if !c.activateBit then false else if !m.previousActivateBit then true else m.activationDone

theorem processCommand_activationDone :
    (m.processCommand c s).2.activationDone = m.doneAfter c := by
  simp only [processCommand, doneAfter]
  cases c.activateBit <;> cases m.previousActivateBit <;> rfl

/-- An activation that follows rACT so far goes on to follow it. -/
theorem doneAfter_of_eq (h : m.activationDone = m.previousActivateBit) :
    m.doneAfter c = c.activateBit := by
  rw [doneAfter, h]
  cases c.activateBit <;> cases m.previousActivateBit <;> rfl

@[simp] theorem processCommand_previousActivateBit :
    (m.processCommand c s).2.previousActivateBit = c.activateBit := rfl

theorem processCommand_command : (m.processCommand c s).2.command = m.command := rfl

@[simp] theorem processCommand_faultStatus :
    (m.processCommand c s).1.faultStatus.raw = if c.activateBit then s.faultStatus.raw else 0 := by
  simp only [processCommand]
  cases c.activateBit <;> cases m.previousActivateBit <;> cases m.activationDone <;>
    cases c.goToBit <;> rfl

/-- The GRIPPER STATUS byte that the writers build up from zero. -/
def flagsOf (activate done goTo : Bool) : GripperStatusFlags :=
  let status := ({} : GripperStatus).setActivated activate
  let status :=
    if activate && done then
      let status := status.setActivationState .complete
      if goTo then (status.setGoToEnabled true).setObjectDetection .atRequestedPosition
      else status
    else status
  status.gripperStatus

theorem processCommand_gripperStatus :
    (m.processCommand c s).1.gripperStatus = flagsOf c.activateBit (m.doneAfter c) c.goToBit := by
  simp only [processCommand, doneAfter]
  cases c.activateBit <;> cases m.previousActivateBit <;> cases m.activationDone <;>
    cases c.goToBit <;> rfl

theorem flagsOf_activated :
    ∀ activate done goTo, (flagsOf activate done goTo).activated = activate := by
  decide

theorem flagsOf_activationState :
    ∀ activate done goTo, (flagsOf activate done goTo).activationState
      = if activate && done then .complete else .reset := by
  decide

theorem activateBit_of_doneAfter (h : m.doneAfter c = true) : c.activateBit = true := by
  simp only [doneAfter] at h
  cases hc : c.activateBit
  · simp [hc] at h
  · rfl

@[simp] theorem processCommand_activated :
    (m.processCommand c s).1.gripperStatus.activated = c.activateBit := by
  rw [processCommand_gripperStatus, flagsOf_activated]

@[simp] theorem processCommand_activationState :
    (m.processCommand c s).1.gripperStatus.activationState
      = if m.doneAfter c then .complete else .reset := by
  rw [processCommand_gripperStatus, flagsOf_activationState]
  cases h : m.doneAfter c
  · simp
  · simp [m.activateBit_of_doneAfter c h]

theorem processCommand_reservedTail :
    (m.processCommand c s).1.reservedTail = Vector.replicate 10 0 := by
  simp only [processCommand]
  cases c.activateBit <;> cases m.previousActivateBit <;> cases m.activationDone <;>
    cases c.goToBit <;> rfl

theorem processCommand_reserved1 : (m.processCommand c s).1.reserved1 = 0 := by
  simp only [processCommand]
  cases c.activateBit <;> cases m.previousActivateBit <;> cases m.activationDone <;>
    cases c.goToBit <;> rfl

/-- `processCommand` looks at the edge tracking and at three fields of the block only. -/
theorem processCommand_fst_congr {m m' : RegisterModel} {c c' : GripperCommand}
    (s : GripperStatus) (hprev : m.previousActivateBit = m'.previousActivateBit)
    (hdone : m.activationDone = m'.activationDone) (haction : c.action = c'.action)
    (hpos : c.positionRequest = c'.positionRequest) :
    (m.processCommand c s).1 = (m'.processCommand c' s).1 := by
  have hactivate : c.activateBit = c'.activateBit := congrArg (·.get .activate) haction
  have hgoTo : c.goToBit = c'.goToBit := congrArg (·.get .goTo) haction
  simp only [processCommand]
  rw [hactivate, hgoTo, hprev, hdone, hpos]

theorem doneAfter_congr {m m' : RegisterModel} {c c' : GripperCommand}
    (hprev : m.previousActivateBit = m'.previousActivateBit)
    (hdone : m.activationDone = m'.activationDone) (haction : c.action = c'.action) :
    m.doneAfter c = m'.doneAfter c' := by
  have hactivate : c.activateBit = c'.activateBit := congrArg (·.get .activate) haction
  rw [doneAfter, doneAfter, hactivate, hprev, hdone]

/-- An exchange's write leaves the status that `processCommand` computes, and
    answers with it. -/
theorem writeCommand_eq :
    m.writeCommand c =
      let written :=
        m.copyTo kCommandAddress (registersFromBytes kCommandRegisterCount c.data)
      let processed :=
        written.processCommand { c with reservedTail := m.command.reservedTail } m.status
      processed.2.setStatus processed.1 := by
  rw [writeCommand, write, if_pos (by decide)]
  simp only [command_copyTo, status_copyTo_command]

/-- The answer to a write is the device's status, read back over three registers. -/
theorem answer_writeCommand : (m.writeCommand c).answer = (m.processCommand c m.status).1 := by
  rw [writeCommand_eq]
  simp only
  rw [answer_setStatus _ _ (processCommand_reservedTail _ _ _)]
  exact processCommand_fst_congr _ rfl rfl rfl rfl

theorem status_writeCommand : (m.writeCommand c).status = (m.processCommand c m.status).1 := by
  rw [writeCommand_eq]
  simp only
  rw [status_setStatus]
  exact processCommand_fst_congr _ rfl rfl rfl rfl

@[simp] theorem activated_answer :
    (m.writeCommand c).answer.gripperStatus.activated = c.activateBit := by
  rw [answer_writeCommand, processCommand_activated]

@[simp] theorem activationState_answer :
    (m.writeCommand c).answer.gripperStatus.activationState
      = if m.doneAfter c then .complete else .reset := by
  rw [answer_writeCommand, processCommand_activationState]

/-- A latched fault survives until rACT is cleared. -/
@[simp] theorem fault_answer :
    (m.writeCommand c).answer.faultStatus.raw
      = if c.activateBit then m.status.faultStatus.raw else 0 := by
  rw [answer_writeCommand, processCommand_faultStatus]

@[simp] theorem fault_writeCommand :
    (m.writeCommand c).status.faultStatus.raw
      = if c.activateBit then m.status.faultStatus.raw else 0 := by
  rw [status_writeCommand, processCommand_faultStatus]

@[simp] theorem previousActivateBit_writeCommand :
    (m.writeCommand c).previousActivateBit = c.activateBit := by
  rw [writeCommand_eq, setStatus_previousActivateBit, processCommand_previousActivateBit]
  simp only [GripperCommand.activateBit]

@[simp] theorem activationDone_writeCommand :
    (m.writeCommand c).activationDone = m.doneAfter c := by
  rw [writeCommand_eq, setStatus_activationDone, processCommand_activationDone]
  exact doneAfter_congr rfl rfl rfl

end answers

end RegisterModel

end GripperDriver

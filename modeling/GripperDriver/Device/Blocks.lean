import Mathlib.Data.BitVec

/-! # The Command and Status Blocks

    The two 16-byte blocks of the gripper's instruction manual, byte for byte
    as `GripperCommand` and `GripperStatus` lay them out, with the bit accessors
    of their packed bytes:

    * `NamedBitArray`: single bits of a word, named by an enumeration,
    * `GripperCommand`: the block the host writes,
    * `GripperStatusFlags`, `FaultStatus`, `GripperStatus`: the block it reads,
    * `severity`: how serious a gripper fault is.
-/

namespace GripperDriver

/-- `uint8_t`. -/
abbrev Byte : Type := BitVec 8

/-- `uint16_t`, one Modbus register. -/
abbrev Register : Type := BitVec 16

/-- Six documented bytes and the reserved tail, as both blocks are laid out. -/
def block (head : Vector Byte 6) (tail : Vector Byte 10) : Vector Byte 16 := head ++ tail

theorem getElem_block_head (head : Vector Byte 6) (tail : Vector Byte 10) (i : Nat) (hi : i < 6) :
    (block head tail)[i] = head[i] :=
  Vector.getElem_append_left hi

theorem getElem_block_tail (head : Vector Byte 6) (tail : Vector Byte 10) (i : Nat)
    (hi : i < 10) : (block head tail)[6 + i] = tail[i] := by
  have h : (head ++ tail)[6 + i] = tail[6 + i - 6] :=
    Vector.getElem_append_right (by omega) (by omega)
  simp only [Nat.add_sub_cancel_left] at h
  exact h

theorem ofFn_block_tail (head : Vector Byte 6) (tail : Vector Byte 10) :
    Vector.ofFn (fun i : Fin 10 => (block head tail)[6 + i.val]) = tail := by
  apply Vector.ext
  intro i hi
  rw [Vector.getElem_ofFn, getElem_block_tail]

/-! ## Named bits -/

/-- An enumeration whose enumerators are bit indices of a `w`-bit word. The
    index type is the assertion in `NamedBitArray::mask`. -/
class BitEnum (E : Type) (w : outParam Nat) where
  index : E → Fin w
  index_injective : Function.Injective index

/-- Individual bits of a `w`-bit value through a named-bit enumeration. -/
structure NamedBitArray (E : Type) (w : Nat) where
  value : BitVec w
  deriving DecidableEq, Repr

namespace NamedBitArray
variable {E : Type} {w : Nat} [BitEnum E w]

def mask (bit : E) : BitVec w := BitVec.twoPow w (BitEnum.index bit)

def get (a : NamedBitArray E w) (bit : E) : Bool := (a.value &&& mask bit) != 0#w

def set (a : NamedBitArray E w) (bit : E) : NamedBitArray E w := ⟨a.value ||| mask bit⟩

def unset (a : NamedBitArray E w) (bit : E) : NamedBitArray E w := ⟨a.value &&& ~~~ mask bit⟩

/-- The two-argument `set(bit, on)`. -/
def setTo (a : NamedBitArray E w) (bit : E) (on : Bool) : NamedBitArray E w :=
  if on then a.set bit else a.unset bit

theorem get_eq_getLsbD (a : NamedBitArray E w) (bit : E) :
    a.get bit = a.value.getLsbD (BitEnum.index bit) := by
  have hw := (BitEnum.index bit).isLt
  have hne : BitVec.twoPow w (BitEnum.index bit) ≠ 0#w := by
    intro h
    have := congrArg (fun x => x.getLsbD (BitEnum.index bit)) h
    simp [hw] at this
  simp only [get, mask, BitVec.and_twoPow]
  cases a.value.getLsbD (BitEnum.index bit) <;> simp [hne]

@[simp] theorem get_set_self (a : NamedBitArray E w) (bit : E) : (a.set bit).get bit = true := by
  simp [get_eq_getLsbD, set, mask]

@[simp] theorem get_unset_self (a : NamedBitArray E w) (bit : E) :
    (a.unset bit).get bit = false := by
  simp [get_eq_getLsbD, unset, mask]

theorem index_ne {b c : E} (h : b ≠ c) :
    ((BitEnum.index b : Fin w) : Nat) ≠ (BitEnum.index c : Fin w) :=
  fun heq => h (BitEnum.index_injective (Fin.ext heq))

theorem get_set_ne (a : NamedBitArray E w) {b c : E} (h : b ≠ c) :
    (a.set b).get c = a.get c := by
  simp only [get_eq_getLsbD, set, mask, BitVec.getLsbD_or, BitVec.getLsbD_twoPow, index_ne h,
    decide_false, Bool.and_false, Bool.or_false]

theorem get_unset_ne (a : NamedBitArray E w) {b c : E} (h : b ≠ c) :
    (a.unset b).get c = a.get c := by
  simp only [get_eq_getLsbD, unset, mask, BitVec.getLsbD_and, BitVec.getLsbD_not,
    BitVec.getLsbD_twoPow, index_ne h, Fin.isLt, decide_true, decide_false, Bool.and_false,
    Bool.not_false, Bool.and_true]

@[simp] theorem get_setTo_self (a : NamedBitArray E w) (bit : E) (on : Bool) :
    (a.setTo bit on).get bit = on := by
  cases on <;> simp [setTo]

theorem get_setTo_ne (a : NamedBitArray E w) {b c : E} (h : b ≠ c) (on : Bool) :
    (a.setTo b on).get c = a.get c := by
  cases on <;> simp [setTo, get_set_ne, get_unset_ne, h]

end NamedBitArray

/-! ## The command block -/

/-- The bits of the action-request byte. -/
inductive ActionRequestBit where
  /-- rACT: must stay set after activation. -/
  | activate
  /-- rGTO: go to the requested position. -/
  | goTo
  /-- rATR: automatic (emergency) release. -/
  | autoRelease
  /-- rARD: set = open direction. -/
  | autoReleaseOpenDirection
  deriving DecidableEq, Repr

instance : BitEnum ActionRequestBit 8 where
  index
    | .activate => 0
    | .goTo => 3
    | .autoRelease => 4
    | .autoReleaseOpenDirection => 5
  index_injective := by
    intro a b h
    cases a <;> cases b <;> first | rfl | cases h

abbrev ActionRequest : Type := NamedBitArray ActionRequestBit 8

/-- The command block, host to gripper. Equality is the `memcmp` of the source:
    all 16 bytes. -/
structure GripperCommand where
  action : ActionRequest := ⟨0⟩
  reserved1 : Byte := 0
  reserved2 : Byte := 0
  /-- rPR: 0 open, 255 closed. -/
  positionRequest : Byte := 0
  /-- rSP. -/
  speed : Byte := 0
  /-- rFR. -/
  force : Byte := 0
  /-- Bytes 6 to 15. -/
  reservedTail : Vector Byte 10 := Vector.replicate 10 0
  deriving DecidableEq, Repr

namespace GripperCommand

/-- A ready-to-use command: Activate set, speed and force at maximum. -/
def defaults : GripperCommand :=
  { action := NamedBitArray.set ⟨0⟩ .activate, speed := 0xFF, force := 0xFF }

/-- The raw block, in the manual's byte order. -/
def data (c : GripperCommand) : Vector Byte 16 :=
  block #v[c.action.value, c.reserved1, c.reserved2, c.positionRequest, c.speed, c.force]
    c.reservedTail

/-- rACT. -/
def activateBit (c : GripperCommand) : Bool := c.action.get .activate

/-- rGTO. -/
def goToBit (c : GripperCommand) : Bool := c.action.get .goTo

/-- `command.action.set(bit, on)`. -/
def setAction (c : GripperCommand) (bit : ActionRequestBit) (on : Bool) : GripperCommand :=
  { c with action := c.action.setTo bit on }

@[simp] theorem activateBit_setAction_activate (c : GripperCommand) (on : Bool) :
    (c.setAction .activate on).activateBit = on := by
  simp [setAction, activateBit]

@[simp] theorem activateBit_setAction_goTo (c : GripperCommand) (on : Bool) :
    (c.setAction .goTo on).activateBit = c.activateBit := by
  simp [setAction, activateBit, NamedBitArray.get_setTo_ne]

@[simp] theorem goToBit_setAction_goTo (c : GripperCommand) (on : Bool) :
    (c.setAction .goTo on).goToBit = on := by
  simp [setAction, goToBit]

@[simp] theorem goToBit_setAction_activate (c : GripperCommand) (on : Bool) :
    (c.setAction .activate on).goToBit = c.goToBit := by
  simp [setAction, goToBit, NamedBitArray.get_setTo_ne]

/-- The block whose bytes are `bytes`: the inverse of `data`. -/
def ofData (bytes : Vector Byte 16) : GripperCommand where
  action := ⟨bytes[0]⟩
  reserved1 := bytes[1]
  reserved2 := bytes[2]
  positionRequest := bytes[3]
  speed := bytes[4]
  force := bytes[5]
  reservedTail := Vector.ofFn fun i : Fin 10 => bytes[6 + i.val]

theorem ofData_data (c : GripperCommand) : ofData c.data = c := by
  simp (disch := omega) only [ofData, data, ofFn_block_tail, getElem_block_head]
  rfl

/-- Two blocks are equal when all their bytes are: the equality of the model is
    the `memcmp` of the source. -/
theorem eq_iff_data_eq {c d : GripperCommand} : c = d ↔ c.data = d.data := by
  constructor
  · intro h
    rw [h]
  · intro h
    rw [← ofData_data c, h, ofData_data]

end GripperCommand

/-! ## The status block -/

/-- gSTA: activation sequence state. -/
inductive ActivationState where
  | reset
  | inProgress
  /-- Unallocated pattern; not activated. -/
  | reserved
  | complete
  deriving DecidableEq, Repr

/-- The two bits of gSTA as a cast to the enumeration reads them. -/
def ActivationState.ofBits (bits : Byte) : ActivationState :=
  match bits.toNat with
  | 0 => .reset
  | 1 => .inProgress
  | 2 => .reserved
  | _ => .complete

def ActivationState.toBits : ActivationState → Byte
  | .reset => 0x00
  | .inProgress => 0x01
  | .reserved => 0x02
  | .complete => 0x03

/-- gOBJ: object detection state. -/
inductive ObjectDetection where
  | moving
  | detectedWhileOpening
  | detectedWhileClosing
  | atRequestedPosition
  deriving DecidableEq, Repr

def ObjectDetection.ofBits (bits : Byte) : ObjectDetection :=
  match bits.toNat with
  | 0 => .moving
  | 1 => .detectedWhileOpening
  | 2 => .detectedWhileClosing
  | _ => .atRequestedPosition

def ObjectDetection.toBits : ObjectDetection → Byte
  | .moving => 0x00
  | .detectedWhileOpening => 0x01
  | .detectedWhileClosing => 0x02
  | .atRequestedPosition => 0x03

/-! ### Layout of the packed bytes -/

def kActivationStatusMask : Byte := 0x01
def kGoToEchoMask : Byte := 0x08
def kActivationStateMask : Byte := 0x30
def kObjectDetectionMask : Byte := 0xC0
def kActivationStateShift : Nat := 4
def kObjectDetectionShift : Nat := 6
def kGripperFaultMask : Byte := 0x0F

/-- The GRIPPER STATUS byte. -/
structure GripperStatusFlags where
  raw : Byte := 0
  deriving DecidableEq, Repr

namespace GripperStatusFlags

/-- gACT: the echo of the last-sent rACT. -/
def activated (f : GripperStatusFlags) : Bool := (f.raw &&& kActivationStatusMask) != 0

/-- gGTO: the echo of the last-sent rGTO. -/
def goToEnabled (f : GripperStatusFlags) : Bool := (f.raw &&& kGoToEchoMask) != 0

def activationState (f : GripperStatusFlags) : ActivationState :=
  .ofBits ((f.raw &&& kActivationStateMask) >>> kActivationStateShift)

def objectDetection (f : GripperStatusFlags) : ObjectDetection :=
  .ofBits ((f.raw &&& kObjectDetectionMask) >>> kObjectDetectionShift)

end GripperStatusFlags

/-- gFLT, the gripper's own fault code. The type is a byte in the source, so a
    code without a name can occur. -/
inductive GripperFault where
  | none
  | brakeProblem
  | blockedAtStart
  | actionDelayed
  | activationRequired
  | overTemperature
  | noCommunication
  | underVoltage
  | automaticReleaseInProgress
  | internalFault
  | activationFault
  | overcurrent
  | automaticReleaseComplete
  | unnamed (code : Byte)
  deriving DecidableEq, Repr

def GripperFault.ofCode (code : Byte) : GripperFault :=
  match code.toNat with
  | 0x00 => .none
  | 0x03 => .brakeProblem
  | 0x04 => .blockedAtStart
  | 0x05 => .actionDelayed
  | 0x07 => .activationRequired
  | 0x08 => .overTemperature
  | 0x09 => .noCommunication
  | 0x0A => .underVoltage
  | 0x0B => .automaticReleaseInProgress
  | 0x0C => .internalFault
  | 0x0D => .activationFault
  | 0x0E => .overcurrent
  | 0x0F => .automaticReleaseComplete
  | _ => .unnamed code

inductive FaultSeverity where
  | none
  | warning
  | minor
  | major
  deriving DecidableEq, Repr

/-- Classify a gripper fault code. Unrecognized codes report `major`, so an
    unknown fault is never mistaken for harmless. -/
def severity : GripperFault → FaultSeverity
  | .none => .none
  | .blockedAtStart | .actionDelayed | .activationRequired => .warning
  | .overTemperature | .noCommunication => .minor
  | .brakeProblem | .underVoltage | .automaticReleaseInProgress | .internalFault
  | .activationFault | .overcurrent | .automaticReleaseComplete => .major
  | .unnamed _ => .major

/-- The FAULT STATUS byte. -/
structure FaultStatus where
  raw : Byte := 0
  deriving DecidableEq, Repr

def FaultStatus.gripperFault (f : FaultStatus) : GripperFault :=
  .ofCode (f.raw &&& kGripperFaultMask)

/-- The status block, gripper to host. -/
structure GripperStatus where
  gripperStatus : GripperStatusFlags := {}
  reserved1 : Byte := 0
  faultStatus : FaultStatus := {}
  /-- gPR. -/
  positionRequestEcho : Byte := 0
  /-- gPO. -/
  position : Byte := 0
  /-- gCU. -/
  current : Byte := 0
  /-- Bytes 6 to 15. -/
  reservedTail : Vector Byte 10 := Vector.replicate 10 0
  deriving DecidableEq, Repr

namespace GripperStatus

/-- The raw block, in the manual's byte order. -/
def data (s : GripperStatus) : Vector Byte 16 :=
  block #v[s.gripperStatus.raw, s.reserved1, s.faultStatus.raw, s.positionRequestEcho,
    s.position, s.current] s.reservedTail

/-- The block whose bytes are `bytes`: the inverse of `data`, for a block that
    was filled in through its bytes. -/
def ofData (bytes : Vector Byte 16) : GripperStatus where
  gripperStatus := ⟨bytes[0]⟩
  reserved1 := bytes[1]
  faultStatus := ⟨bytes[2]⟩
  positionRequestEcho := bytes[3]
  position := bytes[4]
  current := bytes[5]
  reservedTail := Vector.ofFn fun i : Fin 10 => bytes[6 + i.val]

/-- Filling a block in through its bytes loses nothing. -/
theorem ofData_data (s : GripperStatus) : ofData s.data = s := by
  simp (disch := omega) only [ofData, data, ofFn_block_tail, getElem_block_head]
  rfl

/-- Nor does reading them back. -/
theorem data_ofData (bytes : Vector Byte 16) : (ofData bytes).data = bytes := by
  apply Vector.ext
  intro i hi
  by_cases hhead : i < 6
  · rw [data, getElem_block_head _ _ i hhead]
    have hcases : i = 0 ∨ i = 1 ∨ i = 2 ∨ i = 3 ∨ i = 4 ∨ i = 5 := by omega
    obtain rfl | rfl | rfl | rfl | rfl | rfl := hcases <;> rfl
  · obtain ⟨j, rfl⟩ : ∃ j, i = 6 + j := ⟨i - 6, by omega⟩
    rw [data, getElem_block_tail _ _ j (by omega), ofData, Vector.getElem_ofFn]

/-- The documented bytes of a block do not depend on its tail. -/
theorem getElem_data_of_lt (s : GripperStatus) (tail : Vector Byte 10) (i : Nat) (hi : i < 6) :
    ({ s with reservedTail := tail } : GripperStatus).data[i] = s.data[i] := by
  rw [data, data, getElem_block_head _ _ i hi, getElem_block_head _ _ i hi]

end GripperStatus

/-- `activationState` reads back what was shifted into the gSTA field. -/
theorem ActivationState.ofBits_toBits (s : ActivationState) : ofBits s.toBits = s := by
  cases s <;> rfl

/-- `objectDetection` reads back what was shifted into the gOBJ field. -/
theorem ObjectDetection.ofBits_toBits (s : ObjectDetection) : ofBits s.toBits = s := by
  cases s <;> rfl

end GripperDriver

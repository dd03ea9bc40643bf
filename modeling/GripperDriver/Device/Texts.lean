import GripperDriver.Device.Blocks
import GripperDriver.Framework.Fields

/-! # The Texts of the Blocks

    The command and the status as they are logged: the manual's mnemonics, each with its bit,
    its byte, or the name and the code of what was decoded.

    * `GripperCommand.toString`, `GripperStatus.toString`: the texts,
    * `GripperCommand.fields`, `GripperStatus.fields`: the fields that they list,
    * `texts_show_documented_bits`: the fields read back from a text, and two blocks have one
      text exactly when they agree in every documented bit.
-/

namespace GripperDriver

open Fields

/-! ## Decoded values -/

/-- kFLT, the fault code of the optional controller. -/
inductive ControllerFault where
  | none
  | supply24VNotDetected
  | noDeviceDetected
  | communicationNotReady
  | emergencyStop
  | overcurrent
  | unnamed (code : Byte)
  deriving DecidableEq, Repr

def ControllerFault.ofCode (code : Byte) : ControllerFault :=
  match code.toNat with
  | 0x00 => .none
  | 0x04 => .supply24VNotDetected
  | 0x05 => .noDeviceDetected
  | 0x09 => .communicationNotReady
  | 0x0C => .emergencyStop
  | 0x0E => .overcurrent
  | _ => .unnamed code

def kControllerFaultMask : Byte := 0xF0
def kControllerFaultShift : Nat := 4

def FaultStatus.controllerFault (f : FaultStatus) : ControllerFault :=
  .ofCode ((f.raw &&& kControllerFaultMask) >>> kControllerFaultShift)

/-- The value of the enumerator. -/
def ControllerFault.code : ControllerFault → Byte
  | .none => 0x00
  | .supply24VNotDetected => 0x04
  | .noDeviceDetected => 0x05
  | .communicationNotReady => 0x09
  | .emergencyStop => 0x0C
  | .overcurrent => 0x0E
  | .unnamed code => code

def GripperFault.code : GripperFault → Byte
  | .none => 0x00
  | .brakeProblem => 0x03
  | .blockedAtStart => 0x04
  | .actionDelayed => 0x05
  | .activationRequired => 0x07
  | .overTemperature => 0x08
  | .noCommunication => 0x09
  | .underVoltage => 0x0A
  | .automaticReleaseInProgress => 0x0B
  | .internalFault => 0x0C
  | .activationFault => 0x0D
  | .overcurrent => 0x0E
  | .automaticReleaseComplete => 0x0F
  | .unnamed code => code

def ActivationState.toString : ActivationState → String
  | .reset => "Reset"
  | .inProgress => "InProgress"
  | .reserved => "Reserved"
  | .complete => "Complete"

def ObjectDetection.toString : ObjectDetection → String
  | .moving => "Moving"
  | .detectedWhileOpening => "DetectedWhileOpening"
  | .detectedWhileClosing => "DetectedWhileClosing"
  | .atRequestedPosition => "AtRequestedPosition"

def GripperFault.toString : GripperFault → String
  | .none => "None"
  | .brakeProblem => "BrakeProblem"
  | .blockedAtStart => "BlockedAtStart"
  | .actionDelayed => "ActionDelayed"
  | .activationRequired => "ActivationRequired"
  | .overTemperature => "OverTemperature"
  | .noCommunication => "NoCommunication"
  | .underVoltage => "UnderVoltage"
  | .automaticReleaseInProgress => "AutomaticReleaseInProgress"
  | .internalFault => "InternalFault"
  | .activationFault => "ActivationFault"
  | .overcurrent => "Overcurrent"
  | .automaticReleaseComplete => "AutomaticReleaseComplete"
  | .unnamed _ => "Unrecognized"

def ControllerFault.toString : ControllerFault → String
  | .none => "None"
  | .supply24VNotDetected => "Supply24VNotDetected"
  | .noDeviceDetected => "NoDeviceDetected"
  | .communicationNotReady => "CommunicationNotReady"
  | .emergencyStop => "EmergencyStop"
  | .overcurrent => "Overcurrent"
  | .unnamed _ => "Unrecognized"

/-! ## Fields -/

def appendField (out name value : String) : String :=
  (if out.isEmpty then out else out ++ " ") ++ name ++ "=" ++ value

def bitText (on : Bool) : String := if on then "1" else "0"

def hexDigits : Vector Char 16 :=
  #v['0', '1', '2', '3', '4', '5', '6', '7', '8', '9', 'A', 'B', 'C', 'D', 'E', 'F']

/-- The name and, in one hex digit, the code. -/
def enumText (name : String) (code : Byte) : String :=
  name ++ "(0x" ++ String.singleton (hexDigits.get ((code &&& 0x0F).setWidth 4).toFin) ++ ")"

def appendBit (out name : String) (on : Bool) : String := appendField out name (bitText on)

def appendByte (out name : String) (value : Byte) : String :=
  appendField out name value.toNat.repr

def appendEnum (out name value : String) (code : Byte) : String :=
  appendField out name (enumText value code)

/-! ## The texts -/

def GripperCommand.toString (command : GripperCommand) : String :=
  let out := ""
  let out := appendBit out "rACT" (command.action.get .activate)
  let out := appendBit out "rGTO" (command.action.get .goTo)
  let out := appendBit out "rATR" (command.action.get .autoRelease)
  let out := appendBit out "rARD" (command.action.get .autoReleaseOpenDirection)
  let out := appendByte out "rPR" command.positionRequest
  let out := appendByte out "rSP" command.speed
  appendByte out "rFR" command.force

def GripperStatusFlags.toString (flags : GripperStatusFlags) : String :=
  let out := ""
  let out := appendBit out "gACT" flags.activated
  let out := appendBit out "gGTO" flags.goToEnabled
  let out := appendEnum out "gSTA" flags.activationState.toString flags.activationState.toBits
  appendEnum out "gOBJ" flags.objectDetection.toString flags.objectDetection.toBits

def FaultStatus.toString (fault : FaultStatus) : String :=
  let out := ""
  let out := appendEnum out "gFLT" fault.gripperFault.toString fault.gripperFault.code
  appendEnum out "kFLT" fault.controllerFault.toString fault.controllerFault.code

def GripperStatus.toString (status : GripperStatus) : String :=
  let out := status.gripperStatus.toString
  let out := out ++ " "
  let out := out ++ status.faultStatus.toString
  let out := appendByte out "gPR" status.positionRequestEcho
  let out := appendByte out "gPO" status.position
  appendByte out "gCU" status.current

/-! ## What they list -/

/-- A mark of each kind. -/
def marks : Marks Char := ⟨'=', ' '⟩

def textField (name value : String) : NamedField Char := (name.toList, value.toList)

def GripperCommand.fields (c : GripperCommand) : List (NamedField Char) :=
  [textField "rACT" (bitText (c.action.get .activate)),
    textField "rGTO" (bitText (c.action.get .goTo)),
    textField "rATR" (bitText (c.action.get .autoRelease)),
    textField "rARD" (bitText (c.action.get .autoReleaseOpenDirection)),
    textField "rPR" c.positionRequest.toNat.repr, textField "rSP" c.speed.toNat.repr,
    textField "rFR" c.force.toNat.repr]

def GripperStatusFlags.fields (f : GripperStatusFlags) : List (NamedField Char) :=
  [textField "gACT" (bitText f.activated), textField "gGTO" (bitText f.goToEnabled),
    textField "gSTA" (enumText f.activationState.toString f.activationState.toBits),
    textField "gOBJ" (enumText f.objectDetection.toString f.objectDetection.toBits)]

def FaultStatus.fields (f : FaultStatus) : List (NamedField Char) :=
  [textField "gFLT" (enumText f.gripperFault.toString f.gripperFault.code),
    textField "kFLT" (enumText f.controllerFault.toString f.controllerFault.code)]

def GripperStatus.fields (s : GripperStatus) : List (NamedField Char) :=
  s.gripperStatus.fields ++ s.faultStatus.fields ++
    [textField "gPR" s.positionRequestEcho.toNat.repr, textField "gPO" s.position.toNat.repr,
      textField "gCU" s.current.toNat.repr]

section rendering
variable {out name value : String} {fields : List (NamedField Char)}

theorem toList_appendField (out name value : String) :
    (appendField out name value).toList = marks.append out.toList (textField name value) := by
  have hempty : out.isEmpty = true ↔ out.toList = [] := by
    rw [String.isEmpty_iff, ← String.toList_inj]
    rfl
  unfold appendField Marks.append
  by_cases h : out.toList = []
  · simp [hempty.mpr h, h, Marks.field, textField, marks]
  · have hne : out.isEmpty = false := by
      rw [← Bool.not_eq_true]
      exact fun ht => h (hempty.mp ht)
    simp [hne, h, Marks.field, textField, marks]

theorem appendField_render (h : out.toList = marks.render fields) (name value : String) :
    (appendField out name value).toList = marks.render (fields ++ [textField name value]) := by
  rw [toList_appendField, h, append_render]

theorem toList_command (c : GripperCommand) : c.toString.toList = marks.render c.fields := by
  have hempty : "".toList = marks.render [] := rfl
  have hact := appendField_render hempty "rACT" (bitText (c.action.get .activate))
  have hgto := appendField_render hact "rGTO" (bitText (c.action.get .goTo))
  have hatr := appendField_render hgto "rATR" (bitText (c.action.get .autoRelease))
  have hard := appendField_render hatr "rARD" (bitText (c.action.get .autoReleaseOpenDirection))
  have hpr := appendField_render hard "rPR" c.positionRequest.toNat.repr
  have hsp := appendField_render hpr "rSP" c.speed.toNat.repr
  exact appendField_render hsp "rFR" c.force.toNat.repr

theorem toList_flags (f : GripperStatusFlags) : f.toString.toList = marks.render f.fields := by
  have hempty : "".toList = marks.render [] := rfl
  have hact := appendField_render hempty "gACT" (bitText f.activated)
  have hgto := appendField_render hact "gGTO" (bitText f.goToEnabled)
  have hsta := appendField_render hgto "gSTA"
    (enumText f.activationState.toString f.activationState.toBits)
  exact appendField_render hsta "gOBJ" (enumText f.objectDetection.toString f.objectDetection.toBits)

theorem toList_fault (f : FaultStatus) : f.toString.toList = marks.render f.fields := by
  have hempty : "".toList = marks.render [] := rfl
  have hgripper := appendField_render hempty "gFLT" (enumText f.gripperFault.toString f.gripperFault.code)
  exact appendField_render hgripper "kFLT" (enumText f.controllerFault.toString f.controllerFault.code)

theorem toList_status (s : GripperStatus) : s.toString.toList = marks.render s.fields := by
  -- the two parts, with the separator that no field brings
  have hparts : (s.gripperStatus.toString ++ " " ++ s.faultStatus.toString).toList =
      marks.render (s.gripperStatus.fields ++ s.faultStatus.fields) := by
    rw [String.toList_append, String.toList_append, toList_flags, toList_fault, List.append_assoc]
    exact (render_append ..).symm
  have hpr := appendField_render hparts "gPR" s.positionRequestEcho.toNat.repr
  have hpo := appendField_render hpr "gPO" s.position.toNat.repr
  have hcu := appendField_render hpo "gCU" s.current.toNat.repr
  rw [List.append_assoc, List.append_assoc] at hcu
  exact hcu

end rendering

/-! ## The fields are plain -/

section plain
variable {name value : String} {code : Byte}

/-- What can stand for a name: neither mark is in it. -/
def PlainName (name : String) : Prop := '=' ∉ name.toList ∧ ' ' ∉ name.toList

instance : Decidable (PlainName name) := inferInstanceAs (Decidable (_ ∧ _))

theorem plain_textField (hname : PlainName name) (hvalue : ' ' ∉ value.toList) :
    marks.Plain (textField name value) :=
  ⟨hname.1, hname.2, hvalue⟩

theorem no_blank_bit (on : Bool) : ' ' ∉ (bitText on).toList := by
  cases on <;> decide

theorem no_blank_byte (value : Byte) : ' ' ∉ value.toNat.repr.toList := by
  rw [Nat.toList_repr]
  intro hblank
  have := Nat.isDigit_of_mem_toDigits (by decide) (by decide) hblank
  revert this
  decide

theorem no_blank_hexDigit (code : Byte) :
    ' ' ≠ hexDigits.get ((code &&& 0x0F).setWidth 4).toFin := by
  have hall : ∀ nibble : BitVec 4, ' ' ≠ hexDigits.get nibble.toFin := by decide
  exact hall _

theorem no_blank_enum (hvalue : ' ' ∉ value.toList) (code : Byte) :
    ' ' ∉ (enumText value code).toList := by
  simp only [enumText, String.toList_append, String.toList_singleton, List.mem_append,
    List.mem_singleton, not_or]
  exact ⟨⟨⟨hvalue, by decide⟩, no_blank_hexDigit code⟩, by decide⟩

theorem no_blank_activationState (s : ActivationState) : ' ' ∉ s.toString.toList := by
  cases s <;> decide

theorem no_blank_objectDetection (s : ObjectDetection) : ' ' ∉ s.toString.toList := by
  cases s <;> decide

theorem no_blank_gripperFault (fault : GripperFault) : ' ' ∉ fault.toString.toList := by
  cases fault with
  | unnamed code => exact (by decide : ' ' ∉ "Unrecognized".toList)
  | _ => decide

theorem no_blank_controllerFault (fault : ControllerFault) : ' ' ∉ fault.toString.toList := by
  cases fault with
  | unnamed code => exact (by decide : ' ' ∉ "Unrecognized".toList)
  | _ => decide

theorem plain_command (c : GripperCommand) : ∀ f ∈ c.fields, marks.Plain f := by
  simp only [GripperCommand.fields, List.mem_cons, List.not_mem_nil, or_false,
    forall_eq_or_imp, forall_eq]
  refine ⟨?_, ?_, ?_, ?_, ?_, ?_, ?_⟩
  · exact plain_textField (by decide) (no_blank_bit _)
  · exact plain_textField (by decide) (no_blank_bit _)
  · exact plain_textField (by decide) (no_blank_bit _)
  · exact plain_textField (by decide) (no_blank_bit _)
  · exact plain_textField (by decide) (no_blank_byte _)
  · exact plain_textField (by decide) (no_blank_byte _)
  · exact plain_textField (by decide) (no_blank_byte _)

theorem plain_flags (f : GripperStatusFlags) : ∀ g ∈ f.fields, marks.Plain g := by
  simp only [GripperStatusFlags.fields, List.mem_cons, List.not_mem_nil, or_false,
    forall_eq_or_imp, forall_eq]
  refine ⟨?_, ?_, ?_, ?_⟩
  · exact plain_textField (by decide) (no_blank_bit _)
  · exact plain_textField (by decide) (no_blank_bit _)
  · exact plain_textField (by decide) (no_blank_enum (no_blank_activationState _) _)
  · exact plain_textField (by decide) (no_blank_enum (no_blank_objectDetection _) _)

theorem plain_fault (f : FaultStatus) : ∀ g ∈ f.fields, marks.Plain g := by
  simp only [FaultStatus.fields, List.mem_cons, List.not_mem_nil, or_false,
    forall_eq_or_imp, forall_eq]
  refine ⟨?_, ?_⟩
  · exact plain_textField (by decide) (no_blank_enum (no_blank_gripperFault _) _)
  · exact plain_textField (by decide) (no_blank_enum (no_blank_controllerFault _) _)

theorem plain_status (s : GripperStatus) : ∀ f ∈ s.fields, marks.Plain f := by
  simp only [GripperStatus.fields, List.forall_mem_append, List.mem_cons, List.not_mem_nil,
    or_false, forall_eq_or_imp, forall_eq]
  refine ⟨⟨plain_flags _, plain_fault _⟩, ?_, ?_, ?_⟩
  · exact plain_textField (by decide) (no_blank_byte _)
  · exact plain_textField (by decide) (no_blank_byte _)
  · exact plain_textField (by decide) (no_blank_byte _)

end plain

/-! ## What a text determines -/

/-- The bits of the action request that have a name. -/
def documentedActions : Byte := 0x39

/-- The bits of GRIPPER STATUS that have a name. -/
def documentedFlags : Byte := 0xF9

section inversion
variable {name value value' : String} {a b : Byte}

theorem textField_inj : textField name value = textField name value' ↔ value = value' := by
  rw [textField, textField, Prod.mk.injEq, String.toList_inj, String.toList_inj, eq_self_iff_true,
    true_and]

theorem bitText_inj {on off : Bool} : bitText on = bitText off ↔ on = off := by
  cases on <;> cases off <;> decide

/-- A byte reads back from its digits. -/
theorem byteText_inj : a.toNat.repr = b.toNat.repr ↔ a = b := by
  constructor
  · intro heq
    have hdigits := congrArg (Nat.ofDigitChars 10 ·.toList 0) heq
    simp only [Nat.toList_repr, Nat.ofDigitChars_ten_toDigits] at hdigits
    exact BitVec.eq_of_toNat_eq hdigits
  · intro heq
    rw [heq]

/-- The hex digit is the code, as far as it is a nibble. -/
theorem nibble_of_enumText (h : enumText value a = enumText value' b) :
    a &&& 0x0F = b &&& 0x0F := by
  have hdigits : ∀ x y : BitVec 4, hexDigits.get x.toFin = hexDigits.get y.toFin → x = y := by decide
  have hsplit : ∀ x : Byte, ((x &&& 0x0F).setWidth 4).setWidth 8 = x &&& 0x0F := by decide
  have hlists := congrArg String.toList h
  simp only [enumText, String.toList_append, String.toList_singleton, List.append_assoc] at hlists
  have htail := (List.append_inj' hlists rfl).2
  have hnibble := hdigits _ _ (List.cons.inj (List.append_cancel_left htail)).1
  rw [← hsplit a, hnibble, hsplit b]

/-! ### Bits -/

/-- The named bits of the action request, put together again. -/
theorem actions_shown (bits : Byte) : bits &&& documentedActions =
    (if (⟨bits⟩ : ActionRequest).get .activate then 0x01 else 0) |||
      (if (⟨bits⟩ : ActionRequest).get .goTo then 0x08 else 0) |||
      (if (⟨bits⟩ : ActionRequest).get .autoRelease then 0x10 else 0) |||
      (if (⟨bits⟩ : ActionRequest).get .autoReleaseOpenDirection then 0x20 else 0) := by
  revert bits
  decide

theorem flags_shown (bits : Byte) : bits &&& documentedFlags =
    (if (⟨bits⟩ : GripperStatusFlags).activated then 0x01 else 0) |||
      (if (⟨bits⟩ : GripperStatusFlags).goToEnabled then 0x08 else 0) |||
      (((⟨bits⟩ : GripperStatusFlags).activationState.toBits &&& 0x0F) <<< 4) |||
      (((⟨bits⟩ : GripperStatusFlags).objectDetection.toBits &&& 0x0F) <<< 6) := by
  revert bits
  decide

theorem fault_shown (bits : Byte) : bits =
    ((⟨bits⟩ : FaultStatus).gripperFault.code &&& (0x0F : Byte)) |||
      (((⟨bits⟩ : FaultStatus).controllerFault.code &&& (0x0F : Byte)) <<< 4) := by
  revert bits
  decide

/-- No other bit has a part in the named ones. -/
theorem get_documented (bits : Byte) (bit : ActionRequestBit) :
    (⟨bits &&& documentedActions⟩ : ActionRequest).get bit = (⟨bits⟩ : ActionRequest).get bit := by
  revert bits
  cases bit <;> decide

theorem flags_documented (bits : Byte) :
    let f : GripperStatusFlags := ⟨bits⟩
    let g : GripperStatusFlags := ⟨bits &&& documentedFlags⟩
    g.activated = f.activated ∧ g.goToEnabled = f.goToEnabled ∧
      g.activationState = f.activationState ∧ g.objectDetection = f.objectDetection := by
  revert bits
  decide

end inversion

theorem fields_command_iff {c d : GripperCommand} : c.fields = d.fields ↔
    c.action.value &&& documentedActions = d.action.value &&& documentedActions ∧
      c.positionRequest = d.positionRequest ∧ c.speed = d.speed ∧ c.force = d.force := by
  simp only [GripperCommand.fields, List.cons.injEq, textField_inj, bitText_inj, byteText_inj,
    and_true]
  constructor
  · intro h
    obtain ⟨hact, hgto, hatr, hard, hbytes⟩ := h
    refine ⟨?_, hbytes⟩
    rw [actions_shown, actions_shown d.action.value, hact, hgto, hatr, hard]
  · intro h
    obtain ⟨hactions, hbytes⟩ := h
    have hbit : ∀ bit, c.action.get bit = d.action.get bit := by
      intro bit
      have hc := get_documented c.action.value bit
      rw [hactions] at hc
      exact hc.symm.trans (get_documented d.action.value bit)
    exact ⟨hbit _, hbit _, hbit _, hbit _, hbytes⟩

theorem fields_flags_iff {f g : GripperStatusFlags} :
    f.fields = g.fields ↔ f.raw &&& documentedFlags = g.raw &&& documentedFlags := by
  simp only [GripperStatusFlags.fields, List.cons.injEq, textField_inj, bitText_inj, and_true]
  constructor
  · intro h
    obtain ⟨hact, hgto, hsta, hobj⟩ := h
    rw [flags_shown, flags_shown g.raw, hact, hgto, nibble_of_enumText hsta,
      nibble_of_enumText hobj]
  · intro h
    obtain ⟨hact, hgto, hsta, hobj⟩ := flags_documented f.raw
    obtain ⟨hact', hgto', hsta', hobj'⟩ := flags_documented g.raw
    rw [h] at hact hgto hsta hobj
    rw [← hact, ← hgto, ← hsta, ← hobj, hact', hgto', hsta', hobj']
    exact ⟨rfl, rfl, rfl, rfl⟩

theorem fields_fault_iff {f g : FaultStatus} : f.fields = g.fields ↔ f = g := by
  constructor
  · intro h
    simp only [FaultStatus.fields, List.cons.injEq, textField_inj, and_true] at h
    have hraw : f.raw = g.raw := by
      rw [fault_shown f.raw, fault_shown g.raw, nibble_of_enumText h.1, nibble_of_enumText h.2]
    exact congrArg FaultStatus.mk hraw
  · intro h
    rw [h]

theorem fields_status_iff {s t : GripperStatus} : s.fields = t.fields ↔
    s.gripperStatus.raw &&& documentedFlags = t.gripperStatus.raw &&& documentedFlags ∧
      s.faultStatus = t.faultStatus ∧ s.positionRequestEcho = t.positionRequestEcho ∧
      s.position = t.position ∧ s.current = t.current := by
  have hsplit : s.fields = t.fields ↔ s.gripperStatus.fields = t.gripperStatus.fields ∧
      s.faultStatus.fields = t.faultStatus.fields ∧ s.positionRequestEcho = t.positionRequestEcho ∧
      s.position = t.position ∧ s.current = t.current := by
    constructor
    · intro h
      obtain ⟨hparts, hbytes⟩ := List.append_inj h rfl
      obtain ⟨hflags, hfault⟩ := List.append_inj hparts rfl
      simp only [List.cons.injEq, textField_inj, byteText_inj, and_true] at hbytes
      exact ⟨hflags, hfault, hbytes⟩
    · intro h
      obtain ⟨hflags, hfault, hecho, hposition, hcurrent⟩ := h
      rw [GripperStatus.fields, GripperStatus.fields, hflags, hfault, hecho, hposition, hcurrent]
  rw [hsplit, fields_flags_iff, fields_fault_iff]

/-- **The log shows every documented bit, and nothing else**: the text of a command or of a
    status lists fields that read back from it, and two blocks are logged alike exactly when
    they agree in all the bits and bytes that the manual names. -/
theorem texts_show_documented_bits :
    (∀ c : GripperCommand, marks.parse c.toString.toList = c.fields) ∧
    (∀ s : GripperStatus, marks.parse s.toString.toList = s.fields) ∧
    (∀ c d : GripperCommand, c.toString = d.toString ↔
      c.action.value &&& documentedActions = d.action.value &&& documentedActions ∧
        c.positionRequest = d.positionRequest ∧ c.speed = d.speed ∧ c.force = d.force) ∧
    (∀ s t : GripperStatus, s.toString = t.toString ↔
      s.gripperStatus.raw &&& documentedFlags = t.gripperStatus.raw &&& documentedFlags ∧
        s.faultStatus = t.faultStatus ∧ s.positionRequestEcho = t.positionRequestEcho ∧
        s.position = t.position ∧ s.current = t.current) := by
  have hmarks : marks.assign ≠ marks.blank := by decide
  refine ⟨?_, ?_, ?_, ?_⟩
  · intro c
    rw [toList_command, parse_render (plain_command c) hmarks]
  · intro s
    rw [toList_status, parse_render (plain_status s) hmarks]
  · intro c d
    rw [← String.toList_inj, toList_command, toList_command,
      render_inj (plain_command c) (plain_command d) hmarks, fields_command_iff]
  · intro s t
    rw [← String.toList_inj, toList_status, toList_status,
      render_inj (plain_status s) (plain_status t) hmarks, fields_status_iff]

/-- A code without a name keeps its digit. -/
example : (⟨0x46⟩ : FaultStatus).toString =
    "gFLT=Unrecognized(0x6) kFLT=Supply24VNotDetected(0x4)" := by decide

end GripperDriver

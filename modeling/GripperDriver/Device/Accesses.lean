import GripperDriver.Device.RegisterModel
import GripperDriver.Framework.Stutter

/-! # Runs of Accesses to the Register Model

    A host may write any registers it likes, parts of the command block or of
    the status block included. Whatever it writes, the status block and the
    edge tracking afterwards answer the command block as a whole:

    * `Settled`: what one accepted write leaves behind, from any state at all,
    * `Access`, `run`: runs of reads and writes, and the fault byte along them,
    * `BlockWrite`: writes within the command block, which are harmless when
      they are sent again.
-/

namespace GripperDriver

open Interleaving

namespace RegisterModel

/-! ## What one write leaves behind -/

/-- The status block and the edge tracking answer the command block. -/
structure Settled (m : RegisterModel) : Prop where
  activated : m.status.gripperStatus.activated = m.command.activateBit
  activationState : m.status.gripperStatus.activationState =
    if m.command.activateBit && m.activationDone then .complete else .reset
  goToEnabled : m.status.gripperStatus.goToEnabled = true ↔
    m.status.gripperStatus.activationState = .complete ∧ m.command.goToBit = true
  objectDetection : m.status.gripperStatus.objectDetection =
    if m.status.gripperStatus.goToEnabled then .atRequestedPosition else .moving
  positionRequestEcho : m.status.positionRequestEcho = m.command.positionRequest
  position : m.status.position = m.command.positionRequest
  previousActivateBit : m.previousActivateBit = m.command.activateBit
  activationDone : m.activationDone = true → m.command.activateBit = true

theorem goToEnabled_flagsOf :
    ∀ activate done goTo, (flagsOf activate done goTo).goToEnabled = (activate && done && goTo) := by
  decide

theorem objectDetection_flagsOf :
    ∀ activate done goTo, (flagsOf activate done goTo).objectDetection =
      if activate && done && goTo then .atRequestedPosition else .moving := by
  decide

section write
variable (m : RegisterModel) {n : Nat} {address : Nat} (values : Vector Register n)

/-- The device answers a write, and does not touch what was written of the block. -/
theorem command_write (hrange : containsRange address n = true) :
    (m.write address values).command = (m.copyTo address values).command := by
  rw [write_of_range m values hrange]
  simp only [command_setStatus, processCommand_command]

theorem status_write (hrange : containsRange address n = true) :
    (m.write address values).status =
      ((m.copyTo address values).processCommand (m.write address values).command
        (m.copyTo address values).status).1 := by
  rw [command_write m values hrange, write_of_range m values hrange]
  simp only [status_setStatus]

theorem previousActivateBit_write (hrange : containsRange address n = true) :
    (m.write address values).previousActivateBit = (m.write address values).command.activateBit := by
  rw [command_write m values hrange, write_of_range m values hrange]
  simp only [setStatus_previousActivateBit, processCommand_previousActivateBit]

theorem activationDone_write (hrange : containsRange address n = true) :
    (m.write address values).activationDone = m.doneAfter (m.write address values).command := by
  rw [command_write m values hrange, write_of_range m values hrange]
  simp only [setStatus_activationDone, processCommand_activationDone]
  exact doneAfter_congr rfl rfl rfl

/-- **An accepted write settles the device**, whatever the state it was in. -/
theorem settled_write (hrange : containsRange address n = true) :
    (m.write address values).Settled := by
  have hstatus := m.status_write values hrange
  have hdone := m.activationDone_write values hrange
  have hprevious := m.previousActivateBit_write values hrange
  generalize m.write address values = w at hstatus hdone hprevious
  -- the flags are built from rACT, from the activation and from rGTO, and nothing else
  have hflags : w.status.gripperStatus =
      flagsOf w.command.activateBit w.activationDone w.command.goToBit := by
    rw [hstatus, processCommand_gripperStatus, hdone]
    rfl
  constructor
  · rw [hflags, flagsOf_activated]
  · rw [hflags, flagsOf_activationState]
  · rw [hflags, goToEnabled_flagsOf, flagsOf_activationState]
    cases w.command.activateBit && w.activationDone <;> simp
  · rw [hflags, objectDetection_flagsOf, goToEnabled_flagsOf]
  · rw [hstatus]
    rfl
  · rw [hstatus]
    rfl
  · exact hprevious
  · intro h
    exact m.activateBit_of_doneAfter _ (hdone ▸ h)

/-- A latched fault survives a write that leaves rACT set, and no other. -/
theorem fault_write (hrange : containsRange address n = true)
    (hapart : ∀ i < n, ¬ InStatusBlock (address + i)) :
    (m.write address values).status.faultStatus.raw =
      if (m.write address values).command.activateBit then m.status.faultStatus.raw else 0 := by
  rw [status_write m values hrange, processCommand_faultStatus, status_copyTo_of_apart m values hapart]

end write

/-! ## Runs of accesses -/

/-- One access of a host. -/
inductive Access where
  | read (address quantity : Nat)
  | write {n : Nat} (address : Nat) (values : Vector Register n)

/-- What an access answers, and the model afterwards. -/
def access (m : RegisterModel) : Access → Option (List Register) × RegisterModel
  | .read address quantity => ((m.read address quantity).map Vector.toList, m)
  | .write address values => (none, m.write address values)

/-- The model after some accesses, in order. -/
def run (m : RegisterModel) (accesses : List Access) : RegisterModel :=
  accesses.foldl (fun m a => (m.access a).2) m

/-- A write that the device acts on. -/
def Access.accepted : Access → Bool
  | .read _ _ => false
  | @write n address _ => containsRange address n

/-- The access writes no register of the status block. -/
def Access.SparesStatus : Access → Prop
  | .read _ _ => True
  | @write n address _ => ∀ i < n, ¬ InStatusBlock (address + i)

/-- Each accepted write of the run leaves rACT set. -/
def StaysActivated (m : RegisterModel) : List Access → Prop
  | [] => True
  | a :: rest =>
    (a.accepted = true → (m.access a).2.command.activateBit = true) ∧
      (m.access a).2.StaysActivated rest

section runs
variable (m : RegisterModel)

@[simp] theorem run_nil : m.run [] = m := rfl

@[simp] theorem run_cons (a : Access) (rest : List Access) :
    m.run (a :: rest) = (m.access a).2.run rest := rfl

theorem run_concat (accesses : List Access) (a : Access) :
    m.run (accesses ++ [a]) = ((m.run accesses).access a).2 := by
  rw [run, List.foldl_append]
  rfl

/-- An access that is not an accepted write changes nothing. -/
theorem access_of_not_accepted {a : Access} (ha : a.accepted = false) : (m.access a).2 = m := by
  cases a with
  | read address quantity => rfl
  | write address values =>
    simp only [Access.accepted] at ha
    simp only [access, m.write_of_refused values ha]

/-- **Reads of the command block answer zero.** -/
theorem read_command {address quantity : Nat} {registers : Vector Register quantity}
    (hread : m.read address quantity = some registers) (i : Nat) (hi : i < quantity)
    (hfrom : kCommandAddress ≤ address + i) (hto : address + i < kCommandAddress + kBlockRegisters) :
    registers[i] = 0 := by
  simp only [read] at hread
  split at hread
  · cases hread
    rw [Vector.getElem_ofFn]
    exact if_pos ⟨hfrom, hto⟩
  · cases hread

/-- The fault byte after one access. -/
theorem fault_access {a : Access} (hspares : a.SparesStatus) :
    (m.access a).2.status.faultStatus.raw =
      if a.accepted = true ∧ (m.access a).2.command.activateBit = false then 0
      else m.status.faultStatus.raw := by
  cases ha : a.accepted with
  | false => rw [m.access_of_not_accepted ha, if_neg (by simp)]
  | true =>
    cases a with
    | read address quantity => cases ha
    | write address values =>
      simp only [Access.accepted] at ha
      simp only [access, m.fault_write values ha hspares]
      cases (m.write address values).command.activateBit <;> simp

/-- The fault byte is kept as long as rACT stays set. -/
theorem fault_run_of_staysActivated {accesses : List Access}
    (hspares : ∀ a ∈ accesses, a.SparesStatus) (hstays : m.StaysActivated accesses) :
    (m.run accesses).status.faultStatus.raw = m.status.faultStatus.raw := by
  induction accesses generalizing m with
  | nil => rfl
  | cons a rest ih =>
    obtain ⟨hactivate, hstays⟩ := hstays
    rw [run_cons, ih _ (fun b hb => hspares b (List.mem_cons_of_mem _ hb)) hstays,
      m.fault_access (hspares a List.mem_cons_self), if_neg]
    intro hclear
    exact absurd (hactivate hclear.1) (by simp [hclear.2])

/-- No access makes the fault byte other than it was, except zero. -/
theorem fault_run {accesses : List Access} (hspares : ∀ a ∈ accesses, a.SparesStatus) :
    (m.run accesses).status.faultStatus.raw = m.status.faultStatus.raw ∨
      (m.run accesses).status.faultStatus.raw = 0 := by
  induction accesses generalizing m with
  | nil => exact .inl rfl
  | cons a rest ih =>
    have haccess := m.fault_access (hspares a List.mem_cons_self)
    rw [run_cons]
    rcases ih _ (fun b hb => hspares b (List.mem_cons_of_mem _ hb)) with hsame | hzero
    · rw [hsame, haccess]
      split
      · exact .inr rfl
      · exact .inl rfl
    · exact .inr hzero

/-- The activation is done exactly while rACT is set, and the device knows it. -/
theorem done_run (hprevious : m.previousActivateBit = m.command.activateBit)
    (hdone : m.activationDone = m.command.activateBit) (accesses : List Access) :
    (m.run accesses).activationDone = (m.run accesses).command.activateBit := by
  induction accesses generalizing m with
  | nil => exact hdone
  | cons a rest ih =>
    rw [run_cons]
    cases ha : a.accepted with
    | false =>
      rw [m.access_of_not_accepted ha]
      exact ih m hprevious hdone
    | true =>
      cases a with
      | read address quantity => cases ha
      | write address values =>
        simp only [Access.accepted] at ha
        apply ih
        · simp only [access]
          exact m.previousActivateBit_write values ha
        · simp only [access]
          rw [m.activationDone_write values ha]
          exact m.doneAfter_of_eq _ (hdone.trans hprevious.symm)

end runs

theorem activateBit_fresh : ({} : RegisterModel).command.activateBit = false := by decide +kernel

/-- **Every write settles the device, and a fault is latched until rACT is cleared**: the status
    answers the command block from any state, on a fresh device the activation is done exactly
    while rACT is set, and a run that spares the status block never makes up a fault. -/
theorem writes_settle_and_faults_latch :
    (∀ (m : RegisterModel) (n address : Nat) (values : Vector Register n),
      containsRange address n = true → (m.write address values).Settled) ∧
    (∀ accesses, (({} : RegisterModel).run accesses).activationDone =
      (({} : RegisterModel).run accesses).command.activateBit) ∧
    (∀ (m : RegisterModel) (accesses : List Access), (∀ a ∈ accesses, a.SparesStatus) →
      (m.StaysActivated accesses →
        (m.run accesses).status.faultStatus.raw = m.status.faultStatus.raw) ∧
      (m.StaysActivated accesses → ∀ a : Access, a.SparesStatus → a.accepted = true →
        (m.run (accesses ++ [a])).command.activateBit = false →
        (m.run (accesses ++ [a])).status.faultStatus.raw = 0) ∧
      ((m.run accesses).status.faultStatus.raw = m.status.faultStatus.raw ∨
        (m.run accesses).status.faultStatus.raw = 0)) ∧
    (∀ (m : RegisterModel) (address quantity : Nat),
      (m.access (.read address quantity)).2 = m ∧
      ∀ registers, m.read address quantity = some registers → ∀ i (hi : i < quantity),
        kCommandAddress ≤ address + i → address + i < kCommandAddress + kBlockRegisters →
        registers[i] = 0) := by
  refine ⟨?_, ?_, ?_, ?_⟩
  · intro m n address values hrange
    exact m.settled_write values hrange
  · apply done_run
    · exact activateBit_fresh.symm
    · exact activateBit_fresh.symm
  · intro m accesses hspares
    refine ⟨m.fault_run_of_staysActivated hspares, ?_, m.fault_run hspares⟩
    intro _ a ha haccepted hclear
    rw [run_concat] at hclear ⊢
    rw [fault_access _ ha, if_pos ⟨haccepted, hclear⟩]
  · intro m address quantity
    exact ⟨rfl, fun _ hread => m.read_command hread⟩

/-- A fault staged on a fresh device, through a write that sets rACT and one that clears it. -/
theorem writes_settle_and_faults_latch_staged :
    let m := ({} : RegisterModel).setStatus { faultStatus := ⟨0x0E⟩ }
    let set : Access := .write kCommandAddress #v[0x0900]
    let clear : Access := .write kCommandAddress #v[0x0000]
    (m.write kCommandAddress #v[(0x0900 : Register)]).Settled ∧
      (m.run [set]).status.faultStatus.raw = m.status.faultStatus.raw ∧
      (m.run ([set] ++ [clear])).status.faultStatus.raw = 0 := by
  have hset : ∀ a ∈ [(Access.write kCommandAddress #v[0x0900])], a.SparesStatus := by
    intro a ha
    rw [List.mem_singleton.mp ha]
    exact apart_of_block (by decide)
  obtain ⟨hsettled, _, hlatch, _⟩ := writes_settle_and_faults_latch
  obtain ⟨hkept, hcleared, _⟩ := hlatch _ _ hset
  refine ⟨hsettled _ _ _ _ (by decide +kernel), hkept ?_, hcleared ?_ _ ?_ ?_ ?_⟩
  · exact ⟨fun _ => by decide +kernel, trivial⟩
  · exact ⟨fun _ => by decide +kernel, trivial⟩
  · exact apart_of_block (by decide)
  · decide +kernel
  · decide +kernel

/-! ## Writes that are sent again -/

/-- A write of registers of the command block. -/
structure BlockWrite where
  address : Nat
  quantity : Nat
  values : Vector Register quantity
  starts : kCommandAddress ≤ address
  ends : address + quantity ≤ kCommandAddress + kBlockRegisters

def writeBlock (m : RegisterModel) (b : BlockWrite) : RegisterModel := m.write b.address b.values

theorem commandRegisters_within :
    kCommandAddress + kCommandRegisterCount ≤ kCommandAddress + kBlockRegisters := by
  decide

/-- The write of an exchange. -/
def BlockWrite.ofCommand (c : GripperCommand) : BlockWrite where
  address := kCommandAddress
  quantity := kCommandRegisterCount
  values := registersFromBytes kCommandRegisterCount c.data commandRegisters_fit
  starts := Nat.le_refl _
  ends := commandRegisters_within

theorem writeBlock_ofCommand (m : RegisterModel) (c : GripperCommand) :
    m.writeBlock (.ofCommand c) = m.writeCommand c := rfl

section resent
variable (m : RegisterModel)

/-- Registers that already hold the values. -/
theorem copyTo_eq_self {n : Nat} {address : Nat} (values : Vector Register n)
    (hheld : ∀ i (hi : i < n), m.registers (address + i) = values[i]) :
    m.copyTo address values = m := by
  obtain ⟨registers, previousActivateBit, activationDone⟩ := m
  simp only [copyTo, RegisterModel.mk.injEq, and_true]
  funext a
  split
  · next h =>
    rw [← hheld _ h.2, Nat.add_sub_cancel' h.1]
  · rfl

theorem setStatus_setStatus (s : GripperStatus) :
    (m.setStatus s).setStatus s = m.setStatus s := by
  apply copyTo_eq_self
  intro i hi
  exact copyTo_registers_of_mem m kStatusAddress i _ hi

/-- A status leaves the registers outside its block alone. -/
theorem setStatus_registers (s : GripperStatus) {a : Nat} (ha : ¬ InStatusBlock a) :
    (m.setStatus s).registers a = m.registers a := by
  simp only [setStatus, copyTo]
  apply dif_neg
  intro hin
  apply ha
  constructor <;> omega

/-- The device's answer leaves the values written where they were written. -/
theorem copyTo_write {n : Nat} {address : Nat} (values : Vector Register n)
    (hrange : containsRange address n = true) (hapart : ∀ i < n, ¬ InStatusBlock (address + i)) :
    (m.write address values).copyTo address values = m.write address values := by
  rw [write_of_range m values hrange]
  apply copyTo_eq_self
  intro i hi
  rw [setStatus_registers _ _ (hapart i hi)]
  exact copyTo_registers_of_mem m address i values hi

/-- `processCommand` looks at the activation as it comes out, and at the fault under rACT. -/
theorem processCommand_fst_of_done {m m' : RegisterModel} {c : GripperCommand}
    {s s' : GripperStatus} (hdone : m.doneAfter c = m'.doneAfter c)
    (hfault : c.activateBit = true → s.faultStatus.raw = s'.faultStatus.raw) :
    (m.processCommand c s).1 = (m'.processCommand c s').1 := by
  simp only [processCommand, doneAfter] at hdone ⊢
  cases hactivate : c.activateBit with
  | false => simp
  | true =>
    rw [hactivate] at hdone
    simp only [Bool.not_true, Bool.false_eq_true, if_false, Bool.true_and] at hdone ⊢
    rw [hfault hactivate, hdone]

variable {m}

/-- The edge tracking has nothing left to do. -/
theorem Settled.doneAfter_command (h : m.Settled) : m.doneAfter m.command = m.activationDone := by
  have hdone := h.activationDone
  simp only [doneAfter, h.previousActivateBit]
  revert hdone
  cases m.command.activateBit <;> cases m.activationDone <;> simp

theorem Settled.processCommand_snd (h : m.Settled) (s : GripperStatus) :
    (m.processCommand m.command s).2 = m := by
  have hdone := m.processCommand_activationDone m.command s
  rw [h.doneAfter_command] at hdone
  have hprevious := h.previousActivateBit
  obtain ⟨registers, previousActivateBit, activationDone⟩ := m
  simp only [processCommand, RegisterModel.mk.injEq, true_and] at hdone ⊢
  exact ⟨hprevious.symm, hdone⟩

variable (m) {n : Nat} {address : Nat} (values : Vector Register n)

theorem setStatus_status_write (hrange : containsRange address n = true) :
    (m.write address values).setStatus (m.write address values).status = m.write address values := by
  rw [write_of_range m values hrange]
  simp only [status_setStatus, setStatus_setStatus]

/-- **A write that spares the status block does no more when it is sent again**: the command
    block holds it already, the edge is behind, and the fault is latched or gone. -/
theorem write_write (hrange : containsRange address n = true)
    (hapart : ∀ i < n, ¬ InStatusBlock (address + i)) :
    (m.write address values).write address values = m.write address values := by
  have hsettled := m.settled_write values hrange
  have hstatus := m.status_write values hrange
  have hdone := m.activationDone_write values hrange
  have hfault := m.fault_write values hrange hapart
  have hheld := m.copyTo_write values hrange hapart
  have hshown := m.setStatus_status_write values hrange
  rw [status_copyTo_of_apart m values hapart] at hstatus
  generalize m.write address values = w at *
  have hanswer : (w.processCommand w.command w.status).1 = w.status := by
    refine Eq.trans ?_ hstatus.symm
    apply processCommand_fst_of_done
    · rw [hsettled.doneAfter_command, hdone]
      exact doneAfter_congr rfl rfl rfl
    · intro hactivate
      rw [hfault, if_pos hactivate]
  rw [write_of_range w values hrange, hheld]
  simp only [hanswer, hsettled.processCommand_snd, hshown]

/-- **Sending a command-block write again is harmless to the device.** -/
theorem idempotent_writeBlock : Idempotent writeBlock := by
  intro m b
  exact m.write_write b.values (containsRange_of_block b.starts b.ends) (apart_of_block b.ends)

end resent

end RegisterModel

end GripperDriver

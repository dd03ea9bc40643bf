import GripperDriver.Exchange.Quiet

/-! # Connecting to a Gripper That Is in Use

    `initializeImage` reads the status and rebuilds a command block from it: the
    block whose exchange, as far as the status tells, changes nothing.

    * `Operated`: the states that the fake gripper comes to through writes to its
      command block, with faults staged in between,
    * `Consistent`: what all these states have in common,
    * `SameExceptCurrent`: two states that a host and the edge tracking of the
      gripper cannot tell apart, but for the motor current,
    * the seed block is a fixed point of the gripper, so that connecting, and the
      exchanges after that, leave it as it was (`connecting_leaves_undisturbed`).
-/

namespace GripperDriver

open Interleaving

/-! ## The initial read -/

/-- Initial status-read attempts before construction fails. -/
def kInitialReadAttempts : Nat := 3

/-- The text of the exception when the last attempt has failed with `what`. -/
def noGripperAnswered (what : String) : String :=
  "no gripper answered the initial status read (is it powered, and do its baud rate and "
    ++ "Modbus slave address match this connection?) — last attempt: " ++ what

/-- The line logged for an attempt that failed and is not the last. -/
def readAttemptFailed (attempt : Nat) (what : String) : LogLine where
  level := .warn
  message := "initial status read attempt " ++ toString attempt ++ " of "
    ++ toString kInitialReadAttempts ++ " failed: " ++ what

/-- The loop around `readStatus`, from this attempt on; `reads k` is what attempt `k`
    comes to. With the lines logged. -/
def initialRead (reads : Nat → Except String GripperStatus) (attempt : Nat) :
    Except String GripperStatus × List LogLine :=
  match reads attempt with
  | .ok fresh => (.ok fresh, [])
  | .error what =>
    if kInitialReadAttempts ≤ attempt then (.error (noGripperAnswered what), [])
    else
      let rest := initialRead reads (attempt + 1)
      (rest.1, readAttemptFailed attempt what :: rest.2)
termination_by kInitialReadAttempts - attempt

/-- `GripperState::initializeImage`, against a device found in the state `device`; the
    exchange thread starts on the image that it seeds. -/
def initializeImage {dev : Device} (device : dev.State) (reads : Nat → Except String GripperStatus)
    (at_ : Time) : Except String (World dev) :=
  let read := initialRead reads 1
  read.1.map fun fresh =>
    { World.constructed device fresh at_ with trace := read.2.map .logged }

/-- **The first attempt that succeeds is the one that counts**, if it is among the first
    three: then the attempts before it have failed, and their failures are forgotten. -/
theorem initialRead_ok_iff {reads : Nat → Except String GripperStatus} {fresh : GripperStatus}
    {attempt : Nat} (hattempt : attempt ≤ kInitialReadAttempts) :
    (initialRead reads attempt).1 = .ok fresh ↔
      ∃ k, attempt ≤ k ∧ k ≤ kInitialReadAttempts ∧ reads k = .ok fresh ∧
        ∀ j, attempt ≤ j → j < k → ∃ what, reads j = .error what := by
  induction attempt using initialRead.induct reads with
  -- the attempt is answered: every earlier one failed, and none comes after it
  | case1 attempt st hread =>
    rw [initialRead, hread]
    constructor
    · intro h
      cases h
      exact ⟨attempt, le_rfl, hattempt, hread, fun j hj hlt => absurd hj (Nat.not_le_of_lt hlt)⟩
    · intro h
      obtain ⟨k, hk, _, hreadk, hfailed⟩ := h
      rcases Nat.lt_or_eq_of_le hk with hlt | rfl
      · obtain ⟨what, hwhat⟩ := hfailed attempt le_rfl hlt
        cases hread.symm.trans hwhat
      · exact hread.symm.trans hreadk
  -- the last attempt failed
  | case2 attempt what hread hlast =>
    rw [initialRead, hread]
    simp only [hlast, if_true]
    constructor
    · intro h
      cases h
    · intro h
      obtain ⟨k, hk, hkle, hreadk, _⟩ := h
      obtain rfl : k = attempt := by omega
      cases hread.symm.trans hreadk
  -- an attempt failed and the next one is made
  | case3 attempt what hread hlast ih =>
    rw [initialRead, hread]
    simp only [hlast, if_false]
    rw [ih (by omega)]
    constructor
    · intro h
      obtain ⟨k, hk, hkle, hreadk, hfailed⟩ := h
      refine ⟨k, by omega, hkle, hreadk, fun j hj hlt => ?_⟩
      by_cases hj : j = attempt
      · exact ⟨what, hj ▸ hread⟩
      · exact hfailed j (by omega) hlt
    · intro h
      obtain ⟨k, hk, hkle, hreadk, hfailed⟩ := h
      have hne : k ≠ attempt := by
        intro heq
        rw [heq, hread] at hreadk
        cases hreadk
      exact ⟨k, by omega, hkle, hreadk, fun j hj hlt => hfailed j (by omega) hlt⟩

theorem initializeImage_ok {dev : Device} {device : dev.State}
    {reads : Nat → Except String GripperStatus} {at_ : Time} {w : World dev}
    (h : initializeImage device reads at_ = .ok w) :
    ∃ fresh, (initialRead reads 1).1 = .ok fresh ∧
      w = { World.constructed device fresh at_ with
        trace := (initialRead reads 1).2.map .logged } := by
  unfold initializeImage at h
  generalize initialRead reads 1 = read at h ⊢
  obtain ⟨result, lines⟩ := read
  cases result with
  | error what => cases h
  | ok fresh =>
    cases h
    exact ⟨fresh, rfl, rfl⟩

/-! ## The states of a gripper in use -/

namespace RegisterModel

/-- What writes to the command block make of a fresh model, with fault bytes staged in the
    status block while rACT is set. -/
inductive Operated : RegisterModel → Prop where
  | fresh : Operated {}
  | write {m : RegisterModel} {n : Nat} (address : Nat) (values : Vector Register n)
      (hfrom : kCommandAddress ≤ address) (hto : address + n ≤ kCommandAddress + kBlockRegisters)
      (hm : Operated m) : Operated (m.write address values)
  | stageFault {m : RegisterModel} (byte : Byte) (hactivate : m.command.activateBit = true)
      (hm : Operated m) : Operated (m.setStatus (m.status.setFaultStatusByte byte))

/-- What the states in use have in common: the status block echoes the command block, the
    activation is done exactly when rACT is set, and without it no fault is latched. -/
structure Consistent (m : RegisterModel) : Prop where
  previousActivateBit : m.previousActivateBit = m.command.activateBit
  activationDone : m.activationDone = m.command.activateBit
  flags : ∃ goTo, m.status.gripperStatus =
    flagsOf m.command.activateBit m.command.activateBit goTo
  position : m.status.position = m.status.positionRequestEcho
  fault : m.command.activateBit = false → m.status.faultStatus.raw = 0
  reserved1 : m.status.reserved1 = 0
  reservedTail : m.status.reservedTail = Vector.replicate 10 0

theorem consistent_fresh : Consistent {} := by
  have hcommand : (({} : RegisterModel).command).activateBit = false := by decide +kernel
  have hstatus : ({} : RegisterModel).status = {} := by decide +kernel
  constructor
  · rw [hcommand]
  · rw [hcommand]
  · exact ⟨false, by rw [hcommand, hstatus]; decide⟩
  · rw [hstatus]
  · intro _
    rw [hstatus]
  · rw [hstatus]
  · rw [hstatus]

/-- A write within the command block, as the device acts on it. -/
theorem write_of_block (m : RegisterModel) {n : Nat} {address : Nat} (values : Vector Register n)
    (hfrom : kCommandAddress ≤ address) (hto : address + n ≤ kCommandAddress + kBlockRegisters) :
    m.write address values =
      let written := m.copyTo address values
      let processed := written.processCommand written.command m.status
      processed.2.setStatus processed.1 := by
  rw [write_of_range m values (containsRange_of_block hfrom hto)]
  simp only [status_copyTo_of_block m values hto]

theorem Consistent.write {m : RegisterModel} {n : Nat} {address : Nat} (h : Consistent m)
    (values : Vector Register n) (hfrom : kCommandAddress ≤ address)
    (hto : address + n ≤ kCommandAddress + kBlockRegisters) :
    Consistent (m.write address values) := by
  rw [write_of_block m values hfrom hto]
  generalize hw : m.copyTo address values = w
  -- done and the previous rACT agree, so the write leaves done equal to the new rACT
  have hdone : w.doneAfter w.command = w.command.activateBit := by
    apply doneAfter_of_eq
    rw [← hw]
    exact h.activationDone.trans h.previousActivateBit.symm
  constructor
  all_goals
    simp only [command_setStatus, status_setStatus, setStatus_activationDone,
      setStatus_previousActivateBit, processCommand_command]
  · rfl
  · rw [processCommand_activationDone, hdone]
  · exact ⟨_, by rw [processCommand_gripperStatus, hdone]⟩
  · rfl
  · intro hclear
    rw [processCommand_faultStatus, hclear]
    rfl
  · exact processCommand_reserved1 _ _ _
  · exact processCommand_reservedTail _ _ _

theorem Consistent.stageFault {m : RegisterModel} (h : Consistent m) (byte : Byte)
    (hactivate : m.command.activateBit = true) :
    Consistent (m.setStatus (m.status.setFaultStatusByte byte)) := by
  constructor
  all_goals
    simp only [command_setStatus, status_setStatus, setStatus_activationDone,
      setStatus_previousActivateBit]
  · exact h.previousActivateBit
  · exact h.activationDone
  · exact h.flags
  · exact h.position
  · intro hclear
    exact absurd (hactivate.symm.trans hclear) (by decide)
  · exact h.reserved1
  · exact h.reservedTail

theorem consistent_of_operated {m : RegisterModel} (h : Operated m) : Consistent m := by
  induction h with
  | fresh => exact consistent_fresh
  | write address values hfrom hto _ ih => exact ih.write values hfrom hto
  | stageFault byte hactivate _ ih => exact ih.stageFault byte hactivate

/-! ## The seed is a fixed point -/

/-- Every status field of `m'` but the motor current, and the edge tracking, are as in `m`. -/
structure SameExceptCurrent (m m' : RegisterModel) : Prop where
  status : { m'.status with current := m.status.current } = m.status
  previousActivateBit : m'.previousActivateBit = m.previousActivateBit
  activationDone : m'.activationDone = m.activationDone

theorem SameExceptCurrent.refl (m : RegisterModel) : SameExceptCurrent m m := ⟨rfl, rfl, rfl⟩

/-- `c` asks for what the status of `m` already shows. -/
structure Echoed (m : RegisterModel) (c : GripperCommand) : Prop where
  activate : c.activateBit = m.status.gripperStatus.activated
  goTo : c.goToBit = m.status.gripperStatus.goToEnabled
  position : c.positionRequest = m.status.positionRequestEcho

theorem echoed_seedCommand (m : RegisterModel) : Echoed m (seedCommand m.answer) := by
  rw [answer_eq]
  constructor
  · simp [seedCommand, GripperCommand.activateBit, GripperCommand.setAction,
      NamedBitArray.get_setTo_ne]
  · simp [seedCommand, GripperCommand.goToBit, GripperCommand.setAction]
  · rfl

/-- The flags of a state in use, rebuilt from the two bits that a host can read. -/
theorem flagsOf_goToEnabled (activate goTo : Bool) :
    flagsOf activate activate (flagsOf activate activate goTo).goToEnabled =
      flagsOf activate activate goTo := by
  revert activate goTo
  decide

theorem Echoed.activateBit_eq {m : RegisterModel} {c : GripperCommand} (hm : Consistent m)
    (hc : Echoed m c) : c.activateBit = m.command.activateBit := by
  obtain ⟨goTo, hflags⟩ := hm.flags
  rw [hc.activate, hflags, flagsOf_activated]

theorem status_eq_of_fields {s t : GripperStatus} (hflags : s.gripperStatus = t.gripperStatus)
    (hreserved : s.reserved1 = t.reserved1) (hfault : s.faultStatus.raw = t.faultStatus.raw)
    (hecho : s.positionRequestEcho = t.positionRequestEcho) (hposition : s.position = t.position)
    (htail : s.reservedTail = t.reservedTail) : { s with current := t.current } = t := by
  obtain ⟨_, _, ⟨_⟩, _, _, _, _⟩ := s
  obtain ⟨_, _, ⟨_⟩, _, _, _, _⟩ := t
  cases hflags
  cases hreserved
  cases hfault
  cases hecho
  cases hposition
  cases htail
  rfl

/-- **A block that is already echoed changes nothing**, wherever between such writes it
    is written. -/
theorem SameExceptCurrent.writeCommand {m m' : RegisterModel} {c : GripperCommand}
    (hm : Consistent m) (hc : Echoed m c) (h : SameExceptCurrent m m') :
    SameExceptCurrent m (m'.writeCommand c) := by
  obtain ⟨goTo, hflags⟩ := hm.flags
  have hactivate := hc.activateBit_eq hm
  have hdone : m'.doneAfter c = c.activateBit := by
    apply doneAfter_of_eq
    rw [h.activationDone, h.previousActivateBit, hm.activationDone, hm.previousActivateBit]
  refine ⟨?_, ?_, ?_⟩
  · rw [status_writeCommand]
    apply status_eq_of_fields
    · rw [processCommand_gripperStatus, hdone, hactivate, hc.goTo, hflags, flagsOf_goToEnabled]
    · rw [processCommand_reserved1, hm.reserved1]
    · -- with rACT set the fault byte is kept, without it there was none
      rw [processCommand_faultStatus, hactivate]
      by_cases hset : m.command.activateBit = true
      · rw [if_pos hset, ← h.status]
      · rw [if_neg hset, hm.fault (Bool.eq_false_iff.mpr hset)]
    · exact hc.position
    · exact hc.position.trans hm.position.symm
    · rw [processCommand_reservedTail, hm.reservedTail]
  · rw [previousActivateBit_writeCommand, hactivate, hm.previousActivateBit]
  · rw [activationDone_writeCommand, hdone, hactivate, hm.activationDone]

end RegisterModel

/-! ## Connecting -/

section connecting
variable {m : RegisterModel} {c : GripperCommand} {w w' : World RegisterModel.device} {l : Label}

/-- The exchange thread has written no block but `c`, and the device is as in `m`. -/
structure Undisturbing (m : RegisterModel) (c : GripperCommand)
    (w : World RegisterModel.device) : Prop where
  command : w.image.command = c
  latched : ∀ c', w.pc = .latched c' → c' = c
  device : RegisterModel.SameExceptCurrent m w.device
  applied : ∀ k c' d, .applied k c' d ∈ w.trace → c' = c ∧ RegisterModel.SameExceptCurrent m d

/-- **Step lemma**: a latch takes the block of the image, and a delivery writes it to a
    device that shows it already. -/
theorem Undisturbing.step (hm : RegisterModel.Consistent m) (hc : RegisterModel.Echoed m c)
    (h : Undisturbing m c w) (hl : Quiet l) (hmove : Move w l w') : Undisturbing m c w' := by
  have happlied := h.applied
  cases hmove with
  | setCommand _ => cases hl
  -- the block latched is that of the image, which only `setCommand` replaces
  | latch hpc =>
    refine ⟨h.command, ?_, h.device, by simpa using happlied⟩
    intro c' hc'
    cases hc'
    exact h.command
  | deliver c' hpc =>
    obtain rfl : c' = c := h.latched c' hpc
    refine ⟨h.command, nofun, h.device.writeCommand hm hc, ?_⟩
    intro k c'' d hmem
    rcases List.mem_append.mp hmem with hold | hnew
    · exact happlied k c'' d hold
    · cases List.mem_singleton.mp hnew
      exact ⟨rfl, h.device⟩
  | _ =>
    exact ⟨h.command, by first | exact h.latched | nofun, h.device, by simpa using happlied⟩

/-- **Connecting never disturbs a running gripper**: once `initializeImage` has read its
    status, whatever attempts failed before, no cycle changes a status field other than
    the motor current, or the edge tracking, until a block is set; and no write of these
    cycles is an edge of rACT. -/
theorem connecting_leaves_undisturbed {reads : Nat → Except String GripperStatus} {at_ : Time}
    {w₀ : World RegisterModel.device} (hm : RegisterModel.Operated m)
    (hreads : ∀ k st, reads k = .ok st → st = m.answer)
    (hinit : initializeImage m reads at_ = .ok w₀)
    (hrun : (gripperSystem RegisterModel.device).Within Quiet w₀ w) :
    RegisterModel.SameExceptCurrent m w.device ∧
    ∀ k c d, .applied k c d ∈ w.trace →
      c.activateBit = d.previousActivateBit ∧ RegisterModel.SameExceptCurrent m d := by
  have hconsistent := RegisterModel.consistent_of_operated hm
  have hechoed := RegisterModel.echoed_seedCommand m
  -- what was read is the answer of the device, and the seed is made from it
  have hstart : Undisturbing m (seedCommand m.answer) w₀ := by
    obtain ⟨fresh, hread, rfl⟩ := initializeImage_ok hinit
    obtain ⟨k, _, _, hk, _⟩ := (initialRead_ok_iff (by decide)).mp hread
    obtain rfl := hreads k fresh hk
    refine ⟨rfl, nofun, .refl m, ?_⟩
    intro k c' d hmem
    obtain ⟨line, _, hline⟩ := List.mem_map.mp hmem
    cases hline
  have hkept := hrun.keeps (fun _ _ _ h hl hstep =>
    h.step hconsistent hechoed hl (move_of_step hstep)) hstart
  refine ⟨hkept.device, ?_⟩
  intro k c d hmem
  obtain ⟨rfl, hsame⟩ := hkept.applied k c d hmem
  refine ⟨?_, hsame⟩
  rw [hechoed.activateBit_eq hconsistent, hsame.previousActivateBit, hconsistent.previousActivateBit]

/-- A gripper that holds a grip, with a fault latched. -/
def gripping : RegisterModel :=
  let held := RegisterModel.writeCommand {} { action := ⟨0x09⟩, positionRequest := 200 }
  held.setStatus (held.status.setFaultStatusByte 0x0A)

/-- What a driver makes of it whose first two reads have failed. -/
def connectedGripping : World RegisterModel.device :=
  { @World.constructed RegisterModel.device gripping gripping.answer 0 with
    trace := [.logged (readAttemptFailed 1 "timeout"), .logged (readAttemptFailed 2 "timeout")] }

/-- The third read is answered; then the first cycle loses its reply. -/
theorem connecting_leaves_undisturbed_gripping :
    RegisterModel.SameExceptCurrent gripping connectedGripping.afterLostReply.device := by
  have hgripping : RegisterModel.Operated gripping := by
    apply RegisterModel.Operated.stageFault
    · decide +kernel
    · exact .write kCommandAddress _ le_rfl (by decide) .fresh
  have hinit : initializeImage gripping
      (fun k => if k < 3 then .error "timeout" else .ok gripping.answer) 0
        = .ok connectedGripping := by
    simp [initializeImage, initialRead, kInitialReadAttempts, Except.map, connectedGripping]
  refine (connecting_leaves_undisturbed hgripping ?_ hinit (afterLostReply_within rfl rfl rfl)).1
  intro k st hread
  by_cases hk : k < 3
  · rw [if_pos hk] at hread
    cases hread
  · rw [if_neg hk] at hread
    cases hread
    rfl

end connecting

end GripperDriver

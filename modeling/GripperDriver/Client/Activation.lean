import GripperDriver.Client.Waits

/-! # The Activation Procedures

    `activate` and `recoverFromFault` as programs of the commander, and the
    stages a run of theirs goes through:

    * `waiting`: no block is set yet,
    * `clearing`: the block with rACT cleared is in the image,
    * `activating`: a record has shown rACT clear, the block with rACT set is in,
    * `restored`: the wait ran out, the block found at the call is back.

    `Progress` keeps the worlds at which the stages changed, so that each
    property of a procedure is about runs in which no block is set.
-/

namespace GripperDriver

open Interleaving Relation

/-! ## The procedures -/

inductive ActivationResult where
  | activated
  | alreadyActive
  | faultLatched
  | timeout
  deriving DecidableEq, Repr

def remaining (deadline : Time) : Prog Act Int := do
  let now ← .act .now
  pure (millisLeft deadline now)

def waitForStatus (predicate : GripperStatus → Bool) (deadline : Time) :
    Prog Act (Option StampedExchange) := do
  let left ← remaining deadline
  waitFor (fun exchange => predicate exchange.status) left

/-- A completed exchange proves that the cycle is delivering fresh status. -/
def waitOperational (deadline : Time) : Prog Act (Option StampedExchange) :=
  waitForStatus (fun _ => true) deadline

def waitForActivationComplete (deadline : Time) : Prog Act ActivationResult := do
  let exchange ← waitForStatus
    (fun status => status.gripperStatus.activationState = .complete) deadline
  pure (if exchange.isSome then .activated else .timeout)

/-- `timeout / 2` is an integer division: it rounds toward zero. -/
def isActivationHandshakeAllowed (deadline : Time) (timeout : Int) : Prog Act Bool := do
  let now ← .act .now
  pure (timeout.tdiv 2 * nanosPerMilli ≤ deadline - now)

/-- The block that runs the calibration sweep. It does not start a motion. -/
def activateCommand (previous : GripperCommand) : GripperCommand :=
  (previous.setAction .goTo false).setAction .activate true

/-- The block that resets the gripper. -/
def deactivateCommand (previous : GripperCommand) : GripperCommand :=
  (activateCommand previous).setAction .activate false

/-- The manual's reset handshake. -/
def runActivationHandshake (deadline : Time) : Prog Act ActivationResult := do
  let previousCommand ← .act .command
  .act (.setCommand (deactivateCommand previousCommand))
  let cleared ← waitForStatus (fun status => !status.gripperStatus.activated) deadline
  match cleared with
  | none => do
    .act (.setCommand previousCommand)
    pure .timeout
  | some _ => do
    .act (.setCommand (activateCommand previousCommand))
    waitForActivationComplete deadline

def activate (timeout : Int) : Prog Act ActivationResult := do
  let now ← .act .now
  let deadline := now + timeout * nanosPerMilli
  let fresh ← waitOperational deadline
  match fresh with
  | none => pure .timeout
  | some fresh =>
    let status := fresh.status
    if severity status.faultStatus.gripperFault = .major then pure .faultLatched
    -- activation survives com loss: the normal host-restart case
    else if status.gripperStatus.activationState = .complete then pure .alreadyActive
    else if status.gripperStatus.activationState = .inProgress then
      waitForActivationComplete deadline
    else do
      let allowed ← isActivationHandshakeAllowed deadline timeout
      if allowed then runActivationHandshake deadline else pure .timeout

def recoverFromFault (timeout : Int) : Prog Act ActivationResult := do
  let now ← .act .now
  let deadline := now + timeout * nanosPerMilli
  let fresh ← waitOperational deadline
  match fresh with
  | none => pure .timeout
  | some _ => do
    let allowed ← isActivationHandshakeAllowed deadline timeout
    if allowed then runActivationHandshake deadline else pure .timeout

inductive Procedure where
  | activate
  | recoverFromFault
  deriving DecidableEq, Repr

def Procedure.prog : Procedure → Int → Prog Act ActivationResult
  | .activate => GripperDriver.activate
  | .recoverFromFault => GripperDriver.recoverFromFault

/-! ### The blocks of the handshake -/

@[simp] theorem activateBit_activateCommand (c : GripperCommand) :
    (activateCommand c).activateBit = true := by
  simp [activateCommand]

@[simp] theorem goToBit_activateCommand (c : GripperCommand) :
    (activateCommand c).goToBit = false := by
  simp [activateCommand]

@[simp] theorem activateBit_deactivateCommand (c : GripperCommand) :
    (deactivateCommand c).activateBit = false := by
  simp [deactivateCommand]

@[simp] theorem goToBit_deactivateCommand (c : GripperCommand) :
    (deactivateCommand c).goToBit = false := by
  simp [deactivateCommand]

/-! ## The stages -/

/-- The gripper is in activation Complete with no major fault, or in progress. -/
def GripperStatus.healthy (st : GripperStatus) : Bool :=
  st.gripperStatus.activationState = .inProgress ||
    (st.gripperStatus.activationState = .complete &&
      severity st.faultStatus.gripperFault ≠ .major)

/-- The statuses on which a procedure goes on to the handshake. -/
def Procedure.goesOn : Procedure → GripperStatus → Bool
  | .activate, st => !st.healthy
  | .recoverFromFault, _ => true

section stages
variable {dev : Device}

/-- At `w₁` the procedure called at `w₀` has judged the record of some `u` on the
    way, published after the call. -/
def Judged (w₀ : World dev) (proc : Procedure) (w₁ : World dev) : Prop :=
  ∃ u, (gripperSystem dev).Within Quiet w₀ u ∧ (gripperSystem dev).Within Quiet u w₁ ∧
    w₀.image.stamped.count < u.image.stamped.count ∧
    proc.goesOn u.image.stamped.status = true

/-- At `w₂` a record published since the reset was set at `w₁` has shown rACT clear. -/
def Cleared (w₀ w₁ w₂ : World dev) : Prop :=
  ∃ v, (gripperSystem dev).Within Quiet (w₁.afterSet (deactivateCommand w₀.image.command)) v ∧
    (gripperSystem dev).Within Quiet v w₂ ∧
    w₁.image.stamped.count < v.image.stamped.count ∧
    v.image.stamped.status.gripperStatus.activated = false

/-- How far a procedure called at `w₀` has come. -/
inductive Progress (w₀ : World dev) (proc : Procedure) (w : World dev) : Prop where
  | waiting (run : (gripperSystem dev).Within Quiet w₀ w)
  | clearing (w₁ : World dev) (judged : Judged w₀ proc w₁)
      (run : (gripperSystem dev).Within Quiet
        (w₁.afterSet (deactivateCommand w₀.image.command)) w)
  | activating (w₁ w₂ : World dev) (judged : Judged w₀ proc w₁) (cleared : Cleared w₀ w₁ w₂)
      (run : (gripperSystem dev).Within Quiet
        (w₂.afterSet (activateCommand w₀.image.command)) w)
  | restored (w₁ w₂ : World dev) (judged : Judged w₀ proc w₁)
      (wait : (gripperSystem dev).Within Quiet
        (w₁.afterSet (deactivateCommand w₀.image.command)) w₂)
      (run : (gripperSystem dev).Within Quiet (w₂.afterSet w₀.image.command) w)

/-- The handshake has run, and the last wait ended on the record of `w`. -/
def Completed (w₀ : World dev) (proc : Procedure) (w : World dev) : Prop :=
  ∃ w₁ w₂, Judged w₀ proc w₁ ∧ Cleared w₀ w₁ w₂ ∧
    (gripperSystem dev).Within Quiet (w₂.afterSet (activateCommand w₀.image.command)) w ∧
    w₂.image.stamped.count < w.image.stamped.count ∧
    w.image.stamped.status.gripperStatus.activationState = .complete

/-- What a result says of the run. -/
def Outcome (w₀ : World dev) (proc : Procedure) (w : World dev) : ActivationResult → Prop
  | .activated => (gripperSystem dev).Within Quiet w₀ w ∨ Completed w₀ proc w
  | .alreadyActive | .faultLatched => (gripperSystem dev).Within Quiet w₀ w
  | .timeout => True

/-- Where a wait ran out: before any block was set, after the last one, or while rACT
    should have cleared, and the block found at the call is back. -/
inductive TimedOut (w₀ : World dev) (proc : Procedure) (w : World dev) : Prop where
  | untouched (run : (gripperSystem dev).Within Quiet w₀ w)
  | activating (w₁ w₂ : World dev) (judged : Judged w₀ proc w₁) (cleared : Cleared w₀ w₁ w₂)
      (run : (gripperSystem dev).Within Quiet
        (w₂.afterSet (activateCommand w₀.image.command)) w)
  | restored (w₂ : World dev)
      (run : (gripperSystem dev).Within Quiet (w₂.afterSet w₀.image.command) w)

/-- What a result says of the run, a timeout included. -/
def Exited (w₀ : World dev) (proc : Procedure) (w : World dev) (result : ActivationResult) :
    Prop :=
  Outcome w₀ proc w result ∧ (result = .timeout → TimedOut w₀ proc w)

/-! ### The stages are stable -/

variable {w₀ w₁ w₂ : World dev} {proc : Procedure}

theorem quiet_stable (u : World dev) :
    Stable commander (fun w => (gripperSystem dev).Within Quiet u w) := by
  intro w w' hw henv
  exact hw.tail henv

theorem judged_stable : Stable commander (Judged w₀ proc) := by
  intro w w' hw henv
  obtain ⟨u, hu, hw, hcount, hstatus⟩ := hw
  exact ⟨u, hu, hw.tail henv, hcount, hstatus⟩

theorem cleared_stable : Stable commander (Cleared w₀ w₁) := by
  intro w w' hw henv
  obtain ⟨v, hv, hw, hcount, hstatus⟩ := hw
  exact ⟨v, hv, hw.tail henv, hcount, hstatus⟩

theorem Judged.run (h : Judged w₀ proc w₁) : (gripperSystem dev).Within Quiet w₀ w₁ := by
  obtain ⟨u, hu, hw, _⟩ := h
  exact hu.trans hw

theorem Cleared.run (h : Cleared w₀ w₁ w₂) :
    (gripperSystem dev).Within Quiet (w₁.afterSet (deactivateCommand w₀.image.command)) w₂ := by
  obtain ⟨v, hv, hw, _⟩ := h
  exact hv.trans hw

theorem progress_stable : Stable commander (Progress w₀ proc) := by
  intro w w' hw henv
  cases hw with
  | waiting run => exact .waiting (run.tail henv)
  | clearing w₁ judged run => exact .clearing w₁ judged (run.tail henv)
  | activating w₁ w₂ judged cleared run => exact .activating w₁ w₂ judged cleared (run.tail henv)
  | restored w₁ w₂ judged wait run => exact .restored w₁ w₂ judged wait (run.tail henv)

/-! ### What the waits leave -/

section waits
variable {G I : World dev → Prop}

theorem waitForStatus_triple (start : Nat) (predicate : GripperStatus → Bool) (deadline : Time)
    (hG : Stable commander G) (hI : ∀ w, G w → I w)
    (hstart : ∀ w, G w → start ≤ w.image.stamped.count) :
    Triple commander I G (waitForStatus predicate deadline) (fun answer w => G w ∧
      Met (fun exchange => predicate exchange.status) start answer w) := by
  have hleft : Triple commander I G (remaining deadline) (fun _ w => G w) :=
    (now_triple hG hI).bind fun _ => Triple.pure hG hI (fun _ hw => hw) fun _ hw => hw
  exact hleft.bind fun left => waitFor_met start _ left hG hI hstart

theorem waitForActivationComplete_triple (start : Nat) (deadline : Time)
    (hG : Stable commander G) (hI : ∀ w, G w → I w)
    (hstart : ∀ w, G w → start ≤ w.image.stamped.count) :
    Triple commander I G (waitForActivationComplete deadline) (fun result w => G w ∧
      (result = .activated ∨ result = .timeout) ∧
      (result = .activated → start < w.image.stamped.count ∧
        w.image.stamped.status.gripperStatus.activationState = .complete)) := by
  apply (waitForStatus_triple start _ deadline hG hI hstart).bind
  intro exchange
  apply Triple.pure hG hI (fun _ hw => hw.1)
  intro w hw
  obtain ⟨hw, hmet⟩ := hw
  cases exchange with
  | none => exact ⟨hw, .inr rfl, by simp⟩
  | some r =>
    obtain ⟨rfl, hcount, hp⟩ := hmet r rfl
    exact ⟨hw, .inl rfl, fun _ => ⟨hcount, by simpa using hp⟩⟩

theorem isActivationHandshakeAllowed_triple (deadline : Time) (timeout : Int)
    (hG : Stable commander G) (hI : ∀ w, G w → I w) :
    Triple commander I G (isActivationHandshakeAllowed deadline timeout) (fun _ w => G w) :=
  (now_triple hG hI).bind fun _ => Triple.pure hG hI (fun _ hw => hw) fun _ hw => hw

end waits

/-! ### What the procedures do -/

/-- The last stage of the handshake, the block with rACT set being in the image. -/
theorem activating_triple (deadline : Time) (hjudged : Judged w₀ proc w₁)
    (hcleared : Cleared w₀ w₁ w₂) :
    Triple commander (Progress w₀ proc)
      (fun w => (gripperSystem dev).Within Quiet
        (w₂.afterSet (activateCommand w₀.image.command)) w)
      (waitForActivationComplete deadline)
      (fun result w => Progress w₀ proc w ∧ Exited w₀ proc w result) := by
  have hprogress : ∀ w, (gripperSystem dev).Within Quiet
      (w₂.afterSet (activateCommand w₀.image.command)) w → Progress w₀ proc w :=
    fun w hw => .activating w₁ w₂ hjudged hcleared hw
  refine (waitForActivationComplete_triple w₂.image.stamped.count deadline (quiet_stable _)
    hprogress fun w hw => count_le_after_set hw).post ?_
  intro result w h
  obtain ⟨hw, hresult, hcomplete⟩ := h
  refine ⟨hprogress w hw, ?_⟩
  rcases hresult with rfl | rfl
  · -- the record of the last wait is newer than the block it answers
    exact ⟨.inr ⟨w₁, w₂, hjudged, hcleared, hw, hcomplete rfl⟩, nofun⟩
  · exact ⟨trivial, fun _ => .activating w₁ w₂ hjudged hcleared hw⟩

/-- The wait for rACT clear ran out: the block found at the call goes back. -/
theorem restored_triple (hjudged : Judged w₀ proc w₁) :
    Triple commander (Progress w₀ proc)
      (fun w => (gripperSystem dev).Within Quiet
        (w₁.afterSet (deactivateCommand w₀.image.command)) w)
      (do Prog.act (.setCommand w₀.image.command); pure ActivationResult.timeout)
      (fun result w => Progress w₀ proc w ∧ Exited w₀ proc w result) := by
  have hback : Triple commander (Progress w₀ proc)
      (fun w => (gripperSystem dev).Within Quiet
        (w₁.afterSet (deactivateCommand w₀.image.command)) w)
      (.act (.setCommand w₀.image.command))
      (fun _ w => ∃ w₂, (gripperSystem dev).Within Quiet
          (w₁.afterSet (deactivateCommand w₀.image.command)) w₂ ∧
        (gripperSystem dev).Within Quiet (w₂.afterSet w₀.image.command) w) :=
    act_triple (quiet_stable _) (fun w hw => .clearing w₁ hjudged hw)
      fun w hw => ⟨w, hw, .refl⟩
  refine hback.bind fun _ => Triple.exists_pre fun w₂ => Triple.assuming fun hwait => ?_
  exact Triple.pure (quiet_stable _) (fun _ hw => .restored w₁ w₂ hjudged hwait hw)
    (fun _ hw => hw) fun w hw =>
      ⟨.restored w₁ w₂ hjudged hwait hw, trivial, fun _ => .restored w₂ hw⟩

theorem runActivationHandshake_triple (deadline : Time) :
    Triple commander (Progress w₀ proc) (Judged w₀ proc) (runActivationHandshake deadline)
      (fun result w => Progress w₀ proc w ∧ Exited w₀ proc w result) := by
  have hwaiting : ∀ w, Judged w₀ proc w → Progress w₀ proc w := fun w hw => .waiting hw.run
  have hread : Triple commander (Progress w₀ proc) (Judged w₀ proc) (.act .command)
      (fun previous w => previous = w₀.image.command ∧ Judged w₀ proc w) :=
    act_triple judged_stable hwaiting fun w hw => ⟨command_of_quiet hw.run, hw⟩
  refine hread.bind fun previous => Triple.assuming fun hprevious => ?_
  -- nothing has been set since the call, so the block read is that of the call
  subst hprevious
  have hset : Triple commander (Progress w₀ proc) (Judged w₀ proc)
      (.act (.setCommand (deactivateCommand w₀.image.command)))
      (fun _ w => ∃ w₁, Judged w₀ proc w₁ ∧ (gripperSystem dev).Within Quiet
        (w₁.afterSet (deactivateCommand w₀.image.command)) w) :=
    act_triple judged_stable hwaiting fun w hw => ⟨w, hw, .refl⟩
  refine hset.bind fun _ => Triple.exists_pre fun w₁ => Triple.assuming fun hjudged => ?_
  have hclearing : ∀ w, (gripperSystem dev).Within Quiet
      (w₁.afterSet (deactivateCommand w₀.image.command)) w → Progress w₀ proc w :=
    fun w hw => .clearing w₁ hjudged hw
  refine (waitForStatus_triple w₁.image.stamped.count _ deadline (quiet_stable _) hclearing
    fun w hw => count_le_after_set hw).bind fun cleared => ?_
  cases cleared with
  | none => exact (restored_triple hjudged).pre fun w hw => hw.1
  | some r =>
    -- the record that ended the wait is that of the image, published since the reset
    have hclear : ∀ w, ((gripperSystem dev).Within Quiet
        (w₁.afterSet (deactivateCommand w₀.image.command)) w ∧
        Met (fun exchange => !exchange.status.gripperStatus.activated) w₁.image.stamped.count
          (some r) w) → Cleared w₀ w₁ w := by
      intro w hw
      obtain ⟨hw, hmet⟩ := hw
      obtain ⟨rfl, hcount, hp⟩ := hmet r rfl
      exact ⟨w, hw, .refl, hcount, by simpa using hp⟩
    have hagain : Triple commander (Progress w₀ proc) (Cleared w₀ w₁)
        (.act (.setCommand (activateCommand w₀.image.command)))
        (fun _ w => ∃ w₂, Cleared w₀ w₁ w₂ ∧ (gripperSystem dev).Within Quiet
          (w₂.afterSet (activateCommand w₀.image.command)) w) :=
      act_triple cleared_stable (fun w hw => hclearing w hw.run)
        fun w hw => ⟨w, hw, .refl⟩
    refine (hagain.pre hclear).bind fun _ => Triple.exists_pre fun w₂ =>
      Triple.assuming fun hcleared => ?_
    exact activating_triple deadline hjudged hcleared

/-- Both procedures begin the same way: the clock, then a fresh record. -/
theorem fresh_triple (deadline : Time) :
    Triple commander (Progress w₀ proc) (fun w => (gripperSystem dev).Within Quiet w₀ w)
      (waitOperational deadline) (fun fresh w => (gripperSystem dev).Within Quiet w₀ w ∧
        Met (fun _ => true) w₀.image.stamped.count fresh w) :=
  waitForStatus_triple _ _ deadline (quiet_stable _) (fun _ hw => .waiting hw)
    fun _ hw => count_le_of_within hw

/-- A result that is settled before any block is set. -/
theorem settled_triple {P : World dev → Prop} (result : ActivationResult)
    (hP : ∀ w, P w → (gripperSystem dev).Within Quiet w₀ w) :
    Triple commander (Progress w₀ proc) P (pure result)
      (fun result w => Progress w₀ proc w ∧ Exited w₀ proc w result) := by
  refine Triple.pure (quiet_stable w₀) (fun _ hw => .waiting hw) hP fun w hw =>
    ⟨.waiting (hP w hw), ?_, fun _ => .untouched (hP w hw)⟩
  cases result with
  | activated => exact .inl (hP w hw)
  | alreadyActive | faultLatched => exact hP w hw
  | timeout => trivial

/-- The handshake, where there is time left for it. -/
theorem handshake_triple (deadline : Time) (timeout : Int) :
    Triple commander (Progress w₀ proc) (Judged w₀ proc)
      (do
        let allowed ← isActivationHandshakeAllowed deadline timeout
        if allowed then runActivationHandshake deadline else pure .timeout)
      (fun result w => Progress w₀ proc w ∧ Exited w₀ proc w result) := by
  refine (isActivationHandshakeAllowed_triple deadline timeout judged_stable
    fun w hw => .waiting hw.run).bind fun allowed => ?_
  exact Triple.ite (fun _ => runActivationHandshake_triple deadline)
    fun _ => settled_triple .timeout fun w hw => hw.run

theorem recoverFromFault_triple (timeout : Int) :
    Triple commander (Progress w₀ .recoverFromFault)
      (fun w => (gripperSystem dev).Within Quiet w₀ w) (recoverFromFault timeout)
      (fun result w => Progress w₀ .recoverFromFault w ∧ Exited w₀ .recoverFromFault w result) := by
  apply (now_triple (quiet_stable w₀) fun _ hw => .waiting hw).bind
  intro now
  apply (fresh_triple _).bind
  intro fresh
  cases fresh with
  | none => exact settled_triple .timeout fun w hw => hw.1
  | some r =>
    apply (handshake_triple _ timeout).pre
    intro w hw
    obtain ⟨hw, hmet⟩ := hw
    exact ⟨w, hw, .refl, (hmet r rfl).1 ▸ (hmet r rfl).2.1, rfl⟩

theorem activate_triple (timeout : Int) :
    Triple commander (Progress w₀ .activate)
      (fun w => (gripperSystem dev).Within Quiet w₀ w) (activate timeout)
      (fun result w => Progress w₀ .activate w ∧ Exited w₀ .activate w result) := by
  apply (now_triple (quiet_stable w₀) fun _ hw => .waiting hw).bind
  intro now
  apply (fresh_triple _).bind
  intro fresh
  cases fresh with
  | none => exact settled_triple .timeout fun w hw => hw.1
  | some r =>
    apply Triple.ite (fun _ => settled_triple .faultLatched fun w hw => hw.1)
    intro hmajor
    apply Triple.ite (fun _ => settled_triple .alreadyActive fun w hw => hw.1)
    intro hcomplete
    refine Triple.ite (fun _ => ?_) fun hprogress => ?_
    · -- in progress: only the wait for its completion is left, and no block is set
      have hwait := waitForActivationComplete_triple (I := Progress w₀ .activate) 0
        (now + timeout * nanosPerMilli) (quiet_stable w₀) (fun _ hw => .waiting hw)
        fun _ _ => Nat.zero_le _
      apply hwait.conseq (fun w hw => hw.1)
      intro result w hw
      refine ⟨.waiting hw.1, ?_⟩
      rcases hw.2.1 with rfl | rfl
      · exact ⟨.inl hw.1, nofun⟩
      · exact ⟨trivial, fun _ => .untouched hw.1⟩
    · apply (handshake_triple _ timeout).pre
      intro w hw
      obtain ⟨hw, hmet⟩ := hw
      obtain ⟨rfl, hcount, _⟩ := hmet r rfl
      -- neither faulted nor complete nor in progress is what the handshake goes on from
      exact ⟨w, hw, .refl, hcount, by simp [Procedure.goesOn, GripperStatus.healthy, *]⟩

theorem exited_triple (proc : Procedure) (timeout : Int) :
    Triple commander (Progress w₀ proc)
      (fun w => (gripperSystem dev).Within Quiet w₀ w) (proc.prog timeout)
      (fun result w => Progress w₀ proc w ∧ Exited w₀ proc w result) := by
  cases proc with
  | activate => exact activate_triple timeout
  | recoverFromFault => exact recoverFromFault_triple timeout

theorem procedure_triple (proc : Procedure) (timeout : Int) :
    Triple commander (Progress w₀ proc)
      (fun w => (gripperSystem dev).Within Quiet w₀ w) (proc.prog timeout)
      (fun result w => Progress w₀ proc w ∧ Outcome w₀ proc w result) :=
  (exited_triple proc timeout).post fun _ _ h => ⟨h.1, h.2.1⟩

/-- **Wherever a procedure gets, it is at one of its stages.** -/
theorem progress_of_visits {timeout : Int} {w : World dev}
    (hvis : Visits commander (proc.prog timeout) w₀ w) : Progress w₀ proc w :=
  (procedure_triple proc timeout).visits progress_stable (fun _ _ h => h.1) .refl hvis

/-! ### Runs of the waits -/

section calls
variable {w w' w'' : World dev}

theorem runs_waitForStatus {predicate : GripperStatus → Bool} (deadline : Time)
    (henv : (gripperSystem dev).Within Quiet w w')
    (hlt : w.image.stamped.count < w'.image.stamped.count)
    (hp : predicate w'.image.stamped.status = true) :
    Runs commander (waitForStatus predicate deadline) w (some (some w'.image.stamped)) w' := by
  refine runs_bind (runs_bind (runs_act .refl rfl) runs_pure) ?_
  apply runs_bind (runs_act .refl rfl)
  exact runs_waitForExchangeAfter _ hlt hp henv

theorem runs_waitForStatus_empty (predicate : GripperStatus → Bool) {deadline : Time}
    (hwait : (gripperSystem dev).Within Quiet w w')
    (hle : w'.image.stamped.count ≤ w.image.stamped.count)
    (hdue : dueAfter (millisLeft (dueAfter (millisLeft deadline w.now) w.now) w.now) w.now
      ≤ w'.now) :
    Runs commander (waitForStatus predicate deadline) w (some none) w' := by
  refine runs_bind (runs_bind (runs_act .refl rfl) runs_pure) ?_
  apply runs_bind (runs_act .refl rfl)
  exact runs_waitForExchangeAfter_empty _ _ hle .refl hwait hdue

/-- Time is left: the handshake is run. -/
theorem runs_handshake {deadline : Time} {timeout : Int} {o : Option ActivationResult}
    (hleft : timeout.tdiv 2 * nanosPerMilli ≤ deadline - w.now)
    (hrun : Runs commander (runActivationHandshake deadline) w o w') :
    Runs commander (do
        let allowed ← isActivationHandshakeAllowed deadline timeout
        if allowed then runActivationHandshake deadline else pure .timeout) w o w' := by
  refine runs_bind (runs_bind (runs_act .refl rfl) runs_pure) ?_
  rw [if_pos (decide_eq_true hleft)]
  exact hrun

end calls

end stages

end GripperDriver

import GripperDriver.Client.Activation
import GripperDriver.Exchange.Evolution

/-! # What the Handshake Does to the Gripper

    Does the reset really happen? Over a device that behaves as the fake gripper,
    `activated` after a handshake means that the device has seen both edges of rACT
    (`reset_happened`).

    * `Unstaged`: no fault is staged in the device meanwhile,
    * `BothEdges`: a block with rACT clear was applied, and later one with rACT set,
    * `runs_recoverFromFault`: a recovery on a link that loses nothing.
-/

namespace GripperDriver

open Interleaving Relation

/-! ## The reset happens -/

section reset
variable {stage : RegisterModel → Time → Time → RegisterModel}
  {w₀ w w' : World (RegisterModel.staged stage)} {seed : StampedExchange}

/-- Nothing has been staged in the device since `w₀`. -/
def Unstaged (w₀ w : World (RegisterModel.staged stage)) : Prop :=
  ∀ after d d', w.trace = w₀.trace ++ after → .elapsed d d' ∈ after → d' = d

/-- Since the call at `w₀` the device has applied a block with rACT clear and, later,
    one with rACT set. -/
def BothEdges (w₀ w : World (RegisterModel.staged stage)) : Prop :=
  ∃ x y z k c d k' c' d', w.trace = w₀.trace ++
      (x ++ .applied k c d :: (y ++ .applied k' c' d' :: z)) ∧
    c.activateBit = false ∧ c'.activateBit = true

/-- A fault that a write with rACT clear has cleared stays so until one is staged. -/
theorem fault_cleared (hreach : w.Reachable)
    {before between after : List (Event (RegisterModel.staged stage))}
    {k k' : Nat} {c c' : GripperCommand} {d d' : RegisterModel}
    (htrace : w.trace = before ++ .applied k c d :: (between ++ .applied k' c' d' :: after))
    (hc : c.activateBit = false) (hunstaged : ∀ e e', .elapsed e e' ∈ between → e' = e) :
    d'.status.faultStatus.raw = 0 := by
  refine (evolves_between hreach htrace).keeps
    (P := fun e : RegisterModel => e.status.faultStatus.raw = 0) ?_ ?_ ?_
  · intro k c e _ he
    rw [RegisterModel.fault_writeCommand, he, ite_self]
  · intro e t t' he hzero
    rw [hunstaged e _ he, hzero]
  · rw [RegisterModel.fault_writeCommand, hc]
    rfl

/-- **The reset handshake really happens**: a procedure that has run it and returns
    `activated` has taken the device through both edges of rACT, and the record of
    its last look shows the activation complete and no fault. -/
theorem reset_happened (proc : Procedure) (timeout : Int) (hreach : w₀.Reachable)
    (hrun : Runs commander (proc.prog timeout) w₀ (some .activated) w)
    (hunstaged : Unstaged w₀ w) (hran : setsOf w.trace ≠ setsOf w₀.trace) :
    BothEdges w₀ w ∧ w.image.stamped.status.gripperStatus.activationState = .complete ∧
      w.image.stamped.status.faultStatus.raw = 0 := by
  obtain ⟨seed, h₀⟩ := chronicle_of_reachable hreach
  have hall := within_of_runs hrun
  rcases ((procedure_triple proc timeout).done .refl hrun).2 with
    hquiet | ⟨w₁, w₂, hjudged, hcleared, hlast, hcount₂, hcomplete⟩
  · exact absurd (sets_of_quiet hquiet) hran
  obtain ⟨u, hu, huw, hcount, _⟩ := hjudged
  obtain ⟨v, hv, hvw, hcount₁, hclear⟩ := hcleared
  have h₁ := (h₀.along (hu.trans huw)).afterSet (deactivateCommand w₀.image.command)
  have h₂ := (h₁.along (hv.trans hvw)).afterSet (activateCommand w₀.image.command)
  -- the three records: one to judge, one with rACT clear, one that is complete
  obtain ⟨s, hs, _, _, hcycle, _⟩ := h₀.cycle_since hu hcount
  obtain ⟨s₁, hs₁, ⟨_, d₁, happlied₁, hstatus₁⟩, hstamped₁, _⟩ := h₁.cycle_since hv hcount₁
  obtain ⟨s₂, hs₂, ⟨_, d₂, happlied₂, hstatus₂⟩, hstamped₂, _⟩ := h₂.cycle_since hlast hcount₂
  have hle := count_le_of_within huw
  have hle₁ := count_le_of_within hvw
  have huv : (gripperSystem (RegisterModel.staged stage)).Within (fun _ => True) u v :=
    ((huw.weaken fun _ _ => trivial).tail ⟨_, trivial, step_afterSet _ _⟩).trans
      (hv.weaken fun _ _ => trivial)
  have hvw : (gripperSystem (RegisterModel.staged stage)).Within (fun _ => True) v w :=
    ((hvw.weaken fun _ _ => trivial).tail ⟨_, trivial, step_afterSet _ _⟩).trans
      (hlast.weaken fun _ _ => trivial)
  have hlt₁ : s.cycle < s₁.cycle := (h₁.along hv).cycle_lt huv hs hs₁ (by omega)
  have hlt₂ : s₁.cycle < s₂.cycle := (h₂.along hlast).cycle_lt hvw hs₁ hs₂ (by omega)
  have happlied₁ := (trace_grows_within hvw).subset happlied₁
  -- rACT clear in the status is rACT clear in the block that was written
  have hc₁ : s₁.command.activateBit = false := by
    have hanswer := RegisterModel.activated_answer d₁ s₁.command
    rw [hstamped₁] at hclear
    rw [← hanswer, ← hclear]
    exact congrArg (·.gripperStatus.activated) hstatus₁.symm
  -- and an activation is complete only with rACT set
  have hc₂ : s₂.command.activateBit = true := by
    have hanswer := RegisterModel.activationState_answer d₂ s₂.command
    have hdone : (RegisterModel.writeCommand d₂ s₂.command).answer.gripperStatus.activationState
        = .complete := by
      rw [← hcomplete, hstamped₂]
      exact congrArg (·.gripperStatus.activationState) hstatus₂.symm
    rw [hanswer] at hdone
    split at hdone
    · next h => exact RegisterModel.activateBit_of_doneAfter _ _ h
    · cases hdone
  obtain ⟨before, y, z, hsplit⟩ := (h₂.along hlast).applied_split happlied₁ happlied₂ hlt₂
  obtain ⟨x, rfl⟩ := h₀.applied_since hsplit (trace_grows_within hall) (by omega)
  have hsince := hsplit
  rw [List.append_assoc] at hsince
  refine ⟨⟨x, y, z, _, _, _, _, _, _, hsince, hc₁, hc₂⟩, hcomplete, ?_⟩
  -- between the two writes nothing stages a fault, so the first has cleared it for good
  have hzero := fault_cleared (hreach.within hall) hsplit hc₁
    fun e e' he => hunstaged _ e e' hsince (by simp [he])
  have hanswer := RegisterModel.fault_answer d₂ s₂.command
  rw [hzero, ite_self] at hanswer
  rw [hstamped₂, ← hanswer]
  exact congrArg (·.faultStatus.raw) hstatus₂

/-! ### A link that loses nothing -/

/-- The two cycles of a handshake: the reset and the activation. -/
def World.reactivated (w : World (RegisterModel.staged stage)) :
    World (RegisterModel.staged stage) :=
  ((w.afterSet (deactivateCommand w.image.command)).afterCycle.afterSet
    (activateCommand w.image.command)).afterCycle

/-- Whatever state the device is in. -/
theorem runs_runActivationHandshake (deadline : Time) (hpc : w.pc = .idle)
    (hrunning : w.running = true) (hlink : w.connectionState = .operational) :
    Runs commander (runActivationHandshake deadline) w (some .activated) w.reactivated := by
  refine runs_bind (runs_act .refl rfl) (runs_bind (runs_act .refl rfl) ?_)
  refine runs_bind (runs_waitForStatus _ (afterCycle_within hpc hrunning hlink)
    (Nat.lt_succ_self _) ?_) ?_
  · show (!(RegisterModel.writeCommand w.device
      (deactivateCommand w.image.command)).answer.gripperStatus.activated) = true
    rw [RegisterModel.activated_answer, activateBit_deactivateCommand]
    rfl
  apply runs_bind (runs_act .refl rfl)
  refine runs_bind (runs_waitForStatus _ (afterCycle_within rfl hrunning rfl)
    (Nat.lt_succ_self _) ?_) runs_pure
  -- the device has seen rACT clear, so rACT set is a rising edge
  show decide ((RegisterModel.writeCommand (RegisterModel.writeCommand w.device
    (deactivateCommand w.image.command)) (activateCommand
      w.image.command)).answer.gripperStatus.activationState = .complete) = true
  rw [RegisterModel.activationState_answer, RegisterModel.doneAfter]
  simp

/-- A recovery: one more cycle before, for a fresh record. -/
theorem runs_recoverFromFault {timeout : Int} (hpc : w.pc = .idle) (hrunning : w.running = true)
    (hlink : w.connectionState = .operational) (htimeout : 0 ≤ timeout) :
    Runs commander (recoverFromFault timeout) w (some .activated) w.afterCycle.reactivated := by
  have hleft : timeout.tdiv 2 * nanosPerMilli ≤ w.now + timeout * nanosPerMilli - w.now := by
    rw [Int.tdiv_eq_ediv_of_nonneg htimeout, nanosPerMilli]
    omega
  apply runs_bind (runs_act .refl rfl)
  refine runs_bind (runs_waitForStatus _ (afterCycle_within hpc hrunning hlink)
    (Nat.lt_succ_self _) rfl) ?_
  exact runs_handshake hleft (runs_runActivationHandshake _ rfl hrunning rfl)

/-- A gripper found activated, with a major fault latched. -/
def faulted : RegisterModel :=
  { RegisterModel.setStatus {} ((({} : GripperStatus).setActivated true).setFaultStatusByte 0x0E)
    with previousActivateBit := true }

/-- A driver that has just started on it. -/
def faultedGripper : World RegisterModel.device := .constructed faulted faulted.answer 0

/-- What a recovery on a link that loses nothing makes of it. -/
def recoveredGripper : World RegisterModel.device := faultedGripper.afterCycle.reactivated

theorem reset_happened_faulted :
    BothEdges faultedGripper recoveredGripper ∧
      recoveredGripper.image.stamped.status.gripperStatus.activationState = .complete ∧
      recoveredGripper.image.stamped.status.faultStatus.raw = 0 := by
  have htrace : recoveredGripper.trace = faultedGripper.trace ++ recoveredGripper.trace := rfl
  refine reset_happened .recoverFromFault 1000 (constructed_reachable _ _ _)
    (runs_recoverFromFault rfl rfl rfl (by decide)) ?_ ?_
  · intro after d d' hafter hd
    rw [← List.append_cancel_left (htrace.symm.trans hafter)] at hd
    simp [recoveredGripper, World.reactivated, World.afterCycle, World.afterLatch,
      World.afterReply, World.afterSet, faultedGripper, World.constructed] at hd
  · show _ :: _ ≠ []
    exact List.cons_ne_nil _ _

end reset

end GripperDriver

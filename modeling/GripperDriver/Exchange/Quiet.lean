import GripperDriver.Exchange.Chronicle

/-! # Runs in Which No Block Is Set

    Between two calls of `setCommand` the image keeps its command block, and
    every cycle that latches latches that block.
-/

namespace GripperDriver

open Interleaving

def Label.isSetCommand : Label → Bool
  | .setCommand _ => true
  | _ => false

/-- Everything but a call of `setCommand`. -/
abbrev Quiet (l : Label) : Prop := l.isSetCommand = false

section quiet
variable {dev : Device} {w w' : World dev} {seed : StampedExchange}

theorem command_of_quiet (hrun : (gripperSystem dev).Within Quiet w w') :
    w'.image.command = w.image.command := by
  apply hrun.relates (R := fun (u v : World dev) => v.image.command = u.image.command) rfl
  intro u l v h hl hstep
  cases move_of_step hstep with
  | setCommand c => cases hl
  | _ => exact h

theorem sets_of_quiet (hrun : (gripperSystem dev).Within Quiet w w') :
    setsOf w'.trace = setsOf w.trace := by
  apply hrun.relates (R := fun (u v : World dev) => setsOf v.trace = setsOf u.trace) rfl
  intro u l v h hl hstep
  cases move_of_step hstep with
  | setCommand c => cases hl
  | _ => simpa [Event.set?] using h

theorem cycles_le_of_within {L : Label → Prop} (hrun : (gripperSystem dev).Within L w w') :
    w.cycles ≤ w'.cycles := by
  apply hrun.relates (R := fun (u v : World dev) => u.cycles ≤ v.cycles) le_rfl
  intro u l v h _ hstep
  cases move_of_step hstep with
  | latch hpc => exact Nat.le_succ_of_le h
  | _ => exact h

/-- **Every cycle that latches meanwhile latches the block of the image.** -/
theorem latched_of_quiet (hchronicle : Chronicle seed w)
    (hrun : (gripperSystem dev).Within Quiet w w') :
    ∀ k c', .latched k c' ∈ w'.trace → w.cycles < k → c' = w.image.command := by
  induction hrun with
  | refl =>
    intro k c' hk hlate
    -- no cycle has latched since
    have := (hchronicle.latched_bounds hk).2
    omega
  | @tail u v hto hstep ih =>
    obtain ⟨l, hl, hstep⟩ := hstep
    have hcommand := command_of_quiet hto
    cases move_of_step hstep with
    | latch hpc =>
      intro k c' hk hlate
      rcases List.mem_append.mp hk with hk | hk
      · exact ih k c' hk hlate
      · cases List.mem_singleton.mp hk
        exact hcommand
    | setCommand c => cases hl
    | _ => simpa using ih

/-- So much is seen in the trace alone, wherever the run began. -/
theorem latches_of_quiet (hrun : (gripperSystem dev).Within Quiet w w') :
    ∃ more, latchesOf w'.trace = latchesOf w.trace ++ more ∧
      ∀ latch ∈ more, latch.2 = w.image.command := by
  induction hrun with
  | refl => exact ⟨[], (List.append_nil _).symm, fun _ h => absurd h List.not_mem_nil⟩
  | @tail u v hto hstep ih =>
    obtain ⟨more, hmore, hall⟩ := ih
    obtain ⟨l, hl, hstep⟩ := hstep
    have hcommand := command_of_quiet hto
    cases move_of_step hstep with
    | latch hpc =>
      refine ⟨more ++ [(u.cycles + 1, u.image.command)], by simp [hmore, Event.latch?], ?_⟩
      exact List.forall_mem_append.mpr ⟨hall, List.forall_mem_singleton.mpr hcommand⟩
    | setCommand c => cases hl
    | _ => exact ⟨more, by simpa [Event.latch?] using hmore, hall⟩

/-- A stopped gripper latches no more, once its last cycle has. -/
theorem cycles_of_halted {L : Label → Prop} (hrunning : w.running = false)
    (hpc : w.pc ≠ .starting) (hrun : (gripperSystem dev).Within L w w') :
    w'.cycles = w.cycles := by
  have h := hrun.keeps
    (P := fun v : World dev => v.running = false ∧ v.pc ≠ .starting ∧ v.cycles = w.cycles)
    (fun u l v h _ hstep => by cases move_of_step hstep <;> simp_all) ⟨hrunning, hpc, rfl⟩
  exact h.2.2

/-! ## The step in between -/

/-- The world right after the commander has set `c`. -/
def World.afterSet (w : World dev) (c : GripperCommand) : World dev :=
  { w with image := w.image.setCommand c, trace := w.trace ++ [.set c] }

theorem step_afterSet (w : World dev) (c : GripperCommand) :
    (gripperSystem dev).Step w (.setCommand c) (w.afterSet c) :=
  rfl

theorem count_le_after_set {L : Label → Prop} {c : GripperCommand}
    (hrun : (gripperSystem dev).Within L (w.afterSet c) w') :
    w.image.stamped.count ≤ w'.image.stamped.count :=
  count_le_of_within (w := w.afterSet c) hrun

theorem Chronicle.afterSet (h : Chronicle seed w) (c : GripperCommand) :
    Chronicle seed (w.afterSet c) :=
  h.step (.setCommand c)

/-! ## Whole cycles -/

/-- The next cycle has latched its block. -/
def World.afterLatch (w : World dev) : World dev :=
  { w with
    pc := .latched w.image.command
    cycles := w.cycles + 1
    trace := w.trace ++ [.latched (w.cycles + 1) w.image.command] }

theorem afterLatch_within (hpc : w.pc = .idle) (hrunning : w.running = true) :
    (gripperSystem dev).Within Quiet w w.afterLatch :=
  .head ⟨.beginCycle, rfl, step_of_move (.beginCycle hpc hrunning)⟩ (.single ⟨.latch, rfl, rfl⟩)

/-- The exchange of the block `c`, latched before, succeeds in one instant. -/
def World.afterReply (w : World dev) (c : GripperCommand) : World dev :=
  let device := dev.write w.device c
  let image := w.image.publish c (dev.answer device) w.now
  { w with
    pc := .idle
    image := image
    connectionState := .operational
    consecutiveFailures := 0
    device := device
    trace := w.trace ++ [.applied w.cycles c w.device,
      .completed w.cycles c (dev.answer device) w.now, .published w.cycles image.stamped] }

theorem afterReply_within {c : GripperCommand} (hpc : w.pc = .latched c)
    (hlink : w.connectionState = .operational) :
    (gripperSystem dev).Within Quiet w (w.afterReply c) := by
  refine .head ⟨.deliver, rfl, step_of_move (.deliver c hpc)⟩ (.head ⟨.reply, rfl, rfl⟩ ?_)
  refine .head ⟨.stamp, rfl, rfl⟩ (.head ⟨.clearFailures, rfl, rfl⟩ ?_)
  refine .head ⟨.turnOperational, rfl, rfl⟩ (.single ⟨.publish, rfl, ?_⟩)
  simp [System.Step, gripperSystem, World.next?, World.afterReply, hlink]

/-- An undisturbed cycle that succeeds, in one instant. -/
def World.afterCycle (w : World dev) : World dev := w.afterLatch.afterReply w.image.command

theorem afterCycle_within (hpc : w.pc = .idle) (hrunning : w.running = true)
    (hlink : w.connectionState = .operational) :
    (gripperSystem dev).Within Quiet w w.afterCycle :=
  (afterLatch_within hpc hrunning).trans (afterReply_within rfl hlink)

/-- A cycle whose request reaches the device and whose reply is lost, the link
    having been up. -/
def World.afterLostReply (w : World dev) : World dev :=
  let c := w.image.command
  { w with
    consecutiveFailures := 1
    device := dev.write w.device c
    cycles := w.cycles + 1
    trace := w.trace ++ [.latched (w.cycles + 1) c, .applied (w.cycles + 1) c w.device,
      .failed (w.cycles + 1)] }

theorem afterLostReply_within (hpc : w.pc = .idle) (hrunning : w.running = true)
    (hfailures : w.consecutiveFailures = 0) :
    (gripperSystem dev).Within Quiet w w.afterLostReply := by
  refine .head ⟨.beginCycle, rfl, step_of_move (.beginCycle hpc hrunning)⟩ ?_
  refine .head ⟨.latch, rfl, rfl⟩ (.head ⟨.deliver, rfl, rfl⟩ (.head ⟨.replyLost, rfl, rfl⟩ ?_))
  refine .single ⟨.countFailure, rfl, ?_⟩
  simp [System.Step, gripperSystem, World.next?, World.afterLostReply, hfailures, hpc,
    kFaultThreshold]

/-- Time passes up to `t`. -/
def World.afterTick (w : World dev) (t : Time) : World dev :=
  let device := dev.elapse w.device w.now t
  { w with now := t, device := device, trace := w.trace ++ [.elapsed w.device device] }

theorem afterTick_within {t : Time} (hle : w.now ≤ t) :
    (gripperSystem dev).Within Quiet w (w.afterTick t) :=
  .single ⟨.tick t, rfl, step_of_move (.tick t hle)⟩

end quiet

end GripperDriver

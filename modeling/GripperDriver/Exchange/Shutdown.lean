import GripperDriver.Client.Waits
import GripperDriver.Framework.Parts

/-! # Shutting Down

    `GripperState::stop`, which the destructor calls: the loop is told to end, the image is
    closed, and the exchange thread is joined.

    * `Joining`: how the two platforms join a thread,
    * `GripperState.stop`: the call, among the threads that are still there,
    * `Stopped`: what it leaves,
    * `ExchangePc.left`: the steps that the exchange thread has still to take at most,
    * `RunsDown`: what it has left to do from the moment the loop is told to end.

    When the call is done the exchange thread takes no further step, so that nothing of
    the gripper is used after it is destroyed (`stop_ends_exchange`).
-/

namespace GripperDriver

open Interleaving Relation

/-! ## The call -/

/-- A `Thread` of one of the platforms. -/
inductive Joining where
  /-- `StdThread::join`: `std::thread::join`, where it is joinable. -/
  | std
  /-- `ThreadXThread::join`: the task's state is polled, once a tick. -/
  | threadX
  deriving DecidableEq, Repr

inductive StopAct : Type → Type where
  /-- `_running.store(false)`. -/
  | stop : StopAct Unit
  /-- `ProcessImage::close`. -/
  | close : StopAct Unit
  /-- `std::thread::join`. -/
  | join : StopAct Unit
  /-- `tx_thread_info_get`: the task has completed. -/
  | completed : StopAct Bool
  /-- `tx_thread_sleep(1)`. -/
  | sleep : StopAct Unit

/-- The function that `GripperState::start` spawned has returned. -/
def World.ended {dev : Device} (w : World dev) : Bool :=
  match w.pc with
  | .idle => !w.running
  | _ => false

/-- Joining a thread of the standard library comes back only once its function has
    returned. -/
def StopAct.perform {dev : Device} :
    {α : Type} → StopAct α → World dev → α → World dev → Prop
  | _, .stop, w, _, w' => (gripperSystem dev).Step w .stop w'
  | _, .close, w, _, w' => (gripperSystem dev).Step w .close w'
  | _, .join, w, _, w' => w.ended = true ∧ w' = w
  | _, .completed, w, answer, w' => answer = w.ended ∧ w' = w
  | _, .sleep, w, _, w' => w' = w

/-- The exchange thread and everyone who still waits go on meanwhile. -/
def stopper {dev : Device} : Thread (World dev) StopAct where
  env := (gripperSystem dev).StepIn fun _ => True
  perform := StopAct.perform

def Joining.join : Joining → Prog StopAct Unit
  | .std => .act .join
  | .threadX => .iter (fun _ => do
      let completed ← .act .completed
      if completed then pure (.inr ())
      else do
        .act .sleep
        pure (.inl ())) ()

/-- `GripperState::stop`; the thread is `none` where `start` has not been called. -/
def GripperState.stop (exchangeThread : Option Joining) : Prog StopAct Unit := do
  .act .stop
  .act .close
  match exchangeThread with
  | some thread => thread.join
  | none => pure ()

/-! ## The rest of the thread -/

/-- A step of the exchange thread. -/
def Label.isExchange : Label → Bool
  | .setCommand _ | .stop | .close | .tick _ => false
  | _ => true

/-- The steps to the end of the cycle, at most. -/
def ExchangePc.left : ExchangePc → Nat
  | .idle => 0
  | .recovering | .degraded => 1
  | .degrading | .turned .. => 2
  | .failed | .cleared .. => 3
  | .completed .. => 4
  | .returned _ _ => 5
  | .answered _ _ => 6
  | .latched _ => 7
  | .starting => 8

section ending
variable {dev : Device} {w w' : World dev} {l : Label}

theorem ExchangePc.left_le (pc : ExchangePc) : pc.left ≤ 8 := by
  cases pc <;> simp [left]

/-- Told to end, the thread goes down to the end of its cycle, and nobody else moves it. -/
theorem left_step (hrunning : w.running = false) (hstep : (gripperSystem dev).Step w l w') :
    w'.running = false ∧ w'.pc.left + (if l.isExchange then 1 else 0) ≤ w.pc.left := by
  cases move_of_step hstep with
  | beginCycle hpc hgoing => simp [hrunning] at hgoing
  | setCommand | stop | close | tick => simp_all [Label.isExchange]
  | latch hpc | requestLost _ hpc | deliver _ hpc | replyLost _ _ hpc | reply _ _ hpc
  | stamp _ _ hpc | clearFailures _ _ _ hpc | turnOperational _ _ _ hpc | publish _ _ _ hpc
  | publishRecovered _ _ _ hpc | logRecovered hpc | countFailure hpc | countThreshold hpc
  | degrade hpc | degradeAgain hpc | logFaulted hpc =>
    simp [hpc, hrunning, ExchangePc.left, Label.isExchange]

/-- So it takes no more than eight steps, whatever the others do. -/
theorem exchange_steps_le {ls : List Label} (hrunning : w.running = false)
    (hrun : (gripperSystem dev).replay w ls = some w') :
    w'.running = false ∧ (ls.filter Label.isExchange).length + w'.pc.left ≤ w.pc.left := by
  induction ls generalizing w with
  | nil =>
    cases hrun
    exact ⟨hrunning, by simp⟩
  | cons l ls ih =>
    obtain ⟨u, hl, hrest⟩ := Option.bind_eq_some_iff.mp hrun
    obtain ⟨hu, hdown⟩ := left_step hrunning hl
    obtain ⟨hw', hle⟩ := ih hu hrest
    refine ⟨hw', ?_⟩
    by_cases hown : l.isExchange = true
    · rw [if_pos hown] at hdown
      rw [List.filter_cons_of_pos hown, List.length_cons]
      omega
    · rw [if_neg hown] at hdown
      rw [List.filter_cons_of_neg hown]
      omega

/-- Until then one of its steps is always possible. -/
theorem exists_exchange_step (hpc : w.pc ≠ .idle) :
    ∃ l u, l.isExchange = true ∧ (gripperSystem dev).Step w l u := by
  cases h : w.pc with
  | idle => exact absurd h hpc
  | starting => exact ⟨.latch, _, rfl, step_of_move (.latch h)⟩
  | latched c => exact ⟨.deliver, _, rfl, step_of_move (.deliver c h)⟩
  | answered c st => exact ⟨.reply, _, rfl, step_of_move (.reply c st h)⟩
  | returned c st => exact ⟨.stamp, _, rfl, step_of_move (.stamp c st h)⟩
  | completed c st t => exact ⟨.clearFailures, _, rfl, step_of_move (.clearFailures c st t h)⟩
  | cleared c st t => exact ⟨.turnOperational, _, rfl, step_of_move (.turnOperational c st t h)⟩
  | turned c st t recovered =>
    cases recovered with
    | false => exact ⟨.publish, _, rfl, step_of_move (.publish c st t h)⟩
    | true => exact ⟨.publish, _, rfl, step_of_move (.publishRecovered c st t h)⟩
  | recovering => exact ⟨.logRecovered, _, rfl, step_of_move (.logRecovered h)⟩
  | failed =>
    by_cases hlt : (w.consecutiveFailures + 1).toNat < kFaultThreshold
    · exact ⟨.countFailure, _, rfl, step_of_move (.countFailure h hlt)⟩
    · exact ⟨.countFailure, _, rfl, step_of_move (.countThreshold h (Nat.le_of_not_lt hlt))⟩
  | degrading =>
    by_cases hlink : w.connectionState = .faulted
    · exact ⟨.degrade, _, rfl, step_of_move (.degradeAgain h hlink)⟩
    · exact ⟨.degrade, _, rfl, step_of_move (.degrade h hlink)⟩
  | degraded => exact ⟨.logFaulted, _, rfl, step_of_move (.logFaulted h)⟩

/-- The cycle whose test had passed is the last. -/
theorem cycles_le_of_halted (hrunning : w.running = false)
    (hrun : (gripperSystem dev).Within (fun _ => True) w w') : w'.cycles ≤ w.cycles + 1 := by
  have hlast := hrun.keeps (P := fun u : World dev => u.running = false ∧
    (u.cycles = w.cycles ∨ (u.cycles = w.cycles + 1 ∧ u.pc ≠ .starting)))
    (fun u l v h _ hstep => by cases move_of_step hstep <;> simp_all) ⟨hrunning, .inl rfl⟩
  omega

theorem ended_eq_true : w.ended = true ↔ w.pc = .idle ∧ w.running = false := by
  unfold World.ended
  cases w.pc <;> simp

/-! ## After the call -/

/-- What `stop` leaves of the gripper. -/
structure Stopped (w : World dev) : Prop where
  running : w.running = false
  closed : w.image.closed = true
  idle : w.pc = .idle

/-- A stopped gripper stays as it is, but for its command, for time, and for what time
    does to the device. -/
structure Still (w w' : World dev) : Prop extends Stopped w' where
  stamped : w'.image.stamped = w.image.stamped
  connectionState : w'.connectionState = w.connectionState
  cycles : w'.cycles = w.cycles

theorem Stopped.still (h : Stopped w) : Still w w := { h with
  stamped := rfl
  connectionState := rfl
  cycles := rfl }

theorem Still.step {u v : World dev} (h : Still w u) (hstep : (gripperSystem dev).Step u l v) :
    Still w v ∧ l.isExchange = false := by
  have hidle := h.idle
  cases move_of_step hstep with
  | setCommand c | tick _ _ => exact ⟨{ h with }, rfl⟩
  | stop => exact ⟨{ h with running := rfl }, rfl⟩
  | close => exact ⟨{ h with closed := rfl }, rfl⟩
  | beginCycle hpc hgoing => simp [h.running] at hgoing
  | _ => simp_all

theorem Stopped.along (h : Stopped w) (hrun : (gripperSystem dev).Within (fun _ => True) w w') :
    Still w w' :=
  hrun.keeps (fun _ _ _ hu _ hstep => (hu.step hstep).1) h.still

/-! ## Whole calls -/

/-- Joining comes back once the thread's function has returned. -/
theorem join_triple (thread : Joining) {G : World dev → Prop} (hG : Stable stopper G) :
    Triple stopper (fun _ => True) G thread.join (fun _ w => G w ∧ w.ended = true) := by
  cases thread with
  | std =>
    apply Triple.act hG fun _ _ => trivial
    intro w _ w' hw hjoin
    obtain ⟨hended, rfl⟩ := hjoin
    exact ⟨hw, hended⟩
  | threadX =>
    refine Triple.iter (J := fun _ => G) (fun _ => ?_) ()
    refine Triple.bind (Q := fun completed w => G w ∧ completed = w.ended) ?_ fun completed => ?_
    · apply Triple.act hG fun _ _ => trivial
      intro w completed w' hw hread
      obtain ⟨hended, rfl⟩ := hread
      exact ⟨hw, hended⟩
    refine Triple.ite (fun hdone => ?_) fun _ => ?_
    · subst hdone
      exact Triple.pure_anywhere fun w hw => ⟨hw.1, hw.2.symm⟩
    · -- another tick
      refine Triple.bind (Q := fun _ => G) ?_ fun _ => Triple.pure_anywhere fun _ hw => hw
      apply (Triple.act hG (fun _ _ => trivial) ?_).pre fun _ hw => hw.1
      intro w _ w' hw hsleep
      obtain rfl : w' = w := hsleep
      exact hw

theorem closed_of_within (hclosed : w.image.closed = true)
    (hrun : (gripperSystem dev).Within (fun _ => True) w w') : w'.image.closed = true := by
  apply hrun.keeps (P := fun u : World dev => u.image.closed = true) _ hclosed
  intro u l v h _ hstep
  cases move_of_step hstep <;> first | exact h | rfl

/-- What the exchange thread has left to do at `w`, in every run from there: it latches one
    more block at most, and takes eight steps at most; until it has returned, one of them is
    possible, so that a join does not wait in vain. -/
def RunsDown (w : World dev) : Prop :=
  ∀ ls u, (gripperSystem dev).replay w ls = some u →
    u.running = false ∧ u.cycles ≤ w.cycles + 1 ∧ (ls.filter Label.isExchange).length ≤ 8 ∧
    (u.ended = false → ∃ l v, l.isExchange = true ∧ (gripperSystem dev).Step u l v)

/-- **The fall of the flag** bounds every run after it. -/
theorem runsDown_of_stop (hstep : (gripperSystem dev).Step w .stop w') : RunsDown w' := by
  intro ls u hls
  have hrunning : w'.running = false := by
    cases move_of_step hstep
    rfl
  obtain ⟨hrunning', hsteps⟩ := exchange_steps_le hrunning hls
  have hrun := System.replay_within (L := fun _ => True) (fun _ _ => trivial) hls
  refine ⟨hrunning', cycles_le_of_halted hrunning hrun, ?_, ?_⟩
  · exact (Nat.le_add_right _ _).trans (hsteps.trans (ExchangePc.left_le _))
  · intro hnot
    apply exists_exchange_step
    intro hidle
    rw [ended_eq_true.mpr ⟨hidle, hrunning'⟩] at hnot
    cases hnot

/-- **`stop` ends the exchange for good.** During the call the flag falls, and from there on
    the exchange thread runs down, whatever the others do. Once the call is done the thread
    takes no step: record, link state and cycles stay, and a look at the image ends every
    wait. -/
theorem stop_ends_exchange (thread : Joining)
    (h : Runs stopper (GripperState.stop (some thread)) w (some ()) w') :
    (∃ s₁ w₁, (gripperSystem dev).Within (fun _ => True) w s₁ ∧
      (gripperSystem dev).Step s₁ .stop w₁ ∧
      (gripperSystem dev).Within (fun _ => True) w₁ w' ∧ RunsDown w₁) ∧
    Stopped w' ∧
    ∀ w'', (gripperSystem dev).Within (fun _ => True) w' w'' → Still w' w'' ∧
      (∀ l v, (gripperSystem dev).Step w'' l v → l.isExchange = false) ∧
      ∀ count deadline, w''.image.syncPass count deadline w''.now = some w'.image.stamped := by
  unfold GripperState.stop at h
  obtain ⟨_, w₁, hstop, h⟩ := runs_bind_some h
  obtain ⟨s₁, hbefore, hstop⟩ := runs_act_some hstop
  obtain ⟨_, w₂, hclose, hjoin⟩ := runs_bind_some h
  obtain ⟨s₂, hbetween, hclose⟩ := runs_act_some hclose
  have hstep₁ : (gripperSystem dev).Step s₁ .stop w₁ := hstop
  have hstep₂ : (gripperSystem dev).Step s₂ .close w₂ := hclose
  have hclosed₂ : w₂.image.closed = true := by
    cases move_of_step hstep₂
    rfl
  obtain ⟨hafter, hended⟩ := (join_triple thread
    (G := fun u => (gripperSystem dev).Within (fun _ => True) w₂ u)
    (fun u v hu hstep => hu.tail hstep)).done .refl hjoin
  -- from the moment the flag has fallen to the end of the call
  have hrest : (gripperSystem dev).Within (fun _ => True) w₁ w' :=
    (hbetween.tail ⟨_, trivial, hstep₂⟩).trans hafter
  have hstopped : Stopped w' :=
    ⟨(ended_eq_true.mp hended).2, closed_of_within hclosed₂ hafter, (ended_eq_true.mp hended).1⟩
  refine ⟨⟨s₁, w₁, hbefore, hstep₁, hrest, runsDown_of_stop hstep₁⟩, hstopped, ?_⟩
  intro w'' hrun
  have hstill := hstopped.along hrun
  refine ⟨hstill, fun l v hstep => (hstill.step hstep).2, ?_⟩
  intro count deadline
  rw [ProcessImage.syncPass, if_pos, hstill.stamped]
  exact (ProcessImage.syncEnds_iff _ _ _ _).mpr (.inr (.inl hstill.closed))

end ending

/-- The flag falls just after the loop has tested it: that cycle still goes through, and is
    the last. -/
theorem stop_during_cycle : ∃ w : World RegisterModel.device,
    (∃ w₁, (gripperSystem _).Within (fun _ => True) w₁ w ∧ RunsDown w₁) ∧
    Stopped w ∧ w.cycles = 1 ∧ w.image.stamped.count = 1 := by
  have hbegin : (gripperSystem RegisterModel.device).replay makeFakeGripper [.beginCycle] =
      some _ := rfl
  have hbefore := System.replay_within (L := fun _ => True) (fun _ _ => trivial) hbegin
  have hcycle : (gripperSystem RegisterModel.device).replay
      { makeFakeGripper with
        pc := .starting
        running := false
        image := makeFakeGripper.image.close }
      [.latch, .deliver, .reply, .stamp, .clearFailures, .turnOperational, .publish] =
      some _ := rfl
  have hafter := System.replay_within (L := fun _ => True) (fun _ _ => trivial) hcycle
  have hrun : Runs stopper (GripperState.stop (some .std)) makeFakeGripper (some ()) _ :=
    runs_bind (a := ()) (runs_act hbefore rfl)
      (runs_bind (a := ()) (runs_act .refl rfl) (runs_act hafter ⟨rfl, rfl⟩))
  obtain ⟨⟨_, w₁, _, _, hrest, hdown⟩, hstopped, _⟩ := stop_ends_exchange .std hrun
  exact ⟨_, ⟨w₁, hrest, hdown⟩, hstopped, rfl, rfl⟩

end GripperDriver

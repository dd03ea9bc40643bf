import GripperDriver.Exchange.LinkState
import GripperDriver.Exchange.Throttle
import GripperDriver.Framework.Parts
import GripperDriver.Framework.Refinement
import GripperDriver.Modbus.Acceptance
import GripperDriver.Modbus.FakeStack

/-! # The Driver on the Fake Gripper

    The exchange thread with all that is under it: the client, the two queues of bytes,
    the server and the register model. What are steps of their own in a `World`, the
    request and the reply, are here many actions on bytes.

    * `FakeDriver`: what the threads share; the serial port loses requests and replies
      while the tests' switches say so,
    * `exchangeThread`: the function that `GripperState::start` spawns,
    * `Refines`: the worlds that a state of the driver stands for.

    Wherever the thread gets, among any other threads, a run of `gripperSystem` gets, too
    (`driver_refines_world`).
-/

namespace GripperDriver

open Interleaving Relation Transaction

/-! ## The thread -/

/-- What the loop does between two exchanges. -/
inductive LoopAct : Type → Type where
  /-- `_running.load()`. -/
  | running : LoopAct Bool
  | now : LoopAct Time
  | log (line : LogLine) : LoopAct Unit
  /-- `Platform::sleepUntil`, of any platform. -/
  | sleepUntil (timePoint : Time) : LoopAct Unit

/-- The line for a cycle that failed. -/
def exchangeCycleFailed (what : String) : LogLine where
  level := .warn
  message := "exchange cycle failed: " ++ what

/-- The rest of a turn, once `exchangeOnce` has ended: the next slot and the throttle. -/
def afterExchange (period nextCycle : Time) (throttle : Throttle) (result : Except String Unit) :
    Prog LoopAct (Time × Throttle) := do
  let throttle ← match result with
    | .ok () => pure throttle
    | .error description => do
      let now ← .act .now
      if (throttle.executeIfAllowed now).1 then do
        .act (.log (exchangeCycleFailed (DriverException.what description)))
        pure (throttle.executeIfAllowed now).2
      else pure (throttle.executeIfAllowed now).2
  let now ← .act .now
  .act (.sleepUntil (max (nextCycle + period) now))
  pure (max (nextCycle + period) now, throttle)

/-- One turn of the loop. -/
def exchangeThreadTurn (period : Time) (state : Nmbs × Time × Throttle) :
    Prog (Either CycleAct LoopAct) ((Nmbs × Time × Throttle) ⊕ Unit) := do
  let running ← .act (.inr .running)
  if running then do
    let (result, nmbs) ← (exchangeOnce state.1).embed .inl
    let (nextCycle, throttle) ← (afterExchange period state.2.1 state.2.2 result).embed .inr
    pure (.inl (nmbs, nextCycle, throttle))
  else pure (.inr ())

/-- The function that `GripperState::start` spawns. -/
def exchangeThread (period : Time) (throttle : Throttle) (nmbs : Nmbs) :
    Prog (Either CycleAct LoopAct) Unit := do
  let nextCycle ← .act (.inr .now)
  .iter (exchangeThreadTurn period) (nmbs, nextCycle, throttle)

/-! ## What it shares -/

structure FakeDriver where
  image : ProcessImage := {}
  connectionState : ConnectionState := .connecting
  consecutiveFailures : BitVec 32 := 0
  running : Bool := false
  now : Time := 0
  server : GripperServer
  /-- `failing` of a `WriteFailingSerial`: writes throw. -/
  failing : Bool := false
  /-- `dropReplies` of a `ReplyDroppingSerial`: reads discard the reply, and throw. -/
  dropReplies : Bool := false
  log : List LogLine := []
  /-- How many reads have thrown that waited for a reply. History only. -/
  thrown : Nat := 0

namespace FakeDriver

def discard (c : FakeDriver) : FakeDriver := { c with server := { c.server with toClient := [] } }

section
variable (others : OtherFunctions)

/-- The serial port: a `GripperSerial` with both switches. -/
def serial : {α : Type} → SerialAct α → FakeDriver → α → FakeDriver → Prop
  | _, .read size timeoutMs, c, answer, c' =>
    if c.dropReplies then
      answer = none ∧ c' = { c.discard with
        thrown := if timeoutMs = 0 then c.thrown else c.thrown + 1 }
    else ∃ server,
      GripperSerial.step others (.read size timeoutMs) c.server = some (answer, server) ∧
        c' = { c with server := server }
  | _, .write data, c, sent, c' =>
    if c.failing then sent = false ∧ c' = c
    else ∃ server, GripperSerial.step others (.write data) c.server = some (sent, server) ∧
      c' = { c with server := server }

def cycle : {α : Type} → CycleAct α → FakeDriver → α → FakeDriver → Prop
  | _, .read size timeoutMs, c, answer, c' => c.serial others (.read size timeoutMs) answer c'
  | _, .write data, c, sent, c' => c.serial others (.write data) sent c'
  | _, .command, c, answer, c' => answer = c.image.command ∧ c' = c
  | _, .now, c, answer, c' => answer = c.now ∧ c' = c
  | _, .countFailure, c, answer, c' =>
    answer = c.consecutiveFailures ∧
      c' = { c with consecutiveFailures := c.consecutiveFailures + 1 }
  | _, .clearFailures, c, _, c' => c' = { c with consecutiveFailures := 0 }
  | _, .turn state, c, answer, c' =>
    answer = c.connectionState ∧ c' = { c with connectionState := state }
  | _, .publish command status completedAt, c, _, c' =>
    c' = { c with image := c.image.publish command status completedAt }
  | _, .log line, c, _, c' => c' = { c with log := c.log ++ [line] }

end

def loop : {α : Type} → LoopAct α → FakeDriver → α → FakeDriver → Prop
  | _, .running, c, answer, c' => answer = c.running ∧ c' = c
  | _, .now, c, answer, c' => answer = c.now ∧ c' = c
  | _, .log line, c, _, c' => c' = { c with log := c.log ++ [line] }
  | _, .sleepUntil _, c, _, c' => c' = c

/-- What the other threads do: the clients, `stop`, and the tests, which stage registers
    with time and turn the switches. -/
inductive Other (stage : RegisterModel → Time → Time → RegisterModel) (c : FakeDriver) :
    FakeDriver → Prop where
  | setCommand (command : GripperCommand) :
      Other stage c { c with image := c.image.setCommand command }
  | stop : Other stage c { c with running := false }
  | close (hrunning : c.running = false) : Other stage c { c with image := c.image.close }
  | tick (t : Time) (hle : c.now ≤ t) : Other stage c { c with
      now := t, server := { c.server with model := stage c.server.model c.now t } }
  | failing (b : Bool) : Other stage c { c with failing := b }
  | dropReplies (b : Bool) : Other stage c { c with dropReplies := b }

end FakeDriver

/-- The exchange thread among the others. -/
def driverThread (others : OtherFunctions) (stage : RegisterModel → Time → Time → RegisterModel) :
    Thread FakeDriver (Either CycleAct LoopAct) where
  env := FakeDriver.Other stage
  perform a c r c' := match a with
    | .inl a => c.cycle others a r c'
    | .inr a => c.loop a r c'

/-- `exchangeOnce` in it. -/
abbrev driverCycle (others : OtherFunctions)
    (stage : RegisterModel → Time → Time → RegisterModel) : Thread FakeDriver CycleAct :=
  (driverThread others stage).pull .inl

/-- The loop around it. -/
abbrev driverLoop (others : OtherFunctions)
    (stage : RegisterModel → Time → Time → RegisterModel) : Thread FakeDriver LoopAct :=
  (driverThread others stage).pull .inr

/-- The client in it. -/
abbrev driverSerial (others : OtherFunctions)
    (stage : RegisterModel → Time → Time → RegisterModel) : Thread FakeDriver SerialAct :=
  (driverCycle others stage).pull CycleAct.serial

/-- As the constructor of `Gripper` leaves it, with `fresh` the status that it has read. -/
def FakeDriver.constructed (server : GripperServer) (fresh : GripperStatus) (at_ : Time) :
    FakeDriver where
  image := ProcessImage.seed {} fresh at_ (seedCommand fresh)
  connectionState := .operational
  running := true
  now := at_
  server := server

/-! ## The worlds it stands for -/

/-- The lines of the link's state; what the loop logs of failed cycles is not in a `World`. -/
def isLinkLine (line : LogLine) : Bool := line = linkFaulted ∨ line = linkRecovered

structure Refines {stage : RegisterModel → Time → Time → RegisterModel} (c : FakeDriver)
    (w : World (RegisterModel.staged stage)) : Prop where
  image : w.image = c.image
  connectionState : w.connectionState = c.connectionState
  consecutiveFailures : w.consecutiveFailures = c.consecutiveFailures
  running : w.running = c.running
  now : w.now = c.now
  device : w.device = c.server.model
  log : logOf w.trace = c.log.filter isLinkLine

/-! ## In step with a world -/

section standing
variable {others : OtherFunctions} {stage : RegisterModel → Time → Time → RegisterModel}
  {w₀ : World (RegisterModel.staged stage)} {φ ψ : ExchangePc → Prop} {c c' : FakeDriver}

/-- A world reached from `w₀` stands for `c`, and its exchange thread is at `φ`. -/
abbrev Standing (w₀ : World (RegisterModel.staged stage)) (φ : ExchangePc → Prop) :
    FakeDriver → Prop :=
  Shadow (gripperSystem (RegisterModel.staged stage)) Refines w₀ fun w => φ w.pc

theorem Standing.mono (h : Standing w₀ φ c) (hφ : ∀ pc, φ pc → ψ pc) : Standing w₀ ψ c :=
  Shadow.mono h fun _ _ hpc => hφ _ hpc

/-- What the others do, they do in the world. -/
theorem mirrored_driver : Mirrored (driverThread others stage)
    (gripperSystem (RegisterModel.staged stage)) Refines fun w => φ w.pc := by
  intro c c' w hR hpc henv
  cases henv with
  | setCommand command =>
    refine .inr ⟨_, _, step_of_move (.setCommand command), { hR with image := ?_, log := ?_ }, hpc⟩
    · rw [hR.image]
    · simpa [Event.line?] using hR.log
  | stop =>
    exact .inr ⟨_, _, step_of_move .stop, { hR with running := rfl }, hpc⟩
  | close hrunning =>
    have hclosed := hR.running.trans hrunning
    refine .inr ⟨_, _, step_of_move (.close hclosed), { hR with image := ?_ }, hpc⟩
    rw [hR.image]
  | tick t hle =>
    refine .inr ⟨_, _, step_of_move (.tick t (hR.now ▸ hle)),
      { hR with now := rfl, device := ?_, log := ?_ }, hpc⟩
    · -- the registers are staged alike
      show stage w.device w.now t = stage c.server.model c.now t
      rw [hR.device, hR.now]
    · simpa [Event.line?] using hR.log
  -- the switches are not in the world
  | failing b => exact .inl { hR with }
  | dropReplies b => exact .inl { hR with }

/-- The queues of the fake serial port: nothing on the way to the server, and `reply` back. -/
structure Queued (u : Byte) (reply : List Byte) (c : FakeDriver) : Prop where
  address : c.server.addressRtu = u
  fromClient : c.server.fromClient = []
  toClient : c.server.toClient = reply

theorem stable_queued (others : OtherFunctions) {u : Byte} {reply : List Byte} :
    Stable (driverThread others stage) (Queued u reply) := by
  intro c c' hc henv
  cases henv <;> exact ⟨hc.address, hc.fromClient, hc.toClient⟩

theorem stable_thrown (others : OtherFunctions) {n : Nat} :
    Stable (driverThread others stage) (fun c => c.thrown = n) := by
  intro c c' hc henv
  cases henv <;> exact hc

theorem stable_standing (others : OtherFunctions) :
    Stable (driverThread others stage) (Standing w₀ φ) :=
  stable_shadow mirrored_driver

/-- Somewhere. -/
abbrev Shadowed (w₀ : World (RegisterModel.staged stage)) : FakeDriver → Prop :=
  Standing w₀ fun _ => True

theorem Standing.shadowed (h : Standing w₀ φ c) : Shadowed w₀ c := h.mono fun _ _ => trivial

/-- The exchange thread is at `φ`, and no byte is under way. -/
def At (w₀ : World (RegisterModel.staged stage)) (u : Byte) (φ : ExchangePc → Prop)
    (c : FakeDriver) : Prop :=
  Standing w₀ φ c ∧ Queued u [] c

variable {u : Byte}

theorem stable_at (others : OtherFunctions) :
    Stable (driverThread others stage) (At w₀ u φ) :=
  (stable_standing others).and (stable_queued others)

theorem At.mono (h : At w₀ u φ c) (hφ : ∀ pc, φ pc → ψ pc) : At w₀ u ψ c :=
  ⟨h.1.mono hφ, h.2⟩

variable {α : Type}

theorem At.of_server {P : FakeDriver → Prop} (hqueued : Queued u [] c) (hstanding : P c')
    (hserver : c'.server = c.server) : P c' ∧ Queued u [] c' :=
  ⟨hstanding, hserver ▸ hqueued.address, hserver ▸ hqueued.fromClient,
    hserver ▸ hqueued.toClient⟩

/-- **An action that the world takes, too.** -/
theorem act_step {a : CycleAct α} {ψ : α → ExchangePc → Prop}
    (h : ∀ c r c', FakeDriver.cycle others a c r c' → c'.server = c.server ∧
      ∀ w : World (RegisterModel.staged stage), Refines c w → φ w.pc →
        ∃ l w', (gripperSystem (RegisterModel.staged stage)).Step w l w' ∧ Refines c' w' ∧
          ψ r w'.pc) :
    Triple (driverCycle others stage) (Shadowed w₀) (At w₀ u φ) (.act a)
      (fun r => At w₀ u (ψ r)) := by
  refine Triple.act (stable_at others) (fun _ hc => hc.1.shadowed) ?_
  intro c r c' hc hact
  obtain ⟨hserver, hstep⟩ := h c r c' hact
  exact At.of_server hc.2 (hc.1.step hstep) hserver

/-- An answer, once all is where it should be. -/
theorem pure_at {β : Type} {a : β} {Q : β → FakeDriver → Prop} (hQ : ∀ c, At w₀ u φ c → Q a c) :
    Triple (driverCycle others stage) (Shadowed w₀) (At w₀ u φ) (pure a : Prog CycleAct β) Q :=
  Triple.pure (stable_at others) (fun _ hc => hc.1.shadowed) (fun _ hc => hc) hQ

/-! ## Between two exchanges -/

/-- It logs nothing of the link's state. -/
def LoopAct.plain : LoopAct α → Prop
  | .log line => isLinkLine line = false
  | _ => True

/-- **What the loop does on its own is not in the world.** -/
theorem loop_stutter {a : LoopAct α} {r : α} {w : World (RegisterModel.staged stage)}
    (ha : a.plain) (h : FakeDriver.loop a c r c') (hR : Refines c w) :
    c'.server = c.server ∧ Refines c' w := by
  cases a with
  | running =>
    obtain ⟨-, rfl⟩ := h
    exact ⟨rfl, hR⟩
  | now =>
    obtain ⟨-, rfl⟩ := h
    exact ⟨rfl, hR⟩
  | log line =>
    have h : c' = { c with log := c.log ++ [line] } := h
    subst h
    refine ⟨rfl, { hR with log := ?_ }⟩
    have ha : isLinkLine line = false := ha
    simp [hR.log, ha]
  | sleepUntil timePoint =>
    have h : c' = c := h
    subst h
    exact ⟨rfl, hR⟩

theorem isLinkLine_exchangeCycleFailed (what : String) :
    isLinkLine (exchangeCycleFailed what) = false := by
  -- the lines differ in their first characters
  have hfirst : ∀ line : LogLine, line.message.toList.head? = some 'l' →
      exchangeCycleFailed what ≠ line := by
    intro line hline heq
    subst heq
    simp [exchangeCycleFailed] at hline
  simp only [isLinkLine, decide_eq_false_iff_not, not_or]
  exact ⟨hfirst _ rfl, hfirst _ rfl⟩

theorem afterExchange_at (period nextCycle : Time) (throttle : Throttle)
    (result : Except String Unit) :
    Triple (driverThread others stage) (Shadowed w₀) (At w₀ u φ)
      ((afterExchange period nextCycle throttle result).embed .inr) (fun _ => At w₀ u φ) := by
  have hslept : ∀ throttle : Throttle, (do
      let now ← .act .now
      .act (.sleepUntil (max (nextCycle + period) now))
      pure (max (nextCycle + period) now, throttle) : Prog LoopAct (Time × Throttle)).Only
        @LoopAct.plain :=
    fun _ => ⟨trivial, fun _ => ⟨trivial, fun _ => trivial⟩⟩
  have honly : (afterExchange period nextCycle throttle result).Only
      @LoopAct.plain := by
    unfold afterExchange
    cases result with
    | ok r => exact ⟨trivial, fun _ => hslept _⟩
    | error what =>
      refine ⟨trivial, fun now => Prog.Only.ite (fun _ => ?_) fun _ => ⟨trivial, fun _ => hslept _⟩⟩
      exact ⟨isLinkLine_exchangeCycleFailed what, fun _ => ⟨trivial, fun _ => hslept _⟩⟩
  have hkeeps : ∀ {β : Type} (a : LoopAct β) c r c', a.plain → At w₀ u φ c →
      (driverLoop others stage).perform a c r c' → At w₀ u φ c' := by
    intro β a c r c' ha hc hact
    obtain ⟨w, hto, hR, hpc⟩ := hc.1
    obtain ⟨hserver, hR'⟩ := loop_stutter ha hact hR
    exact At.of_server hc.2 ⟨w, hto, hR', hpc⟩ hserver
  have hstable : Stable (driverLoop others stage) (At w₀ u φ) := stable_at others
  exact (Triple.keeps_only hstable (fun _ hc => hc.1.shadowed) @hkeeps honly).embed

/-! ## Around the exchange -/

/-- The line is logged in both, if in any. -/
theorem logIf_at {condition : Bool} {line : LogLine} (hline : isLinkLine line = true)
    (hlog : condition = true → ∀ w : World (RegisterModel.staged stage), φ w.pc →
      ∃ l, Move w l { w with pc := .idle, trace := w.trace ++ [.logged line] })
    (hquiet : condition = false → ∀ pc, φ pc → pc = .idle) :
    Triple (driverCycle others stage) (Shadowed w₀) (At w₀ u φ) (logIf condition line)
      (fun _ => At w₀ u (· = .idle)) := by
  unfold logIf
  refine Triple.ite (fun hcondition => ?_) fun hcondition => ?_
  · refine act_step ?_
    intro c r c' hact
    have hact : c' = { c with log := c.log ++ [line] } := hact
    subst hact
    refine ⟨rfl, ?_⟩
    intro w hR hpc
    obtain ⟨l, hmove⟩ := hlog hcondition w hpc
    refine ⟨l, _, step_of_move hmove, { hR with log := ?_ }, rfl⟩
    simp [Event.line?, hR.log, hline]
  · exact pure_at fun c hc => hc.mono (hquiet (Bool.eq_false_iff.mpr hcondition))

/-- An exchange that has thrown is counted, and maybe the link degrades. -/
theorem failed_at (text : String) (nmbs : Nmbs) :
    Triple (driverCycle others stage) (Shadowed w₀) (At w₀ u (· = .failed))
      (do
        let failures ← .act .countFailure
        if kFaultThreshold ≤ (failures + 1).toNat then do
          let before ← .act (.turn .faulted)
          logIf (before ≠ .faulted) linkFaulted
          pure (.error text, nmbs)
        else pure (.error text, nmbs))
      (fun (r : Except String Unit × Nmbs) c => r.2 = nmbs ∧ At w₀ u (· = .idle) c) := by
  have hdone : Triple (driverCycle others stage) (Shadowed w₀) (At w₀ u (· = .idle))
      (pure (.error text, nmbs) : Prog CycleAct (Except String Unit × Nmbs))
      (fun r c => r.2 = nmbs ∧ At w₀ u (· = .idle) c) :=
    pure_at fun _ hc => ⟨rfl, hc⟩
  refine Triple.bind (Q := fun failures => At w₀ u (· =
    if kFaultThreshold ≤ (failures + 1).toNat then .degrading else .idle)) ?_ ?_
  · refine act_step ?_
    intro c failures c' hact
    obtain ⟨rfl, rfl⟩ := hact
    refine ⟨rfl, ?_⟩
    intro w hR hpc
    have hcount := congrArg (· + 1) hR.consecutiveFailures
    by_cases hle : kFaultThreshold ≤ (w.consecutiveFailures + 1).toNat
    · refine ⟨_, _, step_of_move (.countThreshold hpc hle),
        { hR with consecutiveFailures := hcount }, ?_⟩
      rw [← hR.consecutiveFailures, if_pos hle]
    · refine ⟨_, _, step_of_move (.countFailure hpc (Nat.lt_of_not_le hle)),
        { hR with consecutiveFailures := hcount }, ?_⟩
      rw [← hR.consecutiveFailures, if_neg hle]
  intro failures
  refine Triple.ite (fun hle => ?_) fun hlt => ?_
  · rw [if_pos hle]
    refine Triple.bind (Q := fun before => At w₀ u (· =
      if before = .faulted then .idle else .degraded)) ?_ ?_
    · refine act_step ?_
      intro c before c' hact
      obtain ⟨rfl, rfl⟩ := hact
      refine ⟨rfl, ?_⟩
      intro w hR hpc
      by_cases hlink : w.connectionState = .faulted
      · refine ⟨_, _, step_of_move (.degradeAgain hpc hlink),
          { hR with connectionState := hlink }, ?_⟩
        rw [← hR.connectionState, if_pos hlink]
      · refine ⟨_, _, step_of_move (.degrade hpc hlink), { hR with connectionState := rfl }, ?_⟩
        rw [← hR.connectionState, if_neg hlink]
    intro before
    refine Triple.bind (logIf_at (by decide) ?_ ?_) fun _ => hdone
    · intro hturned w hpc
      rw [if_neg (of_decide_eq_true hturned)] at hpc
      exact ⟨_, .logFaulted hpc⟩
    · intro hfaulted pc hpc
      rwa [if_pos (not_not.mp (of_decide_eq_false hfaulted))] at hpc
  · rw [if_neg hlt]
    exact hdone

/-- A status is published, and maybe the link recovers. -/
theorem succeeded_at (command : GripperCommand) (status : GripperStatus) (nmbs : Nmbs) :
    Triple (driverCycle others stage) (Shadowed w₀) (At w₀ u (· = .returned command status))
      (do
        let completedAt ← .act .now
        .act .clearFailures
        let before ← .act (.turn .operational)
        .act (.publish command status completedAt)
        logIf (before = .faulted) linkRecovered
        pure (.ok (), nmbs))
      (fun (r : Except String Unit × Nmbs) c => r.2 = nmbs ∧ At w₀ u (· = .idle) c) := by
  refine Triple.bind (Q := fun completedAt => At w₀ u (· = .completed command status completedAt))
    (act_step ?_) ?_
  · intro c completedAt c' hact
    obtain ⟨rfl, rfl⟩ := hact
    refine ⟨rfl, ?_⟩
    intro w hR hpc
    refine ⟨_, _, step_of_move (.stamp _ _ hpc), { hR with log := ?_ }, ?_⟩
    · simpa [Event.line?] using hR.log
    · rw [hR.now]
  intro completedAt
  refine Triple.bind (Q := fun _ => At w₀ u (· = .cleared command status completedAt))
    (act_step ?_) ?_
  · intro c _ c' hact
    have hact : c' = { c with consecutiveFailures := 0 } := hact
    subst hact
    refine ⟨rfl, ?_⟩
    intro w hR hpc
    exact ⟨_, _, step_of_move (.clearFailures _ _ _ hpc),
      { hR with consecutiveFailures := rfl }, rfl⟩
  intro _
  refine Triple.bind (Q := fun before => At w₀ u (· =
    .turned command status completedAt (before = .faulted))) (act_step ?_) ?_
  · intro c before c' hact
    obtain ⟨rfl, rfl⟩ := hact
    refine ⟨rfl, ?_⟩
    intro w hR hpc
    refine ⟨_, _, step_of_move (.turnOperational _ _ _ hpc), { hR with connectionState := rfl }, ?_⟩
    rw [hR.connectionState]
  intro before
  refine Triple.bind (Q := fun _ => At w₀ u (· =
    if before = .faulted then .recovering else .idle)) (act_step ?_) ?_
  · intro c _ c' hact
    have hact : c' = { c with image := c.image.publish command status completedAt } := hact
    subst hact
    refine ⟨rfl, ?_⟩
    intro w hR hpc
    have himage := congrArg (fun image => ProcessImage.publish image command status completedAt)
      hR.image
    by_cases hfaulted : before = .faulted
    · rw [decide_eq_true hfaulted] at hpc
      refine ⟨_, _, step_of_move (.publishRecovered _ _ _ hpc),
        { hR with image := himage, log := ?_ }, (if_pos hfaulted).symm⟩
      simpa [Event.line?] using hR.log
    · rw [decide_eq_false hfaulted] at hpc
      refine ⟨_, _, step_of_move (.publish _ _ _ hpc),
        { hR with image := himage, log := ?_ }, (if_neg hfaulted).symm⟩
      simpa [Event.line?] using hR.log
  intro _
  refine Triple.bind (logIf_at (by decide) ?_ ?_) fun _ => pure_at fun _ hc => ⟨rfl, hc⟩
  · intro hfaulted w hpc
    rw [if_pos (of_decide_eq_true hfaulted)] at hpc
    exact ⟨_, .logRecovered hpc⟩
  · intro hfaulted pc hpc
    rwa [if_neg (of_decide_eq_false hfaulted)] at hpc

/-! ## The exchange -/

/-- **What a read can do.** It fails and discards the reply; it does not wait, and finds
    nothing; or it takes what it asks for from the reply. -/
theorem serial_read {size : Nat} {timeoutMs : Int} {answer : Option (List Byte)}
    (h : (driverSerial others stage).perform (.read size timeoutMs) c answer c') :
    (answer = none ∧
      c' = { c.discard with thrown := if timeoutMs = 0 then c.thrown else c.thrown + 1 }) ∨
    (timeoutMs = 0 ∧ answer = some [] ∧ c' = c) ∨
    (timeoutMs ≠ 0 ∧ answer = some (c.server.drain size).1 ∧
      c' = { c with server := (c.server.drain size).2 }) := by
  have h : c.serial others (.read size timeoutMs) answer c' := h
  unfold FakeDriver.serial at h
  dsimp only at h
  by_cases hdrop : c.dropReplies = true
  · rw [if_pos hdrop] at h
    exact .inl h
  · rw [if_neg hdrop] at h
    obtain ⟨server, hstep, rfl⟩ := h
    unfold GripperSerial.step at hstep
    dsimp only at hstep
    by_cases hwaits : timeoutMs = 0
    · rw [if_pos hwaits] at hstep
      cases hstep
      exact .inr (.inl ⟨hwaits, rfl, rfl⟩)
    · rw [if_neg hwaits] at hstep
      cases hstep
      exact .inr (.inr ⟨hwaits, rfl, rfl⟩)

/-- The reply to an exchange that finds the registers of `m`. -/
def replyOf (u : Byte) (m : RegisterModel) : List Byte :=
  exchangeReply u (m.found kStatusAddress kStatusRegisterCount)

/-- **What the write of a request can do**: it fails, or the server answers it. -/
theorem serial_write (hu : u ≠ 0) {command : GripperCommand} {sent : Bool} (hqueued : Queued u [] c)
    (h : (driverSerial others stage).perform (.write (exchangeRequest u command)) c sent c') :
    (sent = false ∧ c' = c) ∨
    (sent = true ∧ ∃ nmbs, c' = { c with server := { c.server with
      model := c.server.model.writeCommand command
      toClient := replyOf u (c.server.model.writeCommand command)
      nmbs := nmbs, ignored := false } }) := by
  have h : c.serial others (.write (exchangeRequest u command)) sent c' := h
  unfold FakeDriver.serial at h
  dsimp only at h
  by_cases hfailing : c.failing = true
  · rw [if_pos hfailing] at h
    exact .inl h
  · rw [if_neg hfailing] at h
    obtain ⟨server, hstep, rfl⟩ := h
    obtain ⟨rfl, hfrom, hto⟩ := hqueued
    obtain ⟨nmbs, hdeliver⟩ := deliver_readWrite (s := c.server) others kStatusAddress
      kStatusRegisterCount kCommandAddress (commandRegisters command) hu hfrom (by decide)
      (by decide) (by decide) (by decide)
    rw [hto] at hdeliver
    have hstep : (c.server.deliver others (exchangeRequest c.server.addressRtu command)).map
      (fun s => (true, s)) = some (sent, server) := hstep
    rw [show c.server.deliver others (exchangeRequest _ command) = _ from hdeliver] at hstep
    cases hstep
    exact .inr ⟨rfl, nmbs, rfl⟩

/-- The request is answered, and the server is done with it. -/
structure RequestAnswered (w₀ : World (RegisterModel.staged stage)) (u : Byte)
    (command : GripperCommand) (c : FakeDriver) : Prop where
  standing : Standing w₀ (fun pc => ∃ st, pc = .answered command st) c
  address : c.server.addressRtu = u
  fromClient : c.server.fromClient = []

/-- How an exchange can stop, `n` reads having thrown before it: its request was not
    written; or it was, and if a read has thrown since, nothing is left of the reply. -/
def GivenUp (w₀ : World (RegisterModel.staged stage)) (u : Byte) (command : GripperCommand)
    (n : Nat) (c : FakeDriver) : Prop :=
  At w₀ u (· = .latched command) c ∨
    RequestAnswered w₀ u command c ∧ (c.thrown = n ∨ c.server.toClient = [])

variable {command : GripperCommand} {n : Nat}

theorem stable_requestAnswered (others : OtherFunctions) :
    Stable (driverThread others stage) (RequestAnswered w₀ u command) := by
  intro c c' hc henv
  have hstanding := stable_standing others c c' hc.standing henv
  cases henv <;> exact ⟨hstanding, hc.address, hc.fromClient⟩

theorem stable_givenUp (others : OtherFunctions) :
    Stable (driverThread others stage) (GivenUp w₀ u command n) := by
  intro c c' hc henv
  rcases hc with hlatched | ⟨hanswered, hleft⟩
  · exact .inl (stable_at others c c' hlatched henv)
  · refine .inr ⟨stable_requestAnswered others c c' hanswered henv, ?_⟩
    cases henv <;> exact hleft

/-- A read changes nothing that the world has. -/
theorem Standing.of_model (h : Standing w₀ φ c) {server : GripperServer} (thrown : Nat)
    (hmodel : server.model = c.server.model) :
    Standing w₀ φ { c with server := server, thrown := thrown } := by
  refine Shadow.stutter h ?_
  intro w hR hpc
  exact ⟨{ hR with device := hR.device.trans hmodel.symm }, hpc⟩

theorem GivenUp.shadowed (h : GivenUp w₀ u command n c) : Shadowed w₀ c := by
  rcases h with hlatched | ⟨hanswered, -⟩
  · exact hlatched.1.shadowed
  · exact hanswered.standing.shadowed

/-- The read callback hands on what the read answers, cut to what was asked for. -/
theorem readSerial_lasting {S : Type} {T : Thread S SerialAct} {I P : S → Prop}
    {Q : Option (List Byte) → S → Prop} {count : Nat} {timeoutMs : Int}
    (h : Triple T I P (.act (.read count timeoutMs)) fun answer => Q (answer.map (List.take count)))
    (hQ : ∀ answer, Lasting T I (Q answer)) : Triple T I P (readSerial count timeoutMs) Q :=
  h.bind fun _ => Triple.pure (hQ _).1 (hQ _).2 (fun _ hs => hs) fun _ hs => hs

/-- **Every read of an answered exchange** leaves it answered, or is the end of it. -/
theorem feeds_requestAnswered (n : Nat) :
    Feeds (driverSerial others stage) (Shadowed w₀) (GivenUp w₀ u command n)
      (fun _ c => RequestAnswered w₀ u command c ∧ c.thrown = n) where
  lasting _ := ⟨(stable_requestAnswered others).and (stable_thrown others),
    fun _ hc => hc.1.standing.shadowed⟩
  stops _ _ hc := .inr ⟨hc.1, .inl hc.2⟩
  stopped := ⟨stable_givenUp others, fun _ hc => hc.shadowed⟩
  read bytes count timeoutMs := by
    apply readSerial_lasting
    · refine Triple.act ((stable_requestAnswered others).and (stable_thrown others))
        (fun _ hc => hc.1.standing.shadowed) ?_
      intro c answer c' hc hact
      obtain ⟨hanswered, hthrown⟩ := hc
      rcases serial_read hact with ⟨rfl, rfl⟩ | ⟨-, rfl, rfl⟩ | ⟨-, rfl, rfl⟩
      -- the read throws, and has discarded the reply
      · exact .inr ⟨⟨hanswered.standing.of_model _ rfl, hanswered.address, hanswered.fromClient⟩,
          .inr rfl⟩
      · exact ⟨hanswered, hthrown⟩
      · exact ⟨⟨hanswered.standing.of_model _ rfl, hanswered.address, hanswered.fromClient⟩,
          hthrown⟩
    · intro answer
      cases answer with
      | none => exact ⟨stable_givenUp others, fun _ hc => hc.shadowed⟩
      | some data =>
        exact ⟨(stable_requestAnswered others).and (stable_thrown others),
          fun _ hc => hc.1.standing.shadowed⟩

/-! ### Where no read throws -/

/-- The client in it, in the runs in which at most `n` reads throw. -/
abbrev driverServed (others : OtherFunctions)
    (stage : RegisterModel → Time → Time → RegisterModel) (n : Nat) :
    Thread FakeDriver SerialAct :=
  (driverSerial others stage).restrict fun c => c.thrown ≤ n

/-- The request has found `m`, and `rest` is left of the reply. -/
def ReplyAwaits (w₀ : World (RegisterModel.staged stage)) (u : Byte) (command : GripperCommand)
    (n : Nat) (m : RegisterModel) (rest : List Byte) (c : FakeDriver) : Prop :=
  Standing w₀ (· = .answered command m.reported) c ∧ Queued u rest c ∧ c.thrown = n

theorem lasting_replyAwaits {m : RegisterModel} {rest : List Byte} :
    Lasting (driverServed others stage n) (fun _ => True) (ReplyAwaits w₀ u command n m rest) := by
  refine ⟨?_, fun _ _ => trivial⟩
  intro c c' hc henv
  obtain ⟨hstanding, hqueued, hthrown⟩ := hc
  exact ⟨stable_standing others c c' hstanding henv.1, stable_queued others c c' hqueued henv.1,
    stable_thrown others c c' hthrown henv.1⟩

/-- **The reply is served** to every read that waits. -/
theorem supply_replyAwaits (m : RegisterModel) :
    Supply (driverServed others stage n) (fun _ => True) (fun waits => waits ≠ 0)
      (ReplyAwaits w₀ u command n m) := by
  refine ⟨fun _ => lasting_replyAwaits, ?_⟩
  intro data rest timeoutMs hwaits
  apply readSerial_served
  apply Triple.act lasting_replyAwaits.1 fun _ _ => trivial
  intro c answer c' hc hact
  obtain ⟨hstanding, hqueued, hthrown⟩ := hc
  obtain ⟨hread, hle⟩ := hact
  rcases serial_read hread with ⟨rfl, rfl⟩ | ⟨hzero, -⟩ | ⟨-, rfl, rfl⟩
  · -- a read that throws is one too many
    rw [if_neg hwaits, hthrown] at hle
    exact absurd hle (Nat.not_succ_le_self n)
  · exact absurd hzero hwaits
  · refine ⟨?_, hstanding.of_model _ rfl, ⟨hqueued.address, hqueued.fromClient, ?_⟩, hthrown⟩
    · unfold GripperServer.drain
      rw [hqueued.toClient, List.take_left]
    · show c.server.toClient.drop data.length = rest
      rw [hqueued.toClient, List.drop_left]

/-! ### The drain and the request -/

/-- The command is latched, nothing is under way, and `n` reads have thrown. -/
def Latched (w₀ : World (RegisterModel.staged stage)) (u : Byte) (command : GripperCommand)
    (n : Nat) (c : FakeDriver) : Prop :=
  At w₀ u (· = .latched command) c ∧ c.thrown = n

theorem stable_latched (others : OtherFunctions) :
    Stable (driverThread others stage) (Latched w₀ u command n) :=
  (stable_at others).and (stable_thrown others)

theorem drain_latched {answer : Option (List Byte)} (hc : Latched w₀ u command n c)
    (h : (driverSerial others stage).perform (.read kBufferSize 0) c answer c') :
    Latched w₀ u command n c' := by
  obtain ⟨⟨hstanding, hqueued⟩, hthrown⟩ := hc
  rcases serial_read h with ⟨-, rfl⟩ | ⟨-, -, rfl⟩ | ⟨hwaits, -⟩
  · exact ⟨⟨hstanding.of_model _ rfl, hqueued.address, hqueued.fromClient, rfl⟩, hthrown⟩
  · exact ⟨⟨hstanding, hqueued⟩, hthrown⟩
  · exact absurd rfl hwaits

/-- **The request is lost, or the device applies it and answers**, as it does in the world. -/
theorem write_latched (hu : u ≠ 0) {sent : Bool} (hc : Latched w₀ u command n c)
    (h : (driverSerial others stage).perform (.write (exchangeRequest u command)) c sent c') :
    if sent then ∃ m, ReplyAwaits w₀ u command n m (replyOf u m) c'
    else Latched w₀ u command n c' := by
  obtain ⟨⟨hstanding, hqueued⟩, hthrown⟩ := hc
  rcases serial_write hu hqueued h with ⟨rfl, rfl⟩ | ⟨rfl, nmbs, rfl⟩
  · exact ⟨⟨hstanding, hqueued⟩, hthrown⟩
  · refine ⟨c.server.model.writeCommand command, ?_,
      ⟨hqueued.address, hqueued.fromClient, rfl⟩, hthrown⟩
    refine hstanding.step ?_
    intro w hR hpc
    have hdevice : w.device.writeCommand command = c.server.model.writeCommand command :=
      congrArg (RegisterModel.writeCommand · command) hR.device
    refine ⟨_, _, step_of_move (.deliver command hpc),
      { hR with device := hdevice, log := ?_ }, ?_⟩
    · simpa [Event.line?] using hR.log
    · rw [reported_eq_answer, ← hdevice]

theorem ReplyAwaits.answered {m : RegisterModel} {rest : List Byte}
    (h : ReplyAwaits w₀ u command n m rest c) : RequestAnswered w₀ u command c ∧ c.thrown = n :=
  ⟨⟨h.1.mono fun _ hpc => ⟨_, hpc⟩, h.2.1.address, h.2.1.fromClient⟩, h.2.2⟩

/-! ### The transaction -/

/-- The call around a transaction: the status of its registers, or the text of its error. -/
theorem exchange_ends {S : Type} {T : Thread S SerialAct} {I P : S → Prop} {E : Nmbs → S → Prop}
    {Q : Vector Register kStatusRegisterCount → Nmbs → S → Prop}
    {R : Except String GripperStatus × Nmbs → S → Prop} {command : GripperCommand} {nmbs : Nmbs}
    (h : Triple T I P (nmbsReadWriteRegisters kStatusAddress kStatusRegisterCount kCommandAddress
      (commandRegisters command).toList nmbs) (Ends E Q))
    (hE : ∀ nmbs', Lasting T I (E nmbs')) (hQ : ∀ registers nmbs', Lasting T I (Q registers nmbs'))
    (herror : ∀ text nmbs' s, E nmbs' s → R (.error text, nmbs') s)
    (hok : ∀ registers nmbs' s, Q registers nmbs' s → R (.ok (statusOf registers), nmbs') s) :
    Triple T I P (exchange command nmbs) R := by
  unfold exchange
  apply h.bind
  intro r
  rcases r with ⟨e | registers, nmbs'⟩
  · exact Triple.pure (hE nmbs').1 (hE nmbs').2 (fun _ hs => hs) fun s hs => herror _ nmbs' s hs
  · exact Triple.pure (hQ registers nmbs').1 (hQ registers nmbs').2 (fun _ hs => hs)
      fun s hs => hok registers nmbs' s hs

variable {nmbs : Nmbs}

/-- Whether it returns or throws, an exchange keeps what was set, and returns only if no
    read has thrown. -/
theorem exchange_answered (others : OtherFunctions) (hu : u ≠ 0) (hnmbs : nmbs.destAddressRtu = u) :
    Triple (driverSerial others stage) (Shadowed w₀) (Latched w₀ u command n)
      (exchange command nmbs) (fun r c => r.2.settings = nmbs.settings ∧
        GivenUp w₀ u command n c ∧ (r.1.isOk = true → c.thrown = n)) := by
  have hlatched : Lasting (driverSerial others stage) (Shadowed w₀) (Latched w₀ u command n) :=
    ⟨stable_latched others, fun _ hc => hc.1.1.shadowed⟩
  have hfeeds : Feeds (driverSerial others stage) (Shadowed w₀) (GivenUp w₀ u command n) _ :=
    feeds_requestAnswered n
  have htransaction := ends_readWriteRegisters hfeeds.receiver hlatched hlatched nmbs
    kStatusAddress kStatusRegisterCount kCommandAddress (commandRegisters command).toList
    (by decide) (commandRegisters_written command) ?_ ?_
  · apply exchange_ends htransaction
    · exact fun _ => hfeeds.stopped.and _
    · exact fun _ nmbs' => (hfeeds.lasting nmbs'.buf).and _
    · intro text nmbs' c hc
      exact ⟨hc.1, hc.2, nofun⟩
    · intro registers nmbs' c hc
      exact ⟨hc.1.1, hfeeds.stops nmbs'.buf c hc.2, fun _ => hc.2.2⟩
  · apply readSerial_lasting
    · refine Triple.act hlatched.1 hlatched.2 ?_
      intro c answer c' hc hact
      exact drain_latched hc hact
    · exact fun _ => hlatched
  · rw [hnmbs]
    refine Triple.act hlatched.1 hlatched.2 ?_
    intro c sent c' hc hact
    have hwrite := write_latched hu hc hact
    cases sent with
    | true =>
      obtain ⟨m, hm⟩ := hwrite
      exact hm.answered
    | false => exact .inl hwrite.1

/-- The transaction under it: an error means that the request was lost. -/
theorem readWriteRegisters_served (others : OtherFunctions) (hu : u ≠ 0)
    (hnmbs : nmbs.destAddressRtu = u) (hbyte : nmbs.byteTimeoutMs ≠ 0)
    (hread : nmbs.readTimeoutMs ≠ 0) :
    Triple (driverServed others stage n) (fun _ => True) (Latched w₀ u command n)
      (nmbsReadWriteRegisters kStatusAddress kStatusRegisterCount kCommandAddress
        (commandRegisters command).toList nmbs)
      (Ends (fun _ => Latched w₀ u command n) fun registers _ c =>
        ∃ m : RegisterModel, registers = m.found kStatusAddress kStatusRegisterCount ∧
          ReplyAwaits w₀ u command n m [] c) := by
  have hlatched : Lasting (driverServed others stage n) (fun _ => True)
      (Latched w₀ u command n) :=
    ⟨fun c c' hc henv => stable_latched others c c' hc henv.1, fun _ _ => trivial⟩
  have hlength := commandRegisters_written command
  unfold nmbsReadWriteRegisters
  rw [if_neg (by decide), if_neg (by decide), if_neg (by unfold commandRegisters; omega),
    if_neg (by unfold commandRegisters; omega)]
  apply ends_request (W := fun sent c =>
    if sent then ∃ m, ReplyAwaits w₀ u command n m (replyOf u m) c else Latched w₀ u command n c)
    (fun _ => hlatched) hlatched hlatched
  · intro sent
    cases sent with
    | true =>
      refine ⟨?_, fun _ _ => trivial⟩
      intro c c' hc henv
      obtain ⟨m, hm⟩ := hc
      exact ⟨m, lasting_replyAwaits.1 c c' hm henv⟩
    | false => exact hlatched
  · apply readSerial_drained
    refine Triple.act hlatched.1 hlatched.2 ?_
    intro c answer c' hc hact
    exact drain_latched hc hact.1
  · rw [hnmbs]
    refine Triple.act hlatched.1 hlatched.2 ?_
    intro c sent c' hc hact
    exact write_latched hu hc hact.1
  · exact fun _ _ _ hc => hc
  · intro nmbs' hsettings hunit hfc _
    -- whichever registers the request has found
    apply Triple.exists_pre
    intro m
    have hsupply : Supply (driverServed others stage n) (fun _ => True) _
      (ReplyAwaits w₀ u command n m) := supply_replyAwaits m
    have htakes := takes_recvReadRegistersRes hsupply (n := nmbs')
      (wireBytes (m.found kStatusAddress kStatusRegisterCount)) (by decide)
      (by rwa [byteTimeoutMs_eq hsettings]) (by rwa [readTimeoutMs_eq hsettings]) []
    rw [hunit, hfc, hnmbs, List.append_nil] at htakes
    apply ends_conseq htakes
    · exact fun _ _ hc => hc.elim
    · intro registers _ c hc
      obtain ⟨⟨hregisters, -⟩, hawaits⟩ := hc
      exact ⟨m, hregisters.trans (registersOf_eq (toList_wireBytes _)), hawaits⟩

/-- **Where no read throws**, an exchange returns the status that the device answered with, or
    its request was lost. -/
theorem exchange_served (others : OtherFunctions) (hu : u ≠ 0) (hnmbs : nmbs.destAddressRtu = u)
    (hbyte : nmbs.byteTimeoutMs ≠ 0) (hread : nmbs.readTimeoutMs ≠ 0) :
    Triple (driverServed others stage n) (fun _ => True) (Latched w₀ u command n)
      (exchange command nmbs) (fun r c => match r.1 with
        | .ok st => At w₀ u (· = .answered command st) c
        | .error _ => At w₀ u (· = .latched command) c) := by
  apply exchange_ends (readWriteRegisters_served others hu hnmbs hbyte hread)
  · exact fun _ => ⟨fun c c' hc henv => stable_latched others c c' hc henv.1, fun _ _ => trivial⟩
  · refine fun _ _ => ⟨?_, fun _ _ => trivial⟩
    intro c c' hc henv
    obtain ⟨m, hregisters, hawaits⟩ := hc
    exact ⟨m, hregisters, lasting_replyAwaits.1 c c' hawaits henv⟩
  · exact fun _ _ _ hc => hc.1
  · intro registers nmbs' c hc
    obtain ⟨m, rfl, hstanding, hqueued, -⟩ := hc
    refine ⟨hstanding.mono ?_, hqueued⟩
    intro pc hpc
    rw [hpc, statusOf_found]

theorem write_thrown {data : List Byte} {sent : Bool}
    (h : (driverSerial others stage).perform (.write data) c sent c') : c'.thrown = c.thrown := by
  have h : c.serial others (.write data) sent c' := h
  unfold FakeDriver.serial at h
  dsimp only at h
  by_cases hfailing : c.failing = true
  · rw [if_pos hfailing] at h
    rw [h.2]
  · rw [if_neg hfailing] at h
    obtain ⟨server, -, rfl⟩ := h
    rfl

/-- The run of an exchange whose reads have not thrown is one of `driverServed`. -/
theorem runs_served {α : Type} {p : Prog SerialAct α} {r : α} (hthrown : c'.thrown = c.thrown)
    (h : Runs (driverSerial others stage) p c (some r) c') :
    Runs (driverServed others stage c.thrown) p c (some r) c' := by
  refine (runs_restrict ?_ ?_ h hthrown.le).1
  · intro s s' henv hle
    cases henv <;> exact hle
  · intro β a s answer s' hact hle
    cases a with
    | read size timeoutMs =>
      rcases serial_read hact with ⟨-, rfl⟩ | ⟨-, -, rfl⟩ | ⟨-, -, rfl⟩
      · split at hle
        · exact hle
        · exact Nat.le_of_succ_le hle
      · exact hle
      · exact hle
    | write data => exact write_thrown hact ▸ hle

/-- What a call of `exchange` comes to: a status that the device has answered with, or an
    exception. -/
def ExchangeOutcome (w₀ : World (RegisterModel.staged stage)) (u : Byte)
    (command : GripperCommand) : Except String GripperStatus → FakeDriver → Prop
  | .ok st => At w₀ u (· = .returned command st)
  | .error _ => At w₀ u (· = .failed)

/-- A call that throws has lost its request or its reply. -/
theorem At.lost (command : GripperCommand)
    (h : At w₀ u (fun pc => pc = .latched command ∨ ∃ st, pc = .answered command st) c) :
    At w₀ u (· = .failed) c := by
  refine ⟨h.1.step ?_, h.2⟩
  intro w hR hpc
  rcases hpc with hlatched | ⟨st, hanswered⟩
  · refine ⟨_, _, step_of_move (.requestLost command hlatched), { hR with log := ?_ }, rfl⟩
    simpa [Event.line?] using hR.log
  · refine ⟨_, _, step_of_move (.replyLost command st hanswered), { hR with log := ?_ }, rfl⟩
    simpa [Event.line?] using hR.log

/-- **The client's `exchange` in step with the world.** -/
theorem exchange_at (others : OtherFunctions) (hu : u ≠ 0)
    (hnmbs : nmbs.settings = (clientNmbs GripperSerial.getTimeout u).settings) :
    Triple (driverSerial others stage) (Shadowed w₀) (At w₀ u (· = .latched command))
      (exchange command nmbs)
      (fun r c => r.2.settings = nmbs.settings ∧ ExchangeOutcome w₀ u command r.1 c) := by
  obtain ⟨hbyte, hread, haddress⟩ := settings_client hnmbs
  intro c c' hc
  refine ⟨fun hrun => (exchange_answered others hu haddress).running ⟨hc, rfl⟩ hrun, ?_⟩
  intro r hrun
  obtain ⟨hsettings, hgivenUp, hok⟩ :=
    (exchange_answered others hu haddress).done ⟨hc, rfl⟩ hrun
  refine ⟨hsettings, ?_⟩
  have hserved : c'.thrown = c.thrown → _ := fun hthrown =>
    (exchange_served others hu haddress hbyte hread).done ⟨hc, rfl⟩ (runs_served hthrown hrun)
  rcases r with ⟨text | st, nmbs'⟩
  · apply At.lost command
    rcases hgivenUp with hlatched | ⟨hanswered, hthrown | hnothing⟩
    · exact hlatched.mono fun _ hpc => .inl hpc
    · exact (hserved hthrown).mono fun _ hpc => .inl hpc
    · exact ⟨hanswered.standing.mono fun _ hpc => .inr hpc, hanswered.address,
        hanswered.fromClient, hnothing⟩
  · have hreturned := hserved (hok rfl)
    refine ⟨hreturned.1.step ?_, hreturned.2⟩
    intro w hR hpc
    exact ⟨_, _, step_of_move (.reply command st hpc), { hR with }, rfl⟩

/-! ## The whole thread -/

/-- **One call of `exchangeOnce` in step with the world.** -/
theorem exchangeOnce_at (others : OtherFunctions) (hu : u ≠ 0)
    (hnmbs : nmbs.settings = (clientNmbs GripperSerial.getTimeout u).settings) :
    Triple (driverCycle others stage) (Shadowed w₀) (At w₀ u (· = .starting)) (exchangeOnce nmbs)
      (fun r c => r.2.settings = nmbs.settings ∧ At w₀ u (· = .idle) c) := by
  unfold exchangeOnce
  refine Triple.bind (Q := fun command => At w₀ u (· = .latched command)) (act_step ?_) ?_
  · intro c command c' hact
    obtain ⟨rfl, rfl⟩ := hact
    refine ⟨rfl, ?_⟩
    intro w hR hpc
    refine ⟨_, _, step_of_move (.latch hpc), { hR with log := ?_ }, ?_⟩
    · simpa [Event.line?] using hR.log
    · rw [hR.image]
  intro command
  apply (exchange_at others hu hnmbs).embed.bind
  intro r
  rcases r with ⟨text | status, nmbs'⟩
  · apply Triple.assuming
    intro hsettings
    exact (failed_at text nmbs').post fun r _ hr => ⟨hr.1 ▸ hsettings, hr.2⟩
  · apply Triple.assuming
    intro hsettings
    exact (succeeded_at command status nmbs').post fun r _ hr => ⟨hr.1 ▸ hsettings, hr.2⟩

/-- **One turn of the loop**: the flag, an exchange, and the rest. -/
theorem exchangeThreadTurn_at (others : OtherFunctions) (hu : u ≠ 0) (period : Time)
    (state : Nmbs × Time × Throttle)
    (hnmbs : state.1.settings = (clientNmbs GripperSerial.getTimeout u).settings) :
    Triple (driverThread others stage) (Shadowed w₀) (At w₀ u (· = .idle))
      (exchangeThreadTurn period state)
      (fun r c => (∀ next, r = .inl next → next.1.settings =
        (clientNmbs GripperSerial.getTimeout u).settings) ∧ At w₀ u (· = .idle) c) := by
  unfold exchangeThreadTurn
  refine Triple.bind (Q := fun running => At w₀ u (· = if running then .starting else .idle))
    (Triple.act (stable_at others) (fun _ hc => hc.1.shadowed) ?_) ?_
  · intro c running c' hc hact
    obtain ⟨hanswer, hsame⟩ : running = c.running ∧ c' = c := hact
    subst hsame
    cases running with
    | false => exact hc
    | true =>
      refine ⟨hc.1.step ?_, hc.2⟩
      intro w hR hpc
      exact ⟨_, _, step_of_move (.beginCycle hpc (hR.running.trans hanswer.symm)), { hR with }, rfl⟩
  intro running
  cases running with
  | false =>
    exact Triple.pure (stable_at others) (fun _ hc => hc.1.shadowed) (fun _ hc => hc)
      fun _ hc => ⟨nofun, hc⟩
  | true =>
    refine Triple.bind (exchangeOnce_at others hu hnmbs).embed ?_
    intro r
    rcases r with ⟨result, nmbs'⟩
    apply Triple.assuming
    intro hsettings
    refine Triple.bind (afterExchange_at period state.2.1 state.2.2 result) ?_
    intro slot
    refine Triple.pure (stable_at others) (fun _ hc => hc.1.shadowed) (fun _ hc => hc) ?_
    intro c hc
    refine ⟨?_, hc⟩
    intro next hnext
    obtain rfl := Sum.inl.inj hnext
    exact hsettings.trans hnmbs

/-- **The thread**, by induction on its turns. -/
theorem exchangeThread_at (others : OtherFunctions) (hu : u ≠ 0) (period : Time)
    (throttle : Throttle)
    (hnmbs : nmbs.settings = (clientNmbs GripperSerial.getTimeout u).settings) :
    Triple (driverThread others stage) (Shadowed w₀) (At w₀ u (· = .idle))
      (exchangeThread period throttle nmbs) (fun _ => At w₀ u (· = .idle)) := by
  unfold exchangeThread
  refine Triple.bind (Q := fun _ => At w₀ u (· = .idle))
    (Triple.act (stable_at others) (fun _ hc => hc.1.shadowed) ?_) ?_
  · intro c now c' hc hact
    obtain ⟨-, rfl⟩ : now = c.now ∧ c' = c := hact
    exact hc
  intro nextCycle
  -- between two turns the settings are those of the client
  refine Triple.pre (Triple.iter (J := fun state c =>
    state.1.settings = (clientNmbs GripperSerial.getTimeout u).settings ∧
      At w₀ u (· = .idle) c) ?_ (nmbs, nextCycle, throttle)) fun c hc => ⟨hnmbs, hc⟩
  intro state
  apply Triple.assuming
  intro hstate
  apply (exchangeThreadTurn_at others hu period state hstate).post
  intro r c hr
  cases r with
  | inl next => exact ⟨hr.1 next rfl, hr.2⟩
  | inr done => exact hr.2

end standing

/-- The library refuses the broadcast address, and both queues are empty at first. -/
theorem created {model : RegisterModel} {slaveAddress : Byte} {server : GripperServer}
    (h : GripperServer.create model slaveAddress = .ok server) :
    slaveAddress ≠ 0 ∧ Queued slaveAddress [] { server := server } := by
  unfold GripperServer.create at h
  by_cases hu : slaveAddress = 0
  · rw [if_pos hu] at h
    cases h
  · rw [if_neg hu] at h
    cases h
    exact ⟨hu, rfl, rfl, rfl⟩

/-- They start alike. -/
theorem constructed_at (stage : RegisterModel → Time → Time → RegisterModel)
    {server : GripperServer} {u : Byte} (hqueued : Queued u [] { server := server })
    (fresh : GripperStatus) (at_ : Time) :
    At (World.constructed server.model fresh at_ : World (RegisterModel.staged stage)) u
      (· = .idle) (FakeDriver.constructed server fresh at_) :=
  ⟨shadow_start ⟨rfl, rfl, rfl, rfl, rfl, rfl, rfl⟩ rfl,
    hqueued.address, hqueued.fromClient, hqueued.toClient⟩

/-- **The driver refines the world.** Wherever the exchange thread gets over the client, the
    serial port, the server and the register model, among clients, `stop`, staged registers
    and the tests' switches, some run from construction has come to a world with the same
    image, state, counter, flag, device and lines about the link. Client and server may have
    been used before: the constructor has read the status through them. -/
theorem driver_refines_world (others : OtherFunctions)
    (stage : RegisterModel → Time → Time → RegisterModel) (period : Time) (throttle : Throttle)
    (server : GripperServer) (slaveAddress : Byte) (haddress : slaveAddress ≠ 0)
    (hqueued : Queued slaveAddress [] { server := server }) (nmbs : Nmbs)
    (hnmbs : nmbs.settings = (clientNmbs GripperSerial.getTimeout slaveAddress).settings)
    (fresh : GripperStatus) (at_ : Time) (c : FakeDriver)
    (hvisits : Visits (driverThread others stage) (exchangeThread period throttle nmbs)
      (FakeDriver.constructed server fresh at_) c) :
    ∃ w : World (RegisterModel.staged stage), w.Reachable ∧ Refines c w := by
  have hstart := constructed_at stage hqueued fresh at_
  -- wherever it gets, a world has come along
  obtain ⟨w, hwithin, hR, -⟩ := Triple.visits
    (exchangeThread_at others haddress period throttle hnmbs) (stable_standing others)
    (fun _ _ hc => hc.1.shadowed) hstart hvisits
  exact ⟨w, (constructed_reachable server.model fresh at_).within hwithin, hR⟩

/-! ### A cycle that loses half of its reply -/

namespace FakeDriver

/-- The switch for replies is set before an action, or left alone. -/
def switched (c : FakeDriver) : Option Bool → FakeDriver
  | none => c
  | some b => { c with dropReplies := b }

/-- What an action does; none of the thread's leaves a choice. -/
def act (others : OtherFunctions) :
    {α : Type} → Either CycleAct LoopAct α → FakeDriver → Option (α × FakeDriver)
  | _, .inl (.read size timeoutMs), c =>
    if c.dropReplies then
      some (none, { c.discard with thrown := if timeoutMs = 0 then c.thrown else c.thrown + 1 })
    else (GripperSerial.step others (.read size timeoutMs) c.server).map fun r =>
      (r.1, { c with server := r.2 })
  | _, .inl (.write data), c =>
    if c.failing then some (false, c)
    else (GripperSerial.step others (.write data) c.server).map fun r =>
      (r.1, { c with server := r.2 })
  | _, .inl .command, c => some (c.image.command, c)
  | _, .inl .now, c => some (c.now, c)
  | _, .inl .countFailure, c =>
    some (c.consecutiveFailures, { c with consecutiveFailures := c.consecutiveFailures + 1 })
  | _, .inl .clearFailures, c => some ((), { c with consecutiveFailures := 0 })
  | _, .inl (.turn state), c => some (c.connectionState, { c with connectionState := state })
  | _, .inl (.publish command status completedAt), c =>
    some ((), { c with image := c.image.publish command status completedAt })
  | _, .inl (.log line), c => some ((), { c with log := c.log ++ [line] })
  | _, .inr .running, c => some (c.running, c)
  | _, .inr .now, c => some (c.now, c)
  | _, .inr (.log line), c => some ((), { c with log := c.log ++ [line] })
  | _, .inr (.sleepUntil _), c => some ((), c)

theorem act_performs {others : OtherFunctions}
    {stage : RegisterModel → Time → Time → RegisterModel} {α : Type} {a : Either CycleAct LoopAct α}
    {c c' : FakeDriver} {r : α} (h : act others a c = some (r, c')) :
    (driverThread others stage).perform a c r c' := by
  rcases a with a | a
  · cases a with
    | read size timeoutMs =>
      show c.serial others (.read size timeoutMs) r c'
      unfold act at h
      unfold FakeDriver.serial
      dsimp only at h ⊢
      by_cases hdrop : c.dropReplies = true
      · rw [if_pos hdrop] at h ⊢
        cases h
        exact ⟨rfl, rfl⟩
      · rw [if_neg hdrop] at h ⊢
        obtain ⟨⟨answer, server⟩, hstep, heq⟩ := Option.map_eq_some_iff.mp h
        cases heq
        exact ⟨server, hstep, rfl⟩
    | write data =>
      show c.serial others (.write data) r c'
      unfold act at h
      unfold FakeDriver.serial
      dsimp only at h ⊢
      by_cases hfailing : c.failing = true
      · rw [if_pos hfailing] at h ⊢
        cases h
        exact ⟨rfl, rfl⟩
      · rw [if_neg hfailing] at h ⊢
        obtain ⟨⟨sent, server⟩, hstep, heq⟩ := Option.map_eq_some_iff.mp h
        cases heq
        exact ⟨server, hstep, rfl⟩
    | command | now | countFailure | turn =>
      cases h
      exact ⟨rfl, rfl⟩
    | clearFailures | publish | log =>
      cases h
      exact rfl
  · cases a with
    | running | now =>
      cases h
      exact ⟨rfl, rfl⟩
    | log | sleepUntil =>
      cases h
      exact rfl

end FakeDriver

/-- The model does nothing of its own, and knows no other functions. -/
abbrev quietThread : Thread FakeDriver (Either CycleAct LoopAct) :=
  driverThread (fun _ s => (.ok (), s)) fun m _ _ => m

theorem switched_runs {α : Type} (a : Either CycleAct LoopAct α) (choice : Option Bool)
    (c : FakeDriver) (r : α) (c' : FakeDriver)
    (h : FakeDriver.act (fun _ s => (.ok (), s)) a (c.switched choice) = some (r, c')) :
    ∃ c₁, ReflTransGen quietThread.env c c₁ ∧ quietThread.perform a c₁ r c' := by
  refine ⟨c.switched choice, ?_, FakeDriver.act_performs h⟩
  cases choice with
  | none => exact .refl
  | some b => exact .single (.dropReplies b)

/-- The command, the drain and the request; two reads, and then the reply is discarded. -/
def halfAReply : List (Option Bool) :=
  [none, none, none, none, none, none, some true, none, none, none, none, none]

/-- The client has had a transaction before. -/
theorem refines_on_lost_reply : ∃ server c, GripperServer.create {} 9 = .ok server ∧
    c.consecutiveFailures = 1 ∧ c.image.stamped.count = 0 ∧
      ∃ w : World (RegisterModel.staged fun m _ _ => m), w.Reachable ∧ Refines c w := by
  obtain ⟨server, hserver⟩ : ∃ server, GripperServer.create {} 9 = .ok server := ⟨_, rfl⟩
  let nmbs : Nmbs := { clientNmbs GripperSerial.getTimeout 9 with currentTid := 1 }
  have hreplay : ((exchangeThreadTurn 1000 (nmbs, 0, ⟨0, 0⟩)).replay
      (fun a choice c => FakeDriver.act (fun _ s => (.ok (), s)) a (c.switched choice))
      (FakeDriver.constructed server {} 0) halfAReply).any (fun r => r.1.isLeft &&
        r.2.1.consecutiveFailures = 1 && r.2.1.image.stamped.count = 0) = true := by
    cases hserver
    decide +kernel
  obtain ⟨⟨next, c, rest⟩, hrun, hturn⟩ := (Option.any_eq_true _ _).mp hreplay
  have hrun := runs_of_replay (T := quietThread) switched_runs hrun
  cases next with
  | inr done => simp at hturn
  | inl next =>
    simp only [Sum.isLeft_inl, Bool.true_and, Bool.and_eq_true, decide_eq_true_eq] at hturn
    refine ⟨server, c, hserver, hturn.1, hturn.2, ?_⟩
    have hnow : quietThread.perform (.inr .now) (FakeDriver.constructed server {} 0) 0
        (FakeDriver.constructed server {} 0) := ⟨rfl, rfl⟩
    -- the turn is over, and the next one has not begun
    have hloop : Runs quietThread (.iter (exchangeThreadTurn 1000) (nmbs, 0, ⟨0, 0⟩))
        (FakeDriver.constructed server {} 0) none c :=
      runs_iter_again hrun (runs_idle _ .refl)
    have hthread : Runs quietThread (exchangeThread 1000 ⟨0, 0⟩ nmbs)
        (FakeDriver.constructed server {} 0) none c := by
      unfold exchangeThread
      exact runs_bind (runs_act .refl hnow) hloop
    obtain ⟨haddress, hqueued⟩ := created hserver
    exact driver_refines_world _ _ 1000 ⟨0, 0⟩ server 9 haddress hqueued nmbs rfl {} 0 c
      hthread.visits

end GripperDriver

import GripperDriver.Exchange.ProcessImage
import GripperDriver.Device.RegisterModel
import GripperDriver.Framework.System

/-! # The Exchange Thread and What It Shares

    A `Gripper` after construction, as the state its threads share and the
    steps they take on it:

    * the exchange thread runs `exchangeOnce` again and again; every access to
      a shared variable is a step of its own, and the request and the reply on
      the wire are two more, either of which may be lost,
    * any thread may call `setCommand`; the destructor stops the cycle and
      closes the image,
    * time passes, and the device may change by itself as it does.

    `World.trace` records what happened, in order. It is history only: no step
    looks at it.
-/

namespace GripperDriver

open Interleaving

/-! ## The device at the other end of the link -/

/-- A device whose status in an exchange answers the write of that same
    exchange. Between writes it may change by itself with time. -/
structure Device where
  State : Type
  /-- The device applies the command block of an exchange. -/
  write : State → GripperCommand → State
  /-- The status block it answers with, the write applied. -/
  answer : State → GripperStatus
  /-- What becomes of it from one instant to a later one. -/
  elapse : State → Time → Time → State

/-- The fake gripper, over the writes and answers of an exchange. `stage` is what a
    test puts in its registers with time. -/
abbrev RegisterModel.staged (stage : RegisterModel → Time → Time → RegisterModel) : Device where
  State := RegisterModel
  write := RegisterModel.writeCommand
  answer := RegisterModel.answer
  elapse := stage

/-- The fake gripper left to itself. -/
abbrev RegisterModel.device : Device := RegisterModel.staged fun m _ _ => m

/-! ## The state -/

inductive ConnectionState where
  | connecting
  | operational
  | faulted
  deriving DecidableEq, Repr

inductive Level where
  | debug
  | info
  | warn
  | error
  deriving DecidableEq, Repr

structure LogLine where
  level : Level
  message : String
  deriving DecidableEq, Repr

/-- Consecutive exchange failures before the connection state degrades. -/
def kFaultThreshold : Nat := 3

def linkFaulted : LogLine where
  level := .warn
  message := "link faulted after " ++ toString kFaultThreshold
    ++ " consecutive failed exchanges; the process image is now stale"

def linkRecovered : LogLine where
  level := .info
  message := "link recovered; the process image is live again"

/-- Where the exchange thread stands in its loop and in `exchangeOnce`. -/
inductive ExchangePc where
  /-- Between two cycles, or past the last. -/
  | idle
  /-- The loop's test has passed. -/
  | starting
  /-- `commandCopy` is taken; the request is not delivered yet. -/
  | latched (c : GripperCommand)
  /-- The device has applied the write and answered `st`. -/
  | answered (c : GripperCommand) (st : GripperStatus)
  /-- `_client.exchange` has returned. -/
  | returned (c : GripperCommand) (st : GripperStatus)
  /-- `completedAt` is taken. -/
  | completed (c : GripperCommand) (st : GripperStatus) (completedAt : Time)
  /-- `_consecutiveFailures` is zero. -/
  | cleared (c : GripperCommand) (st : GripperStatus) (completedAt : Time)
  /-- The connection state is Operational. -/
  | turned (c : GripperCommand) (st : GripperStatus) (completedAt : Time) (recovered : Bool)
  /-- Published, the recovery still to be logged. -/
  | recovering
  /-- `_client.exchange` has thrown. -/
  | failed
  /-- The counter has come to the threshold. -/
  | degrading
  /-- This cycle made the connection state Faulted; still to be logged. -/
  | degraded
  deriving DecidableEq, Repr

/-- What happened, as the history records it. `k` numbers the cycles from 1. -/
inductive Event (dev : Device) where
  | set (c : GripperCommand)
  | latched (k : Nat) (c : GripperCommand)
  /-- The device, found in state `d`, applied the block of cycle `k`. -/
  | applied (k : Nat) (c : GripperCommand) (d : dev.State)
  | completed (k : Nat) (c : GripperCommand) (st : GripperStatus) (completedAt : Time)
  | failed (k : Nat)
  | published (k : Nat) (r : StampedExchange)
  /-- Time took the device from `d` to `d'`. -/
  | elapsed (d d' : dev.State)
  | logged (line : LogLine)

structure World (dev : Device) where
  image : ProcessImage := {}
  connectionState : ConnectionState := .connecting
  /-- `std::atomic<uint32_t>`: it wraps. -/
  consecutiveFailures : BitVec 32 := 0
  running : Bool := false
  now : Time := 0
  device : dev.State
  pc : ExchangePc := .idle
  /-- Cycles that have latched their command, the one under way included. -/
  cycles : Nat := 0
  trace : List (Event dev) := []

/-! ## Construction -/

/-- The command block that `initializeImage` infers from the first status read.
    Speed and force have no echoes and start at maximum. -/
def seedCommand (fresh : GripperStatus) : GripperCommand :=
  { (GripperCommand.defaults.setAction .activate fresh.gripperStatus.activated).setAction .goTo
      fresh.gripperStatus.goToEnabled with
    positionRequest := fresh.positionRequestEcho }

/-- A `Gripper` as its constructor leaves it: the image is seeded from `fresh`,
    the status read at the start, and the exchange thread is running. -/
def World.constructed {dev : Device} (device : dev.State) (fresh : GripperStatus)
    (at_ : Time) : World dev where
  image := ProcessImage.seed {} fresh at_ (seedCommand fresh)
  connectionState := .operational
  running := true
  now := at_
  device := device

/-- A gripper that drives the fake device, all registers zero. -/
def makeFakeGripper : World RegisterModel.device := .constructed {} {} 0

/-! ## The steps -/

inductive Label where
  /-- `Gripper::setCommand`. -/
  | setCommand (c : GripperCommand)
  /-- `stop`: the exchange loop is told to end. -/
  | stop
  /-- `stop`: then the image is closed. -/
  | close
  /-- Time passes, up to `t`. -/
  | tick (t : Time)
  | beginCycle
  | latch
  | requestLost
  | deliver
  | replyLost
  | reply
  | stamp
  | clearFailures
  | turnOperational
  | publish
  | logRecovered
  | countFailure
  | degrade
  | logFaulted
  deriving DecidableEq, Repr

namespace World
variable {dev : Device}

/-- The step of `w` under a label; `none` when the label is not enabled. -/
def next? (w : World dev) : Label → Option (World dev)
  -- the calls of clients and of `stop`, at any place of the exchange thread
  | .setCommand c =>
    some { w with image := w.image.setCommand c, trace := w.trace ++ [.set c] }
  | .stop => some { w with running := false }
  | .close => if w.running then none else some { w with image := w.image.close }
  | .tick t =>
    if w.now ≤ t then
      let device := dev.elapse w.device w.now t
      some { w with now := t, device := device, trace := w.trace ++ [.elapsed w.device device] }
    else none
  -- the loop of `start` tests `_running` before each cycle, and only there
  | .beginCycle =>
    match w.pc with
    | .idle => if w.running then some { w with pc := .starting } else none
    | _ => none
  -- the exchange: the block is latched first, then written and the answer read back
  | .latch =>
    match w.pc with
    | .starting =>
      some { w with
        pc := .latched w.image.command
        cycles := w.cycles + 1
        trace := w.trace ++ [.latched (w.cycles + 1) w.image.command] }
    | _ => none
  | .requestLost =>
    match w.pc with
    | .latched _ => some { w with pc := .failed, trace := w.trace ++ [.failed w.cycles] }
    | _ => none
  | .deliver =>
    match w.pc with
    | .latched c =>
      let device := dev.write w.device c
      some { w with
        pc := .answered c (dev.answer device)
        device := device
        trace := w.trace ++ [.applied w.cycles c w.device] }
    | _ => none
  | .replyLost =>
    match w.pc with
    | .answered _ _ => some { w with pc := .failed, trace := w.trace ++ [.failed w.cycles] }
    | _ => none
  | .reply =>
    match w.pc with
    | .answered c st => some { w with pc := .returned c st }
    | _ => none
  -- the transaction has returned: the instant is taken before any bookkeeping
  | .stamp =>
    match w.pc with
    | .returned c st =>
      some { w with
        pc := .completed c st w.now
        trace := w.trace ++ [.completed w.cycles c st w.now] }
    | _ => none
  | .clearFailures =>
    match w.pc with
    | .completed c st t => some { w with pc := .cleared c st t, consecutiveFailures := 0 }
    | _ => none
  | .turnOperational =>
    match w.pc with
    | .cleared c st t =>
      some { w with
        pc := .turned c st t (w.connectionState = .faulted)
        connectionState := .operational }
    | _ => none
  -- the record is published before the recovery is logged
  | .publish =>
    match w.pc with
    | .turned c st t recovered =>
      let image := w.image.publish c st t
      some { w with
        pc := if recovered then .recovering else .idle
        image := image
        trace := w.trace ++ [.published w.cycles image.stamped] }
    | _ => none
  | .logRecovered =>
    match w.pc with
    | .recovering => some { w with pc := .idle, trace := w.trace ++ [.logged linkRecovered] }
    | _ => none
  -- the failed cycle is counted, and the link turns faulted at the threshold
  | .countFailure =>
    match w.pc with
    | .failed =>
      let count := w.consecutiveFailures + 1
      some { w with
        pc := if kFaultThreshold ≤ count.toNat then .degrading else .idle
        consecutiveFailures := count }
    | _ => none
  -- a link that is faulted already is not logged again
  | .degrade =>
    match w.pc with
    | .degrading =>
      some { w with
        pc := if w.connectionState = .faulted then .idle else .degraded
        connectionState := .faulted }
    | _ => none
  | .logFaulted =>
    match w.pc with
    | .degraded => some { w with pc := .idle, trace := w.trace ++ [.logged linkFaulted] }
    | _ => none

end World

/-- A constructed `Gripper` and everything its threads can do to it. -/
def gripperSystem (dev : Device) : System (World dev) Label where
  init w := ∃ device fresh at_, w = World.constructed device fresh at_
  next? := World.next?

/-- A world that some run from construction comes to. -/
abbrev World.Reachable {dev : Device} (w : World dev) : Prop := (gripperSystem dev).Reachable w

theorem constructed_reachable {dev : Device} (device : dev.State) (fresh : GripperStatus)
    (at_ : Time) : (World.constructed device fresh at_).Reachable :=
  .init ⟨device, fresh, at_, rfl⟩

theorem makeFakeGripper_reachable : makeFakeGripper.Reachable :=
  constructed_reachable _ _ _

/-! ## What a step can do -/

/-- The steps, one rule each, with the guard met and the next state written out. -/
inductive Move {dev : Device} (w : World dev) : Label → World dev → Prop where
  | setCommand (c : GripperCommand) :
      Move w (.setCommand c)
        { w with image := w.image.setCommand c, trace := w.trace ++ [.set c] }
  | stop : Move w .stop { w with running := false }
  | close (hrunning : w.running = false) : Move w .close { w with image := w.image.close }
  | tick (t : Time) (hle : w.now ≤ t) :
      Move w (.tick t)
        { w with
          now := t
          device := dev.elapse w.device w.now t
          trace := w.trace ++ [.elapsed w.device (dev.elapse w.device w.now t)] }
  | beginCycle (hpc : w.pc = .idle) (hrunning : w.running = true) :
      Move w .beginCycle { w with pc := .starting }
  | latch (hpc : w.pc = .starting) :
      Move w .latch
        { w with
          pc := .latched w.image.command
          cycles := w.cycles + 1
          trace := w.trace ++ [.latched (w.cycles + 1) w.image.command] }
  | requestLost (c : GripperCommand) (hpc : w.pc = .latched c) :
      Move w .requestLost { w with pc := .failed, trace := w.trace ++ [.failed w.cycles] }
  | deliver (c : GripperCommand) (hpc : w.pc = .latched c) :
      Move w .deliver
        { w with
          pc := .answered c (dev.answer (dev.write w.device c))
          device := dev.write w.device c
          trace := w.trace ++ [.applied w.cycles c w.device] }
  | replyLost (c : GripperCommand) (st : GripperStatus) (hpc : w.pc = .answered c st) :
      Move w .replyLost { w with pc := .failed, trace := w.trace ++ [.failed w.cycles] }
  | reply (c : GripperCommand) (st : GripperStatus) (hpc : w.pc = .answered c st) :
      Move w .reply { w with pc := .returned c st }
  | stamp (c : GripperCommand) (st : GripperStatus) (hpc : w.pc = .returned c st) :
      Move w .stamp
        { w with
          pc := .completed c st w.now
          trace := w.trace ++ [.completed w.cycles c st w.now] }
  | clearFailures (c : GripperCommand) (st : GripperStatus) (t : Time)
      (hpc : w.pc = .completed c st t) :
      Move w .clearFailures { w with pc := .cleared c st t, consecutiveFailures := 0 }
  | turnOperational (c : GripperCommand) (st : GripperStatus) (t : Time)
      (hpc : w.pc = .cleared c st t) :
      Move w .turnOperational
        { w with
          pc := .turned c st t (w.connectionState = .faulted)
          connectionState := .operational }
  | publish (c : GripperCommand) (st : GripperStatus) (t : Time) (hpc : w.pc = .turned c st t false) :
      Move w .publish
        { w with
          pc := .idle
          image := w.image.publish c st t
          trace := w.trace ++
            [.published w.cycles (ProcessImage.recordOf w.image.stamped.count c st t)] }
  | publishRecovered (c : GripperCommand) (st : GripperStatus) (t : Time)
      (hpc : w.pc = .turned c st t true) :
      Move w .publish
        { w with
          pc := .recovering
          image := w.image.publish c st t
          trace := w.trace ++
            [.published w.cycles (ProcessImage.recordOf w.image.stamped.count c st t)] }
  | logRecovered (hpc : w.pc = .recovering) :
      Move w .logRecovered { w with pc := .idle, trace := w.trace ++ [.logged linkRecovered] }
  | countFailure (hpc : w.pc = .failed)
      (hlt : (w.consecutiveFailures + 1).toNat < kFaultThreshold) :
      Move w .countFailure
        { w with pc := .idle, consecutiveFailures := w.consecutiveFailures + 1 }
  | countThreshold (hpc : w.pc = .failed)
      (hle : kFaultThreshold ≤ (w.consecutiveFailures + 1).toNat) :
      Move w .countFailure
        { w with pc := .degrading, consecutiveFailures := w.consecutiveFailures + 1 }
  | degrade (hpc : w.pc = .degrading) (hlink : w.connectionState ≠ .faulted) :
      Move w .degrade { w with pc := .degraded, connectionState := .faulted }
  | degradeAgain (hpc : w.pc = .degrading) (hlink : w.connectionState = .faulted) :
      Move w .degrade { w with pc := .idle }
  | logFaulted (hpc : w.pc = .degraded) :
      Move w .logFaulted { w with pc := .idle, trace := w.trace ++ [.logged linkFaulted] }

section moves
variable {dev : Device} {w w' : World dev} {l : Label}

/-- **Inversion**: a step is one of the moves. -/
theorem move_of_step (h : (gripperSystem dev).Step w l w') : Move w l w' := by
  cases l
  case setCommand c =>
    cases h
    exact .setCommand c
  case stop =>
    cases h
    exact .stop
  case close =>
    simp only [System.Step, gripperSystem, World.next?] at h
    split at h
    · cases h
    · next hrunning =>
      cases h
      exact .close (Bool.eq_false_iff.mpr hrunning)
  case tick t =>
    simp only [System.Step, gripperSystem, World.next?] at h
    split at h
    · next hle =>
      cases h
      exact .tick t hle
    · cases h
  case beginCycle =>
    simp only [System.Step, gripperSystem, World.next?] at h
    split at h
    · next hpc =>
      split at h
      · next hrunning =>
        cases h
        exact .beginCycle hpc hrunning
      · cases h
    · cases h
  case publish =>
    simp only [System.Step, gripperSystem, World.next?] at h
    split at h
    · next recovered hpc =>
      cases h
      -- the branch that was logged as recovered has its own next place
      cases recovered with
      | false => exact .publish _ _ _ hpc
      | true => exact .publishRecovered _ _ _ hpc
    · cases h
  case countFailure =>
    simp only [System.Step, gripperSystem, World.next?] at h
    split at h
    · next hpc =>
      cases h
      by_cases hle : kFaultThreshold ≤ (w.consecutiveFailures + 1).toNat
      · rw [if_pos hle]
        exact .countThreshold hpc hle
      · rw [if_neg hle]
        exact .countFailure hpc (Nat.lt_of_not_le hle)
    · cases h
  case degrade =>
    simp only [System.Step, gripperSystem, World.next?] at h
    split at h
    · next hpc =>
      cases h
      by_cases hlink : w.connectionState = .faulted
      · rw [if_pos hlink, ← hlink]
        exact .degradeAgain hpc hlink
      · rw [if_neg hlink]
        exact .degrade hpc hlink
    · cases h
  -- every other move asks for one place of the exchange thread, and for nothing else
  all_goals
    simp only [System.Step, gripperSystem, World.next?] at h
    split at h
    · next hpc =>
      cases h
      constructor
      exact hpc
    · cases h

/-- Every move is a step. -/
theorem step_of_move (hmove : Move w l w') : (gripperSystem dev).Step w l w' := by
  cases hmove <;> simp_all [System.Step, gripperSystem, World.next?]

/-- The history only grows. -/
theorem Move.trace_grows (hmove : Move w l w') : w.trace <+: w'.trace := by
  cases hmove <;> first | exact List.prefix_rfl | exact List.prefix_append _ _

end moves

end GripperDriver

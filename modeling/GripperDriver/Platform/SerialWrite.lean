import GripperDriver.Client.Deadlines
import GripperDriver.Platform.SerialPort

/-! # Writing to the Serial Port

    `SerialPort::write` and `SerialPort::drain` on a POSIX terminal, for whatever
    the system answers: writes that accept some bytes or none, waits that are cut
    short, and errors.

    * `PortIo`: the system calls of an open port,
    * `SerialPort.write`, `SerialPort.drain`: the two loops,
    * `SendWorld`: a clock, and the bytes that the system has accepted,
    * `write_triple`: what a call leaves, and on which runs a short count means that the
      timeout has passed,
    * `drain_triple`: what draining leaves.
-/

namespace GripperDriver

open Interleaving Relation

/-! ## System calls -/

/-- How a call ends that does not return. -/
inductive Failure where
  /-- With a `SerialIOException`. -/
  | thrown (text : String)
  /-- At an operation that is not defined on its operands. -/
  | undefined
  deriving DecidableEq, Repr

/-- What `::write` returns: how many bytes it has accepted, or -1. -/
inductive WriteResult where
  | accepted (count : Nat)
  | failed (error : Errno)
  deriving DecidableEq, Repr

inductive PortIo : Type → Type where
  | now : PortIo Time
  | read (count : Nat) : PortIo ReadResult
  | enterPoll : PortIo Unit
  | poll (ms : Int) : PortIo PollResult
  | write (data : List Byte) : PortIo WriteResult
  /-- The division of a duration, of 64 bits with a sign, by a rate of 32 bits without one;
      the dividends here are not negative, so it is that of natural numbers. -/
  | divide (dividend divisor : Nat) : PortIo Nat
  /-- `TIOCOUTQ`: the bytes that have not left, or an error. -/
  | outputQueue : PortIo (Option Int)
  | sleepFor (micros : Int) : PortIo Unit
  /-- `::tcdrain`, with the error if it fails. -/
  | tcdrain : PortIo (Option Errno)

/-- The calls that reading makes too. -/
def PortAct.io : {α : Type} → PortAct α → PortIo α
  | _, .now => .now
  | _, .read count => .read count
  | _, .enterPoll => .enterPoll
  | _, .poll ms => .poll ms

/-! ## The calls -/

namespace SerialPort

/-- 8N1. -/
def kWireBitsPerByte : Nat := 10

section calls
variable (describe : Errno → String)

/-- The time that is left; without a timeout, the longest duration. -/
def timeLeft (timeoutMs : Int) (deadline : Time) : Prog PortIo (Option Time) :=
  if timeoutMs = 0 then pure (some int64Max)
  else do
    let now ← .act .now
    pure (fit (deadline - now))

/-- Waits for room, in the time that is left. -/
def waitForRoom (remaining : Time) (sent : Nat) : Prog PortIo (Nat ⊕ Except Failure Nat) := do
  let result ← (waitReady describe PollEvents.pollOut remaining
    "waiting to send on the serial port").embed PortAct.io
  match result with
  | .error text => pure (.inr (.error (.thrown text)))
  | .ok .timedOut => pure (.inr (.ok sent))
  | .ok .ready => pure (.inl sent)
  | .ok .interrupted => pure (.inl sent)

/-- What a turn does once a write has found no room. -/
def waitToSend (timeoutMs : Int) (deadline : Time) (sent : Nat) :
    Prog PortIo (Nat ⊕ Except Failure Nat) := do
  let remaining ← timeLeft timeoutMs deadline
  match remaining with
  | none => pure (.inr (.error .undefined))
  | some remaining =>
    if remaining ≤ 0 then pure (.inr (.ok sent)) else waitForRoom describe remaining sent

def writeTurn (data : List Byte) (timeoutMs : Int) (deadline : Time) (sent : Nat) :
    Prog PortIo (Nat ⊕ Except Failure Nat) :=
  if sent < data.length then do
    let count ← .act (.write (data.drop sent))
    match count with
    | .accepted 0 => waitToSend describe timeoutMs deadline sent
    | .accepted (k + 1) => pure (.inl (sent + (k + 1)))
    | .failed error =>
      if error = .eintr then pure (.inl sent)
      else if error ≠ .eagain ∧ error ≠ .ewouldblock then
        pure (.inr (.error (.thrown (failure describe "writing to the serial port" error))))
      else waitToSend describe timeoutMs deadline sent
  else pure (.inr (.ok sent))

/-- `SerialPort::write`, with the number of bytes sent. -/
def write (data : List Byte) (timeoutMs : Int) : Prog PortIo (Except Failure Nat) := do
  let now ← .act .now
  match Machine.dueAt timeoutMs now with
  | none => pure (.error .undefined)
  | some deadline => .iter (writeTurn describe data timeoutMs deadline) 0

def late (timeoutMs : Int) (deadline : Time) : Prog PortIo Bool :=
  if timeoutMs = 0 then pure false
  else do
    let now ← .act .now
    pure (decide (deadline ≤ now))

/-- One look at the output queue. -/
def queueTurn (timeoutMs : Int) (deadline : Time) (byteTime : Nat) :
    Prog PortIo (Unit ⊕ Bool) := do
  let queued ← .act .outputQueue
  match queued with
  | none => pure (.inr true)
  | some queued =>
    if 0 < queued then do
      let late ← late timeoutMs deadline
      if late then pure (.inr false)
      else do
        .act (.sleepFor (byteTime * queued))
        pure (.inl ())
    else pure (.inr true)

/-- `tcdrain` until it is not interrupted. -/
def drainTurn : Prog PortIo (Unit ⊕ Except Failure Bool) := do
  let error ← .act .tcdrain
  match error with
  | none => pure (.inr (.ok true))
  | some error =>
    if error ≠ .eintr then
      pure (.inr (.error (.thrown (failure describe "draining the serial port" error))))
    else pure (.inl ())

/-- `SerialPort::drain`, where the terminal can be asked for its output queue. -/
def drain (baudrate : Nat) (timeoutMs : Int) : Prog PortIo (Except Failure Bool) := do
  let now ← .act .now
  match Machine.dueAt timeoutMs now with
  | none => pure (.error .undefined)
  | some deadline => do
    let byteTime ← .act (.divide (1000000 * kWireBitsPerByte) baudrate)
    let left ← .iter (fun _ => queueTurn timeoutMs deadline byteTime) ()
    if left then .iter (fun _ => drainTurn describe) ()
    else pure (.ok false)

end calls

end SerialPort

/-! ## A system that accepts what it likes -/

/-- What a system call found. -/
inductive SendEvent where
  | clock (t : Time)
  /-- A write found no room. -/
  | refused
  /-- A poll had its full time, of so many milliseconds. -/
  | timedOut (ms : Int)
  | drained
  deriving DecidableEq, Repr

structure SendWorld where
  now : Time := 0
  /-- All bytes that have been accepted, in order. -/
  accepted : List Byte := []
  /-- When the last `poll` was entered. -/
  pollAt : Time := 0
  events : List SendEvent := []
  deriving DecidableEq, Repr

namespace SendWorld

def noted (w : SendWorld) (e : SendEvent) : SendWorld := { w with events := w.events ++ [e] }

def took (w : SendWorld) (data : List Byte) : SendWorld :=
  { w with accepted := w.accepted ++ data }

/-- A write accepts between one and all of its bytes, or none, or fails; a poll answers at
    any time, fails, or times out after its full time. -/
def perform : {α : Type} → PortIo α → SendWorld → α → SendWorld → Prop
  | _, .now, w, answer, w' => answer = w.now ∧ w' = w.noted (.clock w.now)
  | _, .read _, w, _, w' => w' = w
  | _, .enterPoll, w, _, w' => w' = { w with pollAt := w.now }
  | _, .poll ms, w, answer, w' =>
    (∃ error, answer = .failed error ∧ w' = w) ∨
    (∃ ready events, 0 < ready ∧ answer = .returned ready events ∧ w' = w) ∨
    (0 ≤ ms ∧ w.pollAt + ms * nanosPerMilli ≤ w.now ∧ answer = .returned 0 {} ∧
      w' = w.noted (.timedOut ms))
  | _, .write data, w, answer, w' =>
    (∃ k, 1 ≤ k ∧ k ≤ data.length ∧ answer = .accepted k ∧ w' = w.took (data.take k)) ∨
    ((answer = .accepted 0 ∨ answer = .failed .eagain ∨ answer = .failed .ewouldblock) ∧
      w' = w.noted .refused) ∨
    ∃ error, error ≠ .eagain ∧ error ≠ .ewouldblock ∧ answer = .failed error ∧ w' = w
  | _, .divide dividend divisor, w, answer, w' =>
    divisor ≠ 0 ∧ answer = dividend / divisor ∧ w' = w
  | _, .outputQueue, w, _, w' => w' = w
  | _, .sleepFor _, w, _, w' => w' = w
  | _, .tcdrain, w, answer, w' =>
    (answer = none ∧ w' = w.noted .drained) ∨ ∃ error, answer = some error ∧ w' = w

end SendWorld

/-- Time passes. -/
def sendThread : Thread SendWorld PortIo where
  env w w' := ∃ t, w.now ≤ t ∧ w' = { w with now := t }
  perform := SendWorld.perform

/-! ## What a call should do -/

/-- The system has accepted a prefix of the data since `w`, and a call that returns says how
    long it is. -/
def Accepts (data : List Byte) (w : SendWorld) (result : Except Failure Nat) (w' : SendWorld) :
    Prop :=
  ∃ sent ≤ data.length, w'.accepted = w.accepted ++ data.take sent ∧
    ∀ count, result = .ok count → count = sent

/-- A call that returns fewer bytes has a positive timeout, which has passed. -/
def ShortOnlyLate (data : List Byte) (timeoutMs : Int) (w : SendWorld)
    (result : Except Failure Nat) (w' : SendWorld) : Prop :=
  result ≠ .error .undefined ∧ ∀ count, result = .ok count → count < data.length →
    0 < timeoutMs ∧ w.now + timeoutMs * nanosPerMilli ≤ w'.now

/-- A call made at `w` has not been cut short. -/
structure Patient (timeoutMs : Int) (w w' : SendWorld) : Prop where
  /-- The deadline is within 64 bits, and so is its distance from every reading. -/
  fits : ∀ start, w'.events.head? = some (.clock start) →
    ∃ deadline, Machine.dueAt timeoutMs start = some deadline ∧
      ∀ t, .clock t ∈ w'.events → (fit (deadline - t)).isSome
  /-- A negative timeout was not needed. -/
  refused : timeoutMs < 0 → .refused ∉ w'.events
  /-- No poll had the longest time that it can be given, unless the timeout was over. -/
  timedOut : .timedOut int32Max ∈ w'.events →
    0 < timeoutMs ∧ w.now + timeoutMs * nanosPerMilli ≤ w'.now

/-- Every deadline, and its distance from every reading, is within 64 bits. -/
def InRange (timeoutMs : Int) (events : List SendEvent) : Prop :=
  ∀ start, .clock start ∈ events → ∃ deadline, Machine.dueAt timeoutMs start = some deadline ∧
    ∀ t, .clock t ∈ events → (fit (deadline - t)).isSome

/-! ## The loop -/

/-- A deadline is a timeout away from its reading, which fits. -/
theorem machine_dueAt_span {timeoutMs : Int} {start deadline : Time}
    (h : Machine.dueAt timeoutMs start = some deadline) :
    deadline = start + timeoutMs * nanosPerMilli ∧ (fit (deadline - start)).isSome := by
  obtain ⟨ns, hns, hsum⟩ := Option.bind_eq_some_iff.mp h
  obtain ⟨hfits, hvalue⟩ := Option.ite_none_right_eq_some.mp hns
  obtain ⟨_, hdeadline⟩ := Option.ite_none_right_eq_some.mp hsum
  obtain rfl : timeoutMs * nanosPerMilli = ns := Option.some.inj hvalue
  obtain rfl : start + timeoutMs * nanosPerMilli = deadline := Option.some.inj hdeadline
  refine ⟨rfl, ?_⟩
  rw [add_sub_cancel_left, fit, if_pos hfits]
  rfl

/-- What holds in the loop of a call made at `w₀`, `sent` bytes having been sent. -/
structure Sending (data : List Byte) (w₀ : SendWorld) (start deadline : Time) (sent : Nat)
    (w : SendWorld) : Prop where
  length : sent ≤ data.length
  stream : w.accepted = w₀.accepted ++ data.take sent
  called : w₀.now ≤ start
  clock : start ≤ w.now
  first : w.events.head? = some (.clock start)
  fits : ∀ t, .clock t ∈ w.events → (fit (deadline - t)).isSome

/-- No poll has timed out yet, and no write was refused that had a negative timeout. -/
structure Looping (data : List Byte) (timeoutMs : Int) (w₀ : SendWorld) (start deadline : Time)
    (sent : Nat) (w : SendWorld) : Prop extends Sending data w₀ start deadline sent w where
  waited : ∀ ms, .timedOut ms ∉ w.events
  refused : timeoutMs < 0 → .refused ∉ w.events

/-- A write has been refused, with bytes left to send; `t` has passed. -/
structure Refused (data : List Byte) (w₀ : SendWorld) (start deadline : Time) (sent : Nat)
    (t : Time) (w : SendWorld) : Prop extends Sending data w₀ start deadline sent w where
  waited : ∀ ms, .timedOut ms ∉ w.events
  last : .refused ∈ w.events
  since : t ≤ w.now

/-- What a call leaves. -/
def Sent (data : List Byte) (timeoutMs : Int) (w₀ : SendWorld) (result : Except Failure Nat)
    (w : SendWorld) : Prop :=
  Accepts data w₀ result w ∧
    (ShortOnlyLate data timeoutMs w₀ result w ↔ Patient timeoutMs w₀ w) ∧
    (InRange timeoutMs w.events → result ≠ .error .undefined)

section loop
variable {data : List Byte} {timeoutMs : Int} {w₀ w w' : SendWorld} {start deadline t : Time}
  {sent : Nat}

theorem Sending.noted (h : Sending data w₀ start deadline sent w) {e : SendEvent}
    (hfit : ∀ t, e = .clock t → (fit (deadline - t)).isSome) :
    Sending data w₀ start deadline sent (w.noted e) := by
  refine ⟨h.length, h.stream, h.called, h.clock, ?_, ?_⟩
  · show (w.events ++ [e]).head? = _
    rw [List.head?_append, h.first, Option.some_or]
  · intro t ht
    rcases List.mem_append.mp ht with hold | hnew
    · exact h.fits t hold
    · exact hfit t (List.mem_singleton.mp hnew).symm

theorem Sending.env (h : Sending data w₀ start deadline sent w) (hle : w.now ≤ t) :
    Sending data w₀ start deadline sent { w with now := t } :=
  ⟨h.length, h.stream, h.called, le_trans h.clock hle, h.first, h.fits⟩

theorem stable_looping : Stable sendThread (Looping data timeoutMs w₀ start deadline sent) := by
  intro w w' h henv
  obtain ⟨t, hle, rfl⟩ := henv
  exact ⟨h.toSending.env hle, h.waited, h.refused⟩

theorem stable_refused : Stable sendThread (Refused data w₀ start deadline sent t) := by
  intro w w' h henv
  obtain ⟨u, hle, rfl⟩ := henv
  exact ⟨h.toSending.env hle, h.waited, h.last, le_trans h.since hle⟩

theorem Sending.accepts (h : Sending data w₀ start deadline sent w) {result : Except Failure Nat}
    (hresult : ∀ count, result = .ok count → count = sent) : Accepts data w₀ result w :=
  ⟨sent, h.length, h.stream, hresult⟩

/-- The call has not been cut short so far, but for what is said of it. -/
theorem Sending.patient (h : Sending data w₀ start deadline sent w)
    (hdue : Machine.dueAt timeoutMs start = some deadline)
    (hrefused : timeoutMs < 0 → .refused ∉ w.events)
    (htimedOut : .timedOut int32Max ∈ w.events →
      0 < timeoutMs ∧ w₀.now + timeoutMs * nanosPerMilli ≤ w.now) :
    Patient timeoutMs w₀ w := by
  refine ⟨?_, hrefused, htimedOut⟩
  intro start' hfirst
  obtain rfl : start = start' := by
    have := h.first.symm.trans hfirst
    cases this
    rfl
  exact ⟨deadline, hdue, h.fits⟩

/-- What `waitReady` has found, having been called at `t` or later. -/
def Waited (data : List Byte) (w₀ : SendWorld) (start deadline : Time) (sent : Nat) (t : Time)
    (ms : Int) : Except String WaitResult → SendWorld → Prop
  | .ok .timedOut, w => Sending data w₀ start deadline sent w ∧ .refused ∈ w.events ∧
      (∀ m, .timedOut m ∈ w.events ↔ m = ms) ∧ t + ms * nanosPerMilli ≤ w.now
  | _, w => Refused data w₀ start deadline sent t w

theorem waitReady_send (describe : Errno → String) (context : String) (remaining : Time) :
    Triple sendThread (fun _ => True) (Refused data w₀ start deadline sent t)
      ((SerialPort.waitReady describe PollEvents.pollOut remaining context).embed PortAct.io)
      (Waited data w₀ start deadline sent t (min (ceilMillis remaining) int32Max)) := by
  apply Triple.embed
  unfold SerialPort.waitReady
  have hstable : Stable sendThread fun w =>
      Refused data w₀ start deadline sent t w ∧ t ≤ w.pollAt := by
    intro w w' h henv
    have hrefused := stable_refused w w' h.1 henv
    obtain ⟨u, hle, rfl⟩ := henv
    exact ⟨hrefused, h.2⟩
  have henter : Triple (sendThread.pull PortAct.io) (fun _ => True)
      (Refused data w₀ start deadline sent t) (.act .enterPoll)
      (fun _ w => Refused data w₀ start deadline sent t w ∧ t ≤ w.pollAt) := by
    apply Triple.act (T := sendThread.pull PortAct.io) stable_refused (fun _ _ => trivial)
    intro w _ w' h hact
    obtain rfl : w' = { w with pollAt := w.now } := hact
    exact ⟨⟨⟨h.length, h.stream, h.called, h.clock, h.first, h.fits⟩, h.waited, h.last, h.since⟩,
      h.since⟩
  apply henter.bind
  intro _
  generalize min (ceilMillis remaining) int32Max = ms
  have hpoll : Triple (sendThread.pull PortAct.io) (fun _ => True)
      (fun w => Refused data w₀ start deadline sent t w ∧ t ≤ w.pollAt) (.act (.poll ms))
      (fun answer w =>
        (∃ error, answer = .failed error ∧ Refused data w₀ start deadline sent t w) ∨
        (∃ ready events, 0 < ready ∧ answer = .returned ready events ∧
          Refused data w₀ start deadline sent t w) ∨
        (answer = .returned 0 {} ∧
          Waited data w₀ start deadline sent t ms (.ok .timedOut) w)) := by
    apply Triple.act (T := sendThread.pull PortAct.io) hstable (fun _ _ => trivial)
    intro w answer w' h hact
    obtain ⟨error, rfl, rfl⟩ | ⟨ready, events, hready, rfl, rfl⟩ | ⟨_, hfull, rfl, rfl⟩ := hact
    · exact .inl ⟨error, rfl, h.1⟩
    · exact .inr (.inl ⟨ready, events, hready, rfl, h.1⟩)
    · refine .inr (.inr ⟨rfl, h.1.toSending.noted (by simp), ?_, ?_, ?_⟩)
      · exact List.mem_append_left _ h.1.last
      · intro m
        have := h.1.waited m
        simp [SendWorld.noted, this]
      · exact le_trans (Int.add_le_add_right h.2 _) hfull
  refine hpoll.bind fun answer => Triple.or_pre ?failed (Triple.or_pre ?returned ?timedOut)
  case failed =>
    refine Triple.exists_pre fun error => ?_
    apply Triple.at_value
    apply Triple.ite
    · exact fun _ => Triple.pure_anywhere fun _ h => h
    · exact fun _ => Triple.pure_anywhere fun _ h => h
  case returned =>
    refine Triple.exists_pre fun ready => Triple.exists_pre fun events => ?_
    apply Triple.assuming
    intro hready
    apply Triple.at_value
    apply Triple.ite
    · exact fun _ => Triple.pure_anywhere fun _ h => h
    intro _
    apply Triple.ite
    · exact fun _ => Triple.pure_anywhere fun _ h => h
    intro _
    rw [if_neg hready.ne']
    exact Triple.pure_anywhere fun _ h => h
  case timedOut =>
    apply Triple.at_value
    exact Triple.pure_anywhere fun _ h => h

/-- What a turn leaves. -/
def SendTurned (data : List Byte) (timeoutMs : Int) (w₀ : SendWorld) (start deadline : Time) :
    Nat ⊕ Except Failure Nat → SendWorld → Prop
  | .inl sent, w => Looping data timeoutMs w₀ start deadline sent w
  | .inr result, w => Sent data timeoutMs w₀ result w

/-- The call throws: no count is short. -/
theorem Sending.thrown (h : Sending data w₀ start deadline sent w) {text : String}
    (hpatient : Patient timeoutMs w₀ w) : Sent data timeoutMs w₀ (.error (.thrown text)) w := by
  refine ⟨h.accepts (by simp), iff_of_true ⟨by simp, ?_⟩ hpatient, by simp⟩
  intro count hcount
  cases hcount

/-- The call returns with bytes left: it is late exactly if it has been patient. -/
theorem Sending.short (h : Sending data w₀ start deadline sent w) (hmore : sent < data.length)
    (hiff : 0 < timeoutMs ∧ w₀.now + timeoutMs * nanosPerMilli ≤ w.now ↔ Patient timeoutMs w₀ w) :
    Sent data timeoutMs w₀ (.ok sent) w := by
  refine ⟨h.accepts ?_, ?_, by simp⟩
  · intro count hcount
    cases hcount
    rfl
  rw [← hiff]
  constructor
  · intro hlate
    exact hlate.2 sent rfl hmore
  · intro hlate
    refine ⟨by simp, ?_⟩
    intro _ _ _
    exact hlate

/-- The call has no result: its deadline, or the distance from it, is not within 64 bits. -/
theorem sent_undefined (hlength : sent ≤ data.length)
    (hstream : w.accepted = w₀.accepted ++ data.take sent)
    (hfirst : w.events.head? = some (.clock start))
    (hover : ∀ deadline, Machine.dueAt timeoutMs start = some deadline →
      ∃ t, .clock t ∈ w.events ∧ fit (deadline - t) = none) :
    Sent data timeoutMs w₀ (.error .undefined) w := by
  have hfalse : ¬ ∃ deadline, Machine.dueAt timeoutMs start = some deadline ∧
      ∀ t, .clock t ∈ w.events → (fit (deadline - t)).isSome := by
    intro hfits
    obtain ⟨deadline, hdue, hfits⟩ := hfits
    obtain ⟨t, ht, hnone⟩ := hover deadline hdue
    have := hfits t ht
    rw [hnone] at this
    cases this
  refine ⟨⟨sent, hlength, hstream, by simp⟩, iff_of_false (fun h => h.1 rfl) ?_, ?_⟩
  · exact fun hpatient => hfalse (hpatient.fits start hfirst)
  · exact fun hrange => absurd (hrange start (List.mem_of_head? hfirst)) hfalse

theorem Refused.patient (h : Refused data w₀ start deadline sent t w)
    (hdue : Machine.dueAt timeoutMs start = some deadline) (hnonneg : 0 ≤ timeoutMs) :
    Patient timeoutMs w₀ w := by
  apply h.toSending.patient hdue
  · intro hneg
    omega
  · exact fun htimedOut => absurd htimedOut (h.waited _)

/-- What is left of the time, once a write has been refused. -/
def Left (data : List Byte) (timeoutMs : Int) (w₀ : SendWorld) (start deadline : Time) (sent : Nat)
    (remaining : Option Int) (w : SendWorld) : Prop :=
  (timeoutMs = 0 ∧ remaining = some int64Max ∧ Refused data w₀ start deadline sent start w) ∨
  (timeoutMs ≠ 0 ∧ ∃ t, start ≤ t ∧ remaining = some (deadline - t) ∧
    Refused data w₀ start deadline sent t w) ∨
  (remaining = none ∧ Sent data timeoutMs w₀ (.error .undefined) w)

theorem timeLeft_triple (hdue : Machine.dueAt timeoutMs start = some deadline) :
    Triple sendThread (fun _ => True) (Refused data w₀ start deadline sent start)
      (SerialPort.timeLeft timeoutMs deadline) (Left data timeoutMs w₀ start deadline sent) := by
  unfold SerialPort.timeLeft
  apply Triple.ite
  · intro hzero
    apply Triple.pure_anywhere
    intro w h
    exact .inl ⟨hzero, rfl, h⟩
  intro hbounded
  have hnow : Triple sendThread (fun _ => True) (Refused data w₀ start deadline sent start)
      (.act .now) (fun t w =>
        ((fit (deadline - t)).isSome ∧ start ≤ t ∧ Refused data w₀ start deadline sent t w) ∨
        (fit (deadline - t) = none ∧ Sent data timeoutMs w₀ (.error .undefined) w)) := by
    apply Triple.act stable_refused (fun _ _ => trivial)
    intro w t w' h hact
    obtain ⟨rfl, rfl⟩ := hact
    cases hfit : fit (deadline - w.now) with
    | some left =>
      refine .inl ⟨rfl, h.clock, h.toSending.noted ?_, ?_, List.mem_append_left _ h.last, le_rfl⟩
      · intro t ht
        cases ht
        rw [hfit]
        rfl
      · intro ms
        have := h.waited ms
        simp [SendWorld.noted, this]
    | none =>
      have hfirst : (w.noted (.clock w.now)).events.head? = some (.clock start) := by
        rw [SendWorld.noted, List.head?_append, h.first, Option.some_or]
      refine .inr ⟨rfl, sent_undefined h.length h.stream hfirst ?_⟩
      intro deadline' hdue'
      obtain rfl : deadline' = deadline := Option.some.inj (hdue'.symm.trans hdue)
      exact ⟨w.now, List.mem_append_right _ List.mem_cons_self, hfit⟩
  refine hnow.bind fun t => Triple.or_pre ?_ ?_
  · apply Triple.assuming
    intro hfit
    apply Triple.pure_anywhere
    intro w h
    obtain ⟨left, hleft⟩ := Option.isSome_iff_exists.mp hfit
    obtain ⟨_, hvalue⟩ := Option.ite_none_right_eq_some.mp hleft
    exact .inr (.inl ⟨hbounded, t, h.1, hleft.trans hvalue.symm, h.2⟩)
  · apply Triple.assuming
    intro hfit
    apply Triple.pure_anywhere
    intro w h
    exact .inr (.inr ⟨hfit, h⟩)

/-- Bytes are left, and there is a time to wait for. -/
theorem waitForRoom_triple (describe : Errno → String) {remaining : Time}
    (hdue : Machine.dueAt timeoutMs start = some deadline) (hmore : sent < data.length)
    (hnonneg : 0 ≤ timeoutMs)
    (hlate : ∀ now, min (ceilMillis remaining) int32Max ≠ int32Max →
      t + min (ceilMillis remaining) int32Max * nanosPerMilli ≤ now →
      0 < timeoutMs ∧ w₀.now + timeoutMs * nanosPerMilli ≤ now) :
    Triple sendThread (fun _ => True) (Refused data w₀ start deadline sent t)
      (SerialPort.waitForRoom describe remaining sent)
      (SendTurned data timeoutMs w₀ start deadline) := by
  unfold SerialPort.waitForRoom
  apply (waitReady_send describe _ remaining).bind
  have hloop : ∀ w, Refused data w₀ start deadline sent t w →
      Looping data timeoutMs w₀ start deadline sent w := by
    intro w h
    exact ⟨h.toSending, h.waited, fun hneg => by omega⟩
  intro result
  match result with
  | .error text =>
    apply Triple.pure_anywhere
    intro w h
    exact Sending.thrown h.toSending (h.patient hdue hnonneg)
  | .ok .ready =>
    exact Triple.pure_anywhere fun w h => hloop w h
  | .ok .interrupted =>
    exact Triple.pure_anywhere fun w h => hloop w h
  | .ok .timedOut =>
    apply Triple.pure_anywhere
    intro w h
    obtain ⟨hsending, _, hevents, hfull⟩ := h
    apply hsending.short hmore
    constructor
    · intro hend
      apply hsending.patient hdue
      · intro hneg
        omega
      · exact fun _ => hend
    · intro hpatient
      -- a wait that was capped speaks for itself, any other was long enough
      by_cases hcap : min (ceilMillis remaining) int32Max = int32Max
      · exact hpatient.timedOut ((hevents _).mpr hcap.symm)
      · exact hlate _ hcap hfull

theorem waitToSend_triple (describe : Errno → String)
    (hdue : Machine.dueAt timeoutMs start = some deadline) (hmore : sent < data.length)
    (hcalled : w₀.now ≤ start) :
    Triple sendThread (fun _ => True) (Refused data w₀ start deadline sent start)
      (SerialPort.waitToSend describe timeoutMs deadline sent)
      (SendTurned data timeoutMs w₀ start deadline) := by
  unfold SerialPort.waitToSend
  obtain ⟨hdeadline, _⟩ := machine_dueAt_span hdue
  refine (timeLeft_triple hdue).bind fun remaining =>
    Triple.or_pre ?unlimited (Triple.or_pre ?limited ?undefined)
  case unlimited =>
    apply Triple.assuming
    intro hzero
    apply Triple.at_value
    apply Triple.ite
    · intro h
      exact absurd h (by decide)
    intro _
    apply waitForRoom_triple describe hdue hmore (by omega)
    -- the longest duration is always capped
    intro _ hcap
    exact absurd (by decide) hcap
  case limited =>
    apply Triple.assuming
    intro hbounded
    apply Triple.exists_pre
    intro t
    apply Triple.assuming
    intro ht
    apply Triple.at_value
    apply Triple.ite
    · -- the deadline has passed: late, if there was a time to wait for
      intro hpast
      apply Triple.pure_anywhere
      intro w h
      have hend : w₀.now + timeoutMs * nanosPerMilli ≤ w.now := by
        have hsince : t ≤ w.now := h.since
        have hsum := Int.add_le_add_right hcalled (timeoutMs * nanosPerMilli)
        have hle : deadline ≤ t := Int.le_of_sub_nonpos hpast
        rw [hdeadline] at hle
        exact le_trans hsum (le_trans hle hsince)
      apply h.toSending.short hmore
      rcases lt_or_gt_of_ne hbounded with hneg | hpos
      · apply iff_of_false
        · intro hlate
          omega
        · exact fun hpatient => hpatient.refused hneg h.last
      · apply iff_of_true
        · exact ⟨hpos, hend⟩
        · exact h.patient hdue (by omega)
    intro hahead
    have hpos : 0 < timeoutMs := by
      by_contra hneg
      have hle := Int.mul_nonpos_of_nonpos_of_nonneg (Int.not_lt.mp hneg)
        (by decide : 0 ≤ nanosPerMilli)
      have hlt : t < deadline := Int.lt_of_sub_pos (Int.not_le.mp hahead)
      rw [hdeadline] at hlt
      exact absurd (lt_of_le_of_lt ht hlt) (not_lt.mpr (add_le_of_nonpos_right hle))
    apply waitForRoom_triple describe hdue hmore hpos.le
    intro now huncapped hfull
    refine ⟨hpos, ?_⟩
    -- the milliseconds of a wait that was not capped cover what was left
    rw [min_eq_left (le_of_not_ge fun hge => huncapped (min_eq_right hge))] at hfull
    have hcover := le_trans (Int.add_le_add_left (le_ceilMillis (deadline - t)) t) hfull
    rw [add_sub_cancel, hdeadline] at hcover
    exact le_trans (Int.add_le_add_right hcalled _) hcover
  case undefined =>
    apply Triple.at_value
    exact Triple.pure_anywhere fun _ h => h

theorem Looping.patient (h : Looping data timeoutMs w₀ start deadline sent w)
    (hdue : Machine.dueAt timeoutMs start = some deadline) : Patient timeoutMs w₀ w :=
  h.toSending.patient hdue h.refused fun htimedOut => absurd htimedOut (h.waited _)

theorem Looping.toRefused (h : Looping data timeoutMs w₀ start deadline sent w) :
    Refused data w₀ start deadline sent start (w.noted .refused) := by
  refine ⟨h.toSending.noted (by simp), ?_, List.mem_append_right _ List.mem_cons_self, h.clock⟩
  intro ms
  have := h.waited ms
  simp [SendWorld.noted, this]

/-- A write has accepted `k` bytes more. -/
theorem Looping.took (h : Looping data timeoutMs w₀ start deadline sent w) {k : Nat}
    (hk : k ≤ (data.drop sent).length) :
    Looping data timeoutMs w₀ start deadline (sent + k) (w.took ((data.drop sent).take k)) := by
  refine ⟨⟨?_, ?_, h.called, h.clock, h.first, h.fits⟩, h.waited, h.refused⟩
  · rw [List.length_drop] at hk
    have := h.length
    omega
  · show w.accepted ++ _ = _
    rw [h.stream, List.append_assoc, ← List.take_add]

/-- All bytes are sent. -/
theorem Looping.all (h : Looping data timeoutMs w₀ start deadline sent w)
    (hdue : Machine.dueAt timeoutMs start = some deadline) (hall : ¬ sent < data.length) :
    Sent data timeoutMs w₀ (.ok sent) w := by
  have hcount : ∀ count, (.ok sent : Except Failure Nat) = .ok count → count = sent := by
    intro count h
    cases h
    rfl
  refine ⟨h.toSending.accepts hcount, iff_of_true ⟨by simp, ?_⟩ (h.patient hdue), by simp⟩
  intro count h hshort
  rw [hcount count h] at hshort
  exact absurd hshort hall

theorem writeTurn_triple (describe : Errno → String)
    (hdue : Machine.dueAt timeoutMs start = some deadline) (hcalled : w₀.now ≤ start) :
    Triple sendThread (fun _ => True) (Looping data timeoutMs w₀ start deadline sent)
      (SerialPort.writeTurn describe data timeoutMs deadline sent)
      (SendTurned data timeoutMs w₀ start deadline) := by
  unfold SerialPort.writeTurn
  refine Triple.ite (fun hmore => ?_) fun hall => ?_
  · have hwrite : Triple sendThread (fun _ => True)
        (Looping data timeoutMs w₀ start deadline sent) (.act (.write (data.drop sent)))
        (fun answer w =>
          (∃ k, answer = .accepted (k + 1) ∧
            Looping data timeoutMs w₀ start deadline (sent + (k + 1)) w) ∨
          ((answer = .accepted 0 ∨ answer = .failed .eagain ∨ answer = .failed .ewouldblock) ∧
            Refused data w₀ start deadline sent start w) ∨
          ∃ error, error ≠ .eagain ∧ error ≠ .ewouldblock ∧ answer = .failed error ∧
            Looping data timeoutMs w₀ start deadline sent w) := by
      apply Triple.act stable_looping (fun _ _ => trivial)
      intro w answer w' h hact
      obtain ⟨k, hpos, hk, rfl, rfl⟩ | ⟨hanswer, rfl⟩ | ⟨error, hagain, hblock, rfl, rfl⟩ := hact
      · obtain ⟨k, rfl⟩ := Nat.exists_eq_add_of_le' hpos
        exact .inl ⟨k, rfl, h.took hk⟩
      · exact .inr (.inl ⟨hanswer, h.toRefused⟩)
      · exact .inr (.inr ⟨error, hagain, hblock, rfl, h⟩)
    have hwait := waitToSend_triple describe hdue hmore hcalled
    refine hwrite.bind fun answer => Triple.or_pre ?accepted (Triple.or_pre ?refused ?failed)
    case accepted =>
      apply Triple.exists_pre
      intro k
      apply Triple.at_value
      exact Triple.pure_anywhere fun _ h => h
    case refused =>
      apply Triple.assuming
      intro hanswer
      rcases hanswer with rfl | rfl | rfl
      · exact hwait
      · exact hwait
      · exact hwait
    case failed =>
      apply Triple.exists_pre
      intro error
      apply Triple.assuming
      intro hagain
      apply Triple.assuming
      intro hblock
      apply Triple.at_value
      apply Triple.ite
      · exact fun _ => Triple.pure_anywhere fun _ h => h
      intro _
      rw [if_pos ⟨hagain, hblock⟩]
      apply Triple.pure_anywhere
      intro w h
      exact h.toSending.thrown (h.patient hdue)
  · apply Triple.pure_anywhere
    intro w h
    exact h.all hdue hall

theorem write_triple (describe : Errno → String) (hnew : w₀.events = []) :
    Triple sendThread (fun _ => True) (fun w => w = w₀) (SerialPort.write describe data timeoutMs)
      (Sent data timeoutMs w₀) := by
  unfold SerialPort.write
  -- nothing has happened before the clock is read
  have hstable : Stable sendThread fun w =>
      w₀.now ≤ w.now ∧ w.accepted = w₀.accepted ∧ w.events = [] := by
    intro w w' h henv
    obtain ⟨t, hle, rfl⟩ := henv
    exact ⟨le_trans h.1 hle, h.2⟩
  have hnow : Triple sendThread (fun _ => True) (fun w => w = w₀) (.act .now) (fun start w =>
      w₀.now ≤ start ∧ w.accepted = w₀.accepted ∧ start ≤ w.now ∧ w.events = [.clock start]) := by
    refine Triple.pre (Triple.act hstable (fun _ _ => trivial) ?_) ?_
    · intro w start w' h hact
      obtain ⟨rfl, rfl⟩ := hact
      refine ⟨h.1, h.2.1, le_rfl, ?_⟩
      rw [SendWorld.noted, h.2.2, List.nil_append]
    · intro w hw
      subst hw
      exact ⟨le_rfl, rfl, hnew⟩
  refine hnow.bind fun start => Triple.assuming fun hcalled => ?_
  cases hdue : Machine.dueAt timeoutMs start with
  | none =>
    apply Triple.pure_anywhere
    intro w h
    obtain ⟨haccepted, _, hevents⟩ := h
    have hfirst : w.events.head? = some (.clock start) := by rw [hevents]; rfl
    apply sent_undefined (Nat.zero_le _) (by simp [haccepted]) hfirst
    intro deadline hdeadline
    rw [hdue] at hdeadline
    cases hdeadline
  | some deadline =>
    have hspan := machine_dueAt_span hdue
    refine Triple.pre (Triple.iter (J := Looping data timeoutMs w₀ start deadline) ?_ 0) ?_
    · intro sent
      apply (writeTurn_triple describe hdue hcalled).post
      intro r w h
      cases r with
      | inl sent => exact h
      | inr result => exact h
    · intro w h
      obtain ⟨haccepted, hnow, hevents⟩ := h
      refine ⟨⟨Nat.zero_le _, by simp [haccepted], hcalled, hnow, by rw [hevents]; rfl, ?_⟩, ?_, ?_⟩
      · intro t ht
        rw [hevents] at ht
        cases List.mem_singleton.mp ht
        exact hspan.2
      · simp [hevents]
      · simp [hevents]

end loop

/-! ## Draining -/

/-- What a call to drain leaves, `accepted` having been accepted. -/
def Drained (timeoutMs : Int) (accepted : List Byte) (result : Except Failure Bool)
    (w : SendWorld) : Prop :=
  w.accepted = accepted ∧ (result = .ok true → w.events.getLast? = some .drained) ∧
    (InRange timeoutMs w.events → result ≠ .error .undefined)

section drain
variable {timeoutMs : Int} {accepted : List Byte}

theorem stable_accepted : Stable sendThread fun w => w.accepted = accepted := by
  intro w w' h henv
  obtain ⟨t, _, rfl⟩ := henv
  exact h

/-- What leaves the accepted bytes alone. -/
theorem act_accepted {α : Type} {a : PortIo α}
    (hact : ∀ w r w', SendWorld.perform a w r w' → w'.accepted = w.accepted) :
    Triple sendThread (fun _ => True) (fun w => w.accepted = accepted) (.act a)
      (fun _ w => w.accepted = accepted) :=
  Triple.act stable_accepted (fun _ _ => trivial) fun w r w' h hstep => (hact w r w' hstep).trans h

theorem act_now_accepted : Triple sendThread (fun _ => True) (fun w => w.accepted = accepted)
    (.act .now) (fun _ w => w.accepted = accepted) := by
  apply act_accepted
  intro w r w' h
  obtain ⟨_, rfl⟩ := h
  rfl

theorem queueTurn_triple (timeoutMs : Int) (deadline : Time) (byteTime : Nat) :
    Triple sendThread (fun _ => True) (fun w => w.accepted = accepted)
      (SerialPort.queueTurn timeoutMs deadline byteTime) (fun _ w => w.accepted = accepted) := by
  unfold SerialPort.queueTurn
  have hqueue : Triple sendThread (fun _ => True) (fun w => w.accepted = accepted)
      (.act .outputQueue) (fun _ w => w.accepted = accepted) := by
    apply act_accepted
    intro w r w' h
    obtain rfl : w' = w := h
    rfl
  apply hqueue.bind
  intro queued
  cases queued with
  | none => exact Triple.pure_anywhere fun _ h => h
  | some queued =>
    apply Triple.ite
    · intro _
      have hlate : Triple sendThread (fun _ => True) (fun w => w.accepted = accepted)
          (SerialPort.late timeoutMs deadline) (fun _ w => w.accepted = accepted) := by
        apply Triple.ite
        · exact fun _ => Triple.pure_anywhere fun _ h => h
        · exact fun _ => act_now_accepted.bind fun _ => Triple.pure_anywhere fun _ h => h
      apply hlate.bind
      intro late
      apply Triple.ite
      · exact fun _ => Triple.pure_anywhere fun _ h => h
      intro _
      have hsleep : Triple sendThread (fun _ => True) (fun w => w.accepted = accepted)
          (.act (.sleepFor (byteTime * queued))) (fun _ w => w.accepted = accepted) := by
        apply act_accepted
        intro w r w' h
        obtain rfl : w' = w := h
        rfl
      exact hsleep.bind fun _ => Triple.pure_anywhere fun _ h => h
    · exact fun _ => Triple.pure_anywhere fun _ h => h

theorem drainTurn_triple (describe : Errno → String) :
    Triple sendThread (fun _ => True) (fun w => w.accepted = accepted)
      (SerialPort.drainTurn describe)
      (fun r w => Sum.elim (fun _ => w.accepted = accepted)
        (fun result => Drained timeoutMs accepted result w) r) := by
  unfold SerialPort.drainTurn
  have htcdrain : Triple sendThread (fun _ => True) (fun w => w.accepted = accepted)
      (.act .tcdrain) (fun error w =>
        (error = none ∧ Drained timeoutMs accepted (.ok true) w) ∨
        ∃ code, error = some code ∧ w.accepted = accepted) := by
    apply Triple.act stable_accepted (fun _ _ => trivial)
    intro w error w' h hact
    obtain ⟨rfl, rfl⟩ | ⟨code, rfl, rfl⟩ := hact
    · exact .inl ⟨rfl, h, fun _ => List.getLast?_concat, by simp⟩
    · exact .inr ⟨code, rfl, h⟩
  refine htcdrain.bind fun error => Triple.or_pre ?_ ?_
  · apply Triple.at_value
    exact Triple.pure_anywhere fun _ h => h
  · apply Triple.exists_pre
    intro code
    apply Triple.at_value
    apply Triple.ite
    · intro _
      apply Triple.pure_anywhere
      intro w h
      exact ⟨h, by simp, by simp⟩
    · exact fun _ => Triple.pure_anywhere fun _ h => h

theorem drain_triple (describe : Errno → String) (baudrate : Nat) :
    Triple sendThread (fun _ => True) (fun w => w.accepted = accepted)
      (SerialPort.drain describe baudrate timeoutMs) (Drained timeoutMs accepted) := by
  unfold SerialPort.drain
  have hnow : Triple sendThread (fun _ => True) (fun w => w.accepted = accepted) (.act .now)
      (fun start w => .clock start ∈ w.events ∧ w.accepted = accepted) := by
    apply Triple.act stable_accepted (fun _ _ => trivial)
    intro w start w' h hact
    obtain ⟨rfl, rfl⟩ := hact
    exact ⟨List.mem_append_right _ List.mem_cons_self, h⟩
  apply hnow.bind
  intro start
  cases hdue : Machine.dueAt timeoutMs start with
  | none =>
    apply Triple.pure_anywhere
    intro w h
    refine ⟨h.2, by simp, fun hrange => ?_⟩
    obtain ⟨deadline, hdeadline, _⟩ := hrange start h.1
    rw [hdue] at hdeadline
    cases hdeadline
  | some deadline =>
    apply Triple.pre _ fun w h => h.2
    have hdivide : Triple sendThread (fun _ => True) (fun w => w.accepted = accepted)
        (.act (.divide (1000000 * SerialPort.kWireBitsPerByte) baudrate))
        (fun _ w => w.accepted = accepted) := by
      apply act_accepted
      intro w r w' h
      obtain ⟨_, _, rfl⟩ := h
      rfl
    apply hdivide.bind
    intro byteTime
    have hqueue : Triple sendThread (fun _ => True) (fun w => w.accepted = accepted)
        (.iter (fun _ => SerialPort.queueTurn timeoutMs deadline byteTime) ())
        (fun _ w => w.accepted = accepted) := by
      apply Triple.iter (J := fun _ (w : SendWorld) => w.accepted = accepted)
      intro _
      apply (queueTurn_triple timeoutMs deadline byteTime).post
      intro r w h
      cases r with
      | inl _ => exact h
      | inr _ => exact h
    apply hqueue.bind
    intro left
    apply Triple.ite
    · intro _
      apply Triple.iter (J := fun _ (w : SendWorld) => w.accepted = accepted)
      exact fun _ => drainTurn_triple describe
    · intro _
      apply Triple.pure_anywhere
      intro w h
      exact ⟨h, by simp, by simp⟩

end drain

end GripperDriver

import GripperDriver.Exchange.ProcessImage
import GripperDriver.Framework.Program

/-! # Reading from the Serial Port

    `SerialPort::read` on a POSIX terminal: reads that never block, and `poll` in
    between, until all bytes are there or the deadline has passed.

    * `PortAct`: the system calls, with what they may answer,
    * `SerialPort.read`: the loop,
    * `PortWorld`: a terminal whose peer stays connected; bytes arrive in any chunks, at
      any time, and calls may be interrupted,
    * `read_delivers_iff`: on which runs a call delivers what has arrived.
-/

namespace GripperDriver

open Interleaving Relation

/-! ## System calls -/

inductive Errno where
  | eintr
  | eagain
  | ewouldblock
  | eio
  | other (code : Int)
  deriving DecidableEq, Repr

/-- What `::read` returns: some bytes, or -1. -/
inductive ReadResult where
  | bytes (data : List Byte)
  | failed (error : Errno)
  deriving DecidableEq, Repr

/-- The `revents` of a `pollfd`. -/
structure PollEvents where
  pollIn : Bool := false
  pollOut : Bool := false
  pollErr : Bool := false
  pollNval : Bool := false
  pollHup : Bool := false
  deriving DecidableEq, Repr

inductive PollResult where
  /-- The number of descriptors with events, and the events of this one. -/
  | returned (ready : Nat) (events : PollEvents)
  | failed (error : Errno)
  deriving DecidableEq, Repr

inductive PortAct : Type → Type where
  /-- `std::chrono::steady_clock::now()`. -/
  | now : PortAct Time
  /-- `::read` of up to `count` bytes. -/
  | read (count : Nat) : PortAct ReadResult
  /-- `::poll` is entered. -/
  | enterPoll : PortAct Unit
  /-- It returns, having had a timeout of `ms`. -/
  | poll (ms : Int) : PortAct PollResult

/-! ## The calls -/

inductive WaitResult where
  | ready
  | interrupted
  | timedOut
  deriving DecidableEq, Repr

/-- `INT32_MAX`. -/
def int32Max : Int := 2147483647

namespace SerialPort

def hungUp (context : String) : String := context ++ ": the other end hung up"

section calls
variable (describe : Errno → String)

def failure (context : String) (error : Errno) : String := context ++ ": " ++ describe error

/-- An error is the text of a `SerialIOException`. -/
def waitReady (asked : PollEvents → Bool) (remaining : Time) (context : String) :
    Prog PortAct (Except String WaitResult) := do
  let ms := ceilMillis remaining
  .act .enterPoll
  let result ← .act (.poll (min ms int32Max))
  match result with
  | .failed error =>
    if error = .eintr then pure (.ok .interrupted) else pure (.error (failure describe context error))
  | .returned ready events =>
    if events.pollErr || events.pollNval then pure (.error (failure describe context .eio))
    else if !asked events && events.pollHup then pure (.error (hungUp context))
    else pure (.ok (if ready = 0 then .timedOut else .ready))

/-- What a turn does once a read has found nothing. -/
def waitForInput (deadline : Time) (received : List Byte) :
    Prog PortAct (List Byte × Bool ⊕ Except String (List Byte)) := do
  let now ← .act .now
  if deadline - now ≤ 0 then pure (.inr (.ok received))
  else do
    let result ← waitReady describe PollEvents.pollIn (deadline - now) "waiting for serial input"
    match result with
    | .error text => pure (.inr (.error text))
    | .ok .timedOut => pure (.inr (.ok received))
    | .ok .ready => pure (.inl (received, true))
    | .ok .interrupted => pure (.inl (received, false))

/-- One turn of the loop. The flag is `polledReadable`. -/
def readTurn (size : Nat) (deadline : Time) (state : List Byte × Bool) :
    Prog PortAct (List Byte × Bool ⊕ Except String (List Byte)) :=
  let (received, polledReadable) := state
  if received.length < size then do
    let count ← .act (.read (size - received.length))
    match count with
    | .bytes [] =>
      if polledReadable then pure (.inr (.error (hungUp "reading from the serial port")))
      else waitForInput describe deadline received
    | .bytes (byte :: data) => pure (.inl (received ++ byte :: data, polledReadable))
    | .failed error =>
      if error = .eintr then pure (.inl (received, polledReadable))
      else if error ≠ .eagain ∧ error ≠ .ewouldblock then
        pure (.inr (.error (failure describe "reading from the serial port" error)))
      else waitForInput describe deadline received
  else pure (.inr (.ok received))

/-- `SerialPort::read`, with the bytes that it stores. -/
def read (size : Nat) (timeoutMs : Int) : Prog PortAct (Except String (List Byte)) := do
  let start ← .act .now
  let deadline := start + timeoutMs * nanosPerMilli
  .iter (readTurn describe size deadline) ([], false)

end calls

end SerialPort

/-! ## A terminal whose peer stays -/

/-- What a system call found. -/
inductive PortEvent where
  /-- A read returned so many bytes. -/
  | found (count : Nat)
  | readInterrupted
  /-- A poll reported the port readable. -/
  | ready
  | pollInterrupted
  | timedOut
  deriving DecidableEq, Repr

structure PortWorld where
  now : Time := 0
  /-- Arrived, and not read. -/
  buffered : List Byte := []
  /-- All that has arrived since the call, in order. -/
  arrived : List Byte := []
  /-- When the last `poll` was entered. -/
  pollAt : Time := 0
  events : List PortEvent := []
  deriving DecidableEq, Repr

namespace PortWorld

def noted (w : PortWorld) (e : PortEvent) : PortWorld := { w with events := w.events ++ [e] }

/-- A read returns between one and all of the bytes that it asks for, or none exactly when
    none is buffered; a poll reports the port readable only while a byte is buffered, and
    times out only after its full time without one; either may be interrupted. -/
def perform : {α : Type} → PortAct α → PortWorld → α → PortWorld → Prop
  | _, .now, w, answer, w' => answer = w.now ∧ w' = w
  | _, .read count, w, answer, w' =>
    (answer = .failed .eintr ∧ w' = w.noted .readInterrupted) ∨
    (w.buffered = [] ∧ answer = .bytes [] ∧ w' = w.noted (.found 0)) ∨
    ∃ k, 1 ≤ k ∧ k ≤ count ∧ k ≤ w.buffered.length ∧ answer = .bytes (w.buffered.take k) ∧
      w' = { w with buffered := w.buffered.drop k }.noted (.found k)
  | _, .enterPoll, w, _, w' => w' = { w with pollAt := w.now }
  | _, .poll ms, w, answer, w' =>
    (answer = .failed .eintr ∧ w' = w.noted .pollInterrupted) ∨
    (w.buffered ≠ [] ∧ answer = .returned 1 { pollIn := true } ∧ w' = w.noted .ready) ∨
    (w.buffered = [] ∧ w.pollAt + ms * nanosPerMilli ≤ w.now ∧ answer = .returned 0 {} ∧
      w' = w.noted .timedOut)

end PortWorld

/-- Time passes, and bytes arrive. -/
def portThread : Thread PortWorld PortAct where
  env w w' :=
    (∃ t, w.now ≤ t ∧ w' = { w with now := t }) ∨
      ∃ chunk, w' = { w with buffered := w.buffered ++ chunk, arrived := w.arrived ++ chunk }
  perform := PortWorld.perform

/-! ## What a call should do -/

/-- The call, made at `w`, has returned what has arrived: the first bytes, in order, none
    lost; and fewer than `size` only past the deadline, its last look having found nothing. -/
def Delivers (size : Nat) (timeoutMs : Int) (w : PortWorld) (result : Except String (List Byte))
    (w' : PortWorld) : Prop :=
  ∃ data, result = .ok data ∧ data.length ≤ size ∧
    (∃ later, w'.arrived = w.arrived ++ later ∧ data ++ w'.buffered = w.buffered ++ later) ∧
    (data.length < size → w.now + timeoutMs * nanosPerMilli ≤ w'.now ∧
      (w'.events.getLast? = some (.found 0) ∨ w'.events.getLast? = some .timedOut))

/-- A read found nothing after a poll had reported the port readable. -/
def RanDry (events : List PortEvent) : Prop :=
  ∃ before after, events = before ++ .ready :: after ∧ .found 0 ∈ after

theorem ranDry_concat (events : List PortEvent) (e : PortEvent) :
    RanDry (events ++ [e]) ↔ RanDry events ∨ (.ready ∈ events ∧ e = .found 0) := by
  constructor
  · intro h
    obtain ⟨before, after, hevents, hfound⟩ := h
    -- the empty read is an earlier event, or it is the last one
    rcases List.eq_nil_or_concat after with rfl | ⟨after, last, rfl⟩
    · exact absurd hfound List.not_mem_nil
    rw [List.concat_eq_append] at hevents hfound
    rw [← List.cons_append, ← List.append_assoc] at hevents
    obtain ⟨rfl, hlast⟩ := List.append_inj' hevents rfl
    rcases List.mem_append.mp hfound with hold | hnew
    · exact .inl ⟨before, after, rfl, hold⟩
    · refine .inr ⟨List.mem_append_right _ List.mem_cons_self, ?_⟩
      rw [List.singleton_inj.mp hlast]
      exact (List.mem_singleton.mp hnew).symm
  · intro h
    rcases h with ⟨before, after, rfl, hfound⟩ | ⟨hready, rfl⟩
    · exact ⟨before, after ++ [e], by simp, List.mem_append_left _ hfound⟩
    · obtain ⟨before, after, rfl⟩ := List.append_of_mem hready
      exact ⟨before, after ++ [.found 0], by simp, by simp⟩

/-! ## The loop -/

/-- The invariant of the loop: `received` is what a call made at `w₀` has, `polled` says
    whether a poll has reported the port readable. -/
structure Reading (size : Nat) (w₀ : PortWorld) (start : Int) (received : List Byte)
    (polled : Bool) (w : PortWorld) : Prop where
  stream : ∃ later, w.arrived = w₀.arrived ++ later ∧ received ++ w.buffered = w₀.buffered ++ later
  length : received.length ≤ size
  clock : start ≤ w.now
  flag : polled = true ↔ .ready ∈ w.events
  fresh : ¬ RanDry w.events

section loop
variable {size : Nat} {w₀ w w' : PortWorld} {start : Int} {received : List Byte} {polled : Bool}

theorem Reading.env (h : Reading size w₀ start received polled w)
    (henv : portThread.env w w') :
    Reading size w₀ start received polled w' ∧ w'.events = w.events ∧ w'.pollAt = w.pollAt ∧
      w.now ≤ w'.now := by
  rcases henv with ⟨t, hle, rfl⟩ | ⟨chunk, rfl⟩
  · exact ⟨⟨h.stream, h.length, le_trans h.clock hle, h.flag, h.fresh⟩, rfl, rfl, hle⟩
  · -- the chunk arrives behind everything that has come before it
    obtain ⟨later, harrived, hstream⟩ := h.stream
    refine ⟨⟨⟨later ++ chunk, ?_, ?_⟩, h.length, h.clock, h.flag, h.fresh⟩, rfl, rfl, le_rfl⟩
    · show w.arrived ++ chunk = _
      rw [harrived, List.append_assoc]
    · show received ++ (w.buffered ++ chunk) = _
      rw [← List.append_assoc, hstream, List.append_assoc]

/-- An event that says nothing of the port. -/
theorem Reading.noted (h : Reading size w₀ start received polled w) {e : PortEvent}
    (hready : e ≠ .ready) (hfound : polled = true → e ≠ .found 0) :
    Reading size w₀ start received polled (w.noted e) := by
  refine ⟨h.stream, h.length, h.clock, ?_, ?_⟩
  · show polled = true ↔ .ready ∈ w.events ++ [e]
    rw [List.mem_append, List.mem_singleton, h.flag]
    exact ⟨.inl, fun hor => hor.resolve_right fun heq => hready heq.symm⟩
  · show ¬ RanDry (w.events ++ [e])
    rw [ranDry_concat]
    intro hdry
    -- a read that ran dry now would need the flag, and then it is excluded
    rcases hdry with hold | ⟨hmem, heq⟩
    · exact h.fresh hold
    · exact hfound (h.flag.mpr hmem) heq

/-- The port is readable. -/
theorem Reading.ready (h : Reading size w₀ start received false w) :
    Reading size w₀ start received true (w.noted .ready) := by
  refine ⟨h.stream, h.length, h.clock, ?_, ?_⟩
  · exact ⟨fun _ => List.mem_append_right _ List.mem_cons_self, fun _ => rfl⟩
  · show ¬ RanDry (w.events ++ [.ready])
    rw [ranDry_concat]
    intro hdry
    rcases hdry with hold | ⟨_, heq⟩
    · exact h.fresh hold
    · cases heq

/-- A read has taken `k` bytes. -/
theorem Reading.took (h : Reading size w₀ start received polled w) {k : Nat}
    (hpos : 1 ≤ k) (hcount : k ≤ size - received.length) (hk : k ≤ w.buffered.length) :
    Reading size w₀ start (received ++ w.buffered.take k) polled
      ({ w with buffered := w.buffered.drop k }.noted (.found k)) := by
  -- the bytes move from the buffer to the caller, and the stream stays whole
  have htaken : Reading size w₀ start (received ++ w.buffered.take k) polled
      { w with buffered := w.buffered.drop k } := by
    obtain ⟨later, harrived, hstream⟩ := h.stream
    refine ⟨⟨later, harrived, ?_⟩, ?_, h.clock, h.flag, h.fresh⟩
    · show received ++ w.buffered.take k ++ w.buffered.drop k = _
      rw [List.append_assoc, List.take_append_drop, hstream]
    · have := h.length
      rw [List.length_append, List.length_take]
      omega
  apply htaken.noted (by simp)
  intro _ hzero
  cases hzero
  omega

/-- The call delivers, or it has run dry and throws. -/
def DeliversOrDry (size : Nat) (timeoutMs : Int) (w₀ : PortWorld) (result : Except String (List Byte))
    (w : PortWorld) : Prop :=
  (Delivers size timeoutMs w₀ result w ∧ ¬ RanDry w.events) ∨
    ((∃ text, result = .error text) ∧ RanDry w.events)

/-- What a turn leaves. -/
def Turned (size : Nat) (timeoutMs : Int) (w₀ : PortWorld) (start : Int) :
    List Byte × Bool ⊕ Except String (List Byte) → PortWorld → Prop
  | .inl (received, polled), w => Reading size w₀ start received polled w
  | .inr result, w => DeliversOrDry size timeoutMs w₀ result w

/-- A read has found nothing, and no poll had promised anything; `t` has passed. -/
structure Lacking (size : Nat) (w₀ : PortWorld) (start : Int) (received : List Byte) (t : Int)
    (w : PortWorld) : Prop where
  reading : Reading size w₀ start received false w
  last : w.events.getLast? = some (.found 0)
  since : t ≤ w.now

theorem stable_lacking {t : Int} :
    Stable portThread (Lacking size w₀ start received t) := by
  intro w w' h henv
  obtain ⟨hreading, hevents, _, hnow⟩ := h.reading.env henv
  exact ⟨hreading, hevents ▸ h.last, le_trans h.since hnow⟩

theorem stable_reading :
    Stable portThread (Reading size w₀ start received polled) :=
  fun _ _ h henv => (h.env henv).1

/-- The call ends with what it has, past the deadline. -/
theorem Reading.delivers {timeoutMs : Int}
    (h : Reading size w₀ start received false w) (hstart : w₀.now ≤ start)
    (hlast : w.events.getLast? = some (.found 0) ∨ w.events.getLast? = some .timedOut)
    (hdue : start + timeoutMs * nanosPerMilli ≤ w.now) :
    DeliversOrDry size timeoutMs w₀ (.ok received) w := by
  refine .inl ⟨⟨received, rfl, h.length, h.stream, fun _ => ⟨?_, hlast⟩⟩, h.fresh⟩
  exact le_trans (Int.add_le_add_right hstart _) hdue

/-- The deadline has passed when a poll has taken its full time: the timeout is one that
    `poll` can be given. -/
theorem full_wait {start timeoutMs t pollAt now : Int} (hstart : start ≤ t) (ht : t ≤ pollAt)
    (htimeout : timeoutMs ≤ int32Max)
    (hfull : pollAt + min (ceilMillis (start + timeoutMs * nanosPerMilli - t)) int32Max *
      nanosPerMilli ≤ now) : start + timeoutMs * nanosPerMilli ≤ now := by
  unfold ceilMillis int32Max nanosPerMilli at *
  omega

/-- A poll has timed out. -/
structure Expired (size : Nat) (w₀ : PortWorld) (start : Int) (received : List Byte) (due : Int)
    (w : PortWorld) : Prop where
  reading : Reading size w₀ start received false w
  last : w.events.getLast? = some .timedOut
  due : due ≤ w.now

/-- What `waitReady` has found. It never throws here. -/
def Polled (size : Nat) (w₀ : PortWorld) (start : Int) (received : List Byte) (due : Int) :
    Except String WaitResult → PortWorld → Prop
  | .ok .ready, w => Reading size w₀ start received true w
  | .ok .interrupted, w => Reading size w₀ start received false w
  | .ok .timedOut, w => Expired size w₀ start received due w
  | .error _, _ => False

theorem waitReady_triple (describe : Errno → String) (context : String) {timeoutMs t : Int}
    (htimeout : timeoutMs ≤ int32Max) (ht : start ≤ t) :
    Triple portThread (fun _ => True) (Lacking size w₀ start received t)
      (SerialPort.waitReady describe PollEvents.pollIn (start + timeoutMs * nanosPerMilli - t)
        context)
      (Polled size w₀ start received (start + timeoutMs * nanosPerMilli)) := by
  unfold SerialPort.waitReady
  -- nobody else touches the instant at which poll was entered
  have hstable : Stable portThread fun w =>
      Reading size w₀ start received false w ∧ t ≤ w.pollAt := by
    intro w w' h henv
    obtain ⟨hreading, _, hpoll, _⟩ := h.1.env henv
    exact ⟨hreading, hpoll ▸ h.2⟩
  have henter : Triple portThread (fun _ => True) (Lacking size w₀ start received t)
      (.act .enterPoll) (fun _ w => Reading size w₀ start received false w ∧ t ≤ w.pollAt) := by
    apply Triple.act stable_lacking (fun _ _ => trivial)
    intro w _ w' h hact
    obtain rfl : w' = { w with pollAt := w.now } := hact
    have hr := h.reading
    exact ⟨⟨hr.stream, hr.length, hr.clock, hr.flag, hr.fresh⟩, h.since⟩
  apply henter.bind
  intro _
  have hpoll : Triple portThread (fun _ => True)
      (fun w => Reading size w₀ start received false w ∧ t ≤ w.pollAt)
      (.act (.poll (min (ceilMillis (start + timeoutMs * nanosPerMilli - t)) int32Max)))
      (fun answer w =>
        (answer = .failed .eintr ∧ Reading size w₀ start received false w) ∨
        (answer = .returned 1 { pollIn := true } ∧ Reading size w₀ start received true w) ∨
        (answer = .returned 0 {} ∧
          Expired size w₀ start received (start + timeoutMs * nanosPerMilli) w)) := by
    apply Triple.act hstable (fun _ _ => trivial)
    intro w answer w' h hact
    obtain ⟨rfl, rfl⟩ | ⟨_, rfl, rfl⟩ | ⟨_, hfull, rfl, rfl⟩ := hact
    · exact .inl ⟨rfl, h.1.noted (by simp) (by simp)⟩
    · exact .inr (.inl ⟨rfl, h.1.ready⟩)
    · refine .inr (.inr ⟨rfl, h.1.noted (by simp) (by simp), List.getLast?_concat, ?_⟩)
      exact full_wait ht h.2 htimeout hfull
  -- three answers are left, and each is told apart by the flags alone
  refine hpoll.bind fun answer => Triple.or_pre ?interrupted (Triple.or_pre ?ready ?timedOut)
  case interrupted =>
    apply Triple.at_value
    exact Triple.pure_anywhere fun _ h => h
  case ready =>
    apply Triple.at_value
    exact Triple.pure_anywhere fun _ h => h
  case timedOut =>
    apply Triple.at_value
    exact Triple.pure_anywhere fun _ h => h

/-- The rest of a turn, after a read that has found nothing. -/
theorem waitForInput_triple (describe : Errno → String) {timeoutMs : Int}
    (htimeout : timeoutMs ≤ int32Max) (hstart : w₀.now ≤ start) :
    Triple portThread (fun _ => True) (Lacking size w₀ start received start)
      (SerialPort.waitForInput describe (start + timeoutMs * nanosPerMilli) received)
      (Turned size timeoutMs w₀ start) := by
  unfold SerialPort.waitForInput
  have hnow : Triple portThread (fun _ => True) (Lacking size w₀ start received start)
      (.act .now) (fun t w => start ≤ t ∧ Lacking size w₀ start received t w) := by
    apply Triple.act stable_lacking (fun _ _ => trivial)
    intro w t w' h hact
    obtain ⟨rfl, rfl⟩ := hact
    exact ⟨h.since, h.reading, h.last, le_rfl⟩
  refine hnow.bind fun t => Triple.assuming fun ht => Triple.ite (fun hpast => ?_) fun _ => ?_
  · -- the deadline had passed when the clock was read
    apply Triple.pure_anywhere
    intro w h
    have hdue : start + timeoutMs * nanosPerMilli ≤ t := Int.le_of_sub_nonpos hpast
    exact h.reading.delivers hstart (.inl h.last) (le_trans hdue h.since)
  apply (waitReady_triple describe _ htimeout ht).bind
  intro result
  match result with
  | .error text => exact fun _ _ h => h.elim
  | .ok .ready =>
    exact Triple.pure_anywhere fun _ h => h
  | .ok .interrupted =>
    exact Triple.pure_anywhere fun _ h => h
  | .ok .timedOut =>
    apply Triple.pure_anywhere
    intro w h
    exact h.reading.delivers hstart (.inr h.last) h.due

/-- A read has found nothing where a poll had promised something. -/
theorem Reading.dry (h : Reading size w₀ start received true w) : RanDry (w.noted (.found 0)).events :=
  (ranDry_concat w.events (.found 0)).mpr (.inr ⟨h.flag.mp rfl, rfl⟩)

theorem readTurn_triple (describe : Errno → String) {timeoutMs : Int}
    (htimeout : timeoutMs ≤ int32Max) (hstart : w₀.now ≤ start) :
    Triple portThread (fun _ => True) (Reading size w₀ start received polled)
      (SerialPort.readTurn describe size (start + timeoutMs * nanosPerMilli) (received, polled))
      (Turned size timeoutMs w₀ start) := by
  unfold SerialPort.readTurn
  refine Triple.ite (fun hmore => ?_) fun hfull => ?_
  · have hread : Triple portThread (fun _ => True) (Reading size w₀ start received polled)
        (.act (.read (size - received.length))) (fun answer w =>
          (answer = .failed .eintr ∧ Reading size w₀ start received polled w) ∨
          (answer = .bytes [] ∧ polled = false ∧ Lacking size w₀ start received start w) ∨
          (answer = .bytes [] ∧ polled = true ∧ RanDry w.events) ∨
          ∃ byte data, answer = .bytes (byte :: data) ∧
            Reading size w₀ start (received ++ byte :: data) polled w) := by
      apply Triple.act stable_reading (fun _ _ => trivial)
      intro w answer w' h hact
      obtain ⟨rfl, rfl⟩ | ⟨_, rfl, rfl⟩ | ⟨k, hpos, hcount, hk, rfl, rfl⟩ := hact
      · exact .inl ⟨rfl, h.noted (by simp) (by simp)⟩
      · cases polled with
        | false =>
          refine .inr (.inl ⟨rfl, rfl, h.noted (by simp) (by simp), ?_, h.clock⟩)
          exact List.getLast?_concat
        | true => exact .inr (.inr (.inl ⟨rfl, rfl, h.dry⟩))
      · have htook := h.took hpos hcount hk
        -- k is at least 1, and at most what is buffered
        obtain ⟨byte, data, hdata⟩ : ∃ byte data, w.buffered.take k = byte :: data :=
          List.exists_cons_of_length_pos (by rw [List.length_take]; omega)
        rw [hdata] at htook ⊢
        exact .inr (.inr (.inr ⟨byte, data, rfl, htook⟩))
    -- interrupted, empty, empty after a poll had said otherwise, or some bytes
    refine hread.bind fun answer => Triple.or_pre ?_ (Triple.or_pre ?_ (Triple.or_pre ?_ ?_))
    · apply Triple.at_value
      exact Triple.pure_anywhere fun _ h => h
    · refine Triple.assuming fun hanswer => Triple.assuming fun hpolled => ?_
      subst hanswer hpolled
      exact waitForInput_triple describe htimeout hstart
    · refine Triple.assuming fun hanswer => Triple.assuming fun hpolled => ?_
      subst hanswer hpolled
      apply Triple.pure_anywhere
      intro _ h
      exact .inr ⟨⟨_, rfl⟩, h⟩
    · refine Triple.exists_pre fun byte => Triple.exists_pre fun data => ?_
      apply Triple.at_value
      exact Triple.pure_anywhere fun _ h => h
  · apply Triple.pure_anywhere
    intro w h
    -- nothing is missing any more
    have hlength := h.length
    exact .inl ⟨⟨received, rfl, hlength, h.stream, fun hshort => absurd hshort hfull⟩, h.fresh⟩

theorem read_triple (describe : Errno → String) {timeoutMs : Int}
    (htimeout : timeoutMs ≤ int32Max) (hnew : w₀.events = []) :
    Triple portThread (fun _ => True) (fun w => w = w₀) (SerialPort.read describe size timeoutMs)
      (DeliversOrDry size timeoutMs w₀) := by
  -- no events yet, so that no poll has promised anything
  have hfresh : Reading size w₀ w₀.now [] false w₀ := by
    refine ⟨⟨[], (List.append_nil _).symm, (List.append_nil _).symm⟩, Nat.zero_le size, le_rfl, ?_, ?_⟩
    · rw [hnew]
      simp
    · rw [hnew]
      intro h
      obtain ⟨before, after, heq, _⟩ := h
      cases before <;> cases heq
  unfold SerialPort.read
  have hnow : Triple portThread (fun _ => True) (Reading size w₀ w₀.now [] false) (.act .now)
      (fun start w => w₀.now ≤ start ∧ Reading size w₀ start [] false w) := by
    apply Triple.act stable_reading (fun _ _ => trivial)
    intro w start w' h hact
    obtain ⟨rfl, rfl⟩ := hact
    exact ⟨h.clock, h.stream, h.length, le_rfl, h.flag, h.fresh⟩
  -- the invariant of the loop is `Reading`, turn after turn
  refine Triple.bind (hnow.pre fun w hw => hw ▸ hfresh) fun start => Triple.assuming fun hstart => ?_
  refine Triple.iter (J := fun (state : List Byte × Bool) => Reading size w₀ start state.1 state.2)
    (fun state => ?_) ([], false)
  apply (readTurn_triple describe htimeout hstart).post
  intro r w h
  cases r with
  | inl state => exact h
  | inr result => exact h

end loop

/-! ## When a call delivers -/

/-- A call delivers exactly when no read finds the port empty once a poll has reported it
    readable: `polledReadable` outlives the bytes that the poll spoke of. -/
theorem read_delivers_iff (describe : Errno → String) {size : Nat} {timeoutMs : Int}
    {w w' : PortWorld} {result : Except String (List Byte)} (hnew : w.events = [])
    (htimeout : timeoutMs ≤ int32Max)
    (hrun : Runs portThread (SerialPort.read describe size timeoutMs) w (some result) w') :
    Delivers size timeoutMs w result w' ↔ ¬ RanDry w'.events := by
  have hor := (read_triple describe htimeout hnew).done rfl hrun
  rcases hor with ⟨hdelivers, hfresh⟩ | ⟨⟨text, rfl⟩, hdry⟩
  · exact iff_of_true hdelivers hfresh
  · refine iff_of_false (fun h => ?_) (not_not_intro hdry)
    obtain ⟨data, hdata, _⟩ := h
    cases hdata

/-- The first turn finds nothing, and waits until `chunk` arrives. -/
theorem runs_first_chunk (describe : Errno → String) (byte : Byte) (rest : List Byte) :
    Runs portThread (SerialPort.readTurn describe 2 (0 + 1000 * nanosPerMilli) ([], false)) {}
      (some (.inl ([], true)))
      { buffered := byte :: rest, arrived := byte :: rest, events := [.found 0, .ready] } := by
  have hready : Runs portThread
      (SerialPort.waitReady describe PollEvents.pollIn (0 + 1000 * nanosPerMilli - 0)
        "waiting for serial input")
      { events := [.found 0] } (some (.ok .ready))
      { buffered := byte :: rest, arrived := byte :: rest, events := [.found 0, .ready] } := by
    apply runs_bind (a := ()) (runs_act .refl rfl)
    refine runs_bind (a := .returned 1 { pollIn := true }) ?_ runs_pure
    exact runs_act (.single (.inr ⟨byte :: rest, rfl⟩))
      (.inr (.inl ⟨List.cons_ne_nil byte rest, rfl, rfl⟩))
  refine runs_bind (runs_act .refl (.inr (.inl ⟨rfl, rfl, rfl⟩))) ?_
  exact runs_bind (runs_act .refl ⟨rfl, rfl⟩) (runs_bind hready runs_pure)

/-- Both bytes arrive together: they are delivered. -/
theorem read_delivers_both :
    ∃ w', Runs portThread (SerialPort.read (fun _ => "") 2 1000) {} (some (.ok [7, 8])) w' ∧
      (Delivers 2 1000 {} (.ok [7, 8]) w' ↔ ¬ RanDry w'.events) := by
  have hrun : Runs portThread (SerialPort.read (fun _ => "") 2 1000) {} (some (.ok [7, 8]))
      { arrived := [7, 8], events := [.found 0, .ready, .found 2] } := by
    refine runs_bind (runs_act .refl ⟨rfl, rfl⟩) ?_
    apply runs_iter_again (runs_first_chunk _ 7 [8])
    refine runs_iter_again (y := ([7, 8], true)) ?_ (runs_iter_done runs_pure)
    refine runs_bind (a := .bytes [7, 8]) (runs_act .refl (.inr (.inr ⟨2, ?_⟩))) runs_pure
    decide
  exact ⟨_, hrun, read_delivers_iff _ rfl (by decide) hrun⟩

/-- The second byte is late: the first is thrown away with a hang-up that never was. -/
theorem read_loses_a_first_chunk :
    ¬ ∀ (describe : Errno → String) (size : Nat) (timeoutMs : Int) (w w' : PortWorld)
        (result : Except String (List Byte)),
      w.events = [] → 0 ≤ timeoutMs → timeoutMs ≤ int32Max →
      Runs portThread (SerialPort.read describe size timeoutMs) w (some result) w' →
      Delivers size timeoutMs w result w' := by
  intro hclaim
  have hrun : Runs portThread (SerialPort.read (fun _ => "") 2 1000) {}
      (some (.error "reading from the serial port: the other end hung up"))
      { arrived := [7], events := [.found 0, .ready, .found 1, .found 0] } := by
    refine runs_bind (runs_act .refl ⟨rfl, rfl⟩) ?_
    apply runs_iter_again (runs_first_chunk _ 7 [])
    have htook : Runs portThread
        (SerialPort.readTurn (fun _ => "") 2 (0 + 1000 * nanosPerMilli) ([], true))
        { buffered := [7], arrived := [7], events := [.found 0, .ready] } (some (.inl ([7], true)))
        { arrived := [7], events := [.found 0, .ready, .found 1] } := by
      refine runs_bind (a := .bytes [7]) (runs_act .refl (.inr (.inr ⟨1, ?_⟩))) runs_pure
      decide
    refine runs_iter_again htook (runs_iter_done ?_)
    -- the port is empty, and `polledReadable` is still set
    exact runs_bind (runs_act .refl (.inr (.inl ⟨rfl, rfl, rfl⟩))) runs_pure
  obtain ⟨data, hdata, _⟩ := hclaim _ 2 1000 _ _ _ rfl (by decide) (by decide) hrun
  cases hdata

end GripperDriver

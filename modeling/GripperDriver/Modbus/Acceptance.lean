import GripperDriver.Modbus.Supply
import GripperDriver.Exchange.World

/-! # The Replies that an Exchange Accepts

    One call of `GripperState::exchangeOnce` over a `Serial` of any kind: a read returns
    at most the bytes that it asks for, or throws, and a write may throw.

    * `CycleAct`, `exchangeOnce`: the call as a program,
    * `CycleWorld.serial`: what the `Serial` was asked and what it did,
    * `GoodReply`: every read since the request was served in full, and the bytes are the
      reply to an FC 0x17 request, with its checksum.

    A call returns normally exactly on a good reply (`exchangeOnce_accepts`).
-/

namespace GripperDriver

open Interleaving Relation

/-! ## The serial link, as it was used -/

/-- A read of `size` bytes, and the answer; `none` when it threw. -/
structure ServedRead where
  size : Nat
  answer : Option (List Byte)
  deriving DecidableEq, Repr

inductive SerialEvent where
  | read (r : ServedRead)
  | wrote (data : List Byte) (sent : Bool)
  deriving DecidableEq, Repr

/-- Every byte that was asked for came. -/
def ServedRead.full (r : ServedRead) : Prop := r.answer.map List.length = some r.size

/-- The bytes that came. -/
def bytesOf (reads : List ServedRead) : List Byte := reads.flatMap fun r => r.answer.getD []

/-- The reads since the last write. -/
def served (events : List SerialEvent) : List ServedRead :=
  events.foldl (fun reads e =>
    match e with
    | .read r => reads ++ [r]
    | .wrote _ _ => []) []

/-- The data bytes of a reply to FC 0x17. -/
abbrev ReplyData : Type := Vector Byte (kStatusRegisterCount * 2)

/-- The reads brought a whole reply from the device at `address`, and nothing else. -/
structure GoodReply (address : Byte) (data : ReplyData) (reads : List ServedRead) : Prop where
  full : ∀ r ∈ reads, r.full
  frame : bytesOf reads = withCrc ([address, 23, 6] ++ data.toList)

/-! ## The call -/

inductive CycleAct : Type → Type where
  /-- `Serial::read`. -/
  | read (size : Nat) (timeoutMs : Int) : CycleAct (Option (List Byte))
  /-- `Serial::write`. -/
  | write (data : List Byte) : CycleAct Bool
  /-- `ProcessImage::command`. -/
  | command : CycleAct GripperCommand
  | now : CycleAct Time
  /-- `_consecutiveFailures.fetch_add(1)`. -/
  | countFailure : CycleAct (BitVec 32)
  | clearFailures : CycleAct Unit
  /-- `_connectionState.exchange`. -/
  | turn (state : ConnectionState) : CycleAct ConnectionState
  /-- `ProcessImage::publish`. -/
  | publish (command : GripperCommand) (status : GripperStatus) (completedAt : Time) : CycleAct Unit
  | log (line : LogLine) : CycleAct Unit

/-- What the client does to its `Serial`. -/
def CycleAct.serial : {α : Type} → SerialAct α → CycleAct α
  | _, .read size timeoutMs => .read size timeoutMs
  | _, .write data => .write data

def logIf (condition : Bool) (line : LogLine) : Prog CycleAct Unit :=
  if condition then .act (.log line) else pure ()

/-- `GripperState::exchangeOnce`; an error is the exception that it lets through. -/
def exchangeOnce (nmbs : Nmbs) : Prog CycleAct (Except String Unit × Nmbs) := do
  let commandCopy ← .act .command
  let (result, nmbs) ← (exchange commandCopy nmbs).embed CycleAct.serial
  match result with
  | .error text => do
    let failures ← .act .countFailure
    if kFaultThreshold ≤ (failures + 1).toNat then do
      let before ← .act (.turn .faulted)
      logIf (before ≠ .faulted) linkFaulted
      pure (.error text, nmbs)
    else pure (.error text, nmbs)
  | .ok freshStatus => do
    let completedAt ← .act .now
    .act .clearFailures
    let before ← .act (.turn .operational)
    .act (.publish commandCopy freshStatus completedAt)
    logIf (before = .faulted) linkRecovered
    pure (.ok (), nmbs)

/-! ## What it shares -/

structure CycleWorld where
  image : ProcessImage := {}
  connectionState : ConnectionState := .operational
  consecutiveFailures : BitVec 32 := 0
  now : Time := 0
  serial : List SerialEvent := []
  /-- What the other threads have set. -/
  sets : List GripperCommand := []
  log : List LogLine := []

namespace CycleWorld

/-- The `Serial` may do anything that its interface allows. -/
def perform : {α : Type} → CycleAct α → CycleWorld → α → CycleWorld → Prop
  | _, .read size _, w, answer, w' =>
    (∀ data, answer = some data → data.length ≤ size) ∧
      w' = { w with serial := w.serial ++ [.read ⟨size, answer⟩] }
  | _, .write data, w, sent, w' =>
    w' = { w with serial := w.serial ++ [.wrote data sent] }
  | _, .command, w, answer, w' => answer = w.image.command ∧ w' = w
  | _, .now, w, answer, w' => answer = w.now ∧ w' = w
  | _, .countFailure, w, answer, w' =>
    answer = w.consecutiveFailures ∧
      w' = { w with consecutiveFailures := w.consecutiveFailures + 1 }
  | _, .clearFailures, w, _, w' => w' = { w with consecutiveFailures := 0 }
  | _, .turn state, w, answer, w' =>
    answer = w.connectionState ∧ w' = { w with connectionState := state }
  | _, .publish c st t, w, _, w' => w' = { w with image := w.image.publish c st t }
  | _, .log line, w, _, w' => w' = { w with log := w.log ++ [line] }

end CycleWorld

/-- Meanwhile other threads may set commands, and time passes. -/
def cycleThread : Thread CycleWorld CycleAct where
  env w w' :=
    (∃ c, w' = { w with image := w.image.setCommand c, sets := w.sets ++ [c] }) ∨
      ∃ t, w.now ≤ t ∧ w' = { w with now := t }
  perform := CycleWorld.perform

/-- The part of it that the client drives. -/
def serialThread : Thread CycleWorld SerialAct := cycleThread.pull CycleAct.serial

/-! ## The reads of one call -/

theorem foldl_served (reads acc : List ServedRead) :
    (reads.map SerialEvent.read).foldl (fun reads e =>
      match e with
      | .read r => reads ++ [r]
      | .wrote _ _ => []) acc = acc ++ reads := by
  induction reads generalizing acc with
  | nil => simp
  | cons r reads ih =>
    rw [List.map_cons, List.foldl_cons, ih, List.append_assoc]
    rfl

/-- The events of one call: the drain, the request, and what was read after it. -/
def callEvents (drain : ServedRead) (frame : List Byte) (sent : Bool) (reads : List ServedRead) :
    List SerialEvent :=
  .read drain :: .wrote frame sent :: reads.map .read

theorem served_callEvents (base : List SerialEvent) (drain : ServedRead) (frame : List Byte)
    (sent : Bool) (reads : List ServedRead) :
    served (base ++ callEvents drain frame sent reads) = reads := by
  unfold served callEvents
  rw [List.foldl_append, List.foldl_cons, List.foldl_cons, foldl_served]
  exact List.nil_append reads

theorem callEvents_concat (drain : ServedRead) (frame : List Byte) (sent : Bool)
    (reads : List ServedRead) (r : ServedRead) :
    callEvents drain frame sent (reads ++ [r]) = callEvents drain frame sent reads ++ [.read r] := by
  simp [callEvents]

@[simp] theorem bytesOf_concat (reads : List ServedRead) (r : ServedRead) :
    bytesOf (reads ++ [r]) = bytesOf reads ++ r.answer.getD [] := by
  simp [bytesOf]

section call
variable {w₀ : CycleWorld}

/-- Since `w₀` the others have done what they do to the image, and nobody else anything. -/
def OnlySet (w₀ w : CycleWorld) : Prop :=
  ∃ sets, w.sets = w₀.sets ++ sets ∧ w.image = sets.foldl ProcessImage.setCommand w₀.image

/-- So far, and the serial link has come to `φ`. -/
def SerialAt (w₀ : CycleWorld) (φ : List SerialEvent → Prop) (w : CycleWorld) : Prop :=
  OnlySet w₀ w ∧ φ w.serial

theorem onlySet_env {w w' : CycleWorld} (h : OnlySet w₀ w) (henv : cycleThread.env w w') :
    OnlySet w₀ w' := by
  obtain ⟨sets, hsets, himage⟩ := h
  -- the others set commands, or time passes
  rcases henv with ⟨c, rfl⟩ | ⟨t, _, rfl⟩
  · refine ⟨sets ++ [c], ?_, ?_⟩
    · rw [← List.append_assoc, ← hsets]
    · rw [List.foldl_append, ← himage]
      rfl
  · exact ⟨sets, hsets, himage⟩

theorem serial_env {w w' : CycleWorld} (henv : cycleThread.env w w') : w'.serial = w.serial := by
  obtain ⟨c, rfl⟩ | ⟨t, _, rfl⟩ := henv <;> rfl

variable {φ : List SerialEvent → Prop}

theorem lasting_serialAt : Lasting serialThread (fun _ => True) (SerialAt w₀ φ) := by
  refine ⟨?_, fun _ _ => trivial⟩
  intro w w' hw henv
  exact ⟨onlySet_env hw.1 henv, (serial_env henv).symm ▸ hw.2⟩

theorem SerialAt.mono {ψ : List SerialEvent → Prop} {w : CycleWorld} (h : SerialAt w₀ φ w)
    (hφ : ∀ events, φ events → ψ events) : SerialAt w₀ ψ w :=
  ⟨h.1, hφ _ h.2⟩

/-- A read is recorded, and its answer handed on: it is no longer than was asked for. -/
theorem readSerial_triple (count : Nat) (timeoutMs : Int) :
    Triple serialThread (fun _ => True) (SerialAt w₀ φ) (readSerial count timeoutMs)
      (fun answer => SerialAt w₀ fun events =>
        ∃ before, φ before ∧ events = before ++ [.read ⟨count, answer⟩]) := by
  unfold readSerial
  refine Triple.bind (Q := fun answer w => (∀ data, answer = some data → data.length ≤ count) ∧
    SerialAt w₀ (fun events => ∃ before, φ before ∧
      events = before ++ [.read ⟨count, answer⟩]) w) ?_ ?_
  · apply Triple.act lasting_serialAt.1 fun _ _ => trivial
    intro w answer w' hw hread
    obtain ⟨hlength, rfl⟩ := hread
    exact ⟨hlength, hw.1, w.serial, hw.2, rfl⟩
  · intro answer
    apply Triple.assuming
    intro hlength
    -- nothing is cut off: no read answers more than was asked for
    have hanswer : answer.map (List.take count) = answer := by
      cases answer with
      -- the serial port threw
      | none => rfl
      | some data => rw [Option.map_some, List.take_of_length_le (hlength data rfl)]
    rw [hanswer]
    exact Triple.pure_anywhere fun _ hw => hw

theorem writeSerial_triple (frame : List Byte) :
    Triple serialThread (fun _ => True) (SerialAt w₀ φ) (writeSerial frame)
      (fun sent => SerialAt w₀ fun events =>
        ∃ before, φ before ∧ events = before ++ [.wrote frame sent]) := by
  unfold writeSerial
  apply Triple.act lasting_serialAt.1 fun _ _ => trivial
  intro w sent w' hw hwrite
  -- `perform` on a write, with its answer in place
  have hwrite : w' = { w with serial := w.serial ++ [.wrote frame sent] } := hwrite
  subst hwrite
  exact ⟨hw.1, w.serial, hw.2, rfl⟩

/-- The call has come to its reads, all of them served in full, with these bytes. -/
def ReadsSoFar (w₀ : CycleWorld) (frame bytes : List Byte) (events : List SerialEvent) : Prop :=
  ∃ drain reads, events = w₀.serial ++ callEvents drain frame true reads ∧
    (∀ r ∈ reads, r.full) ∧ bytesOf reads = bytes

/-- The call has come as far as its request at least. -/
def Requested (w₀ : CycleWorld) (frame : List Byte) (events : List SerialEvent) : Prop :=
  ∃ drain sent reads, events = w₀.serial ++ callEvents drain frame sent reads

variable {frame bytes : List Byte}

theorem ReadsSoFar.requested {events : List SerialEvent} (h : ReadsSoFar w₀ frame bytes events) :
    Requested w₀ frame events := by
  obtain ⟨drain, reads, hevents, _⟩ := h
  exact ⟨drain, true, reads, hevents⟩

/-- One more read. -/
theorem ReadsSoFar.read {before : List SerialEvent} (h : ReadsSoFar w₀ frame bytes before)
    (r : ServedRead) :
    Requested w₀ frame (before ++ [.read r]) ∧
      (r.full → ReadsSoFar w₀ frame (bytes ++ r.answer.getD []) (before ++ [.read r])) := by
  obtain ⟨drain, reads, rfl, hfull, rfl⟩ := h
  rw [List.append_assoc, ← callEvents_concat]
  refine ⟨⟨drain, true, _, rfl⟩, ?_⟩
  intro hr
  refine ⟨drain, _, rfl, ?_, bytesOf_concat reads r⟩
  intro r' hr'
  -- the reads before were in full, and so is this one
  rcases List.mem_append.mp hr' with hold | hnew
  · exact hfull r' hold
  · rw [List.mem_singleton.mp hnew]
    exact hr

theorem line_reads (w₀ : CycleWorld) (frame : List Byte) :
    Line serialThread (fun _ => True) (SerialAt w₀ (Requested w₀ frame))
      (fun bytes => SerialAt w₀ (ReadsSoFar w₀ frame bytes)) where
  lasting _ := lasting_serialAt
  stops _ _ hw := hw.mono fun _ => ReadsSoFar.requested
  stopped := lasting_serialAt

/-- A `recv` that goes well was served in full. -/
theorem receiver_reads (w₀ : CycleWorld) (frame : List Byte) :
    Receiver serialThread (fun _ => True) (SerialAt w₀ (Requested w₀ frame))
      (fun bytes => SerialAt w₀ (ReadsSoFar w₀ frame bytes)) where
  toLine := line_reads w₀ frame
  recv n count := by
    have hline := line_reads w₀ frame
    unfold recv
    apply ends_state_bind (hline.lasting _)
    apply ends_bind (fun _ => hline.stopped.and _)
      (ends_platform (readSerial_triple count n.byteTimeoutMs) fun _ => lasting_serialAt)
    intro answer _
    apply Triple.at_value
    cases answer with
    | none =>
      apply ends_fail lasting_serialAt
      intro w hw
      refine ⟨rfl, hw.mono ?_⟩
      intro events hs
      obtain ⟨before, hbefore, rfl⟩ := hs
      exact (hbefore.read _).1
    | some data =>
      dsimp only
      by_cases h : data.length = count
      · rw [dif_pos h]
        refine Triple.pre (P := SerialAt w₀ (ReadsSoFar w₀ frame (n.buf ++ data))) ?_ ?_
        · refine receives_bind hline (receives_modify hline rfl rfl) ?_
          intro _ n' _ hn'
          exact receives_pure hline hn'
        · intro w hw
          apply hw.mono
          intro events hs
          obtain ⟨before, hbefore, rfl⟩ := hs
          exact (hbefore.read _).2 (congrArg some h)
      · -- a short read is a timeout: the call has come to its reads, no more is known
        rw [dif_neg h]
        apply ends_fail lasting_serialAt
        intro w hw
        refine ⟨rfl, hw.mono ?_⟩
        intro events hs
        obtain ⟨before, hbefore, rfl⟩ := hs
        exact (hbefore.read _).1

/-! ## What is accepted is a good reply -/

theorem commandRegisters_written (c : GripperCommand) :
    1 ≤ (registersFromBytes kCommandRegisterCount c.data commandRegisters_fit).toList.length ∧
      (registersFromBytes kCommandRegisterCount c.data commandRegisters_fit).toList.length ≤ 0x79 ∧
      kCommandAddress +
        (registersFromBytes kCommandRegisterCount c.data commandRegisters_fit).toList.length ≤
        0x10000 := by
  rw [Vector.length_toList]
  decide

/-- What a call has come to: its events, and a status only from a good reply. -/
def Accepted (w₀ : CycleWorld) (address : Byte) (command : GripperCommand)
    (result : Except String GripperStatus) (w : CycleWorld) : Prop :=
  SerialAt w₀ (Requested w₀ (exchangeRequest address command)) w ∧
    (∀ st, result = .ok st → ∃ data, st = statusOf (registersOf data) ∧
      GoodReply address data (served w.serial)) ∧
    ∀ text, result = .error text → ∃ e, text = failureText "exchange" e

theorem exchange_sound (w₀ : CycleWorld) (command : GripperCommand) (nmbs : Nmbs) :
    Triple serialThread (fun _ => True) (SerialAt w₀ (· = w₀.serial)) (exchange command nmbs)
      (fun r => Accepted w₀ nmbs.destAddressRtu command r.1) := by
  have htransaction := ends_readWriteRegisters
    (receiver_reads w₀ (exchangeRequest nmbs.destAddressRtu command))
    (P := SerialAt w₀ (· = w₀.serial))
    (F := SerialAt w₀ fun events => ∃ drain, events = w₀.serial ++ [.read drain])
    lasting_serialAt lasting_serialAt nmbs kStatusAddress kStatusRegisterCount kCommandAddress _
    (by decide) (commandRegisters_written command) ?_ ?_
  · unfold exchange
    apply htransaction.bind
    intro r
    rcases r with ⟨e | registers, n'⟩
    · -- an error: there is no status to account for
      apply Triple.pure_anywhere
      intro w hw
      refine ⟨hw.2, ?_, ?_⟩
      · intro st hst
        cases hst
      · intro text htext
        exact ⟨e, (Except.error.inj htext).symm⟩
    · apply Triple.pure_anywhere
      intro w hw
      -- the buffer of the library holds what the reads were answered
      obtain ⟨⟨_, data, rfl, hbuf⟩, hreads⟩ := hw
      refine ⟨hreads.mono fun _ => ReadsSoFar.requested, ?_, ?_⟩
      · intro st hst
        obtain ⟨drain, reads, hevents, hfull, hbytes⟩ := hreads.2
        refine ⟨data, (Except.ok.inj hst).symm, ?_⟩
        rw [hevents, served_callEvents]
        exact ⟨hfull, hbytes.trans hbuf⟩
      · intro text htext
        cases htext
  · apply (readSerial_triple kBufferSize 0).post
    intro answer w hw
    apply hw.mono
    intro events h
    obtain ⟨before, rfl, rfl⟩ := h
    exact ⟨_, rfl⟩
  · apply (writeSerial_triple _).post
    intro sent w hw
    cases sent with
    -- the write failed: there are no reads
    | false =>
      apply hw.mono
      intro events h
      obtain ⟨before, ⟨drain, rfl⟩, rfl⟩ := h
      exact ⟨drain, false, [], by rw [List.append_assoc]; rfl⟩
    | true =>
      apply hw.mono
      intro events h
      obtain ⟨before, ⟨drain, rfl⟩, rfl⟩ := h
      exact ⟨drain, [], by rw [List.append_assoc]; rfl, fun _ hr => absurd hr List.not_mem_nil, rfl⟩

/-! ## A good reply is accepted -/

variable {drain : ServedRead} {sent : Bool} {reads : List ServedRead}

/-- The thread in the runs whose serial link comes to `events`. -/
def comingTo (events : List SerialEvent) : Thread CycleWorld SerialAct :=
  serialThread.restrict fun w => w.serial <+: events

theorem lasting_comingTo {events : List SerialEvent} :
    Lasting (comingTo events) (fun _ => True) (SerialAt w₀ φ) :=
  ⟨fun w w' hw henv => lasting_serialAt.1 w w' hw henv.1, fun _ _ => trivial⟩

/-- What is left to be read of a call whose reads are known. -/
def LeftOf (w₀ : CycleWorld) (drain : ServedRead) (frame : List Byte) (sent : Bool)
    (reads : List ServedRead) (rest : List Byte) (events : List SerialEvent) : Prop :=
  ∃ done more, reads = done ++ more ∧ events = w₀.serial ++ callEvents drain frame sent done ∧
    (∀ r ∈ more, r.full) ∧ bytesOf more = rest

/-- The next read is the next of those that are known. -/
theorem LeftOf.read {data rest : List Byte} {before : List SerialEvent} {answer : Option (List Byte)}
    (h : LeftOf w₀ drain frame sent reads (data ++ rest) before)
    (hbegins : before ++ [.read ⟨data.length, answer⟩] <+:
      w₀.serial ++ callEvents drain frame sent reads) :
    answer = some data ∧
      LeftOf w₀ drain frame sent reads rest (before ++ [.read ⟨data.length, answer⟩]) := by
  obtain ⟨done, more, rfl, rfl, hfull, hbytes⟩ := h
  have hall : w₀.serial ++ callEvents drain frame sent (done ++ more) =
      (w₀.serial ++ callEvents drain frame sent done) ++ more.map .read := by
    simp [callEvents]
  -- what comes next is the first of the reads still to come
  rw [hall, List.prefix_append_right_inj] at hbegins
  cases more with
  | nil => exact absurd hbegins (by simp)
  | cons r more =>
    rw [List.map_cons, List.cons_prefix_cons] at hbegins
    obtain rfl : ⟨data.length, answer⟩ = r := SerialEvent.read.inj hbegins.1
    have hr := hfull _ List.mem_cons_self
    obtain ⟨served, rfl, hlength⟩ := Option.map_eq_some_iff.mp hr
    obtain ⟨hdata, hrest⟩ := List.append_inj (hbytes : served ++ bytesOf more = data ++ rest) hlength
    refine ⟨congrArg some hdata, done ++ [⟨data.length, some served⟩], more, by simp, ?_, ?_, hrest⟩
    · rw [callEvents_concat, List.append_assoc]
    · exact fun r' hr' => hfull r' (List.mem_cons_of_mem _ hr')

theorem supply_left (w₀ : CycleWorld) (drain : ServedRead) (frame : List Byte) (sent : Bool)
    (reads : List ServedRead) :
    Supply (comingTo (w₀.serial ++ callEvents drain frame sent reads)) (fun _ => True)
      (fun _ => True) (fun rest => SerialAt w₀ (LeftOf w₀ drain frame sent reads rest)) where
  lasting _ := lasting_comingTo
  read data rest timeoutMs _ := by
    apply readSerial_served
    apply Triple.act lasting_comingTo.1 fun _ _ => trivial
    intro w answer w' hw hread
    obtain ⟨⟨_, rfl⟩, hbegins⟩ := hread
    obtain ⟨hanswer, hleft⟩ := hw.2.read hbegins
    exact ⟨hanswer, hw.1, hleft⟩

/-- **A good reply is accepted**, where the write has not failed. -/
theorem exchange_complete (w₀ : CycleWorld) (command : GripperCommand) (nmbs : Nmbs)
    (data : ReplyData) (hgood : GoodReply nmbs.destAddressRtu data reads) :
    Triple (comingTo (w₀.serial ++
        callEvents drain (exchangeRequest nmbs.destAddressRtu command) sent reads))
      (fun _ => True) (SerialAt w₀ (· = w₀.serial)) (exchange command nmbs)
      (fun r w => r.1 = .ok (statusOf (registersOf data)) ∨
        ∃ frame sent', w.serial = w₀.serial ++ callEvents drain frame sent' []) := by
  -- a run that comes to these events has made this drain and this write
  have hwrote : ∀ (before : ServedRead) frame sent',
      w₀.serial ++ [.read before] ++ [.wrote frame sent'] <+: w₀.serial ++
        callEvents drain (exchangeRequest nmbs.destAddressRtu command) sent reads →
      before = drain ∧ frame = exchangeRequest nmbs.destAddressRtu command ∧ sent' = sent := by
    intro before frame sent' hbegins
    rw [List.append_assoc, List.prefix_append_right_inj] at hbegins
    simpa [callEvents, and_assoc] using hbegins
  -- the request is written whole, and the known reads are served to what follows it
  have htransaction := takes_readWriteRegisters
    (supply_left w₀ drain (exchangeRequest nmbs.destAddressRtu command) sent reads)
    (E := SerialAt w₀ fun events => ∃ frame sent',
      events = w₀.serial ++ callEvents drain frame sent' [])
    (P := SerialAt w₀ (· = w₀.serial))
    (F := SerialAt w₀ fun events => ∃ before, events = w₀.serial ++ [.read before])
    lasting_comingTo lasting_comingTo lasting_comingTo nmbs kStatusAddress kCommandAddress _
    (by decide) (commandRegisters_written command) trivial trivial data ?_ ?_
  · unfold exchange
    apply htransaction.bind
    intro r
    rcases r with ⟨e | registers, n'⟩
    · apply Triple.pure_anywhere
      exact fun w hw => .inr hw.2
    · apply Triple.pure_anywhere
      intro w hw
      left
      rw [hw.1.1]
      rfl
  · apply readSerial_drained
    apply Triple.act lasting_comingTo.1 fun _ _ => trivial
    intro w answer w' hw hread
    obtain ⟨⟨_, rfl⟩, _⟩ := hread
    exact ⟨hw.1, _, congrArg (· ++ _) hw.2⟩
  · unfold writeSerial
    apply Triple.act lasting_comingTo.1 fun _ _ => trivial
    intro w sent' w' hw hwrite
    obtain ⟨hw', hbegins⟩ := hwrite
    have hw' : w' = { w with serial := w.serial ++ [.wrote _ sent'] } := hw'
    subst hw'
    obtain ⟨honly, before, hbefore⟩ := hw
    rw [hbefore] at hbegins
    obtain ⟨rfl, hframe, rfl⟩ := hwrote before _ sent' hbegins
    cases sent' with
    | false =>
      refine ⟨honly, exchangeRequest nmbs.destAddressRtu command, false, ?_⟩
      rw [hbefore, hframe, List.append_assoc]
      rfl
    | true =>
      refine ⟨honly, [], reads, rfl, ?_, hgood.full, hgood.frame⟩
      rw [hbefore, hframe, List.append_assoc]
      rfl

/-! ## The outcome of a call -/

/-- The serial link only records. -/
theorem serial_perform {α : Type} {a : SerialAct α} {w w' : CycleWorld} {answer : α}
    (h : serialThread.perform a w answer w') : w.serial <+: w'.serial := by
  cases a with
  | read size timeoutMs =>
    obtain ⟨_, rfl⟩ := h
    exact List.prefix_append _ _
  | write data =>
    have h : w' = { w with serial := w.serial ++ [.wrote data answer] } := h
    rw [h]
    exact List.prefix_append _ _

theorem exchange_outcome {command : GripperCommand} {nmbs nmbs' : Nmbs} {w w' : CycleWorld}
    {result : Except String GripperStatus} (hw : SerialAt w₀ (· = w₀.serial) w)
    (h : Runs serialThread (exchange command nmbs) w (some (result, nmbs')) w') :
    Accepted w₀ nmbs.destAddressRtu command result w' ∧
      ∀ data, GoodReply nmbs.destAddressRtu data (served w'.serial) →
        result = .ok (statusOf (registersOf data)) := by
  have hsound := (exchange_sound w₀ command nmbs).done hw h
  refine ⟨hsound, ?_⟩
  intro data hgood
  obtain ⟨drain, sent, reads, hevents⟩ := hsound.1.2
  rw [hevents, served_callEvents] at hgood
  -- the same run, among those that come to these events
  have hrestricted := runs_restrict (R := fun u => u.serial <+: w'.serial)
    (fun u v henv hv => serial_env henv ▸ hv)
    (fun a u r v hact hv => (serial_perform hact).trans hv) h List.prefix_rfl
  rw [hevents] at hrestricted
  obtain hok | ⟨frame, sent', hnone⟩ :=
    (exchange_complete w₀ command nmbs data hgood).done hw hrestricted.1
  · exact hok
  · -- nothing was read, and nothing is no reply
    rw [hevents, List.append_cancel_left_eq] at hnone
    have hempty : reads = [] := by simpa [callEvents] using congrArg List.length hnone
    have hframe := congrArg List.length hgood.frame
    rw [hempty] at hframe
    simp [bytesOf, withCrc] at hframe

end call

/-- The bytes of a register are those it was put together from. -/
theorem byte_registersOf {quantity : Nat} (data : Vector Byte (quantity * 2)) (i : Nat)
    (hi : i < quantity * 2) (h : i / 2 < quantity) :
    (if i % 2 = 0 then highByte (registersOf data)[i / 2] else lowByte (registersOf data)[i / 2]) =
      data[i] := by
  rw [registersOf, Vector.getElem_ofFn]
  by_cases heven : i % 2 = 0
  · -- the high byte of the register is an even byte of the data
    have hindex : i / 2 * 2 = i := by omega
    rw [if_pos heven, highByte_packRegister]
    exact getElem_congr_idx hindex
  · have hindex : i / 2 * 2 + 1 = i := by omega
    rw [if_neg heven, lowByte_packRegister]
    exact getElem_congr_idx hindex

/-- **The status of a good reply**: its six data bytes, and ten zeros. -/
theorem data_statusOf (data : ReplyData) :
    (statusOf (registersOf data)).data.toList = data.toList ++ List.replicate 10 0 := by
  rw [statusOf, GripperStatus.data_ofData]
  apply List.ext_getElem
  · rw [Vector.length_toList, List.length_append, Vector.length_toList, List.length_replicate]
    rfl
  · intro i hi _
    rw [Vector.length_toList] at hi
    rw [Vector.getElem_toList]
    by_cases hhead : i / 2 < kStatusRegisterCount
    · -- bytes 0 to 5 are those of the three registers
      have hdata : i < data.toList.length := by
        rw [Vector.length_toList]
        omega
      rw [List.getElem_append_left hdata, Vector.getElem_toList,
        getElem_bytesFromRegisters _ _ i hi hhead, byte_registersOf data i (by omega) hhead]
    · -- the rest has never been written to
      have hdata : data.toList.length ≤ i := by
        rw [Vector.length_toList]
        omega
      rw [List.getElem_append_right hdata, getElem_bytesFromRegisters_past _ _ i hi hhead,
        Vector.getElem_replicate, List.getElem_replicate]

/-! ## The cycle around the call -/

section cycle
variable {w₀ : CycleWorld} {events : List SerialEvent}

theorem stable_serialAt : Stable cycleThread (SerialAt w₀ (· = events)) := by
  intro w w' hw henv
  exact ⟨onlySet_env hw.1 henv, (serial_env henv).trans hw.2⟩

/-- An action that touches neither the image nor the serial link. -/
theorem quiet_triple {α : Type} {a : CycleAct α}
    (h : ∀ w answer w', cycleThread.perform a w answer w' →
      w'.image = w.image ∧ w'.sets = w.sets ∧ w'.serial = w.serial) :
    Triple cycleThread (fun _ => True) (SerialAt w₀ (· = events)) (.act a)
      (fun _ => SerialAt w₀ (· = events)) := by
  apply Triple.act stable_serialAt fun _ _ => trivial
  intro w answer w' hw hact
  obtain ⟨himage, hsets, hserial⟩ := h w answer w' hact
  obtain ⟨⟨sets, hs, hi⟩, hevents⟩ := hw
  exact ⟨⟨sets, hsets.trans hs, himage.trans hi⟩, hserial.trans hevents⟩

/-- An exception goes through, and leaves the image to the others. -/
theorem failed_triple (text : String) (nmbs : Nmbs) :
    Triple cycleThread (fun _ => True) (SerialAt w₀ (· = events))
      (do
        let failures ← .act .countFailure
        if kFaultThreshold ≤ (failures + 1).toNat then do
          let before ← .act (.turn .faulted)
          logIf (before ≠ .faulted) linkFaulted
          pure (.error text, nmbs)
        else pure (.error text, nmbs))
      (fun (r : Except String Unit × Nmbs) w => r.1 = .error text ∧ SerialAt w₀ (· = events) w) := by
  -- the exception goes on, whatever was logged before
  have hdone : Triple cycleThread (fun _ => True) (SerialAt w₀ (· = events))
      (pure (.error text, nmbs) : Prog CycleAct (Except String Unit × Nmbs))
      (fun r w => r.1 = .error text ∧ SerialAt w₀ (· = events) w) :=
    Triple.pure_anywhere fun _ hw => ⟨rfl, hw⟩
  refine (quiet_triple ?_).bind fun failures => ?_
  · intro w answer w' h
    obtain ⟨_, rfl⟩ := h
    exact ⟨rfl, rfl, rfl⟩
  refine Triple.ite (fun _ => ?_) fun _ => hdone
  refine (quiet_triple ?_).bind fun before => ?_
  · intro w answer w' h
    obtain ⟨_, rfl⟩ := h
    exact ⟨rfl, rfl, rfl⟩
  refine Triple.bind (Q := fun _ => SerialAt w₀ (· = events)) ?_ fun _ => hdone
  unfold logIf
  refine Triple.ite (fun _ => quiet_triple ?_) fun _ => ?_
  · intro w answer w' hact
    have hact : w' = { w with log := w.log ++ [linkFaulted] } := hact
    rw [hact]
    exact ⟨rfl, rfl, rfl⟩
  · exact Triple.pure_anywhere fun _ hw => hw

/-- The serial link is done with. -/
def Ended (events : List SerialEvent) (w : CycleWorld) : Prop := w.serial = events

theorem stable_ended : Stable cycleThread (Ended events) :=
  fun _ _ hw henv => (serial_env henv).trans hw

theorem ended_triple {α : Type} {a : CycleAct α}
    (h : ∀ w answer w', cycleThread.perform a w answer w' → w'.serial = w.serial) :
    Triple cycleThread (fun _ => True) (Ended events) (.act a) (fun _ => Ended events) := by
  apply Triple.act stable_ended fun _ _ => trivial
  intro w answer w' hw hact
  exact (h w answer w' hact).trans hw

/-- A status is published, and nothing more is thrown. -/
theorem succeeded_triple (command : GripperCommand) (status : GripperStatus) (nmbs : Nmbs) :
    Triple cycleThread (fun _ => True) (Ended events)
      (do
        let completedAt ← .act .now
        .act .clearFailures
        let before ← .act (.turn .operational)
        .act (.publish command status completedAt)
        logIf (before = .faulted) linkRecovered
        pure (.ok (), nmbs))
      (fun (r : Except String Unit × Nmbs) w => r.1 = .ok () ∧ Ended events w) := by
  -- none of these actions is one of the serial port
  refine (ended_triple ?_).bind fun completedAt => ?_
  · intro w answer w' h
    obtain ⟨_, rfl⟩ := h
    rfl
  refine (ended_triple ?_).bind fun _ => ?_
  · intro w answer w' hact
    have hact : w' = { w with consecutiveFailures := 0 } := hact
    rw [hact]
  refine (ended_triple ?_).bind fun before => ?_
  · intro w answer w' h
    obtain ⟨_, rfl⟩ := h
    rfl
  refine (ended_triple ?_).bind fun _ => ?_
  · intro w answer w' hact
    have hact : w' = { w with image := w.image.publish command status completedAt } := hact
    rw [hact]
  refine Triple.bind (Q := fun _ => Ended events) ?_ fun _ =>
    Triple.pure_anywhere fun _ hw => ⟨rfl, hw⟩
  unfold logIf
  refine Triple.ite (fun _ => ended_triple ?_) fun _ => ?_
  · intro w answer w' hact
    have hact : w' = { w with log := w.log ++ [linkRecovered] } := hact
    rw [hact]
  · exact Triple.pure_anywhere fun _ hw => hw

theorem serialAt_refl (w : CycleWorld) : SerialAt w (· = w.serial) w :=
  ⟨⟨[], (List.append_nil _).symm, rfl⟩, rfl⟩

theorem exchangeOnce_outcome {nmbs nmbs' : Nmbs} {w w' : CycleWorld}
    {result : Except String Unit}
    (h : Runs cycleThread (exchangeOnce nmbs) w (some (result, nmbs')) w') :
    (result = .ok () ↔ ∃ data, GoodReply nmbs.destAddressRtu data (served w'.serial)) ∧
      ∀ text, result = .error text →
        (∃ e, text = failureText "exchange" e) ∧ OnlySet w w' := by
  unfold exchangeOnce at h
  obtain ⟨command, w₁, hcommand, h⟩ := runs_bind_some h
  obtain ⟨⟨status, n₁⟩, w₂, hexchange, h⟩ := runs_bind_some h
  have hstart : SerialAt w (· = w.serial) w₁ := by
    refine (quiet_triple ?_).done (serialAt_refl w) hcommand
    intro u answer u' hs
    obtain ⟨_, rfl⟩ := hs
    exact ⟨rfl, rfl, rfl⟩
  obtain ⟨⟨hevents, hok, herror⟩, hgood⟩ := exchange_outcome hstart (runs_embed.mp hexchange)
  cases status with
  | error text =>
    -- the exchange threw, so that no good reply had been served
    obtain ⟨rfl, hset, hserial⟩ := (failed_triple text n₁).done ⟨hevents.1, rfl⟩ h
    refine ⟨⟨?_, ?_⟩, ?_⟩
    · intro h
      cases h
    · intro hs
      obtain ⟨data, hdata⟩ := hs
      rw [hserial] at hdata
      cases hgood data hdata
    · intro text' htext
      cases htext
      exact ⟨herror text rfl, hset⟩
  | ok st =>
    -- it returned, on a good reply
    obtain ⟨rfl, hserial⟩ := (succeeded_triple command st n₁).done (Eq.refl w₂.serial) h
    refine ⟨⟨fun _ => ?_, fun _ => rfl⟩, fun text htext => absurd htext nofun⟩
    obtain ⟨data, _, hdata⟩ := hok st rfl
    have hserial : w'.serial = w₂.serial := hserial
    exact ⟨data, hserial ▸ hdata⟩

end cycle

/-- **An exchange accepts exactly a good reply.** The client returns a status if and only
    if all that it reads after the request is served in full and is a whole reply from the
    slave, and the status is then that of the reply; else it throws. The cycle around it
    publishes then and only then; else it lets the exception through and leaves record,
    count and command to the other threads. -/
theorem accepts_exactly_good_replies (nmbs : Nmbs) :
    (∀ command w w' result nmbs',
      Runs serialThread (exchange command nmbs) w (some (result, nmbs')) w' →
      ((∃ st, result = .ok st) ↔
        ∃ data, GoodReply nmbs.destAddressRtu data (served w'.serial)) ∧
      (∀ data, GoodReply nmbs.destAddressRtu data (served w'.serial) →
        ∃ st, result = .ok st ∧ st.data.toList = data.toList ++ List.replicate 10 0) ∧
      ∀ text, result = .error text → ∃ e, text = failureText "exchange" e) ∧
    ∀ w w' result nmbs', Runs cycleThread (exchangeOnce nmbs) w (some (result, nmbs')) w' →
      (result = .ok () ↔ ∃ data, GoodReply nmbs.destAddressRtu data (served w'.serial)) ∧
      ∀ text, result = .error text →
        (∃ e, text = failureText "exchange" e) ∧ OnlySet w w' := by
  refine ⟨?_, fun w w' result nmbs' h => exchangeOnce_outcome h⟩
  intro command w w' result nmbs' h
  obtain ⟨⟨_, hok, herror⟩, hgood⟩ := exchange_outcome (serialAt_refl w) h
  refine ⟨⟨?_, ?_⟩, ?_, herror⟩
  · intro hs
    obtain ⟨st, hst⟩ := hs
    obtain ⟨data, _, hdata⟩ := hok st hst
    exact ⟨data, hdata⟩
  · intro hs
    obtain ⟨data, hdata⟩ := hs
    exact ⟨_, hgood data hdata⟩
  · intro data hdata
    exact ⟨_, hgood data hdata, data_statusOf data⟩

/-! ### A good reply -/

/-- What a `Serial` answers; `go` for the actions that leave no choice. -/
inductive SerialChoice where
  | answer (data : Option (List Byte))
  | sent (sent : Bool)
  | go

namespace CycleWorld

/-- The call alone, with a `Serial` that does as chosen. -/
def alone : {α : Type} → CycleAct α → SerialChoice → CycleWorld → Option (α × CycleWorld)
  | _, .read size _, .answer data, w =>
    if (data.getD []).length ≤ size then
      some (data, { w with serial := w.serial ++ [.read ⟨size, data⟩] })
    else none
  | _, .write data, .sent sent, w =>
    some (sent, { w with serial := w.serial ++ [.wrote data sent] })
  | _, .command, .go, w => some (w.image.command, w)
  | _, .now, .go, w => some (w.now, w)
  | _, .countFailure, .go, w =>
    some (w.consecutiveFailures, { w with consecutiveFailures := w.consecutiveFailures + 1 })
  | _, .clearFailures, .go, w => some ((), { w with consecutiveFailures := 0 })
  | _, .turn state, .go, w => some (w.connectionState, { w with connectionState := state })
  | _, .publish c st t, .go, w => some ((), { w with image := w.image.publish c st t })
  | _, .log line, .go, w => some ((), { w with log := w.log ++ [line] })
  | _, _, _, _ => none

theorem alone_runs {α : Type} (act : CycleAct α) (choice : SerialChoice) (w : CycleWorld) (r : α)
    (w' : CycleWorld) (h : alone act choice w = some (r, w')) :
    ∃ w₁, ReflTransGen cycleThread.env w w₁ ∧ cycleThread.perform act w₁ r w' := by
  refine ⟨w, .refl, ?_⟩
  cases choice with
  -- each choice fits one kind of action, and every other pair is refused
  | answer data =>
    cases act with
    | read size timeoutMs =>
      simp only [alone, Option.ite_none_right_eq_some, Option.some.injEq, Prod.mk.injEq] at h
      obtain ⟨hlength, rfl, rfl⟩ := h
      exact ⟨fun bytes hbytes => by rwa [hbytes] at hlength, rfl⟩
    | _ => cases h
  | sent sent =>
    cases act with
    | write data =>
      cases h
      exact rfl
    | _ => cases h
  | go =>
    cases act with
    | read | write => cases h
    | command | now | countFailure | turn =>
      cases h
      exact ⟨rfl, rfl⟩
    | clearFailures | publish | log =>
      cases h
      exact rfl

end CycleWorld

/-- A whole reply from the device at address 9. -/
def goodReply : List SerialChoice :=
  [.go, .answer (some []), .sent true, .answer (some [9]), .answer (some [23]), .answer (some [6]),
    .answer (some [1, 2, 3, 4, 5, 6]),
    .answer (some (put2 (nmbsCrcCalc [9, 23, 6, 1, 2, 3, 4, 5, 6]))), .go, .go, .go, .go]

theorem accepts_good_reply : ∃ w' nmbs',
    Runs cycleThread (exchangeOnce (clientNmbs 100 9)) {} (some (.ok (), nmbs')) w' ∧
      ∃ data, GoodReply 9 data (served w'.serial) := by
  have hreplay : ((exchangeOnce (clientNmbs 100 9)).replay CycleWorld.alone {} goodReply).any
      (fun r => r.1.1.isOk) = true := by
    decide +kernel
  obtain ⟨⟨⟨result, nmbs'⟩, w', rest⟩, hrun, hok⟩ := (Option.any_eq_true _ _).mp hreplay
  rcases result with e | ⟨⟩
  · cases hok
  · have hrun := runs_of_replay CycleWorld.alone_runs hrun
    exact ⟨w', nmbs', hrun,
      ((accepts_exactly_good_replies (clientNmbs 100 9)).2 _ _ _ _ hrun).1.mp rfl⟩

end GripperDriver

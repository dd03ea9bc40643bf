import GripperDriver.Modbus.Transactions
import GripperDriver.Exchange.ProcessImage

/-! # Exchanges over a Byte Link

    `GripperModbusClient::exchange`, called again and again by `exchangeOnce`, at one
    end of a first-in-first-out byte link with a device at the other:

    * the link may lose a request, and may lose, shorten or corrupt a reply; what is
      left of the reply arrives byte by byte, as late as it likes,
    * the device answers each request that is delivered to it, once,
    * `Session`: the exchanges of one client, in order, and the records they leave.

    A reply carries no number. It is told from an earlier one by the drain before each
    request: when no byte is still under way at that moment, a status answers the
    command of its own call (`status_answers_command`). A reply that comes later than
    the drain is taken for the next one (`late_reply_taken`).
-/

namespace GripperDriver

open Interleaving Relation

/-! ## The two ends -/

/-- A device on the line. -/
structure Slave where
  State : Type
  address : Byte
  /-- What becomes of it when a request is delivered, and the registers it answers with. -/
  serve : State → List Byte → State × Vector Register kStatusRegisterCount
  /-- It may change by itself between requests. -/
  drifts : State → State → Prop

namespace Slave
variable (slave : Slave)

/-- The reply to `frame`, delivered in state `d`. -/
def reply (d : slave.State) (frame : List Byte) : List Byte :=
  exchangeReply slave.address (slave.serve d frame).2

/-- The status in that reply. -/
def answer (d : slave.State) (frame : List Byte) : GripperStatus :=
  statusOf (slave.serve d frame).2

end Slave

/-- What the link may make of a reply. -/
inductive Received (reply : List Byte) : List Byte → Prop where
  | whole : Received reply reply
  | short {bytes : List Byte} (hlength : bytes.length < reply.length) : Received reply bytes
  /-- No checksum fits. -/
  | corrupt {bytes : List Byte} (hlength : bytes.length = reply.length)
      (hcrc : ∀ body, bytes ≠ withCrc body) : Received reply bytes

/-- A request that was written, and the device as it was delivered to it; `none` when
    the link lost it. -/
structure Request (slave : Slave) where
  frame : List Byte
  found : Option slave.State

inductive LinkEvent (slave : Slave) where
  /-- A read of `count` bytes that does not wait, with `underway` still to arrive. -/
  | drained (count : Nat) (underway : List Byte)
  | requested (request : Request slave)

namespace LinkEvent

def request? {slave : Slave} : LinkEvent slave → Option (Request slave)
  | .drained _ _ => none
  | .requested request => some request

end LinkEvent

/-! ## The link -/

structure LinkWorld (slave : Slave) where
  device : slave.State
  /-- Sent by the device, and not arrived. -/
  underway : List Byte := []
  /-- Arrived, and not read. -/
  arrived : List Byte := []
  trace : List (LinkEvent slave) := []

namespace LinkWorld
variable {slave : Slave}

/-- All that is on the line. -/
def line (w : LinkWorld slave) : List Byte := w.arrived ++ w.underway

def requests (w : LinkWorld slave) : List (Request slave) := w.trace.filterMap LinkEvent.request?

/-- The next byte arrives. -/
def arrive (w : LinkWorld slave) : LinkWorld slave :=
  { w with arrived := w.arrived ++ w.underway.take 1, underway := w.underway.drop 1 }

/-- A read that waits has taken `k` bytes. -/
def take (w : LinkWorld slave) (k : Nat) : LinkWorld slave :=
  { w with arrived := w.arrived.drop k }

/-- A read that does not wait has taken up to `count` bytes. -/
def drain (w : LinkWorld slave) (count : Nat) : LinkWorld slave :=
  { w with
    arrived := w.arrived.drop count
    trace := w.trace ++ [.drained count w.underway] }

/-- A request is lost. -/
def lose (w : LinkWorld slave) (frame : List Byte) : LinkWorld slave :=
  { w with trace := w.trace ++ [.requested ⟨frame, none⟩] }

/-- A request is delivered; `bytes` is what becomes of the reply. -/
def deliver (w : LinkWorld slave) (frame bytes : List Byte) : LinkWorld slave :=
  { w with
    device := (slave.serve w.device frame).1
    underway := w.underway ++ bytes
    trace := w.trace ++ [.requested ⟨frame, some w.device⟩] }

/-- A read that does not wait returns what has arrived, up to its size. One that waits
    may return fewer, or throw, and what it has taken is lost then. A write may throw
    after the request has gone out. -/
def perform : {α : Type} → SerialAct α → LinkWorld slave → α → LinkWorld slave → Prop
  | _, .read count timeoutMs, w, answer, w' =>
    if timeoutMs = 0 then answer = some (w.arrived.take count) ∧ w' = w.drain count
    else ∃ k, (answer = none ∨ k ≤ count ∧ answer = some (w.arrived.take k)) ∧ w' = w.take k
  | _, .write frame, w, _, w' =>
    w' = w.lose frame ∨
      ∃ bytes, Received (slave.reply w.device frame) bytes ∧ w' = w.deliver frame bytes

end LinkWorld

/-- The client's surroundings: bytes arrive, and the device changes by itself. -/
def linkThread (slave : Slave) : Thread (LinkWorld slave) SerialAct where
  env w w' := w' = w.arrive ∨ ∃ d, slave.drifts w.device d ∧ w' = { w with device := d }
  perform := LinkWorld.perform

/-! ## Sessions -/

/-- A call of `exchange`; an error is the description of the exception. -/
structure Call where
  command : GripperCommand
  result : Except String GripperStatus

/-- The status a call has returned, with its command. -/
def Call.answered? (call : Call) : Option (GripperCommand × GripperStatus) :=
  match call.result with
  | .ok st => some (call.command, st)
  | .error _ => none

/-- A client, its link, and what its calls have come to so far. -/
structure ClientSession (slave : Slave) where
  nmbs : Nmbs
  link : LinkWorld slave
  image : ProcessImage := {}
  calls : List Call := []
  records : List StampedExchange := []

namespace ClientSession
variable {slave : Slave}

def setCommand (s : ClientSession slave) (c : GripperCommand) : ClientSession slave :=
  { s with image := s.image.setCommand c }

/-- `exchangeOnce`, when the call for `command` has ended: a status is published, and an
    exception leaves the image as it is. -/
def exchangeOnce (s : ClientSession slave) (command : GripperCommand)
    (result : Except String GripperStatus) (completedAt : Time) : ClientSession slave :=
  let calls := s.calls ++ [⟨command, result⟩]
  match result with
  | .ok st =>
    let image := s.image.publish command st completedAt
    { s with image := image, calls := calls, records := s.records ++ [image.stamped] }
  | .error _ => { s with calls := calls }

end ClientSession

/-- The sessions of a client, from its construction on. -/
inductive Session {slave : Slave} : ClientSession slave → Prop where
  /-- Bytes of earlier transactions may be left on the line, as many as one drain takes. -/
  | start (timeoutMs : Int) (link : LinkWorld slave) (image : ProcessImage)
      (htrace : link.trace = []) (hline : link.line.length ≤ kBufferSize) :
      Session { nmbs := clientNmbs timeoutMs slave.address, link := link, image := image }
  | elapse {s : ClientSession slave} {link : LinkWorld slave} (hs : Session s)
      (henv : (linkThread slave).env s.link link) : Session { s with link := link }
  | setCommand {s : ClientSession slave} (c : GripperCommand) (hs : Session s) :
      Session (s.setCommand c)
  /-- The command is copied first: `c` may have been set since. -/
  | exchangeOnce {s : ClientSession slave} {result : Except String GripperStatus} {nmbs : Nmbs}
      {link : LinkWorld slave} (c : GripperCommand) (completedAt : Time) (hs : Session s)
      (hrun : Runs (linkThread slave) (exchange s.image.command s.nmbs) s.link
        (some (result, nmbs)) link) :
      Session (({ s with nmbs := nmbs, link := link }.setCommand c).exchangeOnce
        s.image.command result completedAt)

/-! ## What is on the line -/

/-- Nothing was under way, if this was the drain before a request. -/
def LinkEvent.prompt {slave : Slave} : LinkEvent slave → Bool
  | .drained count underway => count ≠ kBufferSize || underway.isEmpty
  | .requested _ => true

/-- No byte was still under way when the line was drained before a request. -/
def LinkWorld.Prompt {slave : Slave} (w : LinkWorld slave) : Prop :=
  ∀ e ∈ w.trace, e.prompt = true

instance {slave : Slave} (w : LinkWorld slave) : Decidable w.Prompt :=
  inferInstanceAs (Decidable (∀ e ∈ w.trace, e.prompt = true))

/-- The requests so far, and, if the drains were prompt, what holds of the line. -/
def Told {slave : Slave} (requests : List (Request slave)) (φ : List Byte → Prop)
    (w : LinkWorld slave) : Prop :=
  w.requests = requests ∧ (w.Prompt → φ w.line)

section line
variable {slave : Slave} {w : LinkWorld slave} {reqs : List (Request slave)}
  {φ ψ : List Byte → Prop}

theorem Told.mono (h : Told reqs φ w) (hφ : ∀ line, φ line → ψ line) : Told reqs ψ w :=
  ⟨h.1, fun hprompt => hφ _ (h.2 hprompt)⟩

@[simp] theorem line_arrive : w.arrive.line = w.line := by
  rw [LinkWorld.line, LinkWorld.arrive, List.append_assoc, List.take_append_drop]
  rfl

@[simp] theorem take_append_line (k : Nat) : w.arrived.take k ++ (w.take k).line = w.line := by
  simp [LinkWorld.line, LinkWorld.take, ← List.append_assoc]

@[simp] theorem take_append_drain (k : Nat) : w.arrived.take k ++ (w.drain k).line = w.line :=
  take_append_line k

theorem prompt_earlier {w' : LinkWorld slave} (h : w.trace <+: w'.trace) (hprompt : w'.Prompt) :
    w.Prompt :=
  fun e he => hprompt e (h.subset he)

theorem requests_concat (w : LinkWorld slave) (e : LinkEvent slave) {w' : LinkWorld slave}
    (h : w'.trace = w.trace ++ [e]) : w'.requests = w.requests ++ e.request?.toList := by
  rw [LinkWorld.requests, h, List.filterMap_append, List.filterMap_cons, List.filterMap_nil]
  cases e.request? <;> rfl

/-- Arrivals move no byte past another, and the device keeps off the line. -/
theorem stable_told : Stable (linkThread slave) (Told reqs φ) := by
  intro w w' hw henv
  -- a byte arrives, or the device drifts
  rcases henv with rfl | ⟨d, _, rfl⟩
  · unfold Told
    rw [line_arrive]
    exact hw
  · exact hw

/-- A read that waits takes the front of the line. -/
theorem Told.take (k : Nat) (h : Told reqs φ w) :
    Told reqs (fun line => φ (w.arrived.take k ++ line)) (w.take k) := by
  refine ⟨h.1, fun hprompt => ?_⟩
  show φ (w.arrived.take k ++ (w.take k).line)
  rw [take_append_line]
  exact h.2 hprompt

/-- So does one that does not wait. -/
theorem Told.drain (count : Nat) (h : Told reqs φ w) :
    Told reqs (fun line => φ (w.arrived.take count ++ line)) (w.drain count) := by
  refine ⟨?_, fun hprompt => ?_⟩
  · rw [requests_concat w (.drained count w.underway) rfl]
    simpa [LinkEvent.request?] using h.1
  · show φ (w.arrived.take count ++ (w.drain count).line)
    rw [take_append_drain]
    exact h.2 (prompt_earlier (List.prefix_append _ _) hprompt)

/-- **The drain before a request empties the line**, when it is prompt. -/
theorem Told.flushed (h : Told reqs (fun line => line.length ≤ kBufferSize) w) :
    Told reqs (· = []) (w.drain kBufferSize) := by
  refine ⟨(h.drain kBufferSize).1, fun hprompt => ?_⟩
  -- prompt: nothing was under way when this drain was made
  have hdrain : (LinkEvent.drained kBufferSize w.underway : LinkEvent slave).prompt = true :=
    hprompt _ (by simp [LinkWorld.drain])
  have hunderway : w.underway = [] := by simpa [LinkEvent.prompt] using hdrain
  have hline := h.2 (prompt_earlier (List.prefix_append _ _) hprompt)
  simp only [LinkWorld.line, hunderway, List.append_nil] at hline
  simp [LinkWorld.line, LinkWorld.drain, hunderway, List.drop_eq_nil_of_le hline]

theorem Told.lose (frame : List Byte) (h : Told reqs (· = []) w) :
    Told (reqs ++ [⟨frame, none⟩]) (· = []) (w.lose frame) := by
  refine ⟨?_, fun hprompt => ?_⟩
  · rw [requests_concat w (.requested ⟨frame, none⟩) rfl, h.1]
    rfl
  · exact h.2 (prompt_earlier (List.prefix_append _ _) hprompt)

theorem Told.deliver (frame bytes : List Byte) (h : Told reqs (· = []) w) :
    Told (reqs ++ [⟨frame, some w.device⟩]) (· = bytes) (w.deliver frame bytes) := by
  refine ⟨?_, fun hprompt => ?_⟩
  · rw [requests_concat w (.requested ⟨frame, some w.device⟩) rfl, h.1]
    rfl
  · have hline := h.2 (prompt_earlier (List.prefix_append _ _) hprompt)
    simp only [LinkWorld.line, List.append_eq_nil_iff] at hline
    simp [LinkWorld.line, LinkWorld.deliver, hline]

end line

/-! ## One exchange -/

theorem length_withCrc (body : List Byte) : (withCrc body).length = body.length + 2 := by
  simp [withCrc, put2]

theorem withCrc_injective {body body' : List Byte} (h : withCrc body = withCrc body') :
    body = body' := by
  have hlength := congrArg List.length h
  rw [length_withCrc, length_withCrc] at hlength
  exact (List.append_inj h (by omega)).1

theorem length_exchangeReply (address : Byte) (registers : Vector Register kStatusRegisterCount) :
    (exchangeReply address registers).length = 11 := by
  have hput : ∀ r, (put2 r).length = 2 := fun _ => rfl
  rw [exchangeReply, length_withCrc, List.length_append, List.length_flatMap]
  simp only [hput, List.map_const', Vector.length_toList]
  rfl

theorem Received.length_le {reply bytes : List Byte} (h : Received reply bytes) :
    bytes.length ≤ reply.length := by
  cases h with
  | whole => exact le_rfl
  | short hlength => exact hlength.le
  | corrupt hlength _ => exact hlength.le

/-- **An accepted reply is the whole reply**: what is shorter is not enough, and what is
    corrupted has no checksum. -/
theorem Received.accepted {address : Byte} {registers : Vector Register kStatusRegisterCount}
    {bytes rest : List Byte} {data : Vector Byte (kStatusRegisterCount * 2)}
    (h : Received (exchangeReply address registers) bytes)
    (haccepted : withCrc ([address, 23, 6] ++ data.toList) ++ rest = bytes) :
    registersOf data = registers := by
  have htaken : (withCrc ([address, 23, 6] ++ data.toList)).length = 11 := by
    rw [length_withCrc, List.length_append, Vector.length_toList]
    rfl
  have hle := h.length_le
  rw [length_exchangeReply, ← haccepted, List.length_append, htaken] at hle
  -- the link adds nothing, so that the eleven bytes taken are all there are
  have hrest : rest = [] := List.length_eq_zero_iff.mp (by omega)
  rw [hrest, List.append_nil] at haccepted
  cases h with
  | whole =>
    -- the bytes are the reply, and so is the data in them
    have hbody := withCrc_injective haccepted
    exact registersOf_eq (List.append_cancel_left hbody)
  | short hlength =>
    rw [length_exchangeReply, ← haccepted, htaken] at hlength
    exact absurd hlength (lt_irrefl _)
  | corrupt _ hcrc => exact absurd haccepted.symm (hcrc _)

section exchange
variable {slave : Slave} {reqs : List (Request slave)} {frame : List Byte}

/-- What the link has made of the reply to a request. -/
def Replied (slave : Slave) (frame : List Byte) : Option slave.State → List Byte → Prop
  | none, bytes => bytes = []
  | some d, bytes => Received (slave.reply d frame) bytes

/-- The request for `frame` is out, and `taken` is what has been read since. -/
def Answering (slave : Slave) (reqs : List (Request slave)) (frame taken : List Byte)
    (w : LinkWorld slave) : Prop :=
  ∃ found bytes, Replied slave frame found bytes ∧
    Told (reqs ++ [⟨frame, found⟩]) (fun line => taken ++ line = bytes) w

/-- The request for `frame` is out, and less is left on the line than a drain takes. -/
def Over (slave : Slave) (reqs : List (Request slave)) (frame : List Byte)
    (w : LinkWorld slave) : Prop :=
  ∃ found, Told (reqs ++ [⟨frame, found⟩]) (fun line => line.length ≤ kBufferSize) w

theorem Replied.length_le {found : Option slave.State} {bytes : List Byte}
    (h : Replied slave frame found bytes) : bytes.length ≤ kBufferSize := by
  cases found with
  | none =>
    have hbytes : bytes = [] := h
    rw [hbytes]
    exact Nat.zero_le _
  | some d =>
    -- a reply has eleven bytes, and a drain takes 260
    have hle := Received.length_le h
    rw [Slave.reply, length_exchangeReply] at hle
    exact hle.trans (by decide)

theorem Answering.over {taken : List Byte} {w : LinkWorld slave}
    (h : Answering slave reqs frame taken w) : Over slave reqs frame w := by
  obtain ⟨found, bytes, hreplied, htold⟩ := h
  refine ⟨found, htold.mono fun line hline => ?_⟩
  have hle := hreplied.length_le
  rw [← hline, List.length_append] at hle
  omega

theorem stable_answering {taken : List Byte} :
    Stable (linkThread slave) (Answering slave reqs frame taken) := by
  intro w w' hw henv
  obtain ⟨found, bytes, hreplied, htold⟩ := hw
  exact ⟨found, bytes, hreplied, stable_told w w' htold henv⟩

theorem stable_over : Stable (linkThread slave) (Over slave reqs frame) := by
  intro w w' hw henv
  obtain ⟨found, htold⟩ := hw
  exact ⟨found, stable_told w w' htold henv⟩

theorem Answering.take {taken : List Byte} {w : LinkWorld slave} (k : Nat)
    (h : Answering slave reqs frame taken w) :
    Answering slave reqs frame (taken ++ w.arrived.take k) (w.take k) := by
  obtain ⟨found, bytes, hreplied, htold⟩ := h
  refine ⟨found, bytes, hreplied, (htold.take k).mono fun line hline => ?_⟩
  rw [List.append_assoc]
  exact hline

theorem Answering.drain {taken : List Byte} {w : LinkWorld slave} (count : Nat)
    (h : Answering slave reqs frame taken w) :
    Answering slave reqs frame (taken ++ w.arrived.take count) (w.drain count) := by
  obtain ⟨found, bytes, hreplied, htold⟩ := h
  refine ⟨found, bytes, hreplied, (htold.drain count).mono fun line hline => ?_⟩
  rw [List.append_assoc]
  exact hline

/-- The link serves the bytes of the reply in order. -/
theorem feeds_answering (slave : Slave) (reqs : List (Request slave)) (frame : List Byte) :
    Feeds (linkThread slave) (fun _ => True) (Over slave reqs frame)
      (Answering slave reqs frame) where
  lasting _ := ⟨stable_answering, fun _ _ => trivial⟩
  stops _ _ hs := hs.over
  stopped := ⟨stable_over, fun _ _ => trivial⟩
  read bytes count timeoutMs := by
    unfold readSerial
    apply Triple.bind (Q := Served (Over slave reqs frame) fun data =>
      Answering slave reqs frame (bytes ++ data.take count))
    · apply Triple.act stable_answering fun _ _ => trivial
      intro w answer w' hw hread
      simp only [linkThread, LinkWorld.perform] at hread
      -- a read that does not wait takes what has arrived; any other may time out early
      by_cases htimeout : timeoutMs = 0
      · rw [if_pos htimeout] at hread
        obtain ⟨rfl, rfl⟩ := hread
        show Answering slave reqs frame (bytes ++ (w.arrived.take count).take count) (w.drain count)
        rw [List.take_take, min_self]
        exact hw.drain count
      · rw [if_neg htimeout] at hread
        obtain ⟨k, hanswer, rfl⟩ := hread
        rcases hanswer with rfl | ⟨hk, rfl⟩
        · exact (hw.take k).over
        · show Answering slave reqs frame (bytes ++ (w.arrived.take k).take count) (w.take k)
          rw [List.take_take, min_eq_right hk]
          exact hw.take k
    · intro answer
      cases answer with
      | none => exact Triple.pure_anywhere fun _ hs => hs
      | some data =>
        exact Triple.pure_anywhere fun _ hs => hs

/-- The drain before the request. -/
theorem triple_flush (reqs : List (Request slave)) :
    Triple (linkThread slave) (fun _ => True) (Told reqs fun line => line.length ≤ kBufferSize)
      (readSerial kBufferSize 0) fun _ => Told reqs (· = []) := by
  apply readSerial_drained
  apply Triple.act stable_told fun _ _ => trivial
  intro w answer w' hw hread
  simp only [linkThread, LinkWorld.perform, if_true] at hread
  rw [hread.2]
  exact hw.flushed

/-- The request, whether the write reports it or not. -/
theorem triple_write (reqs : List (Request slave)) (frame : List Byte) :
    Triple (linkThread slave) (fun _ => True) (Told reqs (· = [])) (writeSerial frame)
      fun _ => Answering slave reqs frame [] := by
  unfold writeSerial
  apply Triple.act stable_told fun _ _ => trivial
  intro w sent w' hw hwrite
  simp only [linkThread, LinkWorld.perform] at hwrite
  rcases hwrite with rfl | ⟨bytes, hreceived, rfl⟩
  · -- lost, or delivered with its reply put on the line
    exact ⟨none, [], rfl, hw.lose frame⟩
  · exact ⟨some w.device, bytes, hreceived, hw.deliver frame bytes⟩

/-- What a call has come to: its request, and where it returned, the answer to that. -/
def Answered {slave : Slave} (call : Call) (request : Request slave) : Prop :=
  request.frame = exchangeRequest slave.address call.command ∧
    ∀ st, call.result = .ok st →
      ∃ d, request.found = some d ∧ st = slave.answer d request.frame

/-- **One call**: one request, and a status only from the reply to it. -/
theorem triple_exchange (command : GripperCommand) (n : Nmbs)
    (hdest : n.destAddressRtu = slave.address) :
    Triple (linkThread slave) (fun _ => True) (Told reqs fun line => line.length ≤ kBufferSize)
      (exchange command n)
      fun r w => r.2.destAddressRtu = slave.address ∧ ∃ request,
        Told (reqs ++ [request])
          (fun line => line.length ≤ kBufferSize ∧ Answered ⟨command, r.1⟩ request) w := by
  -- a drain, a request, and a reply taken from the line
  have htransaction := ends_readWriteRegisters
    (feeds_answering slave reqs (exchangeRequest slave.address command)).receiver
    ⟨stable_told, fun _ _ => trivial⟩ ⟨stable_told, fun _ _ => trivial⟩
    n kStatusAddress kStatusRegisterCount kCommandAddress
    (registersFromBytes kCommandRegisterCount command.data commandRegisters_fit).toList (by decide)
    (by rw [Vector.length_toList]; decide) (triple_flush reqs) ?_
  · unfold exchange
    apply htransaction.bind
    intro r
    rcases r with ⟨e | registers, n'⟩
    · -- an error: whatever the request has come to, the call has no status
      apply Triple.pure_anywhere
      intro w hw
      obtain ⟨hsettings, found, htold⟩ := hw
      refine ⟨(congrArg (fun x => x.2.2) hsettings).trans hdest, ⟨_, found⟩,
        htold.mono fun line hline => ⟨hline, rfl, ?_⟩⟩
      intro st hst
      cases hst
    · apply Triple.pure_anywhere
      intro w hw
      obtain ⟨⟨hsettings, data, rfl, hbuf⟩, hanswering⟩ := hw
      obtain ⟨found, bytes, hreplied, htold⟩ := hanswering
      refine ⟨(congrArg (fun x => x.2.2) hsettings).trans hdest, ⟨_, found⟩,
        htold.mono fun line hline => ⟨?_, rfl, ?_⟩⟩
      · -- what is left of the reply is shorter than one drain
        have hle := hreplied.length_le
        rw [← hline, List.length_append] at hle
        omega
      · intro st hst
        have hst : statusOf (registersOf data) = st := Except.ok.inj hst
        rw [hbuf, hdest] at hline
        cases found with
        | none =>
          -- nothing comes back from a request that was lost
          have hbytes : bytes = [] := hreplied
          rw [hbytes] at hline
          have hlength := congrArg List.length hline
          rw [List.length_append, length_withCrc, List.length_nil] at hlength
          omega
        | some d =>
          refine ⟨d, rfl, ?_⟩
          -- the whole reply was taken, so that its registers are the device's
          rw [← hst, Received.accepted hreplied hline]
          rfl
  · rw [hdest]
    apply (triple_write reqs _).post
    intro sent w hw
    cases sent with
    | true => exact hw
    | false => exact hw.over

end exchange

/-! ## Whole sessions -/

section sessions
variable {slave : Slave}

/-- A program only adds to the history of the link. -/
theorem trace_grows {α : Type} {p : Prog SerialAct α} {w w' : LinkWorld slave} {a : α}
    (hrun : Runs (linkThread slave) p w (some a) w') : w.trace <+: w'.trace := by
  -- every action appends to the trace or leaves it
  have hkeeps : Triple (linkThread slave) (fun v => w.trace <+: v.trace)
      (fun v => w.trace <+: v.trace) p fun _ v => w.trace <+: v.trace := by
    apply Triple.keeps
    · intro v v' hv henv
      rcases henv with rfl | ⟨d, _, rfl⟩
      · exact hv
      · exact hv
    · intro β act v answer v' hv hperform
      cases act with
      | read count timeoutMs =>
        simp only [linkThread, LinkWorld.perform] at hperform
        by_cases htimeout : timeoutMs = 0
        · rw [if_pos htimeout] at hperform
          rw [hperform.2]
          exact hv.trans (List.prefix_append _ _)
        · rw [if_neg htimeout] at hperform
          obtain ⟨k, _, rfl⟩ := hperform
          exact hv
      | write frame =>
        simp only [linkThread, LinkWorld.perform] at hperform
        rcases hperform with rfl | ⟨bytes, _, rfl⟩
        · exact hv.trans (List.prefix_append _ _)
        · exact hv.trans (List.prefix_append _ _)
  exact hkeeps.done List.prefix_rfl hrun

/-- What holds after every call of a session. -/
structure InStep (s : ClientSession slave) : Prop where
  address : s.nmbs.destAddressRtu = slave.address
  /-- One drain empties the line, and each call has had its own request. -/
  line : s.link.Prompt → s.link.line.length ≤ kBufferSize
  calls : s.link.Prompt → List.Forall₂ Answered s.calls s.link.requests
  /-- The records are those of the calls that returned. -/
  records : s.records.map (fun r => (r.command, r.status)) = s.calls.filterMap Call.answered?

theorem inStep_start (timeoutMs : Int) (link : LinkWorld slave) (image : ProcessImage)
    (htrace : link.trace = []) (hline : link.line.length ≤ kBufferSize) :
    InStep { nmbs := clientNmbs timeoutMs slave.address, link := link, image := image } where
  address := rfl
  line _ := hline
  calls _ := by
    show List.Forall₂ Answered [] link.requests
    rw [LinkWorld.requests, htrace]
    exact .nil
  records := rfl

theorem InStep.elapse {s : ClientSession slave} {link : LinkWorld slave} (h : InStep s)
    (henv : (linkThread slave).env s.link link) : InStep { s with link := link } := by
  -- both are said of the prompt runs, and outlast the link's own steps
  have hline : Told s.link.requests (fun line => line.length ≤ kBufferSize) link :=
    stable_told s.link link ⟨rfl, h.line⟩ henv
  have hcalls : Told s.link.requests (fun _ => List.Forall₂ Answered s.calls s.link.requests) link :=
    stable_told s.link link ⟨rfl, h.calls⟩ henv
  exact ⟨h.address, hline.2, fun hprompt => hcalls.1 ▸ hcalls.2 hprompt, h.records⟩

theorem exchangeOnce_calls (s : ClientSession slave) (command : GripperCommand)
    (result : Except String GripperStatus) (completedAt : Time) :
    (s.exchangeOnce command result completedAt).calls = s.calls ++ [⟨command, result⟩] := by
  cases result <;> rfl

theorem exchangeOnce_link (s : ClientSession slave) (command : GripperCommand)
    (result : Except String GripperStatus) (completedAt : Time) :
    (s.exchangeOnce command result completedAt).link = s.link := by
  cases result <;> rfl

theorem exchangeOnce_nmbs (s : ClientSession slave) (command : GripperCommand)
    (result : Except String GripperStatus) (completedAt : Time) :
    (s.exchangeOnce command result completedAt).nmbs = s.nmbs := by
  cases result <;> rfl

/-- A record is published exactly when the call has returned, and says what it returned. -/
theorem exchangeOnce_records {s : ClientSession slave} (command : GripperCommand)
    (result : Except String GripperStatus) (completedAt : Time)
    (h : s.records.map (fun r => (r.command, r.status)) = s.calls.filterMap Call.answered?) :
    (s.exchangeOnce command result completedAt).records.map (fun r => (r.command, r.status)) =
      List.filterMap Call.answered? (s.calls ++ [⟨command, result⟩]) := by
  rw [List.filterMap_append, ← h]
  cases result with
  | error e => simp [ClientSession.exchangeOnce, Call.answered?]
  | ok st => simp [ClientSession.exchangeOnce, Call.answered?]

theorem InStep.exchangeOnce {s : ClientSession slave} {result : Except String GripperStatus}
    {nmbs : Nmbs} {link : LinkWorld slave} (c : GripperCommand) (completedAt : Time) (h : InStep s)
    (hrun : Runs (linkThread slave) (exchange s.image.command s.nmbs) s.link
      (some (result, nmbs)) link) :
    InStep (({ s with nmbs := nmbs, link := link }.setCommand c).exchangeOnce
      s.image.command result completedAt) := by
  -- one more request, and one more call that it belongs to
  obtain ⟨haddress, request, htold⟩ :=
    (triple_exchange s.image.command s.nmbs h.address).done ⟨rfl, h.line⟩ hrun
  constructor
  · rw [exchangeOnce_nmbs]
    exact haddress
  · rw [exchangeOnce_link]
    exact fun hprompt => (htold.2 hprompt).1
  · rw [exchangeOnce_link, exchangeOnce_calls]
    intro hprompt
    show List.Forall₂ Answered _ link.requests
    rw [htold.1]
    -- the drains before this call were prompt as well
    have hbefore := h.calls (prompt_earlier (trace_grows hrun) hprompt)
    exact List.rel_append hbefore (.cons (htold.2 hprompt).2 .nil)
  · rw [exchangeOnce_calls]
    exact exchangeOnce_records _ _ _ h.records

theorem Session.inStep {s : ClientSession slave} (h : Session s) : InStep s := by
  induction h with
  | start timeoutMs link image htrace hline => exact inStep_start timeoutMs link image htrace hline
  | elapse _ henv ih => exact ih.elapse henv
  | setCommand c _ ih => exact ⟨ih.address, ih.line, ih.calls, ih.records⟩
  | exchangeOnce c completedAt _ hrun ih => exact ih.exchangeOnce c completedAt hrun

theorem answered?_eq_some {call : Call} {command : GripperCommand} {st : GripperStatus}
    (h : call.answered? = some (command, st)) : call.command = command ∧ call.result = .ok st := by
  unfold Call.answered? at h
  cases hresult : call.result with
  | error e =>
    rw [hresult] at h
    cases h
  | ok st' =>
    rw [hresult] at h
    cases h
    exact ⟨rfl, rfl⟩

/-- A status that a call returned answers the request of that call. -/
theorem answered_of_mem {calls : List Call} {requests : List (Request slave)}
    (h : List.Forall₂ Answered calls requests) {command : GripperCommand} {st : GripperStatus}
    (hmem : (command, st) ∈ calls.filterMap Call.answered?) :
    ∃ d, ⟨exchangeRequest slave.address command, some d⟩ ∈ requests ∧
      st = slave.answer d (exchangeRequest slave.address command) := by
  obtain ⟨call, hcall, hanswered⟩ := List.mem_filterMap.mp hmem
  obtain ⟨rfl, hresult⟩ := answered?_eq_some hanswered
  -- by induction along the calls, each beside its request
  clear hmem hanswered
  induction h with
  | nil => cases hcall
  | @cons first request calls requests hfirst _ ih =>
    -- the first call has the first request, a later call a later one
    rcases List.mem_cons.mp hcall with rfl | hlater
    · obtain ⟨hframe, hstatus⟩ := hfirst
      obtain ⟨d, hfound, hst⟩ := hstatus st hresult
      obtain ⟨frame, found⟩ := request
      obtain rfl : frame = _ := hframe
      obtain rfl : found = _ := hfound
      exact ⟨d, List.mem_cons_self, hst⟩
    · obtain ⟨d, hmem, hst⟩ := ih hlater
      exact ⟨d, List.mem_cons_of_mem _ hmem, hst⟩

/-- **The status of a call is the answer to its own request**, when no reply is so late
    that bytes of it are under way while the line is drained for a later request: each
    call has written one request; where it returned, the device applied that request and
    computed the status; and each record holds such a command and such a status. -/
theorem status_answers_command {slave : Slave} {s : ClientSession slave} (h : Session s)
    (hprompt : s.link.Prompt) :
    List.Forall₂ Answered s.calls s.link.requests ∧
    ∀ r ∈ s.records, ∃ d,
      ⟨exchangeRequest slave.address r.command, some d⟩ ∈ s.link.requests ∧
        r.status = slave.answer d (exchangeRequest slave.address r.command) := by
  have hcalls := h.inStep.calls hprompt
  refine ⟨hcalls, ?_⟩
  intro r hr
  apply answered_of_mem hcalls
  rw [← h.inStep.records]
  exact List.mem_map.mpr ⟨r, hr, rfl⟩

end sessions

/-! ## Replays -/

namespace LinkWorld
variable {slave : Slave}

/-- A link that only delays: `arriving` bytes come in before each action, a read takes
    what has arrived, and no request and no reply is lost. -/
def delayed : {α : Type} → SerialAct α → Nat → LinkWorld slave → Option (α × LinkWorld slave)
  | _, .read count timeoutMs, arriving, w =>
    let w := arrive^[arriving] w
    some (some (w.arrived.take count), if timeoutMs = 0 then w.drain count else w.take count)
  | _, .write frame, arriving, w =>
    let w := arrive^[arriving] w
    some (true, w.deliver frame (slave.reply w.device frame))

theorem arrives (w : LinkWorld slave) (n : Nat) :
    ReflTransGen (linkThread slave).env w (arrive^[n] w) := by
  induction n generalizing w with
  | zero => exact .refl
  | succ n ih => exact .head (Or.inl rfl) (ih w.arrive)

theorem delayed_runs {α : Type} (act : SerialAct α) (arriving : Nat) (w : LinkWorld slave) (r : α)
    (w' : LinkWorld slave) (h : delayed act arriving w = some (r, w')) :
    ∃ w₁, ReflTransGen (linkThread slave).env w w₁ ∧ (linkThread slave).perform act w₁ r w' := by
  -- first the bytes arrive, then the action is taken
  refine ⟨arrive^[arriving] w, arrives w arriving, ?_⟩
  cases act with
  | read count timeoutMs =>
    cases h
    show if timeoutMs = 0 then _ else _
    by_cases htimeout : timeoutMs = 0
    · rw [if_pos htimeout, if_pos htimeout]
      exact ⟨rfl, rfl⟩
    · rw [if_neg htimeout, if_neg htimeout]
      exact ⟨count, Or.inr ⟨le_rfl, rfl⟩, rfl⟩
  | write frame =>
    cases h
    exact Or.inr ⟨_, .whole, rfl⟩

end LinkWorld

namespace ClientSession
variable {slave : Slave}

/-- `exchangeOnce` on a link that only delays. -/
def cycle (s : ClientSession slave) (arriving : List Nat) : Option (ClientSession slave) :=
  ((exchange s.image.command s.nmbs).replay LinkWorld.delayed s.link arriving).map fun r =>
    ({ s with nmbs := r.1.2, link := r.2.1 }.setCommand s.image.command).exchangeOnce
      s.image.command r.1.1 0

theorem cycle_session {s s' : ClientSession slave} {arriving : List Nat} (hs : Session s)
    (h : s.cycle arriving = some s') : Session s' := by
  obtain ⟨r, hr, rfl⟩ := Option.map_eq_some_iff.mp h
  obtain ⟨⟨result, nmbs⟩, link, rest⟩ := r
  exact .exchangeOnce _ 0 hs (runs_of_replay LinkWorld.delayed_runs hr)

end ClientSession

/-- A device at address 9 that answers with the registers it was written. -/
def echo : Slave where
  State := Unit
  address := 9
  serve _ frame := ((), Vector.ofFn fun i : Fin kStatusRegisterCount =>
    packRegister (frame.getD (11 + 2 * i.val) 0) (frame.getD (12 + 2 * i.val) 0))
  drifts _ _ := False

/-- A client at the start, on an empty line. -/
def echoStart : ClientSession echo where
  nmbs := clientNmbs 100 9
  link := { device := () }

theorem echoStart_session : Session echoStart :=
  @Session.start echo 100 { device := () } {} rfl (Nat.zero_le _)

/-- Two exchanges on an empty line. The reply to the first comes after its timeout;
    `arriving` says what comes in during the second. -/
def afterTimeout (arriving : List Nat) : Option (ClientSession echo) :=
  ((echoStart.setCommand { positionRequest := 255 }).cycle [0, 0, 0]).bind fun s =>
    (s.setCommand { positionRequest := 0 }).cycle arriving

theorem afterTimeout_session {arriving : List Nat} {s : ClientSession echo}
    (h : afterTimeout arriving = some s) : Session s := by
  obtain ⟨s₁, hfirst, hsecond⟩ := Option.bind_eq_some_iff.mp h
  have h₁ := ClientSession.cycle_session (.setCommand _ echoStart_session) hfirst
  exact ClientSession.cycle_session (.setCommand _ h₁) hsecond

/-- A reply that comes after the timeout and before the next drain does no harm: the
    drain takes it, and the second call returns its own status. -/
theorem status_answers_command_after_timeout : ∃ s : ClientSession echo,
    s.records.map (fun r => (r.command.positionRequest, r.status.positionRequestEcho)) = [(0, 0)] ∧
    List.Forall₂ Answered s.calls s.link.requests ∧
    ∀ r ∈ s.records, ∃ d,
      ⟨exchangeRequest echo.address r.command, some d⟩ ∈ s.link.requests ∧
        r.status = echo.answer d (exchangeRequest echo.address r.command) := by
  have hrun : (afterTimeout [11, 0, 11, 0, 0, 0, 0]).any (fun s => s.link.Prompt ∧
      s.records.map (fun r => (r.command.positionRequest, r.status.positionRequestEcho)) =
        [(0, 0)]) = true := by
    decide +kernel
  obtain ⟨s, hs, hmet⟩ := (Option.any_eq_true _ _).mp hrun
  obtain ⟨hprompt, hrecords⟩ := of_decide_eq_true hmet
  exact ⟨s, hrecords, status_answers_command (afterTimeout_session hs) hprompt⟩

/-- **A reply that comes after the next drain is taken for the next reply**: the second
    call returns what the device computed for the first, and publishes it. The link has
    lost nothing. -/
theorem late_reply_taken : ∃ s : ClientSession echo, Session s ∧
    ¬ List.Forall₂ Answered s.calls s.link.requests ∧
    ∃ r ∈ s.records, ∀ d, r.status ≠ echo.answer d (exchangeRequest echo.address r.command) := by
  have hrun : (afterTimeout [0, 0, 11, 0, 0, 0, 0]).any (fun s => ∃ r ∈ s.records,
      r.status ≠ echo.answer () (exchangeRequest echo.address r.command)) = true := by
    decide +kernel
  obtain ⟨s, hs, hmet⟩ := (Option.any_eq_true _ _).mp hrun
  obtain ⟨r, hr, hne⟩ := of_decide_eq_true hmet
  have hsession := afterTimeout_session hs
  refine ⟨s, hsession, ?_, r, hr, fun _ => hne⟩
  intro hcalls
  -- were each call answered by its own request, so would this record be
  have hmem : (r.command, r.status) ∈ s.calls.filterMap Call.answered? := by
    rw [← hsession.inStep.records]
    exact List.mem_map.mpr ⟨r, hr, rfl⟩
  obtain ⟨d, _, hst⟩ := answered_of_mem hcalls hmem
  exact hne hst

end GripperDriver

import GripperDriver.Modbus.Server
import GripperDriver.Modbus.Supply

/-! # What the Server Makes of a Good Request

    The library's functions have no loops, so that on the two queues of the server each
    comes to an end; and what they take from a line they take from the queue. A good
    request is handled whole, and leaves its reply.

    * `Transaction.LoopFree`, `Handler.Returns`: that every function returns,
    * `lift_of_takes`: what the library takes from a line, a handler takes from its queue,
    * `deliver_read`, `deliver_write`, `deliver_readWrite`: one for each request of the
      driver.
-/

namespace GripperDriver

open Interleaving Transaction

/-! ## Everything returns -/

section loopFree
variable {α β : Type}

def Transaction.LoopFree (m : Transaction α) : Prop := ∀ n, (m n).LoopFree

theorem loopFree_pure (a : α) : (pure a : Transaction α).LoopFree := fun _ => trivial

theorem loopFree_fail (e : NmbsError) : (fail e : Transaction α).LoopFree := fun _ => trivial

theorem loopFree_state : state.LoopFree := fun _ => trivial

theorem loopFree_modify (g : Nmbs → Nmbs) : (Transaction.modify g).LoopFree := fun _ => trivial

theorem loopFree_bind {m : Transaction α} {f : α → Transaction β} (hm : m.LoopFree)
    (hf : ∀ a, (f a).LoopFree) : (m >>= f).LoopFree := by
  intro n
  refine ⟨hm n, fun r => ?_⟩
  rcases r with ⟨e | a, n'⟩
  · trivial
  · exact hf a n'

theorem loopFree_platform {p : Prog SerialAct α} (hp : p.LoopFree) : (platform p).LoopFree :=
  fun _ => ⟨hp, fun _ => trivial⟩

theorem loopFree_finally {m : Transaction α} (g : Nmbs → Nmbs) (hm : m.LoopFree) :
    (finally_ m g).LoopFree :=
  fun n => ⟨hm n, fun _ => trivial⟩

theorem loopFree_ite {c : Prop} [Decidable c] {m m' : Transaction α} (hm : m.LoopFree)
    (hm' : m'.LoopFree) : (if c then m else m').LoopFree := by
  split
  · exact hm
  · exact hm'

theorem loopFree_readSerial (count : Nat) (timeoutMs : Int) :
    (readSerial count timeoutMs).LoopFree :=
  ⟨trivial, fun _ => trivial⟩

theorem loopFree_recv (count : Nat) : (recv count).LoopFree := by
  apply loopFree_bind loopFree_state
  intro n
  apply loopFree_bind (loopFree_platform (loopFree_readSerial count n.byteTimeoutMs))
  intro data
  cases data with
  | none => exact loopFree_fail _
  | some data =>
    dsimp only
    split
    · exact loopFree_bind (loopFree_modify _) fun _ => loopFree_pure _
    · exact loopFree_fail _

theorem loopFree_recvMsgHeader : recvMsgHeader.LoopFree := by
  apply loopFree_bind loopFree_state
  intro n
  apply loopFree_bind (loopFree_modify _)
  intro _
  apply loopFree_bind (loopFree_finally _ (loopFree_recv 1))
  intro unitId
  apply loopFree_bind (loopFree_modify _)
  intro _
  exact loopFree_bind (loopFree_recv 1) fun _ => loopFree_modify _

theorem loopFree_recvMsgFooter : recvMsgFooter.LoopFree := by
  apply loopFree_bind loopFree_state
  intro n
  exact loopFree_bind (loopFree_recv 2) fun _ => loopFree_ite (loopFree_pure _) (loopFree_fail _)

theorem loopFree_recvResHeader : recvResHeader.LoopFree := by
  apply loopFree_bind loopFree_state
  intro req
  apply loopFree_bind loopFree_recvMsgHeader
  intro _
  apply loopFree_bind loopFree_state
  intro n
  apply loopFree_ite (loopFree_fail _)
  apply loopFree_ite _ (loopFree_pure _)
  apply loopFree_ite _ (loopFree_fail _)
  apply loopFree_bind (loopFree_recv 1)
  intro exception
  apply loopFree_bind loopFree_recvMsgFooter
  intro _
  split <;> exact loopFree_fail _

theorem loopFree_recvReadRegistersRes (quantity : Nat) :
    (recvReadRegistersRes quantity).LoopFree := by
  apply loopFree_bind loopFree_recvResHeader
  intro _
  apply loopFree_bind (loopFree_recv 1)
  intro registersBytes
  apply loopFree_ite (loopFree_fail _)
  apply loopFree_bind (loopFree_recv _)
  intro data
  exact loopFree_bind loopFree_recvMsgFooter fun _ => loopFree_pure _

theorem loopFree_recvWriteMultipleRegistersRes (address quantity : Nat) :
    (recvWriteMultipleRegistersRes address quantity).LoopFree := by
  apply loopFree_bind loopFree_recvResHeader
  intro _
  apply loopFree_bind (loopFree_recv 4)
  intro fields
  apply loopFree_bind loopFree_recvMsgFooter
  intro _
  exact loopFree_ite (loopFree_fail _) (loopFree_ite (loopFree_fail _) (loopFree_pure _))

theorem loopFree_flush : flush.LoopFree :=
  loopFree_bind (loopFree_platform (loopFree_readSerial _ _)) fun _ => loopFree_pure _

theorem loopFree_sendMsg : sendMsg.LoopFree := by
  apply loopFree_bind (loopFree_modify _)
  intro _
  apply loopFree_bind loopFree_state
  intro n
  apply loopFree_bind (loopFree_platform (p := writeSerial n.buf) trivial)
  intro sent
  exact loopFree_ite (loopFree_pure _) (loopFree_fail _)

/-- A request, and what follows it. -/
theorem loopFree_request (fc : Byte) (fields : List Byte) {receive : Transaction α}
    (hreceive : receive.LoopFree) :
    (do msgStateReq fc; putReqHeader; put fields; sendMsg; receive : Transaction α).LoopFree := by
  have hstate : (msgStateReq fc).LoopFree := by
    apply loopFree_bind (loopFree_modify _)
    intro _
    exact loopFree_bind loopFree_flush fun _ => loopFree_modify _
  apply loopFree_bind hstate
  intro _
  apply loopFree_bind (loopFree_modify _)
  intro _
  apply loopFree_bind (loopFree_modify _)
  intro _
  exact loopFree_bind loopFree_sendMsg fun _ => hreceive

end loopFree

section returns
variable {α β : Type}

theorem platform_isSome {α : Type} (a : SerialAct α) (s : GripperServer) :
    (GripperServer.platform a s).isSome := by
  cases a with
  | read count timeoutMs => rfl
  | write data => rfl

def Handler.Returns (m : Handler α) : Prop := ∀ s, ∃ r, m s = some r

theorem returns_pure (a : α) : (pure a : Handler α).Returns := fun _ => ⟨_, rfl⟩

theorem returns_fail (e : NmbsError) : (Handler.fail e : Handler α).Returns := fun _ => ⟨_, rfl⟩

theorem returns_server : Handler.server.Returns := fun _ => ⟨_, rfl⟩

theorem returns_modify (f : GripperServer → GripperServer) : (Handler.modify f).Returns :=
  fun _ => ⟨_, rfl⟩

theorem returns_lift {m : Transaction α} (hm : m.LoopFree) : (Handler.lift m).Returns := by
  intro s
  obtain ⟨r, hr⟩ := eval_isSome platform_isSome (hm s.nmbs) s
  exact ⟨_, congrArg (Option.map _) hr⟩

theorem returns_bind {m : Handler α} {f : α → Handler β} (hm : m.Returns)
    (hf : ∀ a, (f a).Returns) : (m >>= f).Returns := by
  intro s
  rcases hm s with ⟨⟨e | a, s'⟩, hr⟩
  · exact ⟨(.error e, s'), by show (m s).bind _ = _; rw [hr]; rfl⟩
  · obtain ⟨r', hr'⟩ := hf a s'
    exact ⟨r', by show (m s).bind _ = _; rw [hr]; exact hr'⟩

theorem returns_ite {c : Prop} [Decidable c] {m m' : Handler α} (hm : m.Returns)
    (hm' : m'.Returns) : (if c then m else m').Returns := by
  split
  · exact hm
  · exact hm'

/-- A reply is put together and sent, or there is none. -/
theorem returns_reply {m : Transaction Unit} (hm : m.LoopFree) :
    (do let s ← Handler.server; if s.nmbs.broadcast then pure () else Handler.lift m).Returns :=
  returns_bind returns_server fun _ => returns_ite (returns_pure _) (returns_lift hm)

theorem returns_sendExceptionMsg (exception : Byte) : (sendExceptionMsg exception).Returns := by
  apply returns_reply
  apply loopFree_bind (loopFree_modify _)
  intro _
  apply loopFree_bind (loopFree_modify _)
  intro _
  exact loopFree_bind (loopFree_modify _) fun _ => loopFree_sendMsg

/-- A header, some fields, and the message is sent. -/
theorem loopFree_response (fields : List Byte) :
    (do putResHeader; put fields; sendMsg : Transaction Unit).LoopFree := by
  apply loopFree_bind (loopFree_modify _)
  intro _
  exact loopFree_bind (loopFree_modify _) fun _ => loopFree_sendMsg

theorem returns_sendRead (callback : ReadCallback) (address quantity : Nat) :
    (sendRead callback address quantity).Returns := by
  apply returns_bind returns_server
  intro s
  split
  · exact returns_sendExceptionMsg _
  · exact returns_reply (loopFree_response _)

theorem returns_writeThen {quantity : Nat} (address : Nat) (values : Vector Register quantity)
    {reply : Handler Unit} (hreply : reply.Returns) : (writeThen address values reply).Returns := by
  have hwritten : ∀ written, (replyIfWritten reply written).Returns := by
    intro written
    cases written with
    | error e => exact returns_sendExceptionMsg (exceptionOf e)
    | ok a => exact hreply
  intro s
  exact hwritten (s.onWriteMultipleRegisters address values).1
    (s.onWriteMultipleRegisters address values).2

theorem returns_skipReadReply (quantity : Nat) : (skipReadReply quantity).Returns :=
  returns_bind (returns_lift (loopFree_recvReadRegistersRes quantity)) fun _ => returns_pure _

theorem returns_handleReadRegisters (callback : Option ReadCallback) :
    (handleReadRegisters callback).Returns := by
  apply returns_bind (returns_lift (loopFree_recv 4))
  intro fields
  apply returns_bind (returns_lift loopFree_recvMsgFooter)
  intro _
  apply returns_bind returns_server
  intro s
  apply returns_ite (returns_skipReadReply _)
  apply returns_ite (returns_sendExceptionMsg 3)
  apply returns_ite (returns_sendExceptionMsg 2)
  cases callback with
  | none => exact returns_sendExceptionMsg 1
  | some callback => exact returns_sendRead callback _ _

theorem returns_recvRegisterBytes (count : Nat) : (recvRegisterBytes count).Returns := by
  apply returns_bind (returns_lift (loopFree_recv count))
  intro data
  exact returns_bind (returns_modify _) fun _ => returns_pure data

theorem returns_handleWriteMultipleRegisters : handleWriteMultipleRegisters.Returns := by
  apply returns_bind (returns_lift (loopFree_recv 5))
  intro fields
  apply returns_bind (returns_recvRegisterBytes _)
  intro data
  apply returns_ite (returns_fail _)
  apply returns_bind (returns_lift loopFree_recvMsgFooter)
  intro _
  apply returns_bind returns_server
  intro s
  apply returns_ite (returns_lift (loopFree_recvWriteMultipleRegistersRes _ _))
  apply returns_ite (returns_sendExceptionMsg 3)
  apply returns_ite (returns_sendExceptionMsg 2)
  apply returns_ite (returns_sendExceptionMsg 3)
  split
  · exact returns_writeThen _ _ (returns_reply (loopFree_response _))
  · exact returns_sendExceptionMsg 3

theorem returns_handleReadWriteRegisters : handleReadWriteRegisters.Returns := by
  apply returns_bind (returns_lift (loopFree_recv 9))
  intro fields
  apply returns_ite (returns_fail _)
  apply returns_bind (returns_recvRegisterBytes _)
  intro data
  apply returns_bind (returns_lift loopFree_recvMsgFooter)
  intro _
  apply returns_bind returns_server
  intro s
  apply returns_ite (returns_lift (loopFree_recvWriteMultipleRegistersRes _ _))
  apply returns_ite (returns_sendExceptionMsg 3)
  apply returns_ite (returns_sendExceptionMsg 3)
  split
  · apply returns_ite (returns_sendExceptionMsg 2)
    apply returns_ite (returns_sendExceptionMsg 2)
    exact returns_writeThen _ _ (returns_sendRead _ _ _)
  · exact returns_sendExceptionMsg 3

/-- The server returns from every poll, whatever it finds. -/
theorem returns_nmbsServerPoll (others : OtherFunctions) : (nmbsServerPoll others).Returns := by
  have hhandle : (handleReqFc others).Returns := by
    apply returns_bind returns_server
    intro s
    apply returns_ite (returns_handleReadRegisters _)
    apply returns_ite (returns_handleReadRegisters none)
    apply returns_ite returns_handleWriteMultipleRegisters
    apply returns_ite returns_handleReadWriteRegisters
    exact fun s => ⟨_, rfl⟩
  apply returns_bind (returns_modify _)
  intro _
  have hheader : pollHeader.Returns := by
    intro s
    have hrecv : recvReqHeader.Returns :=
      returns_bind (returns_lift loopFree_recvMsgHeader) fun _ => returns_modify _
    obtain ⟨r, hr⟩ := hrecv s
    exact ⟨_, congrArg (Option.map _) hr⟩
  apply returns_bind hheader
  intro found
  -- no request, or a request that is handled and drained if it failed
  apply returns_ite _ (returns_pure ())
  intro s
  rcases hhandle s with ⟨⟨e | a, s'⟩, hr⟩
  · unfold pollRequest
    rw [hr]
    dsimp only [Option.bind_some]
    split
    · obtain ⟨r', hr'⟩ := returns_lift loopFree_flush s'
      exact ⟨_, congrArg (Option.map _) hr'⟩
    · exact ⟨_, rfl⟩
  · exact ⟨(.ok (), s'), by unfold pollRequest; rw [hr]; rfl⟩

end returns

/-! ## The queue as a line -/

section queue
variable {α β : Type} {s s' : GripperServer}

/-- The server `s₀` with `rest` still to read. -/
def Holding (s₀ : GripperServer) (rest : List Byte) (s : GripperServer) : Prop :=
  s = { s₀ with fromClient := rest }

/-- The queue serves every read in full, as far as it goes. -/
theorem supply_queue (s₀ : GripperServer) :
    Supply (Thread.alone GripperServer.platform) (fun _ => True) (fun _ => True) (Holding s₀) := by
  refine ⟨fun _ => ⟨stable_alone _, fun _ _ => trivial⟩, ?_⟩
  intro data rest timeoutMs _
  apply readSerial_served
  apply Triple.act (stable_alone _) fun _ _ => trivial
  intro s answer s' hs hact
  -- the queue gives up its first bytes
  obtain rfl : s = _ := hs
  obtain ⟨rfl, rfl⟩ := Prod.mk.inj (Option.some.inj hact)
  constructor
  · show some ((data ++ rest).take data.length) = some data
    rw [List.take_left]
  · show _ = _
    rw [List.drop_left]

/-- What a function of the library takes from a line, it takes from the queue. -/
theorem lift_of_takes {data rest : List Byte} {m : Transaction α} {Q : α → Nmbs → Prop}
    (hm : Takes (Thread.alone GripperServer.platform) (fun _ => True) (Holding s) data s.nmbs m Q)
    (hfree : m.LoopFree) (hqueue : s.fromClient = data ++ rest) :
    ∃ a n', Handler.lift m s = some (.ok a, { s with fromClient := rest, nmbs := n' }) ∧ Q a n' := by
  have hs : Holding s (data ++ rest) s := by
    unfold Holding
    rw [← hqueue]
  -- partial correctness says how it ends, and nothing can keep it from ending
  obtain ⟨⟨result, n'⟩, s', heval, hends⟩ := (hm rest).eval platform_isSome (hfree s.nmbs) hs
  cases result with
  | error e => exact hends.elim
  | ok a =>
    obtain ⟨hQ, rfl⟩ := hends
    refine ⟨a, n', ?_, hQ⟩
    unfold Handler.lift
    rw [heval]
    rfl

/-- A handler goes on from where its first part has ended well. -/
theorem handler_bind {m : Handler α} {f : α → Handler β} {a : α} (h : m s = some (.ok a, s')) :
    (m >>= f) s = f a s' := by
  show (m s).bind _ = _
  rw [h]
  rfl

theorem server_bind (f : GripperServer → Handler β) : (Handler.server >>= f) s = f s s := rfl

theorem modify_bind (g : GripperServer → GripperServer) (f : Unit → Handler β) :
    (Handler.modify g >>= f) s = f () (g s) := rfl

/-- A reply goes to the other queue. -/
theorem reply_eq (fields : List Byte) :
    Handler.lift (do putResHeader; put fields; sendMsg) s = some (.ok (), { s with
      toClient := s.toClient ++ withCrc ([s.nmbs.unitId, s.nmbs.fc] ++ fields)
      nmbs := { s.nmbs with buf := withCrc ([s.nmbs.unitId, s.nmbs.fc] ++ fields) } }) := rfl

theorem lift_recv {count : Nat} (v : Vector Byte count) {rest : List Byte}
    (hqueue : s.fromClient = v.toList ++ rest) :
    Handler.lift (recv count) s = some (.ok v, { s with
      fromClient := rest, nmbs := { s.nmbs with buf := s.nmbs.buf ++ v.toList } }) := by
  obtain ⟨a, n', heq, rfl, rfl⟩ :=
    lift_of_takes (takes_recv (supply_queue s) v trivial) (loopFree_recv count) hqueue
  exact heq

/-- Whole registers that fit in the buffer are all taken. -/
theorem take_bufIdxBehind {bytes : List Byte} {count : Nat} (heven : count % 2 = 0)
    (hfits : bytes.length ≤ kBufferSize) : bytes.take (bufIdxBehind bytes count) = bytes := by
  unfold bufIdxBehind
  rw [List.drop_eq_nil_of_le hfits, heven]
  exact List.take_length

/-- How far the registers of a request reach, behind its header and its fields. -/
theorem length_behind_fields {bytes : List Byte} {k n : Nat} (fields : Vector Byte k)
    (hheader : bytes.length = 2) (hfits : 2 + k + n * 2 ≤ kBufferSize) :
    (bytes ++ fields.toList).length + n * 2 ≤ kBufferSize := by
  rw [List.length_append, Vector.length_toList, hheader]
  exact hfits

theorem recvRegisterBytes_eq {n : Nat} (v : Vector Byte (n * 2)) {rest : List Byte}
    (hfits : s.nmbs.buf.length + n * 2 ≤ kBufferSize) (hqueue : s.fromClient = v.toList ++ rest) :
    recvRegisterBytes (n * 2) s = some (.ok v, { s with
      fromClient := rest, nmbs := { s.nmbs with buf := s.nmbs.buf ++ v.toList } }) := by
  have hlength : (s.nmbs.buf ++ v.toList).length ≤ kBufferSize := by
    rw [List.length_append, Vector.length_toList]
    exact hfits
  unfold recvRegisterBytes
  rw [handler_bind (lift_recv v hqueue), modify_bind]
  dsimp only
  rw [take_bufIdxBehind (Nat.mul_mod_left n 2) hlength]
  rfl

theorem lift_recvMsgFooter {rest : List Byte}
    (hqueue : s.fromClient = put2 (nmbsCrcCalc s.nmbs.buf) ++ rest) :
    Handler.lift recvMsgFooter s = some (.ok (), { s with
      fromClient := rest, nmbs := { s.nmbs with buf := withCrc s.nmbs.buf } }) := by
  obtain ⟨a, n', heq, rfl⟩ :=
    lift_of_takes (takes_recvMsgFooter (supply_queue s) trivial) loopFree_recvMsgFooter hqueue
  exact heq

/-! ## The handlers -/

theorem length_flatMap_put2 (registers : List Register) :
    (registers.flatMap put2).length = registers.length * 2 := by
  induction registers with
  | nil => rfl
  | cons r registers ih =>
    rw [List.flatMap_cons, List.length_append, ih, List.length_cons]
    show 2 + _ = _
    omega

/-- The bytes of some registers on the wire. -/
def wireBytes {quantity : Nat} (registers : Vector Register quantity) : Vector Byte (quantity * 2) :=
  ⟨(registers.toList.flatMap put2).toArray, by
    rw [List.size_toArray, length_flatMap_put2, Vector.length_toList]⟩

theorem toList_wireBytes {quantity : Nat} (registers : Vector Register quantity) :
    (wireBytes registers).toList = registers.toList.flatMap put2 := rfl

/-- The registers that a request to read finds. -/
def RegisterModel.found (m : RegisterModel) (address quantity : Nat) : Vector Register quantity :=
  (m.read address quantity).getD (Vector.replicate quantity 0)

theorem onReadHoldingRegisters_eq {address quantity : Nat}
    (hcontains : RegisterModel.containsRange address quantity = true) (s : GripperServer) :
    GripperServer.onReadHoldingRegisters address quantity s =
      .ok (s.model.found address quantity) :=
  if_pos hcontains

theorem sendRead_eq {callback : ReadCallback} {address quantity : Nat}
    {registers : Vector Register quantity} (hcallback : callback address quantity s = .ok registers)
    (hbroadcast : s.nmbs.broadcast = false) :
    ∃ n', sendRead callback address quantity s = some (.ok (), { s with
      toClient := s.toClient ++ withCrc ([s.nmbs.unitId, s.nmbs.fc, BitVec.ofNat 8 (quantity * 2)] ++
        (wireBytes registers).toList)
      nmbs := n' }) := by
  unfold sendRead
  rw [server_bind]
  -- the callback found them, and this is no broadcast
  simp only [hcallback]
  unfold sendRegisters
  rw [server_bind, hbroadcast, if_neg Bool.false_ne_true, reply_eq]
  exact ⟨_, rfl⟩

theorem handleReadRegisters_eq (callback : ReadCallback) (address : Nat) {quantity : Nat}
    (registers : Vector Register quantity) (hignored : s.ignored = false)
    (hbroadcast : s.nmbs.broadcast = false)
    (hrange : 1 ≤ quantity ∧ quantity ≤ 125 ∧ address + quantity ≤ 0x10000)
    (hqueue : s.fromClient = rangeFields address quantity ++
      put2 (nmbsCrcCalc (s.nmbs.buf ++ rangeFields address quantity)))
    (hcallback : ∀ n', callback address quantity { s with fromClient := [], nmbs := n' } =
      .ok registers) :
    ∃ n', handleReadRegisters (some callback) s = some (.ok (), { s with
      fromClient := []
      toClient := s.toClient ++ withCrc ([s.nmbs.unitId, s.nmbs.fc, BitVec.ofNat 8 (quantity * 2)] ++
        (wireBytes registers).toList)
      nmbs := n' }) := by
  have haddress : (packRegister ((rangeVector address quantity).get 0)
      ((rangeVector address quantity).get 1)).toNat = address := toNat_packed (by omega)
  have hquantity : (packRegister ((rangeVector address quantity).get 2)
      ((rangeVector address quantity).get 3)).toNat = quantity := toNat_packed (by omega)
  unfold handleReadRegisters
  rw [handler_bind (lift_recv (rangeVector address quantity) hqueue)]
  dsimp only
  rw [haddress, hquantity, handler_bind (lift_recvMsgFooter (List.append_nil _).symm), server_bind]
  dsimp only
  rw [if_neg (ne_true_of_eq_false hignored), if_neg (by omega), if_neg (by omega)]
  -- all checks are passed, and the reply is sent
  exact sendRead_eq (hcallback _) hbroadcast

/-! ### Writes -/

theorem toNat_byteCount {quantity : Nat} (h : quantity ≤ 0x7B) :
    (BitVec.ofNat 8 (quantity * 2)).toNat = quantity * 2 := by
  rw [BitVec.toNat_ofNat]
  exact Nat.mod_eq_of_lt (by omega)

theorem writeThen_eq {quantity : Nat} {address : Nat} {values : Vector Register quantity}
    {reply : Handler Unit} (hrange : RegisterModel.containsRange address quantity = true) :
    writeThen address values reply s = reply { s with model := s.model.write address values } := by
  have hwritten : s.onWriteMultipleRegisters address values
      = (.ok (), { s with model := s.model.write address values }) := if_pos hrange
  unfold writeThen
  rw [hwritten]
  rfl

theorem sendRange_eq {address quantity : Nat} (hbroadcast : s.nmbs.broadcast = false) :
    ∃ n', sendRange address quantity s = some (.ok (), { s with
      toClient := s.toClient ++ withCrc ([s.nmbs.unitId, s.nmbs.fc] ++ rangeFields address quantity)
      nmbs := n' }) := by
  unfold sendRange
  rw [server_bind, if_neg (ne_true_of_eq_false hbroadcast), reply_eq]
  exact ⟨_, rfl⟩

/-- The five bytes before the data of a request to write. -/
def writeVector (address quantity : Nat) : Vector Byte 5 :=
  #v[highByte (BitVec.ofNat 16 address), lowByte (BitVec.ofNat 16 address),
    highByte (BitVec.ofNat 16 quantity), lowByte (BitVec.ofNat 16 quantity),
    BitVec.ofNat 8 (quantity * 2)]

theorem writeFields_eq (address : Nat) {quantity : Nat} (registers : Vector Register quantity) :
    writeFields address registers.toList =
      (writeVector address quantity).toList ++ (wireBytes registers).toList := by
  rw [toList_wireBytes]
  simp [writeFields, rangeFields, writeVector, put2]

theorem handleWriteMultipleRegisters_eq (address : Nat) {quantity : Nat}
    (registers : Vector Register quantity) (hignored : s.ignored = false)
    (hbroadcast : s.nmbs.broadcast = false) (hbuf : s.nmbs.buf.length = 2)
    (hrange : 1 ≤ quantity ∧ quantity ≤ 0x7B ∧ address + quantity ≤ 0x10000)
    (hcontains : RegisterModel.containsRange address quantity = true)
    (hqueue : s.fromClient = writeFields address registers.toList ++
      put2 (nmbsCrcCalc (s.nmbs.buf ++ writeFields address registers.toList))) :
    ∃ n', handleWriteMultipleRegisters s = some (.ok (), { s with
      model := s.model.write address registers
      fromClient := []
      toClient := s.toClient ++ withCrc ([s.nmbs.unitId, s.nmbs.fc] ++ rangeFields address quantity)
      nmbs := n' }) := by
  have haddress : (packRegister (writeVector address quantity)[0]
      (writeVector address quantity)[1]).toNat = address := toNat_packed (by omega)
  have hquantity : (packRegister (writeVector address quantity)[2]
      (writeVector address quantity)[3]).toNat = quantity := toNat_packed (by omega)
  have hcount : (writeVector address quantity)[4].toNat = quantity * 2 :=
    toNat_byteCount hrange.2.1
  -- three reads: the fixed fields, the data, and the checksum
  rw [writeFields_eq, List.append_assoc] at hqueue
  generalize writeVector address quantity = fields at *
  unfold handleWriteMultipleRegisters
  rw [handler_bind (lift_recv fields hqueue)]
  dsimp only
  have hfits : (s.nmbs.buf ++ fields.toList).length + quantity * 2 ≤ kBufferSize :=
    length_behind_fields fields hbuf (show 2 + 5 + quantity * 2 ≤ 260 by omega)
  rw [haddress, hquantity, hcount,
    handler_bind (recvRegisterBytes_eq (wireBytes registers) hfits rfl), if_neg (by omega)]
  have hfooter : put2 (nmbsCrcCalc (s.nmbs.buf ++ (fields.toList ++ (wireBytes registers).toList)))
      = put2 (nmbsCrcCalc (s.nmbs.buf ++ fields.toList ++ (wireBytes registers).toList)) ++ [] := by
    rw [List.append_assoc, List.append_nil]
  rw [handler_bind (lift_recvMsgFooter hfooter), server_bind]
  dsimp only
  rw [if_neg (ne_true_of_eq_false hignored), if_neg (by omega), if_neg (by omega),
    if_neg (by omega), dif_pos rfl, Vector.cast_rfl, registersOf_eq (toList_wireBytes registers),
    writeThen_eq hcontains]
  dsimp only
  -- the reply does not depend on what was written
  generalize s.model.write address registers = model
  exact sendRange_eq hbroadcast

/-- The nine bytes before the data of a request to write and read. -/
def readWriteVector (readAddress readQuantity writeAddress writeQuantity : Nat) : Vector Byte 9 :=
  #v[highByte (BitVec.ofNat 16 readAddress), lowByte (BitVec.ofNat 16 readAddress),
    highByte (BitVec.ofNat 16 readQuantity), lowByte (BitVec.ofNat 16 readQuantity),
    highByte (BitVec.ofNat 16 writeAddress), lowByte (BitVec.ofNat 16 writeAddress),
    highByte (BitVec.ofNat 16 writeQuantity), lowByte (BitVec.ofNat 16 writeQuantity),
    BitVec.ofNat 8 (writeQuantity * 2)]

theorem readWriteFields_eq (readAddress readQuantity writeAddress : Nat) {writeQuantity : Nat}
    (values : Vector Register writeQuantity) :
    readWriteFields readAddress readQuantity writeAddress values.toList =
      (readWriteVector readAddress readQuantity writeAddress writeQuantity).toList ++
        (wireBytes values).toList := by
  rw [toList_wireBytes]
  simp [readWriteFields, readWriteVector, put2]

/-- What is read is read from the model after the write. -/
theorem handleReadWriteRegisters_eq (readAddress readQuantity writeAddress : Nat)
    {writeQuantity : Nat} (values : Vector Register writeQuantity) (hignored : s.ignored = false)
    (hbroadcast : s.nmbs.broadcast = false) (hbuf : s.nmbs.buf.length = 2)
    (hread : 1 ≤ readQuantity ∧ readQuantity ≤ 0x7D ∧ readAddress + readQuantity ≤ 0x10000)
    (hwrite : 1 ≤ writeQuantity ∧ writeQuantity ≤ 0x79 ∧ writeAddress + writeQuantity ≤ 0x10000)
    (hcontains : RegisterModel.containsRange readAddress readQuantity = true)
    (hcontains' : RegisterModel.containsRange writeAddress writeQuantity = true)
    (hqueue : s.fromClient =
      readWriteFields readAddress readQuantity writeAddress values.toList ++ put2 (nmbsCrcCalc
        (s.nmbs.buf ++ readWriteFields readAddress readQuantity writeAddress values.toList))) :
    ∃ n', handleReadWriteRegisters s = some (.ok (), { s with
      model := s.model.write writeAddress values
      fromClient := []
      toClient := s.toClient ++ withCrc ([s.nmbs.unitId, s.nmbs.fc, BitVec.ofNat 8 (readQuantity * 2)] ++
        (wireBytes ((s.model.write writeAddress values).found readAddress readQuantity)).toList)
      nmbs := n' }) := by
  obtain ⟨fields, hfields⟩ : ∃ fields,
      fields = readWriteVector readAddress readQuantity writeAddress writeQuantity := ⟨_, rfl⟩
  have hra : (packRegister fields[0] fields[1]).toNat = readAddress := by
    rw [hfields]
    exact toNat_packed (by omega)
  have hrq : (packRegister fields[2] fields[3]).toNat = readQuantity := by
    rw [hfields]
    exact toNat_packed (by omega)
  have hwa : (packRegister fields[4] fields[5]).toNat = writeAddress := by
    rw [hfields]
    exact toNat_packed (by omega)
  have hwq : (packRegister fields[6] fields[7]).toNat = writeQuantity := by
    rw [hfields]
    exact toNat_packed (by omega)
  have hcount : fields[8].toNat = writeQuantity * 2 := by
    rw [hfields]
    exact toNat_byteCount (by omega)
  rw [readWriteFields_eq, ← hfields, List.append_assoc] at hqueue
  unfold handleReadWriteRegisters
  rw [handler_bind (lift_recv fields hqueue)]
  dsimp only
  have hfits : (s.nmbs.buf ++ fields.toList).length + writeQuantity * 2 ≤ kBufferSize :=
    length_behind_fields fields hbuf (show 2 + 9 + writeQuantity * 2 ≤ 260 by omega)
  rw [hra, hrq, hwa, hwq, hcount, if_neg (by omega),
    handler_bind (recvRegisterBytes_eq (wireBytes values) hfits rfl)]
  have hfooter : put2 (nmbsCrcCalc (s.nmbs.buf ++ (fields.toList ++ (wireBytes values).toList)))
      = put2 (nmbsCrcCalc (s.nmbs.buf ++ fields.toList ++ (wireBytes values).toList)) ++ [] := by
    rw [List.append_assoc, List.append_nil]
  rw [handler_bind (lift_recvMsgFooter hfooter), server_bind]
  dsimp only
  rw [if_neg (ne_true_of_eq_false hignored), if_neg (by omega), if_neg (by omega), dif_pos rfl,
    if_neg (by omega), if_neg (by omega), Vector.cast_rfl, registersOf_eq (toList_wireBytes values),
    writeThen_eq hcontains']
  dsimp only
  -- only from here on does the reply depend on the model
  generalize s.model.write writeAddress values = model
  exact sendRead_eq (onReadHoldingRegisters_eq hcontains _) hbroadcast

/-! ## A request to this server -/

/-- The server after the header of a request to it, the rest still in the queue. -/
def GripperServer.headed (s : GripperServer) (fc : Byte) (fields : List Byte) : GripperServer :=
  { s with
    fromClient := fields ++ put2 (nmbsCrcCalc ([s.addressRtu, fc] ++ fields))
    nmbs := { msgStateReset s.nmbs with
      buf := [s.addressRtu, fc], unitId := s.addressRtu, fc := fc }
    ignored := false }

theorem pollHeader_eq (fc : Byte) {rest : List Byte} (haddress : s.addressRtu ≠ 0)
    (hqueue : s.fromClient = [s.addressRtu, fc] ++ rest) :
    pollHeader s = some (.ok true, { s with
      fromClient := rest
      nmbs := { msgStateReset s.nmbs with
        buf := [s.addressRtu, fc], unitId := s.addressRtu, fc := fc }
      ignored := false }) := by
  obtain ⟨a, n', heq, rfl⟩ := lift_of_takes
    (takes_recvMsgHeader (supply_queue s) s.addressRtu fc trivial trivial)
    loopFree_recvMsgHeader hqueue
  unfold pollHeader recvReqHeader
  rw [handler_bind heq]
  unfold Handler.modify
  dsimp only [Option.map_some]
  -- the address is neither everybody's nor another device's
  have hmine : decide (s.addressRtu ≠ s.addressRtu) = false := decide_eq_false (not_not.mpr rfl)
  rw [if_neg haddress, hmine]

/-- What handles the request in the queue is what a delivery does. -/
theorem deliver_eq {others : OtherFunctions} {fc : Byte} {fields : List Byte}
    (haddress : s.addressRtu ≠ 0) (hqueue : s.fromClient = [])
    (h : handleReqFc others (s.headed fc fields) = some (.ok (), s')) :
    s.deliver others (withCrc ([s.addressRtu, fc] ++ fields)) = some s' := by
  unfold GripperServer.deliver nmbsServerPoll
  rw [hqueue, List.nil_append]
  -- the queue holds the request and nothing else
  have hpoll := pollHeader_eq (s := { s with
    fromClient := withCrc ([s.addressRtu, fc] ++ fields)
    nmbs := msgStateReset s.nmbs, ignored := false })
    fc haddress (List.append_assoc _ _ _)
  rw [modify_bind, handler_bind hpoll, if_pos rfl]
  unfold pollRequest
  -- a request that is handled well is not drained
  show Option.map _ ((handleReqFc others (s.headed fc fields)).bind _) = _
  rw [h]
  rfl

section handleReqFc
variable (others : OtherFunctions)

theorem handleReqFc_read (h : s.nmbs.fc = 3) : handleReqFc others s =
    handleReadRegisters (some GripperServer.onReadHoldingRegisters) s := by
  unfold handleReqFc
  rw [server_bind, if_pos h]

theorem handleReqFc_write (h : s.nmbs.fc = 16) :
    handleReqFc others s = handleWriteMultipleRegisters s := by
  unfold handleReqFc
  rw [server_bind, h, if_neg (by decide), if_neg (by decide), if_pos rfl]

theorem handleReqFc_readWrite (h : s.nmbs.fc = 23) :
    handleReqFc others s = handleReadWriteRegisters s := by
  unfold handleReqFc
  rw [server_bind, h, if_neg (by decide), if_neg (by decide), if_neg (by decide)]
  exact congrFun (if_pos rfl) s

end handleReqFc

/-- **A request to read** leaves what it found in the other queue. -/
theorem deliver_read (others : OtherFunctions) (address quantity : Nat)
    (haddress : s.addressRtu ≠ 0) (hqueue : s.fromClient = [])
    (hrange : 1 ≤ quantity ∧ quantity ≤ 125 ∧ address + quantity ≤ 0x10000)
    (hcontains : RegisterModel.containsRange address quantity = true) :
    ∃ n', s.deliver others (withCrc ([s.addressRtu, 3] ++ rangeFields address quantity)) =
      some { s with
        toClient := s.toClient ++ withCrc ([s.addressRtu, 3, BitVec.ofNat 8 (quantity * 2)] ++
          (wireBytes (s.model.found address quantity)).toList)
        nmbs := n', ignored := false } := by
  obtain ⟨n', heq⟩ := handleReadRegisters_eq (s := s.headed 3 (rangeFields address quantity))
    GripperServer.onReadHoldingRegisters address (s.model.found address quantity)
    rfl rfl hrange rfl fun _ => onReadHoldingRegisters_eq hcontains _
  refine ⟨n', deliver_eq haddress hqueue ?_⟩
  rw [handleReqFc_read others rfl, heq]
  unfold GripperServer.headed
  rw [hqueue]

/-- **A request to write** has written. -/
theorem deliver_write (others : OtherFunctions) (address : Nat) {quantity : Nat}
    (values : Vector Register quantity) (haddress : s.addressRtu ≠ 0) (hqueue : s.fromClient = [])
    (hrange : 1 ≤ quantity ∧ quantity ≤ 0x7B ∧ address + quantity ≤ 0x10000)
    (hcontains : RegisterModel.containsRange address quantity = true) :
    ∃ n', s.deliver others (withCrc ([s.addressRtu, 16] ++ writeFields address values.toList)) =
      some { s with
        model := s.model.write address values
        toClient := s.toClient ++ withCrc ([s.addressRtu, 16] ++ rangeFields address quantity)
        nmbs := n', ignored := false } := by
  obtain ⟨n', heq⟩ := handleWriteMultipleRegisters_eq
    (s := s.headed 16 (writeFields address values.toList)) address values
    rfl rfl rfl hrange hcontains rfl
  refine ⟨n', deliver_eq haddress hqueue ?_⟩
  rw [handleReqFc_write others rfl, heq]
  unfold GripperServer.headed
  rw [hqueue]

/-- **A request to write and read** has written, and leaves what it found then. -/
theorem deliver_readWrite (others : OtherFunctions)
    (readAddress readQuantity writeAddress : Nat) {writeQuantity : Nat}
    (values : Vector Register writeQuantity) (haddress : s.addressRtu ≠ 0)
    (hqueue : s.fromClient = [])
    (hread : 1 ≤ readQuantity ∧ readQuantity ≤ 0x7D ∧ readAddress + readQuantity ≤ 0x10000)
    (hwrite : 1 ≤ writeQuantity ∧ writeQuantity ≤ 0x79 ∧ writeAddress + writeQuantity ≤ 0x10000)
    (hcontains : RegisterModel.containsRange readAddress readQuantity = true)
    (hcontains' : RegisterModel.containsRange writeAddress writeQuantity = true) :
    ∃ n', s.deliver others (withCrc ([s.addressRtu, 23] ++
        readWriteFields readAddress readQuantity writeAddress values.toList)) =
      some { s with
        model := s.model.write writeAddress values
        toClient := s.toClient ++ withCrc ([s.addressRtu, 23, BitVec.ofNat 8 (readQuantity * 2)] ++
          (wireBytes ((s.model.write writeAddress values).found
            readAddress readQuantity)).toList)
        nmbs := n', ignored := false } := by
  obtain ⟨n', heq⟩ := handleReadWriteRegisters_eq
    (s := s.headed 23 (readWriteFields readAddress readQuantity writeAddress values.toList))
    readAddress readQuantity writeAddress values rfl rfl rfl hread hwrite hcontains hcontains' rfl
  refine ⟨n', deliver_eq haddress hqueue ?_⟩
  rw [handleReqFc_readWrite others rfl, heq]
  unfold GripperServer.headed
  rw [hqueue]

end queue

end GripperDriver

import GripperDriver.Modbus.Requests

/-! # The Fake Stack

    `GripperModbusClient` over `GripperSerial`, `GripperServer` and `RegisterModel`, and
    the same calls made on the model itself. The two cannot be told apart.

    * `GripperSerial.step`: the serial port whose other end is the server,
    * `ClientCall`: a call, on the client and on the model,
    * `FakeStack.Idle`: between two calls; every call leads from one such state to the next,
    * `fakeStack_transparent`: any number of calls.
-/

namespace GripperDriver

open Interleaving Transaction

/-! ## The serial port -/

/-- `GripperSerial::read` and `write`. A read that does not wait finds nothing. -/
def GripperSerial.step (others : OtherFunctions) :
    {α : Type} → SerialAct α → GripperServer → Option (α × GripperServer)
  | _, .read size timeoutMs, s =>
    if timeoutMs = 0 then some (some [], s) else some (some (s.drain size).1, (s.drain size).2)
  | _, .write data, s => (s.deliver others data).map fun s' => (true, s')

/-- `GripperSerial::getTimeout`. -/
def GripperSerial.getTimeout : Int := 100

/-! ## Calls -/

inductive ClientCall where
  | readStatus
  | writeCommand (command : GripperCommand)
  | exchange (command : GripperCommand)
  deriving DecidableEq, Repr

namespace ClientCall

/-- The call on the client: the status that it returns, if it returns one. -/
def run : ClientCall → Nmbs → Prog SerialAct (Except String (Option GripperStatus) × Nmbs)
  | .readStatus, n => do
    let (status, n) ← GripperDriver.readStatus n
    pure (status.map some, n)
  | .writeCommand command, n => do
    let (written, n) ← GripperDriver.writeCommand command n
    pure (written.map fun _ => none, n)
  | .exchange command, n => do
    let (status, n) ← GripperDriver.exchange command n
    pure (status.map some, n)

/-- Bytes 6 to 15 of the command block, made zeros. -/
def documented : ClientCall → ClientCall
  | .readStatus => .readStatus
  | .writeCommand command => .writeCommand { command with reservedTail := Vector.replicate 10 0 }
  | .exchange command => .exchange { command with reservedTail := Vector.replicate 10 0 }

end ClientCall

/-- Bytes 0 to 5 of the model's status, and then ten zeros. -/
def RegisterModel.reported (m : RegisterModel) : GripperStatus :=
  .ofData (Vector.ofFn fun i : Fin 16 => if i.val < 6 then m.status.data.get i else 0)

/-- The call made on the model itself. -/
def ClientCall.direct : ClientCall → RegisterModel → Option GripperStatus × RegisterModel
  | .readStatus, m => (some m.reported, m)
  | .writeCommand command, m => (none, m.writeCommand command)
  | .exchange command, m => (some (m.writeCommand command).reported, m.writeCommand command)

/-- The calls, one after the other. -/
def directCalls : List ClientCall → RegisterModel → List (Option GripperStatus) × RegisterModel
  | [], m => ([], m)
  | call :: calls, m =>
    let (result, m) := call.direct m
    let (results, m) := directCalls calls m
    (result :: results, m)

/-! ## The stack -/

structure FakeStack where
  client : Nmbs
  server : GripperServer

namespace FakeStack

def create (model : RegisterModel) (slaveAddress : Byte) : Except String FakeStack :=
  (GripperServer.create model slaveAddress).map fun server =>
    { client := clientNmbs GripperSerial.getTimeout slaveAddress, server := server }

/-- One call; an error is the description of the exception thrown. -/
def call (others : OtherFunctions) (call : ClientCall) (stack : FakeStack) :
    Option (Except String (Option GripperStatus) × FakeStack) :=
  (Prog.eval (GripperSerial.step others) (call.run stack.client) stack.server).map fun r =>
    (r.1.1, { client := r.1.2, server := r.2 })

/-- The calls, one after the other, whether they throw or not. -/
def calls (others : OtherFunctions) :
    List ClientCall → FakeStack → Option (List (Except String (Option GripperStatus)) × FakeStack)
  | [], stack => some ([], stack)
  | call :: calls, stack => do
    let (result, stack) ← stack.call others call
    let (results, stack) ← FakeStack.calls others calls stack
    pure (result :: results, stack)

/-- Between two calls: the model is `m`, and nothing is under way. -/
structure Idle (slaveAddress : Byte) (m : RegisterModel) (stack : FakeStack) : Prop where
  settings : stack.client.settings = (clientNmbs GripperSerial.getTimeout slaveAddress).settings
  address : stack.server.addressRtu = slaveAddress
  model : stack.server.model = m
  fromClient : stack.server.fromClient = []
  toClient : stack.server.toClient = []

end FakeStack

/-! ## What does not reach the model -/

theorem registersFromBytes_documented (c : GripperCommand) (tail : Vector Byte 10) :
    registersFromBytes kCommandRegisterCount
        ({ c with reservedTail := tail } : GripperCommand).data commandRegisters_fit =
      registersFromBytes kCommandRegisterCount c.data commandRegisters_fit := by
  apply Vector.ext
  intro i hi
  have hbyte : ∀ j, (hj : j < 6) →
      ({ c with reservedTail := tail } : GripperCommand).data[j] = c.data[j] := by
    intro j hj
    unfold GripperCommand.data
    rw [getElem_block_head _ _ _ hj, getElem_block_head _ _ _ hj]
  -- three registers, and so the first six bytes
  have hthree : i < 3 := hi
  unfold registersFromBytes
  rw [Vector.getElem_ofFn, Vector.getElem_ofFn]
  show packRegister (GripperCommand.data _)[2 * i] (GripperCommand.data _)[2 * i + 1] = _
  rw [hbyte (2 * i) (by omega), hbyte (2 * i + 1) (by omega)]
  rfl

/-- The device does as much with the documented bytes alone. -/
theorem direct_documented (call : ClientCall) (m : RegisterModel) :
    call.documented.direct m = call.direct m := by
  have hwrite : ∀ c : GripperCommand,
      m.writeCommand { c with reservedTail := Vector.replicate 10 0 } = m.writeCommand c := by
    intro c
    unfold RegisterModel.writeCommand
    rw [registersFromBytes_documented]
  cases call with
  | readStatus => rfl
  | writeCommand command =>
    unfold ClientCall.documented ClientCall.direct
    dsimp only
    rw [hwrite]
  | exchange command =>
    unfold ClientCall.documented ClientCall.direct
    dsimp only
    rw [hwrite]

theorem directCalls_documented (calls : List ClientCall) (m : RegisterModel) :
    directCalls (calls.map ClientCall.documented) m = directCalls calls m := by
  induction calls generalizing m with
  | nil => rfl
  | cons call calls ih =>
    rw [List.map_cons]
    unfold directCalls
    rw [direct_documented]
    dsimp only
    rw [ih]

/-! ## The server's answers as the client reads them -/

/-- Six bytes of a status, then zeros: the status without its reserved tail. -/
theorem ofData_head (s : GripperStatus) :
    GripperStatus.ofData (Vector.ofFn fun i : Fin 16 => if i.val < 6 then s.data.get i else 0) =
      { s with reservedTail := Vector.replicate 10 0 } := by
  rw [← GripperStatus.ofData_data { s with reservedTail := Vector.replicate 10 0 }]
  apply congrArg GripperStatus.ofData
  apply Vector.ext
  intro i hi
  rw [Vector.getElem_ofFn]
  by_cases hhead : i < 6
  · -- a documented byte does not depend on the tail
    rw [if_pos hhead, GripperStatus.getElem_data_of_lt _ _ i hhead]
    rfl
  · obtain ⟨j, rfl⟩ : ∃ j, i = 6 + j := ⟨i - 6, by omega⟩
    rw [if_neg hhead, GripperStatus.data, getElem_block_tail _ _ j (by omega)]
    simp only [Vector.getElem_replicate]

theorem reported_eq_answer (m : RegisterModel) : m.reported = m.answer :=
  (ofData_head m.status).trans m.answer_eq.symm

theorem statusOf_found (m : RegisterModel) :
    statusOf (m.found kStatusAddress kStatusRegisterCount) = m.reported := by
  -- the status block is in the register map
  have hread : ∃ registers, m.read kStatusAddress kStatusRegisterCount = some registers :=
    ⟨_, if_pos (by decide)⟩
  obtain ⟨registers, hread⟩ := hread
  rw [reported_eq_answer]
  unfold RegisterModel.found RegisterModel.answer
  rw [hread]
  rfl

/-! ## The port -/

section port
variable {others : OtherFunctions} {u : Byte} {m m' : RegisterModel} {α : Type}

theorem step_isSome {α : Type} (a : SerialAct α) (s : GripperServer) :
    (GripperSerial.step others a s).isSome := by
  cases a with
  | read size timeoutMs =>
    unfold GripperSerial.step
    dsimp only
    split <;> rfl
  | write data =>
    obtain ⟨r, hr⟩ := returns_nmbsServerPoll others { s with fromClient := s.fromClient ++ data }
    unfold GripperSerial.step GripperServer.deliver
    dsimp only
    rw [hr]
    rfl

/-- The request has been read, and `reply` is what is left of the answer to it. -/
def ReplyLeft (u : Byte) (m : RegisterModel) (reply : List Byte) (s : GripperServer) : Prop :=
  s.addressRtu = u ∧ s.model = m ∧ s.fromClient = [] ∧ s.toClient = reply

theorem lasting_replyLeft (reply : List Byte) :
    Lasting (Thread.alone (GripperSerial.step others)) (fun _ => True) (ReplyLeft u m reply) :=
  ⟨stable_alone _, fun _ _ => trivial⟩

/-- A reply is served to every read that waits. -/
theorem supply_drain (others : OtherFunctions) (u : Byte) (m : RegisterModel) :
    Supply (Thread.alone (GripperSerial.step others)) (fun _ => True) (fun waits => waits ≠ 0)
      (ReplyLeft u m) := by
  refine ⟨lasting_replyLeft, ?_⟩
  intro data rest timeoutMs hwaits
  apply readSerial_served
  apply Triple.act (stable_alone _) fun _ _ => trivial
  intro s answer s' hs hact
  obtain ⟨haddress, hmodel, hfrom, hto⟩ := hs
  -- only a read with timeout 0 is turned away
  have hdrain : GripperSerial.step others (.read data.length timeoutMs) s =
      some (some (s.drain data.length).1, (s.drain data.length).2) := if_neg hwaits
  obtain ⟨rfl, rfl⟩ := Prod.mk.inj (Option.some.inj (hdrain.symm.trans hact))
  unfold GripperServer.drain
  rw [hto, List.take_left, List.drop_left]
  exact ⟨rfl, haddress, hmodel, hfrom, rfl⟩

/-- The drain before a request takes nothing. -/
theorem flush_idle :
    Triple (Thread.alone (GripperSerial.step others)) (fun _ => True) (ReplyLeft u m [])
      (readSerial kBufferSize 0) (fun _ => ReplyLeft u m []) := by
  apply readSerial_drained
  apply Triple.act (stable_alone _) fun _ _ => trivial
  intro s answer s' hs hact
  have hnothing : GripperSerial.step others (.read kBufferSize 0) s = some (some [], s) := rfl
  obtain ⟨-, rfl⟩ := Prod.mk.inj (Option.some.inj (hnothing.symm.trans hact))
  exact hs

/-- A request is written, and the server has made `reply` of it. -/
theorem write_request {request reply : List Byte}
    (hdeliver : ∀ s, ReplyLeft u m [] s →
      ∃ s', s.deliver others request = some s' ∧ ReplyLeft u m' reply s') :
    Triple (Thread.alone (GripperSerial.step others)) (fun _ => True) (ReplyLeft u m [])
      (writeSerial request) (fun sent s => if sent then ReplyLeft u m' reply s else False) := by
  apply Triple.act (stable_alone _) (fun _ _ => trivial)
  intro s sent s' hs hact
  obtain ⟨s₁, hs₁, hleft⟩ := hdeliver s hs
  have hwritten : GripperSerial.step others (.write request) s = some (true, s₁) := by
    unfold GripperSerial.step
    dsimp only
    rw [hs₁]
    rfl
  obtain ⟨rfl, rfl⟩ := Prod.mk.inj (Option.some.inj (hwritten.symm.trans hact))
  exact hleft

/-- A transaction that ends well on this port: what it returns, and what it leaves. -/
theorem eval_of_ends {t : Transaction α} {n : Nmbs} {Q : α → Nmbs → Prop} {s : GripperServer}
    (hends : Triple (Thread.alone (GripperSerial.step others)) (fun _ => True) (ReplyLeft u m [])
      (t n) (Ends (fun _ _ => False) fun a n' s => Q a n' ∧ ReplyLeft u m' [] s))
    (hfree : t.LoopFree) (hs : ReplyLeft u m [] s) :
    ∃ a n' s', Prog.eval (GripperSerial.step others) (t n) s = some ((.ok a, n'), s') ∧
      Q a n' ∧ ReplyLeft u m' [] s' := by
  obtain ⟨⟨result, n'⟩, s', heval, hresult⟩ := hends.eval step_isSome (hfree n) hs
  cases result with
  | error e => exact hresult.elim
  | ok a => exact ⟨a, n', s', heval, hresult⟩

end port

/-! ## One call -/

section calls
variable (others : OtherFunctions) {u : Byte} {m : RegisterModel} {n : Nmbs} {s : GripperServer}

theorem loopFree_nmbsReadHoldingRegisters (address quantity : Nat) :
    (nmbsReadHoldingRegisters address quantity).LoopFree :=
  loopFree_ite (loopFree_fail _) (loopFree_ite (loopFree_fail _)
    (loopFree_request _ _ (loopFree_recvReadRegistersRes _)))

theorem loopFree_nmbsWriteMultipleRegisters (address : Nat) (registers : List Register) :
    (nmbsWriteMultipleRegisters address registers).LoopFree := by
  apply loopFree_ite (loopFree_fail _)
  apply loopFree_ite (loopFree_fail _)
  apply loopFree_request
  apply loopFree_bind loopFree_state
  intro n
  exact loopFree_ite (loopFree_pure _) (loopFree_recvWriteMultipleRegistersRes _ _)

theorem loopFree_nmbsReadWriteRegisters (readAddress readQuantity writeAddress : Nat)
    (registers : List Register) :
    (nmbsReadWriteRegisters readAddress readQuantity writeAddress registers).LoopFree := by
  apply loopFree_ite (loopFree_fail _)
  apply loopFree_ite (loopFree_fail _)
  apply loopFree_ite (loopFree_fail _)
  apply loopFree_ite (loopFree_fail _)
  exact loopFree_request _ _ (loopFree_recvReadRegistersRes _)

/-- The settings of a client on this port. -/
theorem settings_client (hn : n.settings = (clientNmbs GripperSerial.getTimeout u).settings) :
    n.byteTimeoutMs ≠ 0 ∧ n.readTimeoutMs ≠ 0 ∧ n.destAddressRtu = u := by
  have hbyte : n.byteTimeoutMs = 50 := byteTimeoutMs_eq hn
  have hread : n.readTimeoutMs = 100 := readTimeoutMs_eq hn
  exact ⟨by omega, by omega, congrArg (fun x => x.2.2) hn⟩

variable (hu : u ≠ 0) (hn : n.settings = (clientNmbs GripperSerial.getTimeout u).settings)
include hu hn

theorem readStatus_idle (hs : ReplyLeft u m [] s) :
    ∃ n' s', Prog.eval (GripperSerial.step others) (readStatus n) s =
        some ((.ok m.reported, n'), s') ∧
      n'.settings = n.settings ∧ ReplyLeft u m [] s' := by
  obtain ⟨hbyte, hread, rfl⟩ := settings_client hn
  have hdeliver : ∀ s, ReplyLeft n.destAddressRtu m [] s → ∃ s', s.deliver others
      (withCrc ([n.destAddressRtu, 3] ++ rangeFields kStatusAddress kStatusRegisterCount)) = some s' ∧
      ReplyLeft n.destAddressRtu m (withCrc ([n.destAddressRtu, 3,
        BitVec.ofNat 8 (kStatusRegisterCount * 2)] ++
          (wireBytes (m.found kStatusAddress kStatusRegisterCount)).toList)) s' := by
    intro s hs
    obtain ⟨haddress, rfl, hfrom, hto⟩ := hs
    obtain ⟨n', heq⟩ := deliver_read (s := s) others kStatusAddress kStatusRegisterCount
      (by rwa [haddress]) hfrom (by decide) (by decide)
    rw [haddress, hto] at heq
    exact ⟨_, heq, rfl, rfl, hfrom, rfl⟩
  -- the client takes this reply, and nothing is left of it
  have hends := takes_readHoldingRegisters (supply_drain others n.destAddressRtu m)
    ⟨stable_alone _, fun _ _ => trivial⟩ (lasting_replyLeft []) (lasting_replyLeft []) n
    kStatusAddress (by decide) hbyte hread _ flush_idle (write_request hdeliver)
  obtain ⟨registers, n', s', heval, ⟨rfl, hsettings⟩, hs'⟩ :=
    eval_of_ends hends (loopFree_nmbsReadHoldingRegisters _ _) hs
  refine ⟨n', s', ?_, hsettings, hs'⟩
  rw [registersOf_eq (toList_wireBytes _)] at heval
  rw [← statusOf_found]
  show (Prog.eval _ (nmbsReadHoldingRegisters _ _ n) s).bind _ = _
  rw [heval]
  rfl

/-- The registers of a command. -/
def commandRegisters (c : GripperCommand) : Vector Register kCommandRegisterCount :=
  registersFromBytes kCommandRegisterCount c.data commandRegisters_fit

theorem writeCommand_idle (c : GripperCommand) (hs : ReplyLeft u m [] s) :
    ∃ n' s', Prog.eval (GripperSerial.step others) (writeCommand c n) s =
        some ((.ok (), n'), s') ∧
      n'.settings = n.settings ∧ ReplyLeft u (m.writeCommand c) [] s' := by
  obtain ⟨hbyte, hread, rfl⟩ := settings_client hn
  have hlength : (commandRegisters c).toList.length = kCommandRegisterCount := Vector.length_toList
  have hdeliver : ∀ s, ReplyLeft n.destAddressRtu m [] s → ∃ s', s.deliver others
      (withCrc ([n.destAddressRtu, 16] ++ writeFields kCommandAddress (commandRegisters c).toList)) =
        some s' ∧
      ReplyLeft n.destAddressRtu (m.writeCommand c) (withCrc ([n.destAddressRtu, 16] ++
        rangeFields kCommandAddress (commandRegisters c).toList.length)) s' := by
    intro s hs
    obtain ⟨haddress, rfl, hfrom, hto⟩ := hs
    obtain ⟨n', heq⟩ := deliver_write (s := s) others kCommandAddress (commandRegisters c)
      (by rwa [haddress]) hfrom (by decide) (by decide)
    rw [haddress, hto] at heq
    rw [hlength]
    exact ⟨_, heq, rfl, rfl, hfrom, rfl⟩
  -- the reply names the registers that were written
  have hends := takes_writeMultipleRegisters (supply_drain others n.destAddressRtu (m.writeCommand c))
    ⟨stable_alone _, fun _ _ => trivial⟩ (lasting_replyLeft []) (lasting_replyLeft []) n hu
    kCommandAddress (commandRegisters c).toList (by rw [hlength]; decide) hbyte hread flush_idle
    (write_request hdeliver)
  obtain ⟨_, n', s', heval, hsettings, hs'⟩ :=
    eval_of_ends (Q := fun _ n' => n'.settings = n.settings) hends
      (loopFree_nmbsWriteMultipleRegisters _ _) hs
  refine ⟨n', s', ?_, hsettings, hs'⟩
  show (Prog.eval _ (nmbsWriteMultipleRegisters _ (commandRegisters c).toList n) s).bind _ = _
  rw [heval]
  rfl

theorem exchange_idle (c : GripperCommand) (hs : ReplyLeft u m [] s) :
    ∃ n' s', Prog.eval (GripperSerial.step others) (exchange c n) s =
        some ((.ok (m.writeCommand c).reported, n'), s') ∧
      n'.settings = n.settings ∧ ReplyLeft u (m.writeCommand c) [] s' := by
  obtain ⟨hbyte, hread, rfl⟩ := settings_client hn
  have hlength : (commandRegisters c).toList.length = kCommandRegisterCount := Vector.length_toList
  have hdeliver : ∀ s, ReplyLeft n.destAddressRtu m [] s → ∃ s', s.deliver others
      (withCrc ([n.destAddressRtu, 23] ++ readWriteFields kStatusAddress kStatusRegisterCount
        kCommandAddress (commandRegisters c).toList)) = some s' ∧
      ReplyLeft n.destAddressRtu (m.writeCommand c) (withCrc ([n.destAddressRtu, 23,
        BitVec.ofNat 8 (kStatusRegisterCount * 2)] ++
          (wireBytes ((m.writeCommand c).found kStatusAddress kStatusRegisterCount)).toList)) s' := by
    intro s hs
    obtain ⟨haddress, rfl, hfrom, hto⟩ := hs
    obtain ⟨n', heq⟩ := deliver_readWrite (s := s) others kStatusAddress kStatusRegisterCount
      kCommandAddress (commandRegisters c) (by rwa [haddress]) hfrom (by decide) (by decide)
      (by decide) (by decide)
    rw [haddress, hto] at heq
    exact ⟨_, heq, rfl, rfl, hfrom, rfl⟩
  -- the reply carries the status as it is after the write
  have hends := takes_readWriteRegisters (supply_drain others n.destAddressRtu (m.writeCommand c))
    ⟨stable_alone _, fun _ _ => trivial⟩ (lasting_replyLeft []) (lasting_replyLeft []) n
    kStatusAddress kCommandAddress (commandRegisters c).toList (by decide) (by rw [hlength]; decide)
    hbyte hread _ flush_idle (write_request hdeliver)
  obtain ⟨registers, n', s', heval, ⟨rfl, hsettings⟩, hs'⟩ :=
    eval_of_ends hends (loopFree_nmbsReadWriteRegisters _ _ _ _) hs
  refine ⟨n', s', ?_, hsettings, hs'⟩
  rw [registersOf_eq (toList_wireBytes _)] at heval
  rw [← statusOf_found]
  show (Prog.eval _ (nmbsReadWriteRegisters _ _ _ (commandRegisters c).toList n) s).bind _ = _
  rw [heval]
  rfl

end calls

/-! ## Any number of calls -/

section runs
variable (others : OtherFunctions) {u : Byte} {m : RegisterModel} {stack : FakeStack}

theorem FakeStack.Idle.replyLeft (h : stack.Idle u m) : ReplyLeft u m [] stack.server :=
  ⟨h.address, h.model, h.fromClient, h.toClient⟩

/-- What a call leaves is idle again. -/
theorem idle_of_replyLeft {n : Nmbs} {s : GripperServer}
    (hn : n.settings = (clientNmbs GripperSerial.getTimeout u).settings) (hs : ReplyLeft u m [] s) :
    FakeStack.Idle u m ⟨n, s⟩ :=
  ⟨hn, hs.1, hs.2.1, hs.2.2.1, hs.2.2.2⟩

/-- **One call**: the stack does what the model does. -/
theorem FakeStack.Idle.call (h : stack.Idle u m) (hu : u ≠ 0) (call : ClientCall) :
    ∃ stack', stack.call others call = some (.ok (call.direct m).1, stack') ∧
      stack'.Idle u (call.direct m).2 := by
  unfold FakeStack.call
  cases call with
  | readStatus =>
    obtain ⟨n', s', heval, hn', hs'⟩ :=
      readStatus_idle others hu h.settings h.replyLeft
    refine ⟨⟨n', s'⟩, ?_, idle_of_replyLeft (hn'.trans h.settings) hs'⟩
    show Option.map _ ((Prog.eval _ (readStatus _) _).bind _) = _
    rw [heval]
    rfl
  | writeCommand c =>
    obtain ⟨n', s', heval, hn', hs'⟩ :=
      writeCommand_idle others hu h.settings c h.replyLeft
    refine ⟨⟨n', s'⟩, ?_, idle_of_replyLeft (hn'.trans h.settings) hs'⟩
    show Option.map _ ((Prog.eval _ (writeCommand c _) _).bind _) = _
    rw [heval]
    rfl
  | exchange c =>
    obtain ⟨n', s', heval, hn', hs'⟩ :=
      exchange_idle others hu h.settings c h.replyLeft
    refine ⟨⟨n', s'⟩, ?_, idle_of_replyLeft (hn'.trans h.settings) hs'⟩
    show Option.map _ ((Prog.eval _ (exchange c _) _).bind _) = _
    rw [heval]
    rfl

/-- **A run of calls**, by induction on the calls. -/
theorem FakeStack.Idle.calls (h : stack.Idle u m) (hu : u ≠ 0) (calls : List ClientCall) :
    ∃ stack', stack.calls others calls = some ((directCalls calls m).1.map .ok, stack') ∧
      stack'.Idle u (directCalls calls m).2 := by
  induction calls generalizing stack m with
  | nil => exact ⟨stack, rfl, h⟩
  | cons call calls ih =>
    -- the first call leaves the stack idle, and the others start from there
    obtain ⟨stack₁, hcall, hidle₁⟩ := h.call others hu call
    obtain ⟨stack', hcalls, hidle'⟩ := ih hidle₁
    refine ⟨stack', ?_, hidle'⟩
    unfold FakeStack.calls
    rw [hcall]
    show Option.bind (stack₁.calls others calls) _ = _
    rw [hcalls]
    rfl

/-- The constructors leave both queues empty. -/
theorem create_idle (hu : u ≠ 0) (m : RegisterModel) :
    ∃ stack, FakeStack.create m u = .ok stack ∧ stack.Idle u m := by
  unfold FakeStack.create GripperServer.create
  -- the library refuses the broadcast address only
  rw [if_neg hu]
  exact ⟨_, rfl, rfl, rfl, rfl, rfl, rfl⟩

/-- **The fake stack is transparent**: at every address but the broadcast, from every state of
    the model, any calls return through the client and the server what they return on the
    model itself, and leave it the same; none throws. Both queues are empty then, and so
    they are after each call. Calls that differ in bytes 6 to 15 of their commands only
    return the same and leave the same model. -/
theorem fakeStack_transparent (slaveAddress : Byte)
    (haddress : slaveAddress ≠ 0) (model : RegisterModel) :
    ∃ stack, FakeStack.create model slaveAddress = .ok stack ∧
      ∀ calls : List ClientCall,
        (∃ stack', stack.calls others calls = some ((directCalls calls model).1.map .ok, stack') ∧
          stack'.server.model = (directCalls calls model).2 ∧
          stack'.server.fromClient = [] ∧ stack'.server.toClient = []) ∧
        ∀ calls' : List ClientCall,
          calls'.map ClientCall.documented = calls.map ClientCall.documented →
          ∃ stack', stack.calls others calls' = some ((directCalls calls model).1.map .ok, stack') ∧
            stack'.server.model = (directCalls calls model).2 := by
  obtain ⟨stack, hcreate, hidle⟩ := create_idle haddress model
  refine ⟨stack, hcreate, ?_⟩
  intro calls
  constructor
  · obtain ⟨stack', hcalls, hidle'⟩ := hidle.calls others haddress calls
    exact ⟨stack', hcalls, hidle'.model, hidle'.fromClient, hidle'.toClient⟩
  · intro calls' hsame
    obtain ⟨stack', hcalls, hidle'⟩ := hidle.calls others haddress calls'
    -- the model does the same with either list
    have hdirect : directCalls calls' model = directCalls calls model := by
      rw [← directCalls_documented, hsame, directCalls_documented]
    rw [hdirect] at hcalls hidle'
    exact ⟨stack', hcalls, hidle'.model⟩

/-- A new model at address 9 is activated, and then asked. -/
theorem fakeStack_activates : ∃ stack stack', FakeStack.create {} 9 = .ok stack ∧
    stack.calls (fun _ s => (.ok (), s)) [.exchange .defaults, .readStatus] =
      some ((directCalls [.exchange .defaults, .readStatus] {}).1.map .ok, stack') ∧
    (directCalls [.exchange .defaults, .readStatus] {}).1 = [
      some { gripperStatus := ⟨0x31⟩, current := kReportedCurrent },
      some { gripperStatus := ⟨0x31⟩, current := kReportedCurrent }] := by
  obtain ⟨stack, hcreate, hcalls⟩ :=
    fakeStack_transparent (fun _ s => (.ok (), s)) 9 (by decide) {}
  obtain ⟨⟨stack', hdone, -⟩, -⟩ := hcalls [.exchange .defaults, .readStatus]
  exact ⟨stack, stack', hcreate, hdone, by decide +kernel⟩

end runs

end GripperDriver

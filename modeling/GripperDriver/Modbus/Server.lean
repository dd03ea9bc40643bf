import GripperDriver.Framework.Evaluation
import GripperDriver.Modbus.Nanomodbus

/-! # The Fake Gripper's Modbus Server

    `GripperServer`: the server side of nanoMODBUS between two byte queues, its register
    callbacks going to a `RegisterModel`. The library's own functions are those of the
    client, here run on the queues.

    * `Handler`: what the server may do,
    * the functions of nanoMODBUS, from `recvReqHeader` to `nmbsServerPoll`,
    * `GripperServer.create`, `deliver` and `drain`.

    The handlers of the function codes that this driver never sends (coils, single
    registers, files, identification) are a parameter, `others`.
-/

namespace GripperDriver

open Interleaving Transaction

/-! ## The server -/

/-- `GripperServer::Impl`. -/
structure GripperServer where
  model : RegisterModel
  fromClient : List Byte := []
  toClient : List Byte := []
  nmbs : Nmbs
  /-- `address_rtu` of the library. -/
  addressRtu : Byte
  /-- `msg.ignored` of the library. -/
  ignored : Bool := false

namespace GripperServer

/-- `readFromClient` and `writeToClient`. -/
def platform : {α : Type} → SerialAct α → GripperServer → Option (α × GripperServer)
  | _, .read count _, s =>
    some (some (s.fromClient.take count), { s with fromClient := s.fromClient.drop count })
  | _, .write data, s => some (true, { s with toClient := s.toClient ++ data })

def onReadHoldingRegisters (address quantity : Nat) (s : GripperServer) :
    Except NmbsError (Vector Register quantity) :=
  if RegisterModel.containsRange address quantity then
    .ok ((s.model.read address quantity).getD (Vector.replicate quantity 0))
  else .error .illegalDataAddress

def onWriteMultipleRegisters {quantity : Nat} (address : Nat) (values : Vector Register quantity)
    (s : GripperServer) : Except NmbsError Unit × GripperServer :=
  if RegisterModel.containsRange address quantity then
    (.ok (), { s with model := s.model.write address values })
  else (.error .illegalDataAddress, s)

end GripperServer

/-! ## Handlers -/

/-- What the server may do. `none` where it does not return. -/
def Handler (α : Type) : Type := GripperServer → Option (Except NmbsError α × GripperServer)

namespace Handler
variable {α β : Type}

protected def pure (a : α) : Handler α := fun s => some (.ok a, s)

protected def bind (m : Handler α) (f : α → Handler β) : Handler β := fun s =>
  (m s).bind fun r =>
    match r with
    | (.ok a, s') => f a s'
    | (.error e, s') => some (.error e, s')

instance : Monad Handler where
  pure := Handler.pure
  bind := Handler.bind

def fail (e : NmbsError) : Handler α := fun s => some (.error e, s)

def server : Handler GripperServer := fun s => some (.ok s, s)

def modify (f : GripperServer → GripperServer) : Handler Unit := fun s => some (.ok (), f s)

/-- A function of the library, run on the two queues. -/
def lift (m : Transaction α) : Handler α := fun s =>
  (Prog.eval GripperServer.platform (m s.nmbs) s).map fun r => (r.1.1, { r.2 with nmbs := r.1.2 })

end Handler

open Handler

/-! ## Replies -/

def putResHeader : Transaction Unit := putReqHeader

/-- The request is done with, unless an exception is to be told. -/
def sendExceptionMsg (exception : Byte) : Handler Unit := do
  let s ← server
  if s.nmbs.broadcast then pure ()
  else lift do
    Transaction.modify fun n => { n with fc := n.fc + 0x80 }
    putResHeader
    put [exception]
    sendMsg

/-- The exception that a callback's error is reported as. -/
def exceptionOf : NmbsError → Byte
  | .illegalFunction => 1
  | .illegalDataAddress => 2
  | .illegalDataValue => 3
  | _ => 4

/-- The reply to a request to read. -/
def sendRegisters {quantity : Nat} (registers : Vector Register quantity) : Handler Unit := do
  let s ← server
  if s.nmbs.broadcast then pure ()
  else lift do
    putResHeader
    put ([BitVec.ofNat 8 (quantity * 2)] ++ registers.toList.flatMap put2)
    sendMsg

/-- The reply to a request to write. -/
def sendRange (address quantity : Nat) : Handler Unit := do
  let s ← server
  if s.nmbs.broadcast then pure ()
  else lift do
    putResHeader
    put (rangeFields address quantity)
    sendMsg

/-! ## Requests -/

def recvReqHeader : Handler Unit := do
  lift recvMsgHeader
  Handler.modify fun s =>
    -- a broadcast is for every device, and is never answered
    if s.nmbs.unitId = 0 then { s with nmbs := { s.nmbs with broadcast := true } }
    else { s with ignored := s.nmbs.unitId ≠ s.addressRtu }

/-- `buf_idx` once `count` bytes of registers have been read: `bytes` is all that has been
    written to `msg.buf` so far. -/
def bufIdxBehind (bytes : List Byte) (count : Nat) : Nat :=
  match bytes.drop kBufferSize with
  -- `get_2` steps over whole registers: the last byte of an odd count stays behind the index,
  -- outside the checksum, and the footer is read over it
  | [] => bytes.length - count % 2
  -- what runs past the end of `msg.buf` falls on `buf_idx`, which stands right behind it; this
  -- is a request to be refused, and the next poll sets the index to zero before it is read
  | [low] => low.toNat
  | low :: high :: _ => low.toNat + 256 * high.toNat

example : bufIdxBehind [9, 16, 3, 232, 0, 1, 3, 9, 0, 0] 3 = 9 := rfl

/-- The bytes of the registers in a request to write. -/
def recvRegisterBytes (count : Nat) : Handler (Vector Byte count) := do
  let data ← lift (recv count)
  Handler.modify fun s =>
    { s with nmbs := { s.nmbs with buf := s.nmbs.buf.take (bufIdxBehind s.nmbs.buf count) } }
  pure data

/-- A callback for a request to read. -/
abbrev ReadCallback : Type :=
  (address quantity : Nat) → GripperServer → Except NmbsError (Vector Register quantity)

/-- What the callback finds is sent. -/
def sendRead (callback : ReadCallback) (address quantity : Nat) : Handler Unit := do
  let s ← server
  match callback address quantity s with
  | .error e => sendExceptionMsg (exceptionOf e)
  | .ok registers => sendRegisters registers

/-- The write callback has returned. -/
def replyIfWritten (reply : Handler Unit) (written : Except NmbsError Unit) : Handler Unit :=
  match written with
  | .error e => sendExceptionMsg (exceptionOf e)
  | .ok () => reply

/-- The write callback is called, and then `reply`. -/
def writeThen {quantity : Nat} (address : Nat) (values : Vector Register quantity)
    (reply : Handler Unit) : Handler Unit := fun s =>
  let r := s.onWriteMultipleRegisters address values
  replyIfWritten reply r.1 r.2

/-- Another device's request: its reply is read, and dropped. -/
def skipReadReply (quantity : Nat) : Handler Unit := do
  let _ ← lift (recvReadRegistersRes quantity)
  pure ()

def handleReadRegisters (callback : Option ReadCallback) : Handler Unit := do
  let fields ← lift (recv 4)
  let address := (packRegister (fields.get 0) (fields.get 1)).toNat
  let quantity := (packRegister (fields.get 2) (fields.get 3)).toNat
  lift recvMsgFooter
  let s ← server
  if s.ignored then skipReadReply quantity
  else if quantity < 1 ∨ quantity > 125 then sendExceptionMsg 3
  else if address + quantity > 0xFFFF + 1 then sendExceptionMsg 2
  else callback.elim (sendExceptionMsg 1) fun callback => sendRead callback address quantity

def handleWriteMultipleRegisters : Handler Unit := do
  let fields ← lift (recv 5)
  let address := (packRegister fields[0] fields[1]).toNat
  let quantity := (packRegister fields[2] fields[3]).toNat
  let registersBytes := fields[4].toNat
  -- the bytes are taken in before their count is checked; in FC 0x17 it is the other way round
  let data ← recvRegisterBytes registersBytes
  if registersBytes > 246 then Handler.fail .invalidRequest
  else do
    lift recvMsgFooter
    let s ← server
    if s.ignored then lift (recvWriteMultipleRegistersRes address quantity)
    else if quantity < 1 ∨ quantity > 0x7B then sendExceptionMsg 3
    else if address + quantity > 0xFFFF + 1 then sendExceptionMsg 2
    else if registersBytes = 0 then sendExceptionMsg 3
    else if h : registersBytes = quantity * 2 then
      writeThen address (registersOf (data.cast h)) (sendRange address quantity)
    else sendExceptionMsg 3

def handleReadWriteRegisters : Handler Unit := do
  let fields ← lift (recv 9)
  let readAddress := (packRegister fields[0] fields[1]).toNat
  let readQuantity := (packRegister fields[2] fields[3]).toNat
  let writeAddress := (packRegister fields[4] fields[5]).toNat
  let writeQuantity := (packRegister fields[6] fields[7]).toNat
  let byteCountWrite := fields[8].toNat
  if byteCountWrite > 242 then Handler.fail .invalidRequest
  else do
    let data ← recvRegisterBytes byteCountWrite
    lift recvMsgFooter
    let s ← server
    if s.ignored then lift (recvWriteMultipleRegistersRes writeAddress writeQuantity)
    else if readQuantity < 1 ∨ readQuantity > 0x7D then sendExceptionMsg 3
    -- the bound is that of FC 0x10; the client sends no more than 0x79
    else if writeQuantity < 1 ∨ writeQuantity > 0x7B then sendExceptionMsg 3
    else if h : byteCountWrite = writeQuantity * 2 then
      if readAddress + readQuantity > 0xFFFF + 1 then sendExceptionMsg 2
      else if writeAddress + writeQuantity > 0xFFFF + 1 then sendExceptionMsg 2
      else
        writeThen writeAddress (registersOf (data.cast h))
          -- the write comes first, so the read finds its effects
          (sendRead GripperServer.onReadHoldingRegisters readAddress readQuantity)
    else sendExceptionMsg 3

/-- What the library does on a function code that is not modelled here. -/
abbrev OtherFunctions : Type := Byte → GripperServer → Except NmbsError Unit × GripperServer

def handleReqFc (others : OtherFunctions) : Handler Unit := do
  let s ← server
  if s.nmbs.fc = 3 then handleReadRegisters (some GripperServer.onReadHoldingRegisters)
  else if s.nmbs.fc = 4 then handleReadRegisters none
  else if s.nmbs.fc = 16 then handleWriteMultipleRegisters
  else if s.nmbs.fc = 23 then handleReadWriteRegisters
  else fun s => some (others s.nmbs.fc s)

/-- Until the first byte is there, a timeout means that there is no request. -/
def pollHeader : Handler Bool := fun s =>
  (recvReqHeader s).map fun r =>
    match r with
    | (.ok (), s') => (.ok true, s')
    | (.error e, s') => if s'.nmbs.buf = [] ∧ e = .timeout then (.ok false, s') else (.error e, s')

/-- The rest of a request that failed is drained, unless it has not come. -/
def pollRequest (others : OtherFunctions) : Handler Unit := fun s =>
  (handleReqFc others s).bind fun r =>
    match r with
    | (.ok (), s') => some (.ok (), s')
    | (.error e, s') =>
      if e ≠ .timeout then (lift flush s').map fun r' => (.error e, r'.2) else some (.error e, s')

def nmbsServerPoll (others : OtherFunctions) : Handler Unit := do
  Handler.modify fun s => { s with nmbs := msgStateReset s.nmbs, ignored := false }
  let found ← pollHeader
  if found then pollRequest others else pure ()

/-! ## The queues -/

namespace GripperServer

/-- The library as the constructor leaves it; it refuses the broadcast address. -/
def create (model : RegisterModel) (slaveAddress : Byte) : Except String GripperServer :=
  if slaveAddress = 0 then
    .error ("creating the fake gripper's Modbus server failed: " ++ nmbsStrerror .invalidArgument)
  else .ok {
    model := model
    nmbs := { readTimeoutMs := 10, byteTimeoutMs := 10 }
    addressRtu := slaveAddress }

def deliver (others : OtherFunctions) (request : List Byte) (s : GripperServer) :
    Option GripperServer :=
  (nmbsServerPoll others { s with fromClient := s.fromClient ++ request }).map (·.2)

def drain (max : Nat) (s : GripperServer) : List Byte × GripperServer :=
  (s.toClient.take max, { s with toClient := s.toClient.drop max })

end GripperServer

end GripperDriver

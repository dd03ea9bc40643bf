import GripperDriver.Device.RegisterModel
import GripperDriver.Framework.Program

/-! # The Modbus Client

    `GripperModbusClient` and, under it, the client side of nanoMODBUS for the RTU
    transport, as programs over a serial link.

    * `SerialAct`: what a program may do to a `Serial`,
    * `Transaction`: programs that keep a `Nmbs` and may end with an error,
    * the functions of nanoMODBUS, from `recv` to `nmbsReadWriteRegisters`,
    * `readStatus`, `writeCommand` and `exchange`, and the frames that travel.

    `Nmbs.buf` holds the bytes of `msg.buf` before `buf_idx`. What `recv` adds its
    callers step over at once, and in the client to the last byte, so that `recv` here
    moves the index as well. Only the server, in a request to write, leaves bytes behind
    the index; it puts the index back itself.
-/

namespace GripperDriver

open Interleaving

/-! ## The serial link -/

inductive SerialAct : Type → Type where
  /-- `Serial::read`: up to `size` bytes; `none` when it throws. -/
  | read (size : Nat) (timeoutMs : Int) : SerialAct (Option (List Byte))
  /-- `Serial::write`; `false` when it throws. -/
  | write (data : List Byte) : SerialAct Bool

/-- The read callback: `none` is a negative result. Bytes in excess are ignored. -/
def readSerial (count : Nat) (byteTimeoutMs : Int) : Prog SerialAct (Option (List Byte)) := do
  let data ← .act (.read count byteTimeoutMs)
  pure (data.map (List.take count))

/-- The write callback. -/
def writeSerial (data : List Byte) : Prog SerialAct Bool := .act (.write data)

/-! ## The state of the library -/

inductive NmbsError where
  | invalidRequest
  | invalidUnitId
  | crc
  | transport
  | timeout
  | invalidResponse
  | invalidArgument
  | illegalFunction
  | illegalDataAddress
  | illegalDataValue
  | serverDeviceFailure
  deriving DecidableEq, Repr

def nmbsStrerror : NmbsError → String
  | .invalidRequest => "invalid request received"
  | .invalidUnitId => "invalid unit ID received"
  | .crc => "invalid CRC received"
  | .transport => "transport error"
  | .timeout => "timeout"
  | .invalidResponse => "invalid response received"
  | .invalidArgument => "invalid argument provided"
  | .illegalFunction => "modbus exception 1: illegal function"
  | .illegalDataAddress => "modbus exception 2: illegal data address"
  | .illegalDataValue => "modbus exception 3: data value"
  | .serverDeviceFailure => "modbus exception 4: server device failure"

/-- The error of an exception reply with this code; `none` outside 1 to 4. -/
def exceptionOfCode (code : Byte) : Option NmbsError :=
  if code = 1 then some .illegalFunction
  else if code = 2 then some .illegalDataAddress
  else if code = 3 then some .illegalDataValue
  else if code = 4 then some .serverDeviceFailure
  else none

/-- `nmbs_t`, as far as a client on RTU uses it. -/
structure Nmbs where
  /-- `msg.buf`, up to `msg.buf_idx`. -/
  buf : List Byte := []
  unitId : Byte := 0
  fc : Byte := 0
  transactionId : Register := 0
  broadcast : Bool := false
  byteTimeoutMs : Int := -1
  readTimeoutMs : Int := -1
  destAddressRtu : Byte := 0
  currentTid : Register := 0
  deriving DecidableEq, Repr

/-- `sizeof(nmbs->msg.buf)`. -/
def kBufferSize : Nat := 260

/-! ## Transactions -/

/-- Programs that keep the library's state and may return early with an error. -/
def Transaction (α : Type) : Type 1 := Nmbs → Prog SerialAct (Except NmbsError α × Nmbs)

namespace Transaction
variable {α β : Type}

protected def pure (a : α) : Transaction α := fun n => Prog.pure (.ok a, n)

protected def bind (m : Transaction α) (f : α → Transaction β) : Transaction β := fun n =>
  Prog.bind (m n) fun r =>
    match r with
    | (.ok a, n') => f a n'
    | (.error e, n') => Prog.pure (.error e, n')

instance : Monad Transaction where
  pure := Transaction.pure
  bind := Transaction.bind

def fail (e : NmbsError) : Transaction α := fun n => Prog.pure (.error e, n)

def state : Transaction Nmbs := fun n => Prog.pure (.ok n, n)

def modify (f : Nmbs → Nmbs) : Transaction Unit := fun n => Prog.pure (.ok (), f n)

def platform (p : Prog SerialAct α) : Transaction α := fun n =>
  Prog.bind p fun a => Prog.pure (.ok a, n)

/-- Run `m`, then `f` on the state it leaves, whether it failed or not. -/
def finally_ (m : Transaction α) (f : Nmbs → Nmbs) : Transaction α := fun n =>
  Prog.bind (m n) fun r => Prog.pure (r.1, f r.2)

end Transaction

open Transaction

/-! ## Checksums -/

def crcBit (crc : Register) : Register :=
  if crc.getLsbD 0 then (crc >>> 1) ^^^ 0xA001 else crc >>> 1

def crcByte (crc : Register) (byte : Byte) : Register :=
  Nat.iterate crcBit 8 (crc ^^^ byte.setWidth 16)

/-- CRC-16/MODBUS, its bytes swapped for the wire. -/
def nmbsCrcCalc (data : List Byte) : Register :=
  let crc := data.foldl crcByte 0xFFFF
  (crc <<< 8) ||| (crc >>> 8)

/-- The two bytes of a register, most significant first, as `put_2` writes them. -/
def put2 (r : Register) : List Byte := [highByte r, lowByte r]

/-- A frame, closed by its checksum. -/
def withCrc (body : List Byte) : List Byte := body ++ put2 (nmbsCrcCalc body)

example : nmbsCrcCalc [0x31, 0x32, 0x33, 0x34, 0x35, 0x36, 0x37, 0x38, 0x39] = 0x374B := by
  decide +kernel

/-! ## Receiving -/

/-- Exactly `count` more bytes, or an error. -/
def recv (count : Nat) : Transaction (Vector Byte count) := do
  let n ← state
  let data ← platform (readSerial count n.byteTimeoutMs)
  match data with
  | none => fail .transport
  | some data =>
    if h : data.length = count then do
      modify fun n => { n with buf := n.buf ++ data }
      pure ⟨data.toArray, by simpa using h⟩
    else fail .timeout

theorem toList_two (v : Vector Byte 2) : v.toList = [v[0], v[1]] := by
  apply List.ext_getElem (by simp)
  intro i hi _
  have hcases : i = 0 ∨ i = 1 := by simp at hi; omega
  obtain rfl | rfl := hcases <;> simp

theorem toList_one (v : Vector Byte 1) : v.toList = [v[0]] := by
  apply List.ext_getElem (by simp)
  intro i hi _
  obtain rfl : i = 0 := by simp at hi; omega
  simp

def msgStateReset (n : Nmbs) : Nmbs :=
  { n with buf := [], unitId := 0, fc := 0, transactionId := 0, broadcast := false }

/-- The wait for the first byte is the transaction's, and only that one. -/
def recvMsgHeader : Transaction Unit := do
  let n ← state
  modify fun n => msgStateReset { n with byteTimeoutMs := n.readTimeoutMs }
  -- the byte timeout is put back even where the first byte has not come
  let unitId ← finally_ (recv 1) fun n' => { n' with byteTimeoutMs := n.byteTimeoutMs }
  modify fun n => { n with unitId := unitId[0] }
  let fc ← recv 1
  modify fun n => { n with fc := fc[0] }

def recvMsgFooter : Transaction Unit := do
  let n ← state
  let crc := nmbsCrcCalc n.buf
  let received ← recv 2
  if packRegister received[0] received[1] = crc then pure () else fail .crc

def recvResHeader : Transaction Unit := do
  let req ← state
  recvMsgHeader
  let n ← state
  if n.unitId ≠ req.unitId then fail .invalidUnitId
  else if n.fc ≠ req.fc then
    -- an exception reply: its code is read before the checksum is known to be good
    if n.fc.toNat = req.fc.toNat + 0x80 then do
      let exception ← recv 1
      recvMsgFooter
      match exceptionOfCode exception[0] with
      | some e => fail e
      | none => fail .invalidResponse
    else fail .invalidResponse
  else pure ()

/-- The registers in the bytes of a reply. -/
def registersOf {quantity : Nat} (data : Vector Byte (quantity * 2)) : Vector Register quantity :=
  Vector.ofFn fun i : Fin quantity => packRegister data[i.val * 2] data[i.val * 2 + 1]

def recvReadRegistersRes (quantity : Nat) : Transaction (Vector Register quantity) := do
  recvResHeader
  let registersBytes ← recv 1
  -- the count of bytes is believed before the checksum has been checked
  if registersBytes[0].toNat > 250 ∨ registersBytes[0].toNat ≠ quantity * 2 then
    fail .invalidResponse
  else do
    let data ← recv (quantity * 2)
    recvMsgFooter
    pure (registersOf data)

def recvWriteMultipleRegistersRes (address quantity : Nat) : Transaction Unit := do
  recvResHeader
  let fields ← recv 4
  recvMsgFooter
  -- the echoed range is compared only once the checksum is good
  if (packRegister fields[0] fields[1]).toNat ≠ address then fail .invalidResponse
  else if (packRegister fields[2] fields[3]).toNat ≠ quantity then fail .invalidResponse
  else pure ()

/-! ## Requests -/

/-- Drain what is left on the line. A failure is ignored. -/
def flush : Transaction Unit := do
  let _ ← platform (readSerial kBufferSize 0)
  pure ()

def msgStateReq (fc : Byte) : Transaction Unit := do
  modify fun n =>
    -- the identifier counts on RTU too, where no frame carries it
    { n with currentTid := if n.currentTid = 0xFFFF then 1 else n.currentTid + 1 }
  flush
  modify fun n =>
    { msgStateReset n with
      unitId := n.destAddressRtu
      fc := fc
      transactionId := n.currentTid
      broadcast := n.destAddressRtu = 0 }

/-- Append to the message. -/
def put (bytes : List Byte) : Transaction Unit :=
  modify fun n => { n with buf := n.buf ++ bytes }

def putReqHeader : Transaction Unit :=
  modify fun n => { n with buf := [n.unitId, n.fc] }

def sendMsg : Transaction Unit := do
  modify fun n => { n with buf := withCrc n.buf }
  let n ← state
  -- on RTU the whole message goes out in one write
  let sent ← platform (writeSerial n.buf)
  if sent then pure () else fail .transport

/-- The fields of a request to read, and of the reply to a request to write. -/
def rangeFields (address quantity : Nat) : List Byte :=
  put2 (BitVec.ofNat 16 address) ++ put2 (BitVec.ofNat 16 quantity)

def readRegisters (fc : Byte) (address quantity : Nat) : Transaction (Vector Register quantity) :=
  if quantity < 1 ∨ quantity > 125 then fail .invalidArgument
  else if address + quantity > 0xFFFF + 1 then fail .invalidArgument
  else do
    msgStateReq fc
    putReqHeader
    put (rangeFields address quantity)
    sendMsg
    recvReadRegistersRes quantity

/-- FC 0x03. -/
def nmbsReadHoldingRegisters (address quantity : Nat) : Transaction (Vector Register quantity) :=
  readRegisters 3 address quantity

/-- The fields of an FC 0x10 request. -/
def writeFields (address : Nat) (registers : List Register) : List Byte :=
  rangeFields address registers.length ++ [BitVec.ofNat 8 (registers.length * 2)] ++
    registers.flatMap put2

/-- A broadcast has no reply. -/
def recvUnlessBroadcast (receive : Transaction Unit) : Transaction Unit := do
  let n ← state
  if n.broadcast then pure () else receive

/-- FC 0x10. -/
def nmbsWriteMultipleRegisters (address : Nat) (registers : List Register) : Transaction Unit :=
  if registers.length < 1 ∨ registers.length > 0x7B then fail .invalidArgument
  else if address + registers.length > 0xFFFF + 1 then fail .invalidArgument
  else do
    msgStateReq 16
    putReqHeader
    put (writeFields address registers)
    sendMsg
    recvUnlessBroadcast (recvWriteMultipleRegistersRes address registers.length)

/-- The fields of an FC 0x17 request. -/
def readWriteFields (readAddress readQuantity writeAddress : Nat) (registers : List Register) :
    List Byte :=
  put2 (BitVec.ofNat 16 readAddress) ++ put2 (BitVec.ofNat 16 readQuantity) ++
    put2 (BitVec.ofNat 16 writeAddress) ++ put2 (BitVec.ofNat 16 registers.length) ++
    [BitVec.ofNat 8 (registers.length * 2)] ++ registers.flatMap put2

/-- FC 0x17. -/
def nmbsReadWriteRegisters (readAddress readQuantity writeAddress : Nat)
    (registers : List Register) : Transaction (Vector Register readQuantity) :=
  if readQuantity < 1 ∨ readQuantity > 0x7D then fail .invalidArgument
  else if readAddress + readQuantity > 0xFFFF + 1 then fail .invalidArgument
  else if registers.length < 1 ∨ registers.length > 0x79 then fail .invalidArgument
  else if writeAddress + registers.length > 0xFFFF + 1 then fail .invalidArgument
  else do
    msgStateReq 23
    putReqHeader
    put (readWriteFields readAddress readQuantity writeAddress registers)
    sendMsg
    recvReadRegistersRes readQuantity

/-! ## The client -/

/-- The inter-byte timeout. -/
def kByteTimeoutMs : Int := 50

/-- The library as the constructor of the client leaves it, for a serial link with
    this timeout: the timeout is narrowed to `int32_t`. -/
def clientNmbs (timeoutMs : Int) (slaveAddress : Byte) : Nmbs where
  readTimeoutMs := (BitVec.ofInt 32 timeoutMs).toInt
  byteTimeoutMs := kByteTimeoutMs
  destAddressRtu := slaveAddress

/-- The status block in the registers of a reply. -/
def statusOf (registers : Vector Register kStatusRegisterCount) : GripperStatus :=
  .ofData (bytesFromRegisters registers (Vector.replicate 16 0))

/-- The description of the `DriverException` that an error becomes. -/
def failureText (context : String) (e : NmbsError) : String :=
  context ++ " failed: " ++ nmbsStrerror e

/-- `DriverException::what`, for the description that it was made with. -/
def DriverException.what (description : String) : String :=
  "DriverException: " ++ description ++ "."

/-- Read the status block with FC 0x03. -/
def readStatus (nmbs : Nmbs) : Prog SerialAct (Except String GripperStatus × Nmbs) := do
  let (registers, nmbs) ← nmbsReadHoldingRegisters kStatusAddress kStatusRegisterCount nmbs
  pure ((registers.map statusOf).mapError (failureText "readStatus"), nmbs)

/-- Write the command block with FC 0x10. -/
def writeCommand (command : GripperCommand) (nmbs : Nmbs) :
    Prog SerialAct (Except String Unit × Nmbs) := do
  let registers := registersFromBytes kCommandRegisterCount command.data commandRegisters_fit
  let (result, nmbs) ← nmbsWriteMultipleRegisters kCommandAddress registers.toList nmbs
  pure (result.mapError (failureText "writeCommand"), nmbs)

/-- Write the command block and read the status block in one FC 0x17 transaction;
    an error is the description of the exception thrown. -/
def exchange (command : GripperCommand) (nmbs : Nmbs) :
    Prog SerialAct (Except String GripperStatus × Nmbs) := do
  let commandRegisters := registersFromBytes kCommandRegisterCount command.data commandRegisters_fit
  let (registers, nmbs) ← nmbsReadWriteRegisters kStatusAddress kStatusRegisterCount
    kCommandAddress commandRegisters.toList nmbs
  pure ((registers.map statusOf).mapError (failureText "exchange"), nmbs)

/-! ## The frames -/

/-- The request that `exchange` sends. -/
def exchangeRequest (address : Byte) (command : GripperCommand) : List Byte :=
  withCrc ([address, 23] ++ readWriteFields kStatusAddress kStatusRegisterCount kCommandAddress
    (registersFromBytes kCommandRegisterCount command.data commandRegisters_fit).toList)

/-- The reply of a device at `address` that answers with these registers. -/
def exchangeReply (address : Byte) (registers : Vector Register kStatusRegisterCount) : List Byte :=
  withCrc ([address, 23, 6] ++ registers.toList.flatMap put2)

end GripperDriver

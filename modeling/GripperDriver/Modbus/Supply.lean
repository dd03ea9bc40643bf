import GripperDriver.Modbus.Transactions

/-! # What a Transaction Makes of a Good Reply

    The other direction of the rules for a reply: on a line that serves every read in
    full, the bytes of a good reply are accepted, and none is left.

    The line enters through one family of assertions: `U rest` says that `rest` is what
    the line still has to serve. No transaction below ends with an error.
-/

namespace GripperDriver

open Interleaving Transaction

section supply
variable {S : Type} {T : Thread S SerialAct} {I : S → Prop} {U : List Byte → S → Prop}
  {waits : Int → Prop} {α β : Type}

/-- The line serves the bytes of `U` in order, to every read under a timeout in `waits`. -/
structure Supply (T : Thread S SerialAct) (I : S → Prop) (waits : Int → Prop)
    (U : List Byte → S → Prop) : Prop where
  lasting : ∀ rest, Lasting T I (U rest)
  read : ∀ (data rest : List Byte) (timeoutMs : Int), waits timeoutMs →
    Triple T I (U (data ++ rest)) (readSerial data.length timeoutMs)
      (fun answer s => answer = some data ∧ U rest s)

/-- The read callback hands on all that a read answers, where it is no more than was asked for. -/
theorem readSerial_served {P R : S → Prop} {data : List Byte} {timeoutMs : Int}
    (h : Triple T (fun _ => True) P (.act (.read data.length timeoutMs))
      fun answer s => answer = some data ∧ R s) :
    Triple T (fun _ => True) P (readSerial data.length timeoutMs)
      (fun answer s => answer = some data ∧ R s) := by
  unfold readSerial
  apply h.bind
  intro answer
  apply Triple.pure_anywhere
  intro s hs
  obtain ⟨rfl, hs⟩ := hs
  exact ⟨congrArg some List.take_length, hs⟩

/-- No error. -/
def Never (_ : Nmbs) (_ : S) : Prop := False

theorem lasting_never (n : Nmbs) : Lasting T I (Never n) :=
  ⟨fun _ _ h _ => h, fun _ h => h.elim⟩

/-- `m`, run on `n`, takes `data` from the line and ends well, in `Q`. -/
def Takes (T : Thread S SerialAct) (I : S → Prop) (U : List Byte → S → Prop)
    (data : List Byte) (n : Nmbs) {α : Type} (m : Transaction α) (Q : α → Nmbs → Prop) : Prop :=
  ∀ rest, Triple T I (U (data ++ rest)) (m n) (Ends Never fun a n' s => Q a n' ∧ U rest s)

variable {data data' : List Byte} {n : Nmbs}

theorem takes_bind {m : Transaction α} {f : α → Transaction β}
    {Q : α → Nmbs → Prop} {R : β → Nmbs → Prop} (hm : Takes T I U data n m Q)
    (hf : ∀ a n', Q a n' → Takes T I U data' n' (f a) R) :
    Takes T I U (data ++ data') n (m >>= f) R := by
  intro rest
  rw [List.append_assoc]
  apply ends_bind lasting_never (hm (data' ++ rest))
  intro a n'
  exact Triple.assuming fun hQ => hf a n' hQ rest

/-- A first part whose end is known. -/
theorem takes_bind_eq {m : Transaction α} {f : α → Transaction β} {a₀ : α} {n₀ : Nmbs}
    {R : β → Nmbs → Prop} (hm : Takes T I U data n m fun a n' => a = a₀ ∧ n' = n₀)
    (hf : Takes T I U data' n₀ (f a₀) R) : Takes T I U (data ++ data') n (m >>= f) R := by
  apply takes_bind hm
  intro a n' hn'
  obtain ⟨rfl, rfl⟩ := hn'
  exact hf

theorem takes_pure (hU : Supply T I waits U) {a : α} {Q : α → Nmbs → Prop} (h : Q a n) :
    Takes T I U [] n (pure a) Q :=
  fun rest => ends_pure (hU.lasting rest) fun _ hs => ⟨h, hs⟩

theorem takes_modify (hU : Supply T I waits U) (g : Nmbs → Nmbs) :
    Takes T I U [] n (Transaction.modify g) (fun _ n' => n' = g n) :=
  fun rest => ends_modify (hU.lasting rest) fun _ hs => ⟨rfl, hs⟩

theorem takes_modify_bind (hU : Supply T I waits U) {g : Nmbs → Nmbs} {f : Unit → Transaction β}
    {R : β → Nmbs → Prop} (hf : Takes T I U data (g n) (f ()) R) :
    Takes T I U data n (Transaction.modify g >>= f) R :=
  fun rest => ends_modify_bind (hU.lasting _) (hf rest)

theorem takes_state_bind (hU : Supply T I waits U) {f : Nmbs → Transaction β}
    {R : β → Nmbs → Prop} (hf : Takes T I U data n (f n) R) :
    Takes T I U data n (state >>= f) R :=
  fun rest => ends_state_bind (hU.lasting _) (hf rest)

theorem takes_conseq {m : Transaction α} {Q Q' : α → Nmbs → Prop} (hm : Takes T I U data n m Q)
    (h : ∀ a n', Q a n' → Q' a n') : Takes T I U data n m Q' :=
  fun rest => ends_conseq (hm rest) (fun _ _ hs => hs) fun a n' _ hs => ⟨h a n' hs.1, hs.2⟩

/-- `recv` adds its bytes to the buffer. -/
theorem takes_recv (hU : Supply T I waits U) {count : Nat} (v : Vector Byte count)
    (hwaits : waits n.byteTimeoutMs) :
    Takes T I U v.toList n (recv count)
      (fun a n' => a = v ∧ n' = { n with buf := n.buf ++ v.toList }) := by
  unfold recv
  apply takes_state_bind hU
  intro rest
  have hread := hU.read v.toList rest n.byteTimeoutMs hwaits
  rw [Vector.length_toList] at hread
  apply ends_bind lasting_never
    (ends_platform hread fun answer => (hU.lasting rest).and _)
  intro answer _
  apply Triple.at_value
  apply Triple.at_value
  dsimp only
  rw [dif_pos v.length_toList]
  -- the bytes served are those of the vector, and no fewer
  have hv : (⟨v.toList.toArray, by simp⟩ : Vector Byte count) = v := Vector.ext fun i hi => by simp
  apply ends_modify_bind (hU.lasting rest)
  exact ends_pure (hU.lasting rest) fun _ hs => ⟨⟨hv, rfl⟩, hs⟩

theorem takes_finally {m : Transaction α} {g : Nmbs → Nmbs} {Q : α → Nmbs → Prop}
    (hU : Supply T I waits U) (hm : Takes T I U data n m fun a n' => Q a (g n')) :
    Takes T I U data n (finally_ m g) Q :=
  fun rest => ends_finally lasting_never (fun _ _ => (hU.lasting rest).and _) (hm rest)

/-! ## The parts of a reply -/

theorem takes_recvMsgHeader (hU : Supply T I waits U) (unitId fc : Byte)
    (hbyte : waits n.byteTimeoutMs) (hread : waits n.readTimeoutMs) :
    Takes T I U [unitId, fc] n recvMsgHeader (fun _ n' =>
      n' = { msgStateReset n with buf := [unitId, fc], unitId := unitId, fc := fc }) := by
  unfold recvMsgHeader
  apply takes_state_bind hU
  apply takes_modify_bind hU
  -- the first byte, under the timeout of the transaction
  have hfirst : Takes T I U [unitId] (msgStateReset { n with byteTimeoutMs := n.readTimeoutMs })
      (finally_ (recv 1) fun m => { m with byteTimeoutMs := n.byteTimeoutMs })
      (fun v m => v = #v[unitId] ∧ m = { msgStateReset n with buf := [unitId] }) := by
    apply takes_finally hU
    apply takes_conseq (takes_recv hU #v[unitId] hread)
    intro v m hm
    exact ⟨hm.1, by rw [hm.2]; rfl⟩
  apply takes_bind_eq hfirst
  apply takes_modify_bind hU
  show Takes T I U ([fc] ++ []) _ _ _
  refine takes_bind_eq (takes_recv hU #v[fc] hbyte) ?_
  apply takes_conseq (takes_modify hU _)
  intro _ n' hn'
  rw [hn']
  rfl

theorem takes_recvMsgFooter (hU : Supply T I waits U) (hbyte : waits n.byteTimeoutMs) :
    Takes T I U (put2 (nmbsCrcCalc n.buf)) n recvMsgFooter
      (fun _ n' => n' = { n with buf := withCrc n.buf }) := by
  unfold recvMsgFooter
  apply takes_state_bind hU
  show Takes T I U (put2 (nmbsCrcCalc n.buf) ++ []) _ _ _
  refine takes_bind_eq (takes_recv hU
    #v[highByte (nmbsCrcCalc n.buf), lowByte (nmbsCrcCalc n.buf)] hbyte) ?_
  have hcrc : packRegister (#v[highByte (nmbsCrcCalc n.buf), lowByte (nmbsCrcCalc n.buf)])[0]
      (#v[highByte (nmbsCrcCalc n.buf), lowByte (nmbsCrcCalc n.buf)])[1] =
      nmbsCrcCalc n.buf := packRegister_bytes _
  rw [if_pos hcrc]
  exact takes_pure hU rfl

/-- The header of a reply to this request. -/
theorem takes_recvResHeader (hU : Supply T I waits U) (hbyte : waits n.byteTimeoutMs)
    (hread : waits n.readTimeoutMs) :
    Takes T I U [n.unitId, n.fc] n recvResHeader (fun _ n' =>
      n' = { msgStateReset n with buf := [n.unitId, n.fc], unitId := n.unitId, fc := n.fc }) := by
  unfold recvResHeader
  apply takes_state_bind hU
  show Takes T I U ([n.unitId, n.fc] ++ []) _ _ _
  apply takes_bind (takes_recvMsgHeader hU n.unitId n.fc hbyte hread)
  intro _ n' hn'
  subst hn'
  apply takes_state_bind hU
  -- the address and the function are those of the request
  rw [if_neg (not_not.mpr rfl), if_neg (not_not.mpr rfl)]
  exact takes_pure hU rfl

/-- **A good reply is accepted**: address and function of the request, the length asked
    for, the data and the checksum of it all. -/
theorem takes_recvReadRegistersRes (hU : Supply T I waits U) {quantity : Nat}
    (data : Vector Byte (quantity * 2)) (hquantity : quantity * 2 ≤ 250)
    (hbyte : waits n.byteTimeoutMs) (hread : waits n.readTimeoutMs) :
    Takes T I U (withCrc ([n.unitId, n.fc, BitVec.ofNat 8 (quantity * 2)] ++ data.toList)) n
      (recvReadRegistersRes quantity)
      (fun registers n' => registers = registersOf data ∧ n'.settings = n.settings) := by
  -- the frame, split where the reads stand: header, length, data, checksum
  have hsplit : withCrc ([n.unitId, n.fc, BitVec.ofNat 8 (quantity * 2)] ++ data.toList) =
      [n.unitId, n.fc] ++ ([BitVec.ofNat 8 (quantity * 2)] ++ (data.toList ++
        (put2 (nmbsCrcCalc ([n.unitId, n.fc, BitVec.ofNat 8 (quantity * 2)] ++ data.toList)) ++
          []))) := by
    simp [withCrc]
  rw [hsplit]
  unfold recvReadRegistersRes
  apply takes_bind (takes_recvResHeader hU hbyte hread)
  intro _ n₁ hn₁
  subst hn₁
  have hcount := takes_recv hU #v[BitVec.ofNat 8 (quantity * 2)]
    (n := { msgStateReset n with buf := [n.unitId, n.fc], unitId := n.unitId, fc := n.fc }) hbyte
  apply takes_bind_eq hcount
  have hlength : (#v[BitVec.ofNat 8 (quantity * 2)] : Vector Byte 1)[0].toNat = quantity * 2 := by
    show (BitVec.ofNat 8 (quantity * 2)).toNat = quantity * 2
    rw [BitVec.toNat_ofNat, Nat.mod_eq_of_lt (by omega)]
  -- the length is the one asked for, and it fits into the byte
  rw [if_neg (by rw [hlength]; omega)]
  have hdata := takes_recv hU data (n := { msgStateReset n with
    buf := [n.unitId, n.fc, BitVec.ofNat 8 (quantity * 2)], unitId := n.unitId, fc := n.fc }) hbyte
  apply takes_bind_eq hdata
  have hfooter := takes_recvMsgFooter hU (n := { msgStateReset n with
    buf := [n.unitId, n.fc, BitVec.ofNat 8 (quantity * 2)] ++ data.toList, unitId := n.unitId
    fc := n.fc }) hbyte
  apply takes_bind hfooter
  intro _ n₂ hn₂
  exact takes_pure hU ⟨rfl, by rw [hn₂]; rfl⟩

/-- The four bytes of an address and a quantity. -/
def rangeVector (address quantity : Nat) : Vector Byte 4 :=
  #v[highByte (BitVec.ofNat 16 address), lowByte (BitVec.ofNat 16 address),
    highByte (BitVec.ofNat 16 quantity), lowByte (BitVec.ofNat 16 quantity)]

theorem toNat_packed {a : Nat} (h : a ≤ 0xFFFF) :
    (packRegister (highByte (BitVec.ofNat 16 a)) (lowByte (BitVec.ofNat 16 a))).toNat = a := by
  rw [packRegister_bytes, BitVec.toNat_ofNat]
  exact Nat.mod_eq_of_lt (by omega)

/-- **A good reply to a write** names the registers that were written. -/
theorem takes_recvWriteMultipleRegistersRes (hU : Supply T I waits U) (address quantity : Nat)
    (haddress : address ≤ 0xFFFF) (hquantity : quantity ≤ 0xFFFF)
    (hbyte : waits n.byteTimeoutMs) (hread : waits n.readTimeoutMs) :
    Takes T I U (withCrc ([n.unitId, n.fc] ++ rangeFields address quantity)) n
      (recvWriteMultipleRegistersRes address quantity) (fun _ n' => n'.settings = n.settings) := by
  -- header, address and quantity, checksum
  have hsplit : withCrc ([n.unitId, n.fc] ++ rangeFields address quantity) =
      [n.unitId, n.fc] ++ ((rangeVector address quantity).toList ++
        (put2 (nmbsCrcCalc ([n.unitId, n.fc] ++ rangeFields address quantity)) ++ [])) := by
    simp [withCrc, rangeFields, rangeVector, put2]
  rw [hsplit]
  unfold recvWriteMultipleRegistersRes
  apply takes_bind (takes_recvResHeader hU hbyte hread)
  intro _ n₁ hn₁
  subst hn₁
  have hfields := takes_recv hU (rangeVector address quantity)
    (n := { msgStateReset n with buf := [n.unitId, n.fc], unitId := n.unitId, fc := n.fc }) hbyte
  apply takes_bind_eq hfields
  have hfooter := takes_recvMsgFooter hU (n := { msgStateReset n with
    buf := [n.unitId, n.fc] ++ rangeFields address quantity, unitId := n.unitId
    fc := n.fc }) hbyte
  apply takes_bind hfooter
  intro _ n₂ hn₂
  -- both are what was asked for
  have haddress' : (packRegister (rangeVector address quantity)[0]
      (rangeVector address quantity)[1]).toNat = address := toNat_packed haddress
  have hquantity' : (packRegister (rangeVector address quantity)[2]
      (rangeVector address quantity)[3]).toNat = quantity := toNat_packed hquantity
  rw [if_neg (not_not.mpr haddress'), if_neg (not_not.mpr hquantity')]
  exact takes_pure hU (by rw [hn₂]; rfl)

end supply

/-! ## Whole transactions -/

section transactions
variable {S : Type} {T : Thread S SerialAct} {I E P F : S → Prop} {U : List Byte → S → Prop}
  {waits : Int → Prop}

/-- **A request with a good reply**: unless the write fails, the transaction ends well. -/
theorem takes_request {α : Type} {fc : Byte} {fields reply : List Byte} {receive : Transaction α}
    {Q : α → Nmbs → Prop} (hU : Supply T I waits U) (hE : Lasting T I E) (hP : Lasting T I P)
    (hF : Lasting T I F) (n : Nmbs)
    (hreceive : ∀ n', n'.settings = n.settings → n'.unitId = n.destAddressRtu → n'.fc = fc →
      n'.broadcast = decide (n.destAddressRtu = 0) → Takes T I U reply n' receive Q)
    (hflush : Triple T I P (readSerial kBufferSize 0) fun _ => F)
    (hwrite : Triple T I F (writeSerial (withCrc ([n.destAddressRtu, fc] ++ fields)))
      fun sent s => if sent then U reply s else E s) :
    Triple T I P
      ((do msgStateReq fc; putReqHeader; put fields; sendMsg; receive : Transaction α) n)
      (Ends (fun _ s => E s) fun a n' s => Q a n' ∧ U [] s) := by
  -- all that can go wrong is the write
  apply ends_request (fun _ => hE) hP hF ?_ hflush hwrite (fun _ _ _ hs => hs)
  · intro n' hsettings hunit hfc hbroadcast
    have hreply := hreceive n' hsettings hunit hfc hbroadcast []
    rw [List.append_nil] at hreply
    apply ends_conseq hreply
    · intro n₅ s hs
      exact hs.elim
    · intro a n₅ s hs
      exact hs
  · intro sent
    cases sent with
    | true => exact hU.lasting _
    | false => exact hE

section settings
variable {n n' : Nmbs} (h : n'.settings = n.settings)
include h

theorem byteTimeoutMs_eq : n'.byteTimeoutMs = n.byteTimeoutMs := congrArg (fun x => x.1) h

theorem readTimeoutMs_eq : n'.readTimeoutMs = n.readTimeoutMs := congrArg (fun x => x.2.1) h

end settings

/-- **FC 0x03 with a good reply**. -/
theorem takes_readHoldingRegisters (hU : Supply T I waits U) (hE : Lasting T I E)
    (hP : Lasting T I P) (hF : Lasting T I F) (n : Nmbs) (address : Nat) {quantity : Nat}
    (hread : 1 ≤ quantity ∧ quantity ≤ 125 ∧ address + quantity ≤ 0x10000)
    (hbyte : waits n.byteTimeoutMs) (hfirst : waits n.readTimeoutMs)
    (data : Vector Byte (quantity * 2))
    (hflush : Triple T I P (readSerial kBufferSize 0) fun _ => F)
    (hwrite : Triple T I F
      (writeSerial (withCrc ([n.destAddressRtu, 3] ++ rangeFields address quantity)))
      fun sent s => if sent then U (withCrc ([n.destAddressRtu, 3,
        BitVec.ofNat 8 (quantity * 2)] ++ data.toList)) s else E s) :
    Triple T I P (nmbsReadHoldingRegisters address quantity n)
      (Ends (fun _ s => E s) fun result n' s =>
        (result = registersOf data ∧ n'.settings = n.settings) ∧ U [] s) := by
  unfold nmbsReadHoldingRegisters readRegisters
  -- the arguments pass the checks
  rw [if_neg (by omega), if_neg (by omega)]
  refine takes_request hU hE hP hF n ?_ hflush hwrite
  intro n' hsettings hunit hfc _
  have hreply := takes_recvReadRegistersRes hU data (by omega) (n := n')
    (by rwa [byteTimeoutMs_eq hsettings]) (by rwa [readTimeoutMs_eq hsettings])
  rw [hunit, hfc] at hreply
  exact takes_conseq hreply fun _ _ hQ => ⟨hQ.1, hQ.2.trans hsettings⟩

/-- **FC 0x10 with a good reply**, to an address of its own. -/
theorem takes_writeMultipleRegisters (hU : Supply T I waits U) (hE : Lasting T I E)
    (hP : Lasting T I P) (hF : Lasting T I F) (n : Nmbs) (hdest : n.destAddressRtu ≠ 0)
    (address : Nat) (registers : List Register)
    (hwritten : 1 ≤ registers.length ∧ registers.length ≤ 0x7B ∧
      address + registers.length ≤ 0x10000)
    (hbyte : waits n.byteTimeoutMs) (hfirst : waits n.readTimeoutMs)
    (hflush : Triple T I P (readSerial kBufferSize 0) fun _ => F)
    (hwrite : Triple T I F
      (writeSerial (withCrc ([n.destAddressRtu, 16] ++ writeFields address registers)))
      fun sent s => if sent then U (withCrc ([n.destAddressRtu, 16] ++
        rangeFields address registers.length)) s else E s) :
    Triple T I P (nmbsWriteMultipleRegisters address registers n)
      (Ends (fun _ s => E s) fun _ n' s => n'.settings = n.settings ∧ U [] s) := by
  unfold nmbsWriteMultipleRegisters
  rw [if_neg (by omega), if_neg (by omega)]
  refine takes_request hU hE hP hF n ?_ hflush hwrite
  intro n' hsettings hunit hfc hbroadcast
  unfold recvUnlessBroadcast
  apply takes_state_bind hU
  -- no broadcast, so that the reply is waited for
  have halone : n'.broadcast = false := hbroadcast.trans (decide_eq_false hdest)
  rw [halone, if_neg Bool.false_ne_true]
  have hreply := takes_recvWriteMultipleRegistersRes hU (n := n') address registers.length
    (by omega) (by omega)
    (by rwa [byteTimeoutMs_eq hsettings]) (by rwa [readTimeoutMs_eq hsettings])
  rw [hunit, hfc] at hreply
  exact takes_conseq hreply fun _ _ hQ => hQ.trans hsettings

/-- **FC 0x17 with a good reply**: unless the write fails, the transaction ends well, with
    the data of the reply. -/
theorem takes_readWriteRegisters (hU : Supply T I waits U) (hE : Lasting T I E)
    (hP : Lasting T I P) (hF : Lasting T I F) (n : Nmbs)
    (readAddress writeAddress : Nat) {readQuantity : Nat} (registers : List Register)
    (hread : 1 ≤ readQuantity ∧ readQuantity ≤ 0x7D ∧ readAddress + readQuantity ≤ 0x10000)
    (hwritten : 1 ≤ registers.length ∧ registers.length ≤ 0x79 ∧
      writeAddress + registers.length ≤ 0x10000)
    (hbyte : waits n.byteTimeoutMs) (hfirst : waits n.readTimeoutMs)
    (data : Vector Byte (readQuantity * 2))
    (hflush : Triple T I P (readSerial kBufferSize 0) fun _ => F)
    (hwrite : Triple T I F
      (writeSerial (withCrc ([n.destAddressRtu, 23] ++
        readWriteFields readAddress readQuantity writeAddress registers)))
      fun sent s => if sent then U (withCrc ([n.destAddressRtu, 23,
        BitVec.ofNat 8 (readQuantity * 2)] ++ data.toList)) s else E s) :
    Triple T I P (nmbsReadWriteRegisters readAddress readQuantity writeAddress registers n)
      (Ends (fun _ s => E s) fun result n' s =>
        (result = registersOf data ∧ n'.settings = n.settings) ∧ U [] s) := by
  unfold nmbsReadWriteRegisters
  rw [if_neg (by omega), if_neg (by omega), if_neg (by omega), if_neg (by omega)]
  refine takes_request hU hE hP hF n ?_ hflush hwrite
  intro n' hsettings hunit hfc _
  have hreply := takes_recvReadRegistersRes hU data (by omega) (n := n')
    (by rwa [byteTimeoutMs_eq hsettings]) (by rwa [readTimeoutMs_eq hsettings])
  rw [hunit, hfc] at hreply
  exact takes_conseq hreply fun _ _ hQ => ⟨hQ.1, hQ.2.trans hsettings⟩

end transactions

end GripperDriver

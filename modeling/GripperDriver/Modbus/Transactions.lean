import GripperDriver.Modbus.Nanomodbus

/-! # What a Transaction Takes from the Line

    Rules for transactions among the steps of a serial link, and what each
    function of the library has consumed where it ends well.

    The link enters through one family of assertions: `L bytes` says that the
    transaction has taken `bytes` from the line so far, and `Feeds` that a read
    takes the next ones.
-/

namespace GripperDriver

open Interleaving Transaction

/-! ## Rules -/

section rules
variable {S : Type} {T : Thread S SerialAct} {I : S → Prop} {E : Nmbs → S → Prop} {α β : Type}

/-- `Q` after a normal end, `E` after an error. -/
def Ends (E : Nmbs → S → Prop) (Q : α → Nmbs → S → Prop) : Except NmbsError α × Nmbs → S → Prop
  | (.ok a, n), s => Q a n s
  | (.error _, n), s => E n s

/-- `P` outlasts the steps of the others, and is one of the states in `I`. -/
def Lasting (T : Thread S SerialAct) (I P : S → Prop) : Prop :=
  Stable T P ∧ ∀ s, P s → I s

theorem Lasting.and {P : S → Prop} (φ : Prop) (hP : Lasting T I P) :
    Lasting T I (fun s => φ ∧ P s) :=
  ⟨fun s s' hs henv => ⟨hs.1, hP.1 s s' hs.2 henv⟩, fun s hs => hP.2 s hs.2⟩

/-- A read whose answer does not matter. -/
theorem readSerial_drained {P F : S → Prop} {count : Nat} {timeoutMs : Int}
    (h : Triple T (fun _ => True) P (.act (.read count timeoutMs)) fun _ => F) :
    Triple T (fun _ => True) P (readSerial count timeoutMs) fun _ => F :=
  h.bind fun _ => Triple.pure_anywhere fun _ hs => hs

theorem ends_pure {P : S → Prop} {Q : α → Nmbs → S → Prop} {a : α} {n : Nmbs}
    (hP : Lasting T I P) (h : ∀ s, P s → Q a n s) :
    Triple T I P ((pure a : Transaction α) n) (Ends E Q) :=
  Triple.pure hP.1 hP.2 (fun _ hs => hs) h

theorem ends_fail {P : S → Prop} {Q : α → Nmbs → S → Prop} {e : NmbsError} {n : Nmbs}
    (hP : Lasting T I P) (h : ∀ s, P s → E n s) :
    Triple T I P ((fail e : Transaction α) n) (Ends E Q) :=
  Triple.pure hP.1 hP.2 (fun _ hs => hs) h

theorem ends_modify {P : S → Prop} {Q : Unit → Nmbs → S → Prop} {g : Nmbs → Nmbs} {n : Nmbs}
    (hP : Lasting T I P) (h : ∀ s, P s → Q () (g n) s) :
    Triple T I P (Transaction.modify g n) (Ends E Q) :=
  Triple.pure hP.1 hP.2 (fun _ hs => hs) h

theorem ends_bind {P : S → Prop} {Q : α → Nmbs → S → Prop} {R : β → Nmbs → S → Prop}
    {m : Transaction α} {f : α → Transaction β} {n : Nmbs} (hE : ∀ n', Lasting T I (E n'))
    (hm : Triple T I P (m n) (Ends E Q))
    (hf : ∀ a n', Triple T I (Q a n') (f a n') (Ends E R)) :
    Triple T I P ((m >>= f) n) (Ends E R) := by
  apply Triple.bind hm
  intro r
  rcases r with ⟨e | a, n'⟩
  · -- an error is passed on, and the rest is not run
    exact Triple.pure (hE n').1 (hE n').2 (fun _ hs => hs) fun _ hs => hs
  · exact hf a n'

/-- The rest starts from the state that was made for it. -/
theorem ends_modify_bind {P : S → Prop} {R : β → Nmbs → S → Prop} {g : Nmbs → Nmbs}
    {f : Unit → Transaction β} {n : Nmbs} (hP : Lasting T I P)
    (hf : Triple T I P (f () (g n)) (Ends E R)) :
    Triple T I P ((Transaction.modify g >>= f) n) (Ends E R) :=
  Triple.pure_bind hP.1 hP.2 hf

theorem ends_state_bind {P : S → Prop} {R : β → Nmbs → S → Prop} {f : Nmbs → Transaction β}
    {n : Nmbs} (hP : Lasting T I P) (hf : Triple T I P (f n n) (Ends E R)) :
    Triple T I P ((state >>= f) n) (Ends E R) :=
  Triple.pure_bind hP.1 hP.2 hf

theorem ends_platform {P : S → Prop} {Q : α → S → Prop} {p : Prog SerialAct α} {n : Nmbs}
    (hp : Triple T I P p Q) (hQ : ∀ a, Lasting T I (Q a)) :
    Triple T I P (platform p n) (Ends E fun a n' s => n' = n ∧ Q a s) :=
  hp.bind fun a => Triple.pure (hQ a).1 (hQ a).2 (fun _ hs => hs) fun _ hs => ⟨rfl, hs⟩

theorem ends_finally {P : S → Prop} {Q : α → Nmbs → S → Prop} {m : Transaction α}
    {g : Nmbs → Nmbs} {n : Nmbs} (hE : ∀ n', Lasting T I (E n'))
    (hQ : ∀ a n', Lasting T I (Q a n'))
    (hm : Triple T I P (m n) (Ends (fun n' => E (g n')) fun a n' => Q a (g n'))) :
    Triple T I P (finally_ m g n) (Ends E Q) := by
  apply Triple.bind hm
  intro r
  rcases r with ⟨e | a, n'⟩
  · exact Triple.pure (hE (g n')).1 (hE (g n')).2 (fun _ hs => hs) fun _ hs => hs
  · exact Triple.pure (hQ a (g n')).1 (hQ a (g n')).2 (fun _ hs => hs) fun _ hs => hs

/-- **Consequence**, after a normal end and after an error. -/
theorem ends_conseq {P : S → Prop} {Q Q' : α → Nmbs → S → Prop} {E' : Nmbs → S → Prop}
    {m : Transaction α} {n : Nmbs} (hm : Triple T I P (m n) (Ends E Q))
    (hE : ∀ n' s, E n' s → E' n' s) (hQ : ∀ a n' s, Q a n' s → Q' a n' s) :
    Triple T I P (m n) (Ends E' Q') := by
  apply hm.post
  intro r s hr
  rcases r with ⟨e | a, n'⟩
  · exact hE n' s hr
  · exact hQ a n' s hr

end rules

/-! ## Receiving -/

/-- What the application sets, and every transaction leaves as it was. -/
def Nmbs.settings (n : Nmbs) : Int × Int × Byte :=
  (n.byteTimeoutMs, n.readTimeoutMs, n.destAddressRtu)

section receiving
variable {S : Type} {T : Thread S SerialAct} {I E : S → Prop} {L : List Byte → S → Prop}

/-- What a read leaves: `P` of the bytes that it returns, `E` where it fails. -/
def Served (E : S → Prop) (P : List Byte → S → Prop) : Option (List Byte) → S → Prop
  | some data, s => P data s
  | none, s => E s

/-- A read takes the next bytes from the line, at most as many as it asks for. Where the
    transaction stops, or a read fails, `E` is left. -/
structure Feeds (T : Thread S SerialAct) (I E : S → Prop) (L : List Byte → S → Prop) : Prop where
  lasting : ∀ bytes, Lasting T I (L bytes)
  stops : ∀ bytes s, L bytes s → E s
  stopped : Lasting T I E
  read : ∀ bytes count timeoutMs, Triple T I (L bytes) (readSerial count timeoutMs)
    (Served E fun data => L (bytes ++ data))

/-- Started with `bytes` taken, `m` ends well only in `Q`, with its buffer taken. -/
def Receives (T : Thread S SerialAct) (I E : S → Prop) (L : List Byte → S → Prop)
    (bytes : List Byte) (n : Nmbs) {α : Type} (m : Transaction α) (Q : α → Nmbs → Prop) : Prop :=
  Triple T I (L bytes) (m n)
    (Ends (fun n' s => n'.settings = n.settings ∧ E s)
      fun a n' s => (n'.settings = n.settings ∧ Q a n') ∧ L n'.buf s)

/-- What holds of a line between two reads. -/
structure Line (T : Thread S SerialAct) (I E : S → Prop) (L : List Byte → S → Prop) : Prop where
  lasting : ∀ bytes, Lasting T I (L bytes)
  stops : ∀ bytes s, L bytes s → E s
  stopped : Lasting T I E

theorem Feeds.line (hL : Feeds T I E L) : Line T I E L := ⟨hL.lasting, hL.stops, hL.stopped⟩

variable {α β : Type} {bytes : List Byte} {n : Nmbs}

theorem receives_bind (hL : Line T I E L) {m : Transaction α} {f : α → Transaction β}
    {Q : α → Nmbs → Prop} {R : β → Nmbs → Prop} (hm : Receives T I E L bytes n m Q)
    (hf : ∀ a n', n'.settings = n.settings → Q a n' → Receives T I E L n'.buf n' (f a) R) :
    Receives T I E L bytes n (m >>= f) R := by
  apply ends_bind (fun _ => hL.stopped.and _) hm
  intro a n'
  apply Triple.assuming
  intro hQ
  -- what the rest keeps of `n'` it keeps of `n`
  apply ends_conseq (hf a n' hQ.1 hQ.2)
  · intro n'' s hs
    exact ⟨hs.1.trans hQ.1, hs.2⟩
  · intro b n'' s hs
    exact ⟨⟨hs.1.1.trans hQ.1, hs.1.2⟩, hs.2⟩

theorem receives_pure (hL : Line T I E L) {a : α} {Q : α → Nmbs → Prop} (h : Q a n) :
    Receives T I E L n.buf n (pure a) Q :=
  ends_pure (hL.lasting _) fun _ hs => ⟨⟨rfl, h⟩, hs⟩

theorem receives_fail (hL : Line T I E L) {e : NmbsError} {Q : α → Nmbs → Prop} :
    Receives T I E L bytes n (fail e) Q :=
  ends_fail (hL.lasting _) fun s hs => ⟨rfl, hL.stops _ s hs⟩

theorem receives_modify (hL : Line T I E L) {g : Nmbs → Nmbs} (hbuf : (g n).buf = bytes)
    (hsettings : (g n).settings = n.settings) :
    Receives T I E L bytes n (Transaction.modify g) (fun _ n' => n' = g n) :=
  ends_modify (hL.lasting _) fun _ hs => ⟨⟨hsettings, rfl⟩, hbuf ▸ hs⟩

theorem receives_conseq {m : Transaction α} {Q Q' : α → Nmbs → Prop}
    (hm : Receives T I E L bytes n m Q) (h : ∀ a n', n'.settings = n.settings → Q a n' → Q' a n') :
    Receives T I E L bytes n m Q' :=
  ends_conseq hm (fun _ _ hs => hs) fun a n' _ hs => ⟨⟨hs.1.1, h a n' hs.1.1 hs.1.2⟩, hs.2⟩

theorem receives_ite {c : Prop} [Decidable c] {m m' : Transaction α} {Q : α → Nmbs → Prop}
    (hm : c → Receives T I E L bytes n m Q) (hm' : ¬ c → Receives T I E L bytes n m' Q) :
    Receives T I E L bytes n (if c then m else m') Q := by
  by_cases h : c
  · rw [if_pos h]
    exact hm h
  · rw [if_neg h]
    exact hm' h

/-- `recv` adds its bytes to the buffer. -/
theorem receives_recv (hL : Feeds T I E L) (count : Nat) :
    Receives T I E L n.buf n (recv count)
      (fun data n' => n' = { n with buf := n.buf ++ data.toList }) := by
  unfold recv
  apply ends_state_bind (hL.lasting _)
  have hplatform := ends_platform (E := fun n' s => n'.settings = n.settings ∧ E s) (n := n)
    (hL.read n.buf count n.byteTimeoutMs) fun answer => by
      cases answer with
      | none => exact hL.stopped
      | some data => exact hL.lasting _
  apply ends_bind (fun _ => hL.stopped.and _) hplatform
  intro answer _
  apply Triple.at_value
  cases answer with
  -- the callback reported an error, and the line is left where it is
  | none => exact ends_fail hL.stopped fun _ hs => ⟨rfl, hs⟩
  | some data =>
    dsimp only
    -- a short read is a timeout: no byte of it goes to the buffer
    by_cases h : data.length = count
    · rw [dif_pos h]
      refine receives_bind hL.line (receives_modify hL.line rfl rfl) ?_
      intro _ n' _ hn'
      exact receives_pure hL.line hn'
    · rw [dif_neg h]
      exact receives_fail hL.line

/-- A line on which `recv` takes the next bytes, all that it asks for. -/
structure Receiver (T : Thread S SerialAct) (I E : S → Prop) (L : List Byte → S → Prop) : Prop
    extends Line T I E L where
  recv : ∀ (n : Nmbs) (count : Nat), Receives T I E L n.buf n (recv count)
    (fun data n' => n' = { n with buf := n.buf ++ data.toList })

theorem Feeds.receiver (hL : Feeds T I E L) : Receiver T I E L :=
  { hL.line with recv := fun _ count => receives_recv hL count }

/-! ### The parts of a reply -/

theorem put2_packRegister (high low : Byte) : put2 (packRegister high low) = [high, low] := by
  simp [put2]

/-- The header resets the buffer: nothing has been taken before it. -/
theorem receives_recvMsgHeader (hL : Receiver T I E L) :
    Receives T I E L [] n recvMsgHeader (fun _ n' => n'.buf = [n'.unitId, n'.fc]) := by
  -- wherever it stops, the settings are the ones of the start
  have hE : ∀ n', Lasting T I (fun s => Nmbs.settings n' = n.settings ∧ E s) :=
    fun _ => hL.stopped.and _
  unfold recvMsgHeader
  apply ends_state_bind (hL.lasting _)
  apply ends_modify_bind (hL.lasting _)
  -- the first byte is read under the timeout of the transaction, which `finally_` takes back
  apply ends_bind hE (Q := fun unitId n₁ s =>
    n₁ = { msgStateReset n with buf := unitId.toList } ∧ L unitId.toList s)
  · apply ends_finally hE (fun _ _ => (hL.lasting _).and _)
    have hrecv := hL.recv (msgStateReset { n with byteTimeoutMs := n.readTimeoutMs }) 1
    apply ends_conseq hrecv
    · intro n₁ s hs
      have h := hs.1
      simp only [Nmbs.settings, msgStateReset, Prod.mk.injEq] at h ⊢
      exact ⟨⟨trivial, h.2⟩, hs.2⟩
    · intro unitId n₁ s hs
      obtain ⟨⟨-, rfl⟩, hs⟩ := hs
      exact ⟨rfl, hs⟩
  intro unitId n₁
  apply Triple.at_value
  -- what follows starts with that byte in the buffer
  have hrest : Receives T I E L unitId.toList { msgStateReset n with buf := unitId.toList }
      (do
        Transaction.modify fun n => { n with unitId := unitId[0] }
        let fc ← recv 1
        Transaction.modify fun n => { n with fc := fc[0] })
      (fun _ n' => n'.buf = [n'.unitId, n'.fc]) := by
    apply ends_modify_bind (hL.lasting _)
    apply receives_bind hL.toLine (hL.recv { msgStateReset n with
      buf := unitId.toList, unitId := unitId[0] } 1)
    intro fc n₂ _ hn₂
    refine receives_conseq (receives_modify hL.toLine rfl rfl) ?_
    intro _ n₃ _ hn₃
    subst hn₂ hn₃
    simp [toList_one]
  exact hrest

/-- The footer is the checksum of all that came before. -/
theorem receives_recvMsgFooter (hL : Receiver T I E L) :
    Receives T I E L n.buf n recvMsgFooter (fun _ n' => n' = { n with buf := withCrc n.buf }) := by
  unfold recvMsgFooter
  apply ends_state_bind (hL.lasting _)
  apply receives_bind hL.toLine (hL.recv n 2)
  intro received n₁ _ hn₁
  apply receives_ite
  · intro hcrc
    apply receives_pure hL.toLine
    -- the two bytes received are the checksum, most significant first
    rw [hn₁, withCrc, ← hcrc, put2_packRegister, toList_two]
  · intro _
    exact receives_fail hL.toLine

theorem receives_recvResHeader (hL : Receiver T I E L) :
    Receives T I E L [] n recvResHeader (fun _ n' => n'.buf = [n.unitId, n.fc]) := by
  unfold recvResHeader
  apply ends_state_bind (hL.lasting _)
  apply receives_bind hL.toLine (receives_recvMsgHeader hL)
  intro _ n₁ _ hbuf
  apply ends_state_bind (hL.lasting _)
  apply receives_ite (fun _ => receives_fail hL.toLine)
  intro hunit
  refine receives_ite (fun hfc => ?_) fun hfc => ?_
  · -- an exception reply, or no reply to this request: an error either way
    refine receives_ite (fun _ => ?_) fun _ => receives_fail hL.toLine
    apply receives_bind hL.toLine (hL.recv _ 1)
    intro exception n₄ _ _
    apply receives_bind hL.toLine (receives_recvMsgFooter hL)
    intro _ n₅ _ _
    split <;> exact receives_fail hL.toLine
  · apply receives_pure hL.toLine
    rw [hbuf, not_not.mp hunit, not_not.mp hfc]

/-- **A reply that is accepted** has the address and the function of the request, the
    length asked for, and the checksum. -/
theorem receives_recvReadRegistersRes (hL : Receiver T I E L) (quantity : Nat) :
    Receives T I E L [] n (recvReadRegistersRes quantity) (fun registers n' =>
      ∃ data : Vector Byte (quantity * 2), registers = registersOf data ∧
        n'.buf = withCrc ([n.unitId, n.fc, BitVec.ofNat 8 (quantity * 2)] ++ data.toList)) := by
  unfold recvReadRegistersRes
  apply receives_bind hL.toLine (receives_recvResHeader hL)
  intro _ n₁ _ hn₁
  apply receives_bind hL.toLine (hL.recv _ 1)
  intro registersBytes n₂ _ hn₂
  apply receives_ite (fun _ => receives_fail hL.toLine)
  intro hlength
  apply receives_bind hL.toLine (hL.recv _ (quantity * 2))
  intro data n₃ _ hn₃
  apply receives_bind hL.toLine (receives_recvMsgFooter hL)
  intro _ n₄ _ hn₄
  refine receives_pure hL.toLine ⟨data, rfl, ?_⟩
  -- the length byte is the one that was asked for
  have hbyte : registersBytes[0] = BitVec.ofNat 8 (quantity * 2) := by
    rw [not_or, not_not] at hlength
    rw [← hlength.2, BitVec.ofNat_toNat, BitVec.setWidth_eq]
  rw [hn₄, hn₃, hn₂, hn₁, toList_one, hbyte]
  rfl

/-! ### The registers of a reply -/

theorem getElem?_flatMap_put2 (registers : List Register) (i : Nat) :
    (registers.flatMap put2)[2 * i]? = (registers[i]?).map highByte ∧
      (registers.flatMap put2)[2 * i + 1]? = (registers[i]?).map lowByte := by
  induction registers generalizing i with
  | nil => simp
  | cons r registers ih =>
    cases i with
    | zero => simp [put2]
    | succ i =>
      have h := ih i
      rw [List.flatMap_cons, put2, show 2 * (i + 1) = 2 * i + 2 by omega]
      simpa using h

/-- The registers of a reply are the ones that were put into it. -/
theorem registersOf_eq {quantity : Nat} {data : Vector Byte (quantity * 2)}
    {registers : Vector Register quantity}
    (h : data.toList = registers.toList.flatMap put2) : registersOf data = registers := by
  apply Vector.ext
  intro i hi
  -- register i is in bytes 2 i and 2 i + 1
  obtain ⟨hhigh, hlow⟩ := getElem?_flatMap_put2 registers.toList i
  rw [← h, Vector.getElem?_toList, Vector.getElem?_toList, Vector.getElem?_eq_getElem (by omega),
    Vector.getElem?_eq_getElem hi, Option.map_some, Option.some.injEq] at hhigh hlow
  rw [registersOf, Vector.getElem_ofFn]
  simp only [Nat.mul_comm i 2, hhigh, hlow, packRegister_bytes]

end receiving

/-! ## Requests -/

section requests
variable {S : Type} {T : Thread S SerialAct} {I P F : S → Prop} {E : Nmbs → S → Prop} {n : Nmbs}

/-- What the drain leaves, the request starts from. -/
theorem ends_msgStateReq (fc : Byte) (hE : ∀ n', Lasting T I (E n')) (hP : Lasting T I P)
    (hF : Lasting T I F) (hflush : Triple T I P (readSerial kBufferSize 0) fun _ => F) :
    Triple T I P (msgStateReq fc n) (Ends E fun _ n' s =>
      (n'.settings = n.settings ∧ n'.unitId = n.destAddressRtu ∧ n'.fc = fc ∧
        n'.broadcast = decide (n.destAddressRtu = 0)) ∧ F s) := by
  unfold msgStateReq
  apply ends_modify_bind hP
  apply ends_bind hE (Q := fun _ n₁ s => n₁.settings = n.settings ∧ F s)
  · unfold flush
    apply ends_bind hE (ends_platform hflush fun _ => hF)
    intro _ n₁
    apply Triple.assuming
    intro hn₁
    exact ends_pure hF fun _ hs => ⟨by rw [hn₁]; rfl, hs⟩
  intro _ n₁
  apply Triple.assuming
  intro hn₁
  -- the message is for the address that the application has set
  have hdest : n₁.destAddressRtu = n.destAddressRtu := congrArg (fun x => x.2.2) hn₁
  exact ends_modify hF fun _ hs => ⟨⟨hn₁, hdest, rfl, by rw [← hdest]⟩, hs⟩

/-- The message is closed and written, or an error is all that is left. -/
theorem ends_sendMsg {W : Bool → S → Prop} (hE : ∀ n', Lasting T I (E n')) (hF : Lasting T I F)
    (hW : ∀ sent, Lasting T I (W sent))
    (hwrite : Triple T I F (writeSerial (withCrc n.buf)) W)
    (hfailed : ∀ s, W false s → E { n with buf := withCrc n.buf } s) :
    Triple T I F (sendMsg n) (Ends E fun _ n' s => n' = { n with buf := withCrc n.buf } ∧
      W true s) := by
  unfold sendMsg
  apply ends_modify_bind hF
  apply ends_state_bind hF
  apply ends_bind hE (ends_platform hwrite hW)
  intro sent _
  apply Triple.at_value
  cases sent with
  -- written, or the transport has failed
  | true => exact ends_pure (hW true) fun _ hs => ⟨rfl, hs⟩
  | false => exact ends_fail (hW false) hfailed

/-- **A request, and what follows it**: the line is drained, the message is written under
    the address and the function, and `receive` starts from there. -/
theorem ends_request {α : Type} {Q : α → Nmbs → S → Prop} {W : Bool → S → Prop} {fc : Byte}
    {fields : List Byte} {receive : Transaction α} (hE : ∀ n', Lasting T I (E n'))
    (hP : Lasting T I P) (hF : Lasting T I F) (hW : ∀ sent, Lasting T I (W sent))
    (hflush : Triple T I P (readSerial kBufferSize 0) fun _ => F)
    (hwrite : Triple T I F (writeSerial (withCrc ([n.destAddressRtu, fc] ++ fields))) W)
    (hfailed : ∀ n' s, n'.settings = n.settings → W false s → E n' s)
    (hreceive : ∀ n', n'.settings = n.settings → n'.unitId = n.destAddressRtu → n'.fc = fc →
      n'.broadcast = decide (n.destAddressRtu = 0) → Triple T I (W true) (receive n') (Ends E Q)) :
    Triple T I P
      ((do msgStateReq fc; putReqHeader; put fields; sendMsg; receive : Transaction α) n)
      (Ends E Q) := by
  apply ends_bind hE (ends_msgStateReq fc hE hP hF hflush)
  intro _ n₁
  apply Triple.assuming
  intro hn₁
  obtain ⟨hsettings, hunit, hfc, hbroadcast⟩ := hn₁
  -- the message is put together
  apply ends_modify_bind hF
  apply ends_modify_bind hF
  -- it begins with the address of the slave and the function of the request
  have hmessage : Triple T I F (writeSerial (withCrc ([n₁.unitId, n₁.fc] ++ fields))) W := by
    rw [hunit, hfc]
    exact hwrite
  have hsend := ends_sendMsg (n := { n₁ with buf := [n₁.unitId, n₁.fc] ++ fields }) hE hF hW
    hmessage fun s hs => hfailed _ s hsettings hs
  apply ends_bind hE hsend
  intro _ _
  apply Triple.at_value
  exact hreceive _ hsettings hunit hfc hbroadcast

end requests

section transactions
variable {S : Type} {T : Thread S SerialAct} {I E P F : S → Prop} {L : List Byte → S → Prop}

/-- **FC 0x17 as a whole**: the line is drained, the request is written, and what is read
    after that is accepted only as a reply to this function from this address. -/
theorem ends_readWriteRegisters (hL : Receiver T I E L) (hP : Lasting T I P) (hF : Lasting T I F)
    (n : Nmbs) (readAddress readQuantity writeAddress : Nat) (registers : List Register)
    (hread : 1 ≤ readQuantity ∧ readQuantity ≤ 0x7D ∧ readAddress + readQuantity ≤ 0x10000)
    (hwritten : 1 ≤ registers.length ∧ registers.length ≤ 0x79 ∧
      writeAddress + registers.length ≤ 0x10000)
    (hflush : Triple T I P (readSerial kBufferSize 0) fun _ => F)
    (hwrite : Triple T I F
      (writeSerial (withCrc ([n.destAddressRtu, 23] ++
        readWriteFields readAddress readQuantity writeAddress registers)))
      fun sent s => if sent then L [] s else E s) :
    Triple T I P (nmbsReadWriteRegisters readAddress readQuantity writeAddress registers n)
      (Ends (fun n' s => n'.settings = n.settings ∧ E s) fun result n' s =>
        (n'.settings = n.settings ∧ ∃ data : Vector Byte (readQuantity * 2),
          result = registersOf data ∧ n'.buf = withCrc
            ([n.destAddressRtu, 23, BitVec.ofNat 8 (readQuantity * 2)] ++ data.toList)) ∧
        L n'.buf s) := by
  unfold nmbsReadWriteRegisters
  -- the arguments pass the checks
  rw [if_neg (by omega), if_neg (by omega), if_neg (by omega), if_neg (by omega)]
  apply ends_request (W := fun sent s => if sent then L [] s else E s)
    (fun _ => hL.stopped.and _) hP hF
  · intro sent
    cases sent with
    | true => exact hL.lasting []
    | false => exact hL.stopped
  · exact hflush
  · exact hwrite
  · intro n' s hsettings hs
    exact ⟨hsettings, hs⟩
  · intro n' hsettings hunit hfc _
    -- what the reply keeps of the settings it keeps of the first ones
    apply ends_conseq (receives_recvReadRegistersRes hL readQuantity)
    · intro n₅ s hs
      exact ⟨hs.1.trans hsettings, hs.2⟩
    · intro result n₅ s hs
      obtain ⟨⟨hkept, data, hresult, hbuf⟩, hline⟩ := hs
      rw [hunit, hfc] at hbuf
      exact ⟨⟨hkept.trans hsettings, data, hresult, hbuf⟩, hline⟩

end transactions

end GripperDriver

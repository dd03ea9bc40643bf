import GripperDriver.Modbus.FakeStack
import GripperDriver.Platform.SerialPort

/-! # What a Serial Link Is Asked to Wait

    The timeout of a serial link is 64 bits of milliseconds; the library keeps
    it in 32, and swaps it with the byte timeout around the first byte of a
    reply, however that ends.

    * `SerialUse`, `SerialEnd`: how a client uses a link, whatever the link answers,
    * `WaitsAsDue`: the waits that a client owes to the link's own timeout,
    * `Keeps`: transactions that keep them, and the settings of the library,
    * `readTimeouts_iff`: for which timeouts every call does.
-/

namespace GripperDriver

open Interleaving Transaction

/-! ## The link -/

/-- What a link sees of its client. -/
inductive SerialUse where
  /-- A call of the client is entered. -/
  | call
  | read (timeoutMs : Int)
  | write
  deriving DecidableEq, Repr

/-- What a link answers, given all that it has seen: bytes or an exception for a read,
    and for a write whether it throws. -/
structure SerialEnd where
  read : List SerialUse → Option (List Byte)
  write : List SerialUse → Bool

def SerialEnd.step (serial : SerialEnd) :
    {α : Type} → SerialAct α → List SerialUse → Option (α × List SerialUse)
  | _, .read _ timeoutMs, uses => some (serial.read uses, uses ++ [.read timeoutMs])
  | _, .write _, uses => some (serial.write uses, uses ++ [.write])

/-- The calls of a client, one after the other, whether they throw or not. -/
def clientCalls (serial : SerialEnd) :
    List ClientCall → Nmbs → List SerialUse → Option (Nmbs × List SerialUse)
  | [], nmbs, uses => some (nmbs, uses)
  | call :: calls, nmbs, uses => do
    let (result, uses) ← Prog.eval serial.step (call.run nmbs) (uses ++ [.call])
    clientCalls serial calls result.2 uses

/-! ## The waits that are due -/

/-- How long a read is to wait after what came last: not at all for the drain, for the
    configured timeout after the request, and for the next byte of a frame only shortly. -/
def dueTimeout (timeoutMs : Int) : SerialUse → Int
  | .call => 0
  | .write => timeoutMs
  | .read _ => kByteTimeoutMs

/-- No read waits a negative time, and each waits as long as is due. -/
structure WaitsAsDue (timeoutMs : Int) (uses : List SerialUse) : Prop where
  nonneg : ∀ ms, .read ms ∈ uses → 0 ≤ ms
  due : ∀ before last ms after, uses = before ++ last :: .read ms :: after →
    ms = dueTimeout timeoutMs last

section due
variable {timeoutMs : Int} {uses : List SerialUse} {last : SerialUse}

theorem waitsAsDue_nil : WaitsAsDue timeoutMs [] := by
  constructor
  · simp
  · intro before last ms after h
    cases before <;> cases h

theorem WaitsAsDue.concat (h : WaitsAsDue timeoutMs uses) {use : SerialUse}
    (hread : ∀ ms, use = .read ms → 0 ≤ ms ∧
      ∀ last, uses.getLast? = some last → ms = dueTimeout timeoutMs last) :
    WaitsAsDue timeoutMs (uses ++ [use]) := by
  constructor
  · intro ms hms
    rcases List.mem_append.mp hms with hold | hnew
    · exact h.nonneg ms hold
    · exact (hread ms (List.mem_singleton.mp hnew).symm).1
  · intro before last ms after hsplit
    -- the read is an earlier one, or it is the one just made
    rcases List.eq_nil_or_concat after with rfl | ⟨after, end_, rfl⟩
    · have hsplit' : uses ++ [use] = (before ++ [last]) ++ [.read ms] := by simp [hsplit]
      obtain ⟨rfl, hlast⟩ := List.append_inj' hsplit' rfl
      exact (hread ms (List.singleton_inj.mp hlast)).2 last List.getLast?_concat
    · have hsplit' : uses ++ [use] = (before ++ last :: .read ms :: after) ++ [end_] := by
        simp [hsplit]
      obtain ⟨rfl, _⟩ := List.append_inj' hsplit' rfl
      exact h.due before last ms after rfl

end due

/-! ## Transactions that keep them -/

/-- What an application sets for this timeout: the byte timeout, the timeout and the address. -/
def settingsFor (timeoutMs : Int) (slaveAddress : Byte) : Int × Int × Byte :=
  (kByteTimeoutMs, timeoutMs, slaveAddress)

section keeps
variable {α β : Type} {serial : SerialEnd} {timeoutMs : Int} {slaveAddress : Byte}
variable {P Q R : List SerialUse → Prop}

/-- All waits were as due, and the last use was of a kind. -/
def Latest (timeoutMs : Int) (kind : SerialUse → Prop) (uses : List SerialUse) : Prop :=
  WaitsAsDue timeoutMs uses ∧ ∃ use, uses.getLast? = some use ∧ kind use

/-- A read was the last: the next one is for another byte of the frame. -/
def InFrame (timeoutMs : Int) : List SerialUse → Prop :=
  Latest timeoutMs fun use => ∃ ms, use = .read ms

/-- From the settings and `P`, the transaction ends with the settings as they were: in `Q`, or
    after an error with all waits as due. -/
def Keeps (serial : SerialEnd) (timeoutMs : Int) (slaveAddress : Byte)
    (P : List SerialUse → Prop) (m : Transaction α) (Q : List SerialUse → Prop) : Prop :=
  ∀ n : Nmbs, n.settings = settingsFor timeoutMs slaveAddress →
    Triple (Thread.alone serial.step) (fun _ => True) P (m n)
      (Ends (fun n' uses => n'.settings = settingsFor timeoutMs slaveAddress ∧
          WaitsAsDue timeoutMs uses)
        fun _ n' uses => n'.settings = settingsFor timeoutMs slaveAddress ∧ Q uses)

theorem lasting_alone : Lasting (Thread.alone serial.step) (fun _ => True) P :=
  ⟨stable_alone P, fun _ _ => trivial⟩

theorem keeps_pure {a : α} : Keeps serial timeoutMs slaveAddress P (pure a) P :=
  fun _ hn => ends_pure lasting_alone fun _ h => ⟨hn, h⟩

theorem keeps_fail {e : NmbsError} (hP : ∀ uses, P uses → WaitsAsDue timeoutMs uses) :
    Keeps serial timeoutMs slaveAddress P (fail e : Transaction α) Q :=
  fun _ hn => ends_fail lasting_alone fun uses h => ⟨hn, hP uses h⟩

theorem keeps_state : Keeps serial timeoutMs slaveAddress P state P :=
  fun _ hn => ends_pure lasting_alone fun _ h => ⟨hn, h⟩

theorem keeps_modify {g : Nmbs → Nmbs} (hg : ∀ n, (g n).settings = n.settings) :
    Keeps serial timeoutMs slaveAddress P (Transaction.modify g) P :=
  fun n hn => ends_modify lasting_alone fun _ h => ⟨(hg n).trans hn, h⟩

theorem keeps_bind {m : Transaction α} {f : α → Transaction β}
    (hm : Keeps serial timeoutMs slaveAddress P m Q)
    (hf : ∀ a, Keeps serial timeoutMs slaveAddress Q (f a) R) :
    Keeps serial timeoutMs slaveAddress P (m >>= f) R := by
  intro n hn
  apply ends_bind (fun _ => lasting_alone) (hm n hn)
  intro a n'
  exact Triple.assuming fun hn' => hf a n' hn'

theorem keeps_ite {c : Prop} [Decidable c] {m m' : Transaction α}
    (hm : Keeps serial timeoutMs slaveAddress P m Q)
    (hm' : Keeps serial timeoutMs slaveAddress P m' Q) :
    Keeps serial timeoutMs slaveAddress P (if c then m else m') Q := by
  split
  · exact hm
  · exact hm'

theorem keeps_post {m : Transaction α} (hm : Keeps serial timeoutMs slaveAddress P m Q)
    (hQ : ∀ uses, Q uses → R uses) : Keeps serial timeoutMs slaveAddress P m R :=
  fun n hn => ends_conseq (hm n hn) (fun _ _ h => h) fun _ _ uses h => ⟨h.1, hQ uses h.2⟩

/-! ### Receiving -/

/-- A read that waits as long as is due after the last use. -/
theorem readSerial_due {kind : SerialUse → Prop} {count : Nat} {ms : Int} (hms : 0 ≤ ms)
    (hdue : ∀ use, kind use → ms = dueTimeout timeoutMs use) :
    Triple (Thread.alone serial.step) (fun _ => True) (Latest timeoutMs kind)
      (readSerial count ms) (fun _ => InFrame timeoutMs) := by
  apply readSerial_drained
  apply Triple.act (stable_alone _) (fun _ _ => trivial)
  intro uses answer uses' h hact
  obtain ⟨-, rfl⟩ := Prod.mk.inj (Option.some.inj hact)
  obtain ⟨hwaits, use, hlast, hkind⟩ := h
  refine ⟨hwaits.concat ?_, _, List.getLast?_concat, ms, rfl⟩
  intro ms' hms'
  cases hms'
  refine ⟨hms, fun last hlast' => ?_⟩
  rw [hlast] at hlast'
  cases hlast'
  exact hdue use hkind

/-- `recv`, under whatever byte timeout is due. -/
theorem recv_due (serial : SerialEnd) (timeoutMs : Int) (kind : SerialUse → Prop) (count : Nat)
    {n : Nmbs} (hms : 0 ≤ n.byteTimeoutMs)
    (hdue : ∀ use, kind use → n.byteTimeoutMs = dueTimeout timeoutMs use) :
    Triple (Thread.alone serial.step) (fun _ => True) (Latest timeoutMs kind) (recv count n)
      (Ends (fun n' uses => n'.settings = n.settings ∧ InFrame timeoutMs uses)
        fun _ n' uses => n'.settings = n.settings ∧ InFrame timeoutMs uses) := by
  unfold recv
  apply ends_state_bind lasting_alone
  apply ends_bind (fun _ => lasting_alone)
    (ends_platform (readSerial_due hms hdue) fun _ => lasting_alone)
  intro answer n'
  apply Triple.assuming
  intro hn'
  subst hn'
  cases answer with
  | none => exact ends_fail lasting_alone fun _ h => ⟨rfl, h⟩
  | some data =>
    dsimp only
    split
    · apply ends_modify_bind lasting_alone
      exact ends_pure lasting_alone fun _ h => ⟨rfl, h⟩
    · exact ends_fail lasting_alone fun _ h => ⟨rfl, h⟩

theorem keeps_recv (count : Nat) :
    Keeps serial timeoutMs slaveAddress (InFrame timeoutMs) (recv count) (InFrame timeoutMs) := by
  intro n hn
  have hbyte : n.byteTimeoutMs = kByteTimeoutMs := congrArg (·.1) hn
  have hdue : ∀ use, (∃ ms, use = SerialUse.read ms) →
      n.byteTimeoutMs = dueTimeout timeoutMs use := by
    intro use huse
    obtain ⟨ms, rfl⟩ := huse
    exact hbyte
  have hrecv := recv_due serial timeoutMs _ count (by rw [hbyte]; decide) hdue
  apply ends_conseq hrecv
  · intro n' uses h
    exact ⟨h.1.trans hn, h.2.1⟩
  · intro _ n' uses h
    exact ⟨h.1.trans hn, h.2⟩

/-- **The first byte of a reply** is waited for as long as is configured, and the byte timeout
    is put back whether it comes or not. -/
theorem keeps_recvMsgHeader (htimeout : 0 ≤ timeoutMs) :
    Keeps serial timeoutMs slaveAddress (Latest timeoutMs (· = .write)) recvMsgHeader
      (InFrame timeoutMs) := by
  have hrest : ∀ unitId : Vector Byte 1, Keeps serial timeoutMs slaveAddress (InFrame timeoutMs)
      (do
        Transaction.modify fun n => { n with unitId := unitId[0] }
        let fc ← recv 1
        Transaction.modify fun n => { n with fc := fc[0] }) (InFrame timeoutMs) := by
    intro unitId
    refine keeps_bind (keeps_modify ?_) fun _ => keeps_bind (keeps_recv 1) fun fc => keeps_modify ?_
    · exact fun _ => rfl
    · exact fun _ => rfl
  intro n hn
  unfold recvMsgHeader
  apply ends_state_bind lasting_alone
  apply ends_modify_bind lasting_alone
  have hread : n.readTimeoutMs = timeoutMs := congrArg (·.2.1) hn
  have hswapped : (msgStateReset { n with byteTimeoutMs := n.readTimeoutMs }).byteTimeoutMs =
      timeoutMs := hread
  have hfirst := recv_due serial timeoutMs (· = .write) 1 (hswapped ▸ htimeout)
    fun use huse => by rw [huse]; exact hswapped
  -- what `finally_` leaves has the settings of the start
  have hback : ∀ n' : Nmbs,
      n'.settings = (msgStateReset { n with byteTimeoutMs := n.readTimeoutMs }).settings →
      ({ n' with byteTimeoutMs := n.byteTimeoutMs } : Nmbs).settings =
        settingsFor timeoutMs slaveAddress := by
    intro n' hn'
    rw [← hn]
    simp only [Nmbs.settings, msgStateReset, Prod.mk.injEq] at hn' ⊢
    exact ⟨trivial, hn'.2⟩
  apply ends_bind (fun _ => lasting_alone) (Q := fun _ n' uses =>
    n'.settings = settingsFor timeoutMs slaveAddress ∧ InFrame timeoutMs uses)
  · apply ends_finally (fun _ => lasting_alone) fun _ _ => lasting_alone
    apply ends_conseq hfirst
    · intro n' uses h
      exact ⟨hback n' h.1, h.2.1⟩
    · intro _ n' uses h
      exact ⟨hback n' h.1, h.2⟩
  · intro unitId n'
    exact Triple.assuming fun hn' => hrest unitId n' hn'

theorem inFrame_waits (uses : List SerialUse) (h : InFrame timeoutMs uses) :
    WaitsAsDue timeoutMs uses :=
  h.1

theorem keeps_recvMsgFooter :
    Keeps serial timeoutMs slaveAddress (InFrame timeoutMs) recvMsgFooter (InFrame timeoutMs) := by
  apply keeps_bind keeps_state
  intro n
  apply keeps_bind (keeps_recv 2)
  intro received
  exact keeps_ite keeps_pure (keeps_fail inFrame_waits)

theorem keeps_recvResHeader (htimeout : 0 ≤ timeoutMs) :
    Keeps serial timeoutMs slaveAddress (Latest timeoutMs (· = .write)) recvResHeader
      (InFrame timeoutMs) := by
  apply keeps_bind keeps_state
  intro req
  apply keeps_bind (keeps_recvMsgHeader htimeout)
  intro _
  apply keeps_bind keeps_state
  intro n
  apply keeps_ite (keeps_fail inFrame_waits)
  refine keeps_ite (keeps_ite ?_ (keeps_fail inFrame_waits)) keeps_pure
  -- an exception reply
  apply keeps_bind (keeps_recv 1)
  intro exception
  apply keeps_bind keeps_recvMsgFooter
  intro _
  split <;> exact keeps_fail inFrame_waits

theorem keeps_recvReadRegistersRes (htimeout : 0 ≤ timeoutMs) (quantity : Nat) :
    Keeps serial timeoutMs slaveAddress (Latest timeoutMs (· = .write))
      (recvReadRegistersRes quantity) (WaitsAsDue timeoutMs) := by
  apply keeps_bind (keeps_recvResHeader htimeout)
  intro _
  apply keeps_bind (keeps_recv 1)
  intro registersBytes
  apply keeps_ite (keeps_fail inFrame_waits)
  apply keeps_bind (keeps_recv _)
  intro data
  apply keeps_bind keeps_recvMsgFooter
  intro _
  exact keeps_post keeps_pure inFrame_waits

theorem keeps_recvWriteMultipleRegistersRes (htimeout : 0 ≤ timeoutMs) (address quantity : Nat) :
    Keeps serial timeoutMs slaveAddress (Latest timeoutMs (· = .write))
      (recvWriteMultipleRegistersRes address quantity) (WaitsAsDue timeoutMs) := by
  apply keeps_bind (keeps_recvResHeader htimeout)
  intro _
  apply keeps_bind (keeps_recv 4)
  intro fields
  apply keeps_bind keeps_recvMsgFooter
  intro _
  apply keeps_ite (keeps_fail inFrame_waits)
  exact keeps_ite (keeps_fail inFrame_waits) (keeps_post keeps_pure inFrame_waits)

/-! ### Requests -/

/-- **A transaction** drains the line without waiting, writes, and then waits for its reply. -/
theorem keeps_request {fc : Byte} {fields : List Byte} {receive : Transaction α}
    (hreceive : Keeps serial timeoutMs slaveAddress (Latest timeoutMs (· = .write)) receive
      (WaitsAsDue timeoutMs)) :
    Keeps serial timeoutMs slaveAddress (Latest timeoutMs (· = .call))
      (do msgStateReq fc; putReqHeader; put fields; sendMsg; receive)
      (WaitsAsDue timeoutMs) := by
  intro n hn
  apply ends_request (P := Latest timeoutMs (· = .call)) (F := WaitsAsDue timeoutMs)
    (W := fun _ => Latest timeoutMs (· = .write)) (fun _ => lasting_alone) lasting_alone
    lasting_alone (fun _ => lasting_alone)
  · apply (readSerial_due (le_refl 0) fun use huse => by rw [huse]; rfl).post
    exact fun _ uses h => h.1
  · apply Triple.act (stable_alone _) (fun _ _ => trivial)
    intro uses sent uses' h hact
    obtain ⟨-, rfl⟩ := Prod.mk.inj (Option.some.inj hact)
    refine ⟨h.concat ?_, _, List.getLast?_concat, rfl⟩
    intro ms hms
    cases hms
  · intro n' uses hsettings h
    exact ⟨hsettings.trans hn, h.1⟩
  · intro n' hsettings _ _ _
    exact hreceive n' (hsettings.trans hn)

theorem latest_waits (uses : List SerialUse) (h : Latest timeoutMs (· = .call) uses) :
    WaitsAsDue timeoutMs uses :=
  h.1

theorem keeps_nmbsReadHoldingRegisters (htimeout : 0 ≤ timeoutMs) (address quantity : Nat) :
    Keeps serial timeoutMs slaveAddress (Latest timeoutMs (· = .call))
      (nmbsReadHoldingRegisters address quantity) (WaitsAsDue timeoutMs) := by
  apply keeps_ite (keeps_fail latest_waits)
  apply keeps_ite (keeps_fail latest_waits)
  exact keeps_request (keeps_recvReadRegistersRes htimeout quantity)

theorem keeps_nmbsWriteMultipleRegisters (htimeout : 0 ≤ timeoutMs) (address : Nat)
    (registers : List Register) :
    Keeps serial timeoutMs slaveAddress (Latest timeoutMs (· = .call))
      (nmbsWriteMultipleRegisters address registers) (WaitsAsDue timeoutMs) := by
  apply keeps_ite (keeps_fail latest_waits)
  apply keeps_ite (keeps_fail latest_waits)
  apply keeps_request
  apply keeps_bind keeps_state
  intro n
  -- a broadcast waits for nothing
  exact keeps_ite (keeps_post keeps_pure fun uses h => h.1)
    (keeps_recvWriteMultipleRegistersRes htimeout address registers.length)

theorem keeps_nmbsReadWriteRegisters (htimeout : 0 ≤ timeoutMs)
    (readAddress readQuantity writeAddress : Nat) (registers : List Register) :
    Keeps serial timeoutMs slaveAddress (Latest timeoutMs (· = .call))
      (nmbsReadWriteRegisters readAddress readQuantity writeAddress registers)
      (WaitsAsDue timeoutMs) := by
  apply keeps_ite (keeps_fail latest_waits)
  apply keeps_ite (keeps_fail latest_waits)
  apply keeps_ite (keeps_fail latest_waits)
  apply keeps_ite (keeps_fail latest_waits)
  exact keeps_request (keeps_recvReadRegistersRes htimeout readQuantity)

end keeps

/-! ## Calls -/

section calls
variable {serial : SerialEnd} {timeoutMs : Int} {slaveAddress : Byte}

/-- A transaction comes to an end, with the settings as they were and all waits as due. -/
theorem eval_of_keeps (serial : SerialEnd) {α : Type} {m : Transaction α} {n : Nmbs}
    {uses : List SerialUse}
    (hm : Keeps serial timeoutMs slaveAddress (Latest timeoutMs (· = .call)) m
      (WaitsAsDue timeoutMs)) (hfree : m.LoopFree)
    (hn : n.settings = settingsFor timeoutMs slaveAddress) (huses : WaitsAsDue timeoutMs uses) :
    ∃ result n' uses', Prog.eval serial.step (m n) (uses ++ [.call]) = some ((result, n'), uses') ∧
      n'.settings = settingsFor timeoutMs slaveAddress ∧ WaitsAsDue timeoutMs uses' := by
  have hstep : ∀ {β : Type} (a : SerialAct β) (uses : List SerialUse),
      (serial.step a uses).isSome := by
    intro β a uses
    cases a <;> rfl
  have hcall : Latest timeoutMs (· = .call) (uses ++ [.call]) := by
    refine ⟨huses.concat ?_, _, List.getLast?_concat, rfl⟩
    intro ms hms
    cases hms
  obtain ⟨⟨result, n'⟩, uses', heval, hends⟩ := (hm n hn).eval hstep (hfree n) hcall
  refine ⟨result, n', uses', heval, ?_⟩
  cases result with
  | error e => exact hends
  | ok a => exact hends

/-- One call, whether it throws or not. -/
theorem call_due (serial : SerialEnd) (htimeout : 0 ≤ timeoutMs) (call : ClientCall) {n : Nmbs}
    {uses : List SerialUse} (hn : n.settings = settingsFor timeoutMs slaveAddress) (huses : WaitsAsDue timeoutMs uses) :
    ∃ result n' uses', Prog.eval serial.step (call.run n) (uses ++ [.call]) =
        some ((result, n'), uses') ∧
      n'.settings = settingsFor timeoutMs slaveAddress ∧ WaitsAsDue timeoutMs uses' := by
  cases call with
  | readStatus =>
    obtain ⟨result, n', uses', heval, hkept⟩ :=
      eval_of_keeps serial (keeps_nmbsReadHoldingRegisters htimeout kStatusAddress kStatusRegisterCount)
        (loopFree_nmbsReadHoldingRegisters _ _) hn huses
    refine ⟨((result.map statusOf).mapError (failureText "readStatus")).map some, n', uses', ?_,
      hkept⟩
    show ((Prog.eval serial.step (nmbsReadHoldingRegisters _ _ n) _).bind _).bind _ = _
    rw [heval]
    rfl
  | writeCommand command =>
    obtain ⟨result, n', uses', heval, hkept⟩ :=
      eval_of_keeps serial (keeps_nmbsWriteMultipleRegisters htimeout kCommandAddress
        (registersFromBytes kCommandRegisterCount command.data commandRegisters_fit).toList)
        (loopFree_nmbsWriteMultipleRegisters _ _) hn huses
    refine ⟨(result.mapError (failureText "writeCommand")).map fun _ => none, n', uses', ?_, hkept⟩
    show ((Prog.eval serial.step (nmbsWriteMultipleRegisters _ _ n) _).bind _).bind _ = _
    rw [heval]
    rfl
  | exchange command =>
    obtain ⟨result, n', uses', heval, hkept⟩ :=
      eval_of_keeps serial (keeps_nmbsReadWriteRegisters htimeout kStatusAddress kStatusRegisterCount
        kCommandAddress
        (registersFromBytes kCommandRegisterCount command.data commandRegisters_fit).toList)
        (loopFree_nmbsReadWriteRegisters _ _ _ _) hn huses
    refine ⟨((result.map statusOf).mapError (failureText "exchange")).map some, n', uses', ?_, hkept⟩
    show ((Prog.eval serial.step (nmbsReadWriteRegisters _ _ _ _ n) _).bind _).bind _ = _
    rw [heval]
    rfl

/-- Any number of calls. -/
theorem clientCalls_due (htimeout : 0 ≤ timeoutMs) (calls : List ClientCall) {n : Nmbs}
    {uses : List SerialUse} (hn : n.settings = settingsFor timeoutMs slaveAddress)
    (huses : WaitsAsDue timeoutMs uses) :
    ∃ n' uses', clientCalls serial calls n uses = some (n', uses') ∧
      WaitsAsDue timeoutMs uses' := by
  induction calls generalizing n uses with
  | nil => exact ⟨n, uses, rfl, huses⟩
  | cons call calls ih =>
    obtain ⟨result, n₁, uses₁, heval, hn₁, huses₁⟩ :=
      call_due serial htimeout call hn huses
    obtain ⟨n₂, uses₂, hrest, huses₂⟩ := ih hn₁ huses₁
    refine ⟨n₂, uses₂, ?_, huses₂⟩
    simp only [clientCalls, heval, Option.bind_eq_bind, Option.bind_some, hrest]

end calls

/-! ## The narrowing -/

/-- A timeout that fits is kept; one that does not becomes another. -/
theorem narrow_eq_iff {timeoutMs : Int} (hnonneg : 0 ≤ timeoutMs) :
    (BitVec.ofInt 32 timeoutMs).toInt = timeoutMs ↔ timeoutMs ≤ int32Max := by
  rw [BitVec.toInt_ofInt]
  constructor
  · intro h
    have hlt := Int.bmod_lt (x := timeoutMs) (m := 2 ^ 32) (by decide)
    rw [h] at hlt
    unfold int32Max
    omega
  · intro h
    unfold int32Max at h
    exact Int.bmod_eq_of_le_mul_two (by omega) (by omega)

/-- A link that is silent: the reply never comes. -/
def silentLink : SerialEnd where
  read _ := some []
  write _ := true

theorem clientCalls_silent (timeoutMs : Int) (slaveAddress : Byte) :
    (clientCalls silentLink [.readStatus] (clientNmbs timeoutMs slaveAddress) []).map (·.2) =
      some [.call, .read 0, .write, .read (BitVec.ofInt 32 timeoutMs).toInt] := by
  rfl

/-- **Every call waits as it should exactly for the timeouts that fit 32 bits**: for longer ones
    the reply is not waited for as long as is configured, or a negative time. -/
theorem readTimeouts_iff (timeoutMs : Int) (hnonneg : 0 ≤ timeoutMs) (slaveAddress : Byte) :
    (∀ (serial : SerialEnd) (calls : List ClientCall),
      ∃ n uses, clientCalls serial calls (clientNmbs timeoutMs slaveAddress) [] = some (n, uses) ∧
        WaitsAsDue timeoutMs uses) ↔ timeoutMs ≤ int32Max := by
  constructor
  · intro h
    obtain ⟨n, uses, huses, hdue⟩ := h silentLink [.readStatus]
    have hsilent := clientCalls_silent timeoutMs slaveAddress
    rw [huses] at hsilent
    cases hsilent
    -- the read after the write
    exact (narrow_eq_iff hnonneg).mp (hdue.due [.call, .read 0] .write _ [] rfl)
  · intro hfits serial calls
    have hsettings : (clientNmbs timeoutMs slaveAddress).settings =
        settingsFor timeoutMs slaveAddress := by
      simp only [clientNmbs, Nmbs.settings, settingsFor, (narrow_eq_iff hnonneg).mpr hfits]
    exact clientCalls_due hnonneg calls hsettings waitsAsDue_nil

/-- The timeout of the tests. -/
theorem readTimeouts_iff_hundred :
    (∀ (serial : SerialEnd) (calls : List ClientCall),
      ∃ n uses, clientCalls serial calls (clientNmbs 100 9) [] = some (n, uses) ∧
        WaitsAsDue 100 uses) ↔ 100 ≤ int32Max :=
  readTimeouts_iff 100 (by decide) 9

/-- A timeout of 25 days: the reply is waited for a negative time. -/
theorem negative_wait :
    ¬ ∃ n uses, clientCalls silentLink [.readStatus] (clientNmbs 2160000000 9) [] =
        some (n, uses) ∧ WaitsAsDue 2160000000 uses := by
  intro h
  obtain ⟨n, uses, huses, hdue⟩ := h
  have hsilent := clientCalls_silent 2160000000 9
  rw [huses] at hsilent
  cases hsilent
  have hwait := hdue.nonneg ((BitVec.ofInt 32 2160000000).toInt) (by simp)
  exact absurd hwait (by decide)

end GripperDriver

import GripperDriver.Device.Accesses
import GripperDriver.Modbus.Acceptance
import GripperDriver.Modbus.Requests
import Mathlib

/-! # What the Server Hears in a Stream of Bytes

    Any bytes may come, in any pieces: noise, half a request, what is meant for others.

    * `Handler.Leaves`: rules for what a handler leaves, whichever way it ends,
    * `WriteRequest`: the frames that ask for a write,
    * `Heard`: the writes that are found in a stream, one behind the other.

    The registers of the device change by these writes, and by nothing else
    (`registers_follow_requests`).
-/

namespace GripperDriver

open Interleaving Transaction RegisterModel

/-! ## What a handler leaves -/

section leaves
variable {α β : Type} {s : GripperServer} {E E' : GripperServer → Prop}

/-- `m` returns: in `Q` where it ends well, in `E` where it fails. -/
def Handler.Leaves (m : Handler α) (s : GripperServer) (E : GripperServer → Prop)
    (Q : α → GripperServer → Prop) : Prop :=
  (∃ a s', m s = some (.ok a, s') ∧ Q a s') ∨ ∃ e s', m s = some (.error e, s') ∧ E s'

variable {Q Q' : α → GripperServer → Prop} {R : β → GripperServer → Prop}

theorem leaves_pure {a : α} (h : Q a s) : (pure a : Handler α).Leaves s E Q :=
  .inl ⟨a, s, rfl, h⟩

theorem leaves_fail {e : NmbsError} (h : E s) : (Handler.fail e : Handler α).Leaves s E Q :=
  .inr ⟨e, s, rfl, h⟩

theorem leaves_bind {m : Handler α} {f : α → Handler β} (hm : m.Leaves s E Q)
    (hf : ∀ a s', Q a s' → (f a).Leaves s' E R) : (m >>= f).Leaves s E R := by
  rcases hm with ⟨a, s₁, heq, hQ⟩ | ⟨e, s₁, heq, hE⟩
  · have hrest := hf a s₁ hQ
    unfold Handler.Leaves at hrest ⊢
    rw [handler_bind heq]
    exact hrest
  · refine .inr ⟨e, s₁, ?_, hE⟩
    show (m s).bind _ = _
    rw [heq]
    rfl

theorem leaves_server_bind {f : GripperServer → Handler β} (hf : (f s).Leaves s E R) :
    (Handler.server >>= f).Leaves s E R := hf

theorem leaves_conseq {m : Handler α} (hm : m.Leaves s E Q) (hE : ∀ s', E s' → E' s')
    (hQ : ∀ a s', Q a s' → Q' a s') : m.Leaves s E' Q' := by
  rcases hm with ⟨a, s₁, heq, h⟩ | ⟨e, s₁, heq, h⟩
  · exact .inl ⟨a, s₁, heq, hQ a s₁ h⟩
  · exact .inr ⟨e, s₁, heq, hE s₁ h⟩

theorem leaves_ite {c : Prop} [Decidable c] {m m' : Handler α} (hm : c → m.Leaves s E Q)
    (hm' : ¬ c → m'.Leaves s E Q) : (if c then m else m').Leaves s E Q := by
  by_cases h : c
  · rw [if_pos h]
    exact hm h
  · rw [if_neg h]
    exact hm' h

end leaves

/-! ## Reading from the queue -/

section reading
variable {α : Type} {s₀ s s' : GripperServer} {queue bytes : List Byte}

/-- `s₀` with the rest of `queue` to read, once `bytes` have been taken. -/
def TakenFrom (s₀ : GripperServer) (queue bytes : List Byte) (s : GripperServer) : Prop :=
  ∃ rest, queue = bytes ++ rest ∧ s = { s₀ with fromClient := rest }

/-- `s₀` with some rest of `queue` to read. -/
def LeftBehind (s₀ : GripperServer) (queue : List Byte) (s : GripperServer) : Prop :=
  ∃ bytes, TakenFrom s₀ queue bytes s

theorem feeds_queue (s₀ : GripperServer) (queue : List Byte) :
    Feeds (Thread.alone GripperServer.platform) (fun _ => True) (LeftBehind s₀ queue)
      (TakenFrom s₀ queue) where
  lasting _ := ⟨stable_alone _, fun _ _ => trivial⟩
  stops bytes _ hs := ⟨bytes, hs⟩
  stopped := ⟨stable_alone _, fun _ _ => trivial⟩
  read bytes count timeoutMs := by
    have hread : Triple (Thread.alone GripperServer.platform) (fun _ => True)
        (TakenFrom s₀ queue bytes) (.act (.read count timeoutMs))
        (fun answer s => ∃ data, answer = some data ∧ data.length ≤ count ∧
          TakenFrom s₀ queue (bytes ++ data) s) := by
      apply Triple.act (stable_alone _) fun _ _ => trivial
      rintro _ answer s' ⟨rest, hqueue, rfl⟩ hact
      obtain ⟨rfl, rfl⟩ := Prod.mk.inj (Option.some.inj hact)
      refine ⟨rest.take count, rfl, List.length_take_le _ _, rest.drop count, ?_, rfl⟩
      rw [List.append_assoc, List.take_append_drop, hqueue]
    unfold readSerial
    apply hread.bind
    intro answer
    apply Triple.pure_anywhere
    rintro s ⟨data, rfl, hlength, hs⟩
    -- a read answers no more than it was asked for
    show TakenFrom s₀ queue (bytes ++ data.take count) s
    rwa [List.take_of_length_le hlength]

/-- Nothing but the queue, and what the library keeps, has changed. -/
structure Spared (queue : List Byte) (s₀ s : GripperServer) : Prop where
  model : s.model = s₀.model
  addressRtu : s.addressRtu = s₀.addressRtu
  fromClient : s.fromClient <:+ queue

/-- What has been taken of `queue` stands in the buffer. -/
structure Hearing (queue : List Byte) (s₀ s : GripperServer) : Prop where
  model : s.model = s₀.model
  addressRtu : s.addressRtu = s₀.addressRtu
  queue : queue = s.nmbs.buf ++ s.fromClient

theorem Hearing.spared (h : Hearing queue s₀ s) : Spared queue s₀ s :=
  ⟨h.model, h.addressRtu, h.queue ▸ List.suffix_append _ _⟩

theorem Spared.trans (h : Spared queue s₀ s) (h' : Spared s.fromClient s s') :
    Spared queue s₀ s' :=
  ⟨h'.model.trans h.model, h'.addressRtu.trans h.addressRtu, h'.fromClient.trans h.fromClient⟩

/-- What the library receives from a line, a handler receives from the queue. -/
theorem leaves_lift {m : Transaction α} {Q : α → Nmbs → Prop}
    (hm : Receives (Thread.alone GripperServer.platform) (fun _ => True) (LeftBehind s queue)
      (TakenFrom s queue) bytes s.nmbs m Q)
    (hfree : m.LoopFree) (hqueue : queue = bytes ++ s.fromClient) (hmodel : s.model = s₀.model)
    (haddress : s.addressRtu = s₀.addressRtu) :
    (Handler.lift m).Leaves s (Spared queue s₀) fun a s' =>
      Hearing queue s₀ s' ∧ Q a s'.nmbs ∧ s'.ignored = s.ignored := by
  have hs : TakenFrom s queue bytes s := ⟨s.fromClient, hqueue, rfl⟩
  obtain ⟨⟨result, n'⟩, s', heval, hends⟩ := Triple.eval hm platform_isSome (hfree s.nmbs) hs
  have hlift : Handler.lift m s = some (result, { s' with nmbs := n' }) := by
    unfold Handler.lift
    rw [heval]
    rfl
  cases result with
  | error e =>
    obtain ⟨_, _, rest, hrest, rfl⟩ := hends
    exact .inr ⟨e, _, hlift, hmodel, haddress, hrest ▸ List.suffix_append _ _⟩
  | ok a =>
    obtain ⟨⟨_, hQ⟩, rest, hrest, rfl⟩ := hends
    exact .inl ⟨a, _, hlift, ⟨hmodel, haddress, hrest⟩, hQ, rfl⟩

/-- `recv` adds its bytes to the buffer. -/
theorem leaves_recv (h : Hearing queue s₀ s) (count : Nat) :
    (Handler.lift (recv count)).Leaves s (Spared queue s₀) fun data s' =>
      Hearing queue s₀ s' ∧ s'.nmbs = { s.nmbs with buf := s.nmbs.buf ++ data.toList } ∧
        s'.ignored = s.ignored :=
  leaves_lift (receives_recv (feeds_queue s queue) count) (loopFree_recv count) h.queue h.model
    h.addressRtu

/-- The footer is the checksum of all that came before. -/
theorem leaves_recvMsgFooter (h : Hearing queue s₀ s) :
    (Handler.lift recvMsgFooter).Leaves s (Spared queue s₀) fun _ s' =>
      Hearing queue s₀ s' ∧ s'.nmbs = { s.nmbs with buf := withCrc s.nmbs.buf } ∧
        s'.ignored = s.ignored :=
  leaves_lift (receives_recvMsgFooter (feeds_queue s queue).receiver) loopFree_recvMsgFooter
    h.queue h.model h.addressRtu

/-- Whatever the library does with the line, a handler takes no more than it finds. -/
theorem Spared.lifts {β : Type} {m : Transaction β} (h : Spared queue s₀ s) (hfree : m.LoopFree) :
    (Handler.lift m).Leaves s (Spared queue s₀) fun _ s' =>
      Spared queue s₀ s' ∧ s'.ignored = s.ignored := by
  have hkeeps : Triple (Thread.alone GripperServer.platform)
      (fun s' => Spared queue s₀ s' ∧ s'.ignored = s.ignored)
      (fun s' => Spared queue s₀ s' ∧ s'.ignored = s.ignored) (m s.nmbs)
      fun _ s' => Spared queue s₀ s' ∧ s'.ignored = s.ignored := by
    apply Triple.keeps (stable_alone _)
    rintro γ a s₁ r s₂ ⟨h₁, hignored₁⟩ hact
    cases a with
    | read count timeoutMs =>
      obtain ⟨rfl, rfl⟩ := Prod.mk.inj (Option.some.inj hact)
      exact ⟨⟨h₁.model, h₁.addressRtu, (List.drop_suffix _ _).trans h₁.fromClient⟩, hignored₁⟩
    | write data =>
      obtain ⟨rfl, rfl⟩ := Prod.mk.inj (Option.some.inj hact)
      exact ⟨⟨h₁.model, h₁.addressRtu, h₁.fromClient⟩, hignored₁⟩
  obtain ⟨⟨result, n'⟩, s', heval, hs', hignored'⟩ :=
    hkeeps.eval platform_isSome (hfree s.nmbs) ⟨h, rfl⟩
  have hlift : Handler.lift m s = some (result, { s' with nmbs := n' }) := by
    unfold Handler.lift
    rw [heval]
    rfl
  have hspared : Spared queue s₀ { s' with nmbs := n' } :=
    ⟨hs'.model, hs'.addressRtu, hs'.fromClient⟩
  cases result with
  | error e => exact .inr ⟨e, _, hlift, hspared⟩
  | ok a => exact .inl ⟨a, _, hlift, hspared, hignored'⟩

/-- Where `whole` holds, the buffer is `bytes`, and that is all that has been taken. -/
structure HearingIf (whole : Prop) (bytes queue : List Byte) (s₀ s : GripperServer) : Prop where
  spared : Spared queue s₀ s
  hearing : whole → Hearing queue s₀ s
  buf : whole → s.nmbs.buf = bytes

/-- The last byte of an odd count is taken from the queue and does not stay in the buffer. -/
theorem leaves_recvRegisterBytes (h : Hearing queue s₀ s) (count : Nat) :
    (recvRegisterBytes count).Leaves s (Spared queue s₀) fun data s' =>
      HearingIf (count % 2 = 0 ∧ s.nmbs.buf.length + count ≤ kBufferSize)
        (s.nmbs.buf ++ data.toList) queue s₀ s' ∧ s'.ignored = s.ignored := by
  unfold recvRegisterBytes
  apply leaves_bind (leaves_recv h count)
  rintro data s₁ ⟨h₁, hbuf₁, hignored₁⟩
  have hspared := h₁.spared
  refine .inl ⟨data, _, rfl, ⟨⟨hspared.model, hspared.addressRtu, hspared.fromClient⟩, ?_, ?_⟩,
    hignored₁⟩
  · rintro ⟨heven, hfits⟩
    refine ⟨h₁.model, h₁.addressRtu, ?_⟩
    dsimp only
    rw [take_bufIdxBehind heven]
    · exact h₁.queue
    · rw [hbuf₁, List.length_append, Vector.length_toList]
      exact hfits
  · rintro ⟨heven, hfits⟩
    dsimp only
    rw [take_bufIdxBehind heven, hbuf₁]
    rw [hbuf₁, List.length_append, Vector.length_toList]
    exact hfits

theorem HearingIf.footer {whole : Prop} (h : HearingIf whole bytes queue s₀ s) :
    (Handler.lift recvMsgFooter).Leaves s (Spared queue s₀) fun _ s' =>
      HearingIf whole (withCrc bytes) queue s₀ s' ∧ s'.ignored = s.ignored := by
  by_cases hwhole : whole
  · apply leaves_conseq (leaves_recvMsgFooter (h.hearing hwhole)) fun _ hs' => hs'
    rintro _ s' ⟨h', hbuf', hignored'⟩
    refine ⟨⟨h'.spared, fun _ => h', fun _ => ?_⟩, hignored'⟩
    rw [hbuf', h.buf hwhole]
  · apply leaves_conseq (h.spared.lifts loopFree_recvMsgFooter) fun _ hs' => hs'
    rintro _ s' ⟨h', hignored'⟩
    exact ⟨⟨h', fun h => absurd h hwhole, fun h => absurd h hwhole⟩, hignored'⟩

end reading

/-! ## Requests to write -/

/-- The frame asks the device at `unitId` for the write `a`: alone, or before a read. -/
inductive WriteRequest (unitId : Byte) : List Byte → Access → Prop
  /-- FC 0x10. -/
  | write {n address : Nat} (values : Vector Register n)
      (hrange : 1 ≤ n ∧ n ≤ 0x7B ∧ address + n ≤ 0x10000) :
      WriteRequest unitId (withCrc ([unitId, 16] ++ writeFields address values.toList))
        (.write address values)
  /-- FC 0x17. -/
  | readWrite {n address : Nat} (readAddress readQuantity : Nat) (values : Vector Register n)
      (hread : 1 ≤ readQuantity ∧ readQuantity ≤ 0x7D ∧ readAddress + readQuantity ≤ 0x10000)
      (hrange : 1 ≤ n ∧ n ≤ 0x79 ∧ address + n ≤ 0x10000) :
      WriteRequest unitId
        (withCrc ([unitId, 23] ++ readWriteFields readAddress readQuantity address values.toList))
        (.write address values)

theorem flatMap_registersOf {n : Nat} (data : Vector Byte (n * 2)) :
    (registersOf data).toList.flatMap put2 = data.toList := by
  apply List.ext_getElem?
  intro i
  obtain ⟨hhigh, hlow⟩ := getElem?_flatMap_put2 (registersOf data).toList (i / 2)
  by_cases hi : i / 2 < n
  · have hbyte := byte_registersOf data i (by omega) hi
    have hdata : data.toList[i]? = some data[i] := by
      rw [Vector.getElem?_toList, Vector.getElem?_eq_getElem (by omega)]
    have hregister : (registersOf data).toList[i / 2]? = some (registersOf data)[i / 2] := by
      rw [Vector.getElem?_toList, Vector.getElem?_eq_getElem hi]
    rw [hdata, ← hbyte]
    rw [hregister, Option.map_some] at hhigh hlow
    -- an even byte is the high one of its register
    by_cases heven : i % 2 = 0
    · rw [if_pos heven, ← hhigh, show 2 * (i / 2) = i by omega]
    · rw [if_neg heven, ← hlow, show 2 * (i / 2) + 1 = i by omega]
  · rw [List.getElem?_eq_none, List.getElem?_eq_none]
    · rw [Vector.length_toList]
      omega
    · rw [length_flatMap_put2, Vector.length_toList]
      omega

theorem put2_packed {high low : Byte} {n : Nat} (h : (packRegister high low).toNat = n) :
    put2 (BitVec.ofNat 16 n) = [high, low] := by
  rw [← h, BitVec.ofNat_toNat, BitVec.setWidth_eq, put2_packRegister]

theorem ofNat_count {count : Byte} {n : Nat} (h : count.toNat = n * 2) :
    BitVec.ofNat 8 (n * 2) = count := by
  rw [← h, BitVec.ofNat_toNat, BitVec.setWidth_eq]

/-- The fields, as they were read, are those of the registers that the data makes. -/
theorem fields_of_write (fields : Vector Byte 5) {n : Nat} (data : Vector Byte (n * 2))
    (hn : (packRegister (fields.get 2) (fields.get 3)).toNat = n) (hcount : (fields.get 4).toNat = n * 2) :
    fields.toList ++ data.toList =
      writeFields (packRegister (fields.get 0) (fields.get 1)).toNat (registersOf data).toList := by
  unfold writeFields rangeFields
  rw [flatMap_registersOf, Vector.length_toList, ofNat_count hcount, put2_packed hn, put2_packed rfl]
  congr 1
  apply List.ext_getElem (by simp)
  intro i hi _
  rw [Vector.length_toList] at hi
  rw [Vector.getElem_toList]
  interval_cases i <;> rfl

theorem fields_of_readWrite (fields : Vector Byte 9) {n : Nat} (data : Vector Byte (n * 2))
    (hn : (packRegister (fields.get 6) (fields.get 7)).toNat = n) (hcount : (fields.get 8).toNat = n * 2) :
    fields.toList ++ data.toList =
      readWriteFields (packRegister (fields.get 0) (fields.get 1)).toNat
        (packRegister (fields.get 2) (fields.get 3)).toNat (packRegister (fields.get 4) (fields.get 5)).toNat
        (registersOf data).toList := by
  unfold readWriteFields
  rw [flatMap_registersOf, Vector.length_toList, ofNat_count hcount, put2_packed hn, put2_packed rfl,
    put2_packed rfl, put2_packed rfl]
  congr 1
  apply List.ext_getElem (by simp)
  intro i hi _
  rw [Vector.length_toList] at hi
  rw [Vector.getElem_toList]
  interval_cases i <;> rfl

/-! ## The handlers -/

section handlers
variable {s₀ s s' : GripperServer} {queue : List Byte} {E : GripperServer → Prop}

/-- The server has replied, or kept silent. -/
def MayReply (s s' : GripperServer) : Prop :=
  ∃ toClient n, s' = { s with toClient := toClient, nmbs := n }

theorem leaves_reply {m : Transaction Unit}
    (hm : ∃ toClient n, Handler.lift m s = some (.ok (), { s with
      toClient := toClient, nmbs := n })) :
    (do let s ← Handler.server; if s.nmbs.broadcast then pure () else Handler.lift m).Leaves s E
      fun _ => MayReply s := by
  apply leaves_server_bind
  apply leaves_ite
  · intro _
    exact leaves_pure ⟨s.toClient, s.nmbs, rfl⟩
  · intro _
    obtain ⟨toClient, n, heq⟩ := hm
    exact .inl ⟨_, _, heq, toClient, n, rfl⟩

theorem leaves_sendExceptionMsg (exception : Byte) :
    (sendExceptionMsg exception).Leaves s E fun _ => MayReply s :=
  leaves_reply ⟨_, _, rfl⟩

theorem leaves_sendRead (callback : ReadCallback) (address quantity : Nat) :
    (sendRead callback address quantity).Leaves s E fun _ => MayReply s := by
  apply leaves_server_bind
  cases callback address quantity s with
  | error e => exact leaves_sendExceptionMsg _
  | ok registers => exact leaves_reply ⟨_, _, reply_eq _⟩

/-- A write that the model refuses leaves it as it was. -/
theorem leaves_writeThen {n : Nat} (address : Nat) (values : Vector Register n)
    {reply : Handler Unit} (hreply : ∀ s, reply.Leaves s E fun _ => MayReply s) :
    (writeThen address values reply).Leaves s E
      fun _ => MayReply { s with model := s.model.write address values } := by
  by_cases hrange : containsRange address n = true
  · unfold Handler.Leaves
    rw [writeThen_eq hrange]
    exact hreply _
  · have hrefused : s.onWriteMultipleRegisters address values = (.error .illegalDataAddress, s) :=
      if_neg hrange
    unfold Handler.Leaves writeThen
    rw [hrefused, s.model.write_of_refused values (Bool.eq_false_iff.mpr hrange)]
    exact leaves_sendExceptionMsg _

/-- The poll goes on behind what it has `consumed` of `queue`, and has written what an
    intact request there asked for, or nothing. -/
def Heeds (queue : List Byte) (s₀ s : GripperServer) : Prop :=
  ∃ consumed, queue = consumed ++ s.fromClient ∧ s.addressRtu = s₀.addressRtu ∧
    (s.model = s₀.model ∨ ∃ unitId a, (unitId = 0 ∨ unitId = s₀.addressRtu) ∧
      WriteRequest unitId consumed a ∧ s.model = (s₀.model.access a).2)

theorem Spared.heeds (h : Spared queue s₀ s) : Heeds queue s₀ s := by
  obtain ⟨consumed, hconsumed⟩ := h.fromClient
  exact ⟨consumed, hconsumed.symm, h.addressRtu, .inl h.model⟩

theorem Spared.mayReply (h : Spared queue s₀ s) (hreplied : MayReply s s') : Spared queue s₀ s' := by
  obtain ⟨_, _, rfl⟩ := hreplied
  exact ⟨h.model, h.addressRtu, h.fromClient⟩

theorem Spared.replies (h : Spared queue s₀ s) {m : Handler Unit}
    (hm : m.Leaves s (Spared queue s₀) fun _ => MayReply s) :
    m.Leaves s (Spared queue s₀) fun _ => Heeds queue s₀ := by
  apply leaves_conseq hm
  · intro s' hs'
    exact hs'
  · intro _ s' hs'
    exact (h.mayReply hs').heeds

/-- A request that is written and replied to. -/
theorem Hearing.written (h : Hearing queue s₀ s) {u : Byte} {n address : Nat}
    {values : Vector Register n} {m : Handler Unit} (hunit : u = 0 ∨ u = s₀.addressRtu)
    (hrequest : WriteRequest u s.nmbs.buf (.write address values))
    (hm : m.Leaves s (Spared queue s₀)
      fun _ => MayReply { s with model := s.model.write address values }) :
    m.Leaves s (Spared queue s₀) fun _ => Heeds queue s₀ := by
  apply leaves_conseq hm
  · intro s' hs'
    exact hs'
  · rintro _ _ ⟨_, _, rfl⟩
    refine ⟨s.nmbs.buf, h.queue, h.addressRtu, .inr ⟨u, _, hunit, hrequest, ?_⟩⟩
    simp only [access, h.model]

/-- Another device's reply is read from what is left of the queue, whatever is made of it. -/
theorem Spared.skips (h : Spared queue s₀ s) {α : Type} {m : Transaction α} (hfree : m.LoopFree) :
    (Handler.lift m).Leaves s (Spared queue s₀) fun _ => Heeds queue s₀ := by
  apply leaves_conseq (h.lifts hfree)
  · intro s' hs'
    exact hs'
  · intro _ s' hs'
    exact hs'.1.heeds

/-! ### One for each function code -/

section requests
variable {u : Byte} (h : Hearing queue s₀ s) (hunit : s.ignored = false → u = 0 ∨ u = s₀.addressRtu)
include h

theorem leaves_handleReadRegisters (callback : Option ReadCallback) :
    (handleReadRegisters callback).Leaves s (Spared queue s₀) fun _ => Heeds queue s₀ := by
  unfold handleReadRegisters
  apply leaves_bind (leaves_recv h 4)
  rintro fields s₁ ⟨h₁, _, _⟩
  apply leaves_bind (leaves_recvMsgFooter h₁)
  rintro _ s₂ ⟨h₂, _, _⟩
  apply leaves_server_bind
  apply leaves_ite
  · intro _
    apply leaves_bind (h₂.spared.skips (loopFree_recvReadRegistersRes _))
    intro _ s₃ hs₃
    exact leaves_pure hs₃
  intro _
  apply leaves_ite
  · intro _
    exact h₂.spared.replies (leaves_sendExceptionMsg 3)
  intro _
  apply leaves_ite
  · intro _
    exact h₂.spared.replies (leaves_sendExceptionMsg 2)
  intro _
  cases callback with
  | none => exact h₂.spared.replies (leaves_sendExceptionMsg 1)
  | some callback => exact h₂.spared.replies (leaves_sendRead callback _ _)

include hunit

theorem leaves_handleWriteMultipleRegisters (hbuf : s.nmbs.buf = [u, 16]) :
    handleWriteMultipleRegisters.Leaves s (Spared queue s₀) fun _ => Heeds queue s₀ := by
  unfold handleWriteMultipleRegisters
  apply leaves_bind (leaves_recv h 5)
  rintro fields s₁ ⟨h₁, hbuf₁, hignored₁⟩
  apply leaves_bind (leaves_recvRegisterBytes h₁ _)
  rintro data s₂ ⟨h₂, hignored₂⟩
  apply leaves_ite
  · intro _
    exact leaves_fail h₂.spared
  intro hbytes
  apply leaves_bind h₂.footer
  rintro _ s₃ ⟨h₃, hignored₃⟩
  apply leaves_server_bind
  apply leaves_ite
  · intro _
    exact h₃.spared.skips (loopFree_recvWriteMultipleRegistersRes _ _)
  intro hmine
  apply leaves_ite
  · intro _
    exact h₃.spared.replies (leaves_sendExceptionMsg 3)
  intro hquantity
  apply leaves_ite
  · intro _
    exact h₃.spared.replies (leaves_sendExceptionMsg 2)
  intro hend
  apply leaves_ite
  · intro _
    exact h₃.spared.replies (leaves_sendExceptionMsg 3)
  intro _
  by_cases hcount : fields[4].toNat = (packRegister fields[2] fields[3]).toNat * 2
  · rw [dif_pos hcount]
    -- an even count: the buffer is the frame, byte for byte
    have hwhole : fields[4].toNat % 2 = 0 ∧
        s₁.nmbs.buf.length + fields[4].toNat ≤ kBufferSize := by
      rw [hbuf₁, hbuf, List.length_append, Vector.length_toList]
      exact ⟨by omega, show 7 + fields[4].toNat ≤ 260 by omega⟩
    have hframe : s₃.nmbs.buf = withCrc ([u, 16] ++
        writeFields (packRegister fields[0] fields[1]).toNat
          (registersOf (data.cast hcount)).toList) := by
      have hfields : fields.toList ++ (data.cast hcount).toList = writeFields _ _ :=
        fields_of_write fields _ rfl hcount
      rw [h₃.buf hwhole, hbuf₁, hbuf, List.append_assoc, ← Vector.toList_cast hcount, hfields]
      rfl
    have hrequest : WriteRequest u s₃.nmbs.buf (.write (packRegister fields[0] fields[1]).toNat
        (registersOf (data.cast hcount))) := by
      rw [hframe]
      exact .write _ (by omega)
    apply (h₃.hearing hwhole).written (hunit ?_) hrequest
    · exact leaves_writeThen _ _ fun s => leaves_reply ⟨_, _, reply_eq _⟩
    · rw [← hignored₁, ← hignored₂, ← hignored₃]
      exact Bool.eq_false_iff.mpr hmine
  · rw [dif_neg hcount]
    exact h₃.spared.replies (leaves_sendExceptionMsg 3)

theorem leaves_handleReadWriteRegisters (hbuf : s.nmbs.buf = [u, 23]) :
    handleReadWriteRegisters.Leaves s (Spared queue s₀) fun _ => Heeds queue s₀ := by
  unfold handleReadWriteRegisters
  apply leaves_bind (leaves_recv h 9)
  rintro fields s₁ ⟨h₁, hbuf₁, hignored₁⟩
  apply leaves_ite
  · intro _
    exact leaves_fail h₁.spared
  intro hbytes
  apply leaves_bind (leaves_recvRegisterBytes h₁ _)
  rintro data s₂ ⟨h₂, hignored₂⟩
  apply leaves_bind h₂.footer
  rintro _ s₃ ⟨h₃, hignored₃⟩
  apply leaves_server_bind
  apply leaves_ite
  · intro _
    exact h₃.spared.skips (loopFree_recvWriteMultipleRegistersRes _ _)
  intro hmine
  apply leaves_ite
  · intro _
    exact h₃.spared.replies (leaves_sendExceptionMsg 3)
  intro hread
  apply leaves_ite
  · intro _
    exact h₃.spared.replies (leaves_sendExceptionMsg 3)
  intro hwrite
  by_cases hcount : fields[8].toNat = (packRegister fields[6] fields[7]).toNat * 2
  · rw [dif_pos hcount]
    apply leaves_ite
    · intro _
      exact h₃.spared.replies (leaves_sendExceptionMsg 2)
    intro hreadEnd
    apply leaves_ite
    · intro _
      exact h₃.spared.replies (leaves_sendExceptionMsg 2)
    intro hwriteEnd
    have hwhole : fields[8].toNat % 2 = 0 ∧
        s₁.nmbs.buf.length + fields[8].toNat ≤ kBufferSize := by
      rw [hbuf₁, hbuf, List.length_append, Vector.length_toList]
      exact ⟨by omega, show 11 + fields[8].toNat ≤ 260 by omega⟩
    have hframe : s₃.nmbs.buf = withCrc ([u, 23] ++
        readWriteFields (packRegister fields[0] fields[1]).toNat
          (packRegister fields[2] fields[3]).toNat (packRegister fields[4] fields[5]).toNat
          (registersOf (data.cast hcount)).toList) := by
      have hfields : fields.toList ++ (data.cast hcount).toList = readWriteFields _ _ _ _ :=
        fields_of_readWrite fields _ rfl hcount
      rw [h₃.buf hwhole, hbuf₁, hbuf, List.append_assoc, ← Vector.toList_cast hcount, hfields]
      rfl
    have hrequest : WriteRequest u s₃.nmbs.buf (.write (packRegister fields[4] fields[5]).toNat
        (registersOf (data.cast hcount))) := by
      rw [hframe]
      exact .readWrite _ _ _ (by omega) (by omega)
    apply (h₃.hearing hwhole).written (hunit ?_) hrequest
    · exact leaves_writeThen _ _ fun s => leaves_sendRead _ _ _
    · rw [← hignored₁, ← hignored₂, ← hignored₃]
      exact Bool.eq_false_iff.mpr hmine
  · rw [dif_neg hcount]
    exact h₃.spared.replies (leaves_sendExceptionMsg 3)

end requests

/-- What is not modelled of the library has no callback to call: it may read and reply. -/
def Spares (others : OtherFunctions) : Prop :=
  ∀ fc (s : GripperServer), Spared s.fromClient s (others fc s).2

theorem leaves_handleReqFc {others : OtherFunctions} (hothers : Spares others)
    (h : Hearing queue s₀ s) (hbuf : s.nmbs.buf = [s.nmbs.unitId, s.nmbs.fc])
    (hunit : s.ignored = false → s.nmbs.unitId = 0 ∨ s.nmbs.unitId = s₀.addressRtu) :
    (handleReqFc others).Leaves s (Spared queue s₀) fun _ => Heeds queue s₀ := by
  unfold handleReqFc
  apply leaves_server_bind
  apply leaves_ite
  · intro _
    exact leaves_handleReadRegisters h _
  intro _
  apply leaves_ite
  · intro _
    exact leaves_handleReadRegisters h _
  intro _
  apply leaves_ite
  · intro hfc
    exact leaves_handleWriteMultipleRegisters h hunit (hfc ▸ hbuf)
  intro _
  apply leaves_ite
  · intro hfc
    exact leaves_handleReadWriteRegisters h hunit (hfc ▸ hbuf)
  intro _
  have hspared := h.spared.trans (hothers s.nmbs.fc s)
  unfold Handler.Leaves
  rcases hresult : others s.nmbs.fc s with ⟨e | _, s'⟩
  · rw [hresult] at hspared
    exact .inr ⟨e, s', congrArg some hresult, hspared⟩
  · rw [hresult] at hspared
    exact .inl ⟨(), s', congrArg some hresult, hspared.heeds⟩

/-- The header of a request, and whom it is for. -/
theorem leaves_recvReqHeader (h : Hearing queue s₀ s) (hbuf : s.nmbs.buf = []) :
    recvReqHeader.Leaves s (Spared queue s₀) fun _ s' => Hearing queue s₀ s' ∧
      s'.nmbs.buf = [s'.nmbs.unitId, s'.nmbs.fc] ∧
      (s'.ignored = false → s'.nmbs.unitId = 0 ∨ s'.nmbs.unitId = s₀.addressRtu) := by
  have hqueue : queue = [] ++ s.fromClient := by rw [h.queue, hbuf]
  unfold recvReqHeader
  apply leaves_bind (leaves_lift (receives_recvMsgHeader (feeds_queue s queue).receiver)
    loopFree_recvMsgHeader hqueue h.model h.addressRtu)
  rintro _ s₁ ⟨h₁, hbuf₁, _⟩
  refine .inl ⟨(), _, rfl, ?_⟩
  dsimp only
  by_cases hunit : s₁.nmbs.unitId = 0
  · rw [if_pos hunit]
    exact ⟨⟨h₁.model, h₁.addressRtu, h₁.queue⟩, hbuf₁, fun _ => .inl hunit⟩
  · rw [if_neg hunit]
    refine ⟨⟨h₁.model, h₁.addressRtu, h₁.queue⟩, hbuf₁, fun hmine => .inr ?_⟩
    rw [← h₁.addressRtu]
    exact not_not.mp (of_decide_eq_false hmine)

theorem leaves_pollHeader (h : Hearing queue s₀ s) (hbuf : s.nmbs.buf = []) :
    pollHeader.Leaves s (Spared queue s₀) fun found s' => if found then Hearing queue s₀ s' ∧
      s'.nmbs.buf = [s'.nmbs.unitId, s'.nmbs.fc] ∧
      (s'.ignored = false → s'.nmbs.unitId = 0 ∨ s'.nmbs.unitId = s₀.addressRtu)
      else Spared queue s₀ s' := by
  unfold Handler.Leaves pollHeader
  rcases leaves_recvReqHeader h hbuf with ⟨_, s₁, heq, h₁⟩ | ⟨e, s₁, heq, h₁⟩
  · rw [heq]
    exact .inl ⟨true, s₁, rfl, h₁⟩
  · rw [heq]
    by_cases hnone : s₁.nmbs.buf = [] ∧ e = .timeout
    · exact .inl ⟨false, s₁, congrArg some (if_pos hnone), h₁⟩
    · exact .inr ⟨e, s₁, congrArg some (if_neg hnone), h₁⟩

theorem pollRequest_heeds {others : OtherFunctions}
    (hm : (handleReqFc others).Leaves s (Spared queue s₀) fun _ => Heeds queue s₀) :
    ∃ result s', pollRequest others s = some (result, s') ∧ Heeds queue s₀ s' := by
  unfold pollRequest
  rcases hm with ⟨_, s₁, heq, h₁⟩ | ⟨e, s₁, heq, h₁⟩
  · rw [heq]
    exact ⟨_, s₁, rfl, h₁⟩
  · rw [heq]
    -- what is drained is lost, and that is all
    by_cases htimeout : e ≠ .timeout
    · have hdrained : Spared s₁.fromClient s₁
          { s₁ with fromClient := s₁.fromClient.drop kBufferSize } :=
        ⟨rfl, rfl, List.drop_suffix _ _⟩
      exact ⟨_, _, if_pos htimeout, (h₁.trans hdrained).heeds⟩
    · exact ⟨_, _, if_neg htimeout, h₁.heeds⟩

/-- **A poll heeds an intact request, or nothing.** -/
theorem poll_heeds {others : OtherFunctions} (hothers : Spares others) (s : GripperServer) :
    ∃ result s', nmbsServerPoll others s = some (result, s') ∧ Heeds s.fromClient s s' := by
  have hstart : Hearing s.fromClient s
      { s with nmbs := msgStateReset s.nmbs, ignored := false } := ⟨rfl, rfl, rfl⟩
  unfold nmbsServerPoll
  rw [modify_bind]
  rcases leaves_pollHeader hstart rfl with ⟨found, s₁, heq, h₁⟩ | ⟨e, s₁, heq, h₁⟩
  · rw [handler_bind heq]
    cases found with
    | true =>
      obtain ⟨hhearing, hbuf, hunit⟩ := h₁
      exact pollRequest_heeds (leaves_handleReqFc hothers hhearing hbuf hunit)
    | false => exact ⟨.ok (), s₁, rfl, Spared.heeds h₁⟩
  · refine ⟨.error e, s₁, ?_, h₁.heeds⟩
    show (pollHeader _).bind _ = _
    rw [heq]
    rfl

end handlers

/-! ## A stream -/

/-- What may be asked of a server, by the link and by the tests. -/
inductive ServerCall where
  | deliver (request : List Byte)
  | drain (max : Nat)
  | discardPendingReply

namespace GripperServer

def discardPendingReply (s : GripperServer) : GripperServer := { s with toClient := [] }

def call (others : OtherFunctions) (s : GripperServer) : ServerCall → Option GripperServer
  | .deliver request => s.deliver others request
  | .drain max => some (s.drain max).2
  | .discardPendingReply => some s.discardPendingReply

/-- Some calls, in order. -/
def calls (others : OtherFunctions) (s : GripperServer) (cs : List ServerCall) :
    Option GripperServer :=
  cs.foldlM (call others) s

end GripperServer

/-- The bytes that some calls deliver. -/
def bytesDelivered (cs : List ServerCall) : List Byte :=
  cs.flatMap fun c => match c with
    | .deliver request => request
    | _ => []

/-- The writes are asked for in the stream, by requests to this address or to all devices,
    one behind the other. -/
inductive Heard (addressRtu : Byte) : List Byte → List Access → Prop
  | nothing : Heard addressRtu [] []
  | passing {stream accesses} (bytes : List Byte) :
      Heard addressRtu stream accesses → Heard addressRtu (stream ++ bytes) accesses
  | request {stream accesses unitId frame a} : Heard addressRtu stream accesses →
      unitId = 0 ∨ unitId = addressRtu → WriteRequest unitId frame a →
      Heard addressRtu (stream ++ frame) (accesses ++ [a])

section stream
variable {others : OtherFunctions} {s s₀ s' : GripperServer} {received : List Byte}

/-- What of the bytes received is not in the queue any more has been heard. -/
def Abreast (received : List Byte) (s₀ s : GripperServer) : Prop :=
  s.addressRtu = s₀.addressRtu ∧ ∃ stream accesses, received = stream ++ s.fromClient ∧
    Heard s₀.addressRtu stream accesses ∧ s.model = s₀.model.run accesses

theorem Abreast.deliver (hothers : Spares others) (h : Abreast received s₀ s)
    (request : List Byte) :
    ∃ s', s.deliver others request = some s' ∧ Abreast (received ++ request) s₀ s' := by
  obtain ⟨haddress, stream, accesses, rfl, hheard, hmodel⟩ := h
  obtain ⟨result, s', hpoll, consumed, hqueue, haddress', hmodel'⟩ :=
    poll_heeds hothers { s with fromClient := s.fromClient ++ request }
  refine ⟨s', congrArg (Option.map Prod.snd) hpoll, haddress'.trans haddress, ?_⟩
  have hreceived : stream ++ s.fromClient ++ request = stream ++ consumed ++ s'.fromClient := by
    rw [List.append_assoc, List.append_assoc, ← hqueue]
  rcases hmodel' with hsame | ⟨unitId, a, hunit, hrequest, hwritten⟩
  · exact ⟨_, accesses, hreceived, .passing consumed hheard, hsame.trans hmodel⟩
  · refine ⟨_, accesses ++ [a], hreceived, .request hheard (haddress ▸ hunit) hrequest, ?_⟩
    rw [run_concat, ← hmodel, hwritten]

theorem Abreast.call (hothers : Spares others) (h : Abreast received s₀ s) (c : ServerCall) :
    ∃ s', s.call others c = some s' ∧ Abreast (received ++ bytesDelivered [c]) s₀ s' := by
  cases c with
  | deliver request =>
    rw [show bytesDelivered [.deliver request] = request from List.append_nil _]
    exact h.deliver hothers request
  | drain max => exact ⟨_, rfl, by rwa [show bytesDelivered [.drain max] = [] from rfl, List.append_nil]⟩
  | discardPendingReply =>
    exact ⟨_, rfl, by rwa [show bytesDelivered [.discardPendingReply] = [] from rfl, List.append_nil]⟩

theorem Abreast.calls (hothers : Spares others) (h : Abreast received s₀ s)
    (cs : List ServerCall) :
    ∃ s', s.calls others cs = some s' ∧ Abreast (received ++ bytesDelivered cs) s₀ s' := by
  induction cs generalizing s received with
  | nil => exact ⟨s, rfl, by rwa [show bytesDelivered [] = [] from rfl, List.append_nil]⟩
  | cons c cs ih =>
    obtain ⟨s₁, hcall, h₁⟩ := h.call hothers c
    obtain ⟨s₂, hcalls, h₂⟩ := ih h₁
    refine ⟨s₂, ?_, ?_⟩
    · unfold GripperServer.calls at hcalls ⊢
      rw [List.foldlM_cons, hcall]
      exact hcalls
    · have hbytes : bytesDelivered ([c] ++ cs) = bytesDelivered [c] ++ bytesDelivered cs :=
        List.flatMap_append
      rw [List.singleton_append] at hbytes
      rwa [hbytes, ← List.append_assoc]

end stream

end GripperDriver

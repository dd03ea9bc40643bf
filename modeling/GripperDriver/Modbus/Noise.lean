import GripperDriver.Device.Accesses
import GripperDriver.Modbus.Checksum
import GripperDriver.Modbus.Requests

/-! # Requests over a Noisy Line

    A master sends requests, each in one delivery, and noise falls on some of them.

    * `Query`: what is sent to the server, and what the server answers,
    * `Query.Garbled`: what comes of it damaged, with the bytes that tell its length whole,
    * `deliver_request`, `deliver_garbled`: what one delivery leaves.

    All the noise does is to lose requests (`noise_loses_and_nothing_else`).
-/

namespace GripperDriver

open Interleaving Transaction RegisterModel

/-! ## Requests -/

inductive Query where
  | read (address quantity : Nat)
  | write {n : Nat} (address : Nat) (values : Vector Register n)
  | readWrite (readAddress readQuantity writeAddress : Nat) {n : Nat} (values : Vector Register n)

namespace Query

/-- The frame without its checksum. -/
def body (unitId : Byte) : Query → List Byte
  | .read address quantity => [unitId, 3] ++ rangeFields address quantity
  | .write address values => [unitId, 16] ++ writeFields address values.toList
  | .readWrite readAddress readQuantity writeAddress values =>
    [unitId, 23] ++ readWriteFields readAddress readQuantity writeAddress values.toList

/-- What it does to the registers. -/
def access : Query → Access
  | .read address quantity => .read address quantity
  | .write address values => .write address values
  | .readWrite _ _ writeAddress values => .write writeAddress values

/-- What the server answers; a read behind a write finds what was written. -/
def reply (unitId : Byte) (m : RegisterModel) : Query → List Byte
  | .read address quantity => withCrc ([unitId, 3, BitVec.ofNat 8 (quantity * 2)] ++
      (wireBytes (m.found address quantity)).toList)
  | @write n address _ => withCrc ([unitId, 16] ++ rangeFields address n)
  | .readWrite readAddress readQuantity writeAddress values =>
    withCrc ([unitId, 23, BitVec.ofNat 8 (readQuantity * 2)] ++
      (wireBytes ((m.write writeAddress values).found readAddress readQuantity)).toList)

/-- As many registers as one message carries, and all of them there. -/
def Fits : Query → Prop
  | .read address quantity => (1 ≤ quantity ∧ quantity ≤ 125 ∧ address + quantity ≤ 0x10000) ∧
    containsRange address quantity = true
  | @write n address _ => (1 ≤ n ∧ n ≤ 0x7B ∧ address + n ≤ 0x10000) ∧
    containsRange address n = true
  | @readWrite readAddress readQuantity writeAddress n _ =>
    ((1 ≤ readQuantity ∧ readQuantity ≤ 0x7D ∧ readAddress + readQuantity ≤ 0x10000) ∧
      containsRange readAddress readQuantity = true) ∧
    (1 ≤ n ∧ n ≤ 0x79 ∧ writeAddress + n ≤ 0x10000) ∧ containsRange writeAddress n = true

instance : DecidablePred Fits
  | .read _ _ => inferInstanceAs (Decidable (_ ∧ _))
  | .write _ _ => inferInstanceAs (Decidable (_ ∧ _))
  | .readWrite _ _ _ _ => inferInstanceAs (Decidable (_ ∧ _))

/-- Where the frame tells its own length: the function code, and the count of bytes. -/
def lengthAt : Query → List Nat
  | .read _ _ => [1]
  | .write _ _ => [1, 6]
  | .readWrite _ _ _ _ => [1, 10]

/-- What comes of the request on a noisy line. -/
structure Garbled (unitId : Byte) (r : Query) (came : List Byte) : Prop where
  damaged : Damaged (withCrc (r.body unitId)) came
  spared : ∀ i ∈ r.lengthAt, came[i]? = (r.body unitId)[i]?

end Query

/-! ## An intact request -/

section deliver
variable {s s' : GripperServer}

theorem deliver_request (others : OtherFunctions) (r : Query) (hfits : r.Fits)
    (haddress : s.addressRtu ≠ 0) (hqueue : s.fromClient = []) :
    ∃ n', s.deliver others (withCrc (r.body s.addressRtu)) = some { s with
      model := (s.model.access r.access).2
      toClient := s.toClient ++ r.reply s.addressRtu s.model
      nmbs := n', ignored := false } := by
  cases r with
  | read address quantity =>
    simp only [Query.body, Query.access, Query.reply, access]
    exact deliver_read others address quantity haddress hqueue hfits.1 hfits.2
  | write address values =>
    simp only [Query.body, Query.access, Query.reply, access]
    exact deliver_write others address values haddress hqueue hfits.1 hfits.2
  | readWrite readAddress readQuantity writeAddress values =>
    obtain ⟨⟨hread, hcontains⟩, hwrite, hcontains'⟩ := hfits
    simp only [Query.body, Query.access, Query.reply, access]
    exact deliver_readWrite others readAddress readQuantity writeAddress values haddress hqueue
      hread hwrite hcontains hcontains'

/-! ## A garbled one -/

theorem handler_bind_error {α β : Type} {m : Handler α} {f : α → Handler β} {e : NmbsError}
    (h : m s = some (.error e, s')) : (m >>= f) s = some (.error e, s') := by
  show (m s).bind _ = _
  rw [h]
  rfl

/-- The header, whomever the message is for. -/
theorem pollHeader_any (unitId fc : Byte) {rest : List Byte}
    (hqueue : s.fromClient = [unitId, fc] ++ rest) :
    ∃ broadcast ignored, pollHeader s = some (.ok true, { s with
      fromClient := rest
      nmbs := { msgStateReset s.nmbs with
        buf := [unitId, fc], unitId := unitId, fc := fc, broadcast := broadcast }
      ignored := ignored }) := by
  obtain ⟨a, n', heq, rfl⟩ := lift_of_takes
    (takes_recvMsgHeader (supply_queue s) unitId fc trivial trivial)
    loopFree_recvMsgHeader hqueue
  unfold pollHeader recvReqHeader
  rw [handler_bind heq]
  unfold Handler.modify
  dsimp only [Option.map_some]
  by_cases hunit : unitId = 0
  · rw [if_pos hunit]
    exact ⟨_, _, rfl⟩
  · rw [if_neg hunit]
    exact ⟨_, _, rfl⟩

/-- The queues do not depend on what the library keeps. -/
theorem eval_nmbs {α : Type} (p : Prog SerialAct α) (n : Nmbs) (s : GripperServer) :
    p.eval GripperServer.platform { s with nmbs := n } =
      (p.eval GripperServer.platform s).map fun r => (r.1, { r.2 with nmbs := n }) := by
  induction p generalizing s with
  | pure a => rfl
  | act a => cases a <;> rfl
  | bind p k ihp ihk =>
    simp only [Prog.eval]
    rw [ihp s, Option.bind_map, Option.map_bind]
    congr 1
    funext r
    exact ihk r.1 r.2
  | iter body x => rfl

/-- The library's functions are lifted one by one. -/
theorem lift_bind {α β : Type} (m : Transaction α) (f : α → Transaction β) :
    Handler.lift (m >>= f) s = (Handler.lift m >>= fun a => Handler.lift (f a)) s := by
  show ((((m s.nmbs).eval GripperServer.platform s).bind _).map _) =
    ((((m s.nmbs).eval GripperServer.platform s).map _).bind _)
  rw [Option.map_bind, Option.bind_map]
  congr 1
  funext r
  rcases r with ⟨⟨e | a, n'⟩, s₁⟩
  · rfl
  · show ((f a n').eval GripperServer.platform s₁).map _ =
      ((f a n').eval GripperServer.platform { s₁ with nmbs := n' }).map _
    rw [eval_nmbs _ n' s₁, Option.map_map]
    rfl

/-- Two bytes that are not the checksum. -/
theorem lift_recvMsgFooter_bad {crc : Vector Byte 2} (hqueue : s.fromClient = crc.toList)
    (hbad : crc.toList ≠ put2 (nmbsCrcCalc s.nmbs.buf)) :
    ∃ n', Handler.lift recvMsgFooter s = some (.error .crc, { s with
      fromClient := [], nmbs := n' }) := by
  have hne : packRegister crc[0] crc[1] ≠ nmbsCrcCalc s.nmbs.buf := by
    intro heq
    rw [← heq, put2_packRegister, toList_two] at hbad
    exact hbad rfl
  have hqueue' : s.fromClient = crc.toList ++ [] := by rw [hqueue, List.append_nil]
  unfold recvMsgFooter
  rw [lift_bind]
  show ∃ n', Handler.lift _ s = _
  rw [lift_bind, handler_bind (lift_recv crc hqueue'), if_neg hne]
  exact ⟨_, rfl⟩

/-- What is left to read of a garbled message is the wrong checksum. -/
theorem handleReadRegisters_bad (callback : Option ReadCallback) {fields : Vector Byte 4}
    {crc : Vector Byte 2} (hqueue : s.fromClient = fields.toList ++ crc.toList)
    (hbad : crc.toList ≠ put2 (nmbsCrcCalc (s.nmbs.buf ++ fields.toList))) :
    ∃ n', handleReadRegisters callback s = some (.error .crc, { s with
      fromClient := [], nmbs := n' }) := by
  unfold handleReadRegisters
  rw [handler_bind (lift_recv fields hqueue)]
  obtain ⟨n', hfooter⟩ := lift_recvMsgFooter_bad (s := { s with
    fromClient := crc.toList, nmbs := { s.nmbs with buf := s.nmbs.buf ++ fields.toList } }) rfl hbad
  rw [handler_bind_error hfooter]
  exact ⟨n', rfl⟩

theorem handleWriteMultipleRegisters_bad {fields : Vector Byte 5} {n : Nat}
    {data : Vector Byte (n * 2)} {crc : Vector Byte 2} (hn : n ≤ 0x7B)
    (hbuf : s.nmbs.buf.length = 2) (hcount : fields[4].toNat = n * 2)
    (hqueue : s.fromClient = fields.toList ++ (data.toList ++ crc.toList))
    (hbad : crc.toList ≠ put2 (nmbsCrcCalc (s.nmbs.buf ++ (fields.toList ++ data.toList)))) :
    ∃ n', handleWriteMultipleRegisters s = some (.error .crc, { s with
      fromClient := [], nmbs := n' }) := by
  rw [← List.append_assoc s.nmbs.buf] at hbad
  unfold handleWriteMultipleRegisters
  rw [handler_bind (lift_recv fields hqueue)]
  dsimp only
  have hfits : (s.nmbs.buf ++ fields.toList).length + n * 2 ≤ kBufferSize :=
    length_behind_fields fields hbuf (show 2 + 5 + n * 2 ≤ 260 by omega)
  rw [hcount, handler_bind (recvRegisterBytes_eq data hfits rfl), if_neg (by omega)]
  obtain ⟨n', hfooter⟩ := lift_recvMsgFooter_bad (s := { s with
    fromClient := crc.toList
    nmbs := { s.nmbs with buf := s.nmbs.buf ++ fields.toList ++ data.toList } }) rfl hbad
  rw [handler_bind_error hfooter]
  exact ⟨n', rfl⟩

theorem handleReadWriteRegisters_bad {fields : Vector Byte 9} {n : Nat}
    {data : Vector Byte (n * 2)} {crc : Vector Byte 2} (hn : n ≤ 0x79)
    (hbuf : s.nmbs.buf.length = 2) (hcount : fields[8].toNat = n * 2)
    (hqueue : s.fromClient = fields.toList ++ (data.toList ++ crc.toList))
    (hbad : crc.toList ≠ put2 (nmbsCrcCalc (s.nmbs.buf ++ (fields.toList ++ data.toList)))) :
    ∃ n', handleReadWriteRegisters s = some (.error .crc, { s with
      fromClient := [], nmbs := n' }) := by
  rw [← List.append_assoc s.nmbs.buf] at hbad
  unfold handleReadWriteRegisters
  rw [handler_bind (lift_recv fields hqueue)]
  dsimp only
  have hfits : (s.nmbs.buf ++ fields.toList).length + n * 2 ≤ kBufferSize :=
    length_behind_fields fields hbuf (show 2 + 9 + n * 2 ≤ 260 by omega)
  rw [hcount, if_neg (by omega), handler_bind (recvRegisterBytes_eq data hfits rfl)]
  obtain ⟨n', hfooter⟩ := lift_recvMsgFooter_bad (s := { s with
    fromClient := crc.toList
    nmbs := { s.nmbs with buf := s.nmbs.buf ++ fields.toList ++ data.toList } }) rfl hbad
  rw [handler_bind_error hfooter]
  exact ⟨n', rfl⟩

/-- What fails on its checksum is drained. -/
theorem pollRequest_bad {others : OtherFunctions} {n' : Nmbs}
    (h : handleReqFc others s = some (.error .crc, { s with fromClient := [], nmbs := n' })) :
    pollRequest others s = some (.error .crc, { s with fromClient := [], nmbs := n' }) := by
  unfold pollRequest
  rw [h]
  rfl

/-- A request that fails on its checksum leaves no trace but in the library. -/
theorem deliver_bad {others : OtherFunctions} {unitId fc : Byte} {rest : List Byte}
    (hqueue : s.fromClient = [])
    (h : ∀ s₁ : GripperServer, s₁.nmbs.buf = [unitId, fc] → s₁.nmbs.fc = fc →
      s₁.fromClient = rest → ∃ n', handleReqFc others s₁ = some (.error .crc, { s₁ with
        fromClient := [], nmbs := n' })) :
    ∃ n' ignored, s.deliver others ([unitId, fc] ++ rest) =
      some { s with nmbs := n', ignored := ignored } := by
  obtain ⟨broadcast, ignored, hheader⟩ := pollHeader_any (s := { s with
    fromClient := [unitId, fc] ++ rest, nmbs := msgStateReset s.nmbs, ignored := false })
    unitId fc rfl
  obtain ⟨n', hhandle⟩ := h { s with
    fromClient := rest
    nmbs := { msgStateReset s.nmbs with
      buf := [unitId, fc], unitId := unitId, fc := fc, broadcast := broadcast }
    ignored := ignored } rfl rfl rfl
  refine ⟨n', ignored, ?_⟩
  unfold GripperServer.deliver nmbsServerPoll
  rw [hqueue, List.nil_append, modify_bind, handler_bind hheader, if_pos rfl]
  refine (congrArg (Option.map Prod.snd) (pollRequest_bad hhandle)).trans ?_
  rw [← hqueue]
  rfl

/-- The first bytes of a list, and the others. -/
theorem exists_vector_append {bytes : List Byte} {m n : Nat} (h : bytes.length = m + n) :
    ∃ (v : Vector Byte m) (rest : List Byte), bytes = v.toList ++ rest ∧ rest.length = n := by
  refine ⟨⟨(bytes.take m).toArray, ?_⟩, bytes.drop m, ?_, ?_⟩
  · rw [List.size_toArray, List.length_take]
    omega
  · exact (List.take_append_drop m bytes).symm
  · rw [List.length_drop]
    omega

/-- A garbled request is a frame of the right length, and its checksum is wrong. -/
theorem Query.Garbled.split {unitId : Byte} {r : Query} {came : List Byte} {k : Nat}
    (h : r.Garbled unitId came) (hlength : (r.body unitId).length = 2 + k) :
    ∃ (u fc : Byte) (payload : List Byte) (crc : Vector Byte 2),
      came = [u, fc] ++ (payload ++ crc.toList) ∧ payload.length = k ∧
      some fc = (r.body unitId)[1]? ∧ crc.toList ≠ put2 (nmbsCrcCalc ([u, fc] ++ payload)) := by
  have hcame : came.length = 2 + (k + 2) := by
    rw [← h.damaged.length_eq, withCrc, List.length_append, hlength, Nat.add_assoc]
    rfl
  obtain ⟨head, rest, hhead, hrest⟩ := exists_vector_append hcame
  obtain ⟨payload, tail, hpayload, htail⟩ := exists_vector_append hrest
  obtain ⟨crc, none', htail', hnone⟩ := exists_vector_append (m := 2) (n := 0) htail
  obtain rfl : none' = [] := List.length_eq_zero_iff.mp hnone
  have hsplit : came = [head[0], head[1]] ++ (payload.toList ++ crc.toList) := by
    rw [hhead, hpayload, htail', List.append_nil, toList_two]
  refine ⟨head[0], head[1], payload.toList, crc, hsplit, Vector.length_toList, ?_, ?_⟩
  · have hfc : 1 ∈ r.lengthAt := by cases r <;> exact List.mem_cons_self
    rw [← h.spared 1 hfc, hsplit]
    rfl
  · -- a right checksum would make it the frame of another request
    intro hcrc
    have hframe : came = withCrc ([head[0], head[1]] ++ payload.toList) := by
      rw [hsplit, hcrc, withCrc, List.append_assoc]
    exact not_damaged_withCrc _ _ (hframe ▸ h.damaged)

theorem deliver_garbled (others : OtherFunctions) {unitId : Byte} {r : Query} {came : List Byte}
    (hfits : r.Fits) (hqueue : s.fromClient = []) (h : r.Garbled unitId came) :
    ∃ n' ignored, s.deliver others came = some { s with nmbs := n', ignored := ignored } := by
  cases r with
  | read address quantity =>
    obtain ⟨u, fc, payload, crc, rfl, hpayload, hfc, hbad⟩ := h.split (k := 4) rfl
    obtain rfl : fc = 3 := Option.some.inj hfc
    obtain ⟨fields, none', rfl, hnone⟩ := exists_vector_append (m := 4) (n := 0) hpayload
    obtain rfl : none' = [] := List.length_eq_zero_iff.mp hnone
    rw [List.append_nil] at hbad ⊢
    apply deliver_bad hqueue
    intro s₁ hbuf hfc₁ hqueue₁
    rw [handleReqFc_read others hfc₁]
    exact handleReadRegisters_bad _ hqueue₁ (hbuf ▸ hbad)
  | @write n address values =>
    have hlength : ((Query.write address values).body unitId).length = 2 + (5 + n * 2) := by
      simp [Query.body, writeFields, rangeFields, put2]
      omega
    have hspared := h.spared 6 (by simp [Query.lengthAt])
    obtain ⟨u, fc, payload, crc, rfl, hpayload, hfc, hbad⟩ := h.split hlength
    obtain rfl : fc = 16 := Option.some.inj hfc
    obtain ⟨fields, tail, rfl, htail⟩ := exists_vector_append hpayload
    obtain ⟨data, none', rfl, hnone⟩ := exists_vector_append (m := n * 2) (n := 0) htail
    obtain rfl : none' = [] := List.length_eq_zero_iff.mp hnone
    rw [List.append_nil] at hbad hspared ⊢
    -- the count of bytes came whole
    have hcount : fields[4].toNat = n * 2 := by
      have hbyte : fields[4] = BitVec.ofNat 8 (values.toList.length * 2) := by
        simpa [Query.body, writeFields, rangeFields, put2, List.getElem?_append_left] using hspared
      rw [hbyte, Vector.length_toList]
      exact toNat_byteCount hfits.1.2.1
    apply deliver_bad hqueue
    intro s₁ hbuf hfc₁ hqueue₁
    rw [handleReqFc_write others hfc₁]
    rw [List.append_assoc] at hqueue₁
    exact handleWriteMultipleRegisters_bad hfits.1.2.1 (by rw [hbuf]; rfl) hcount hqueue₁
      (hbuf ▸ hbad)
  | @readWrite readAddress readQuantity writeAddress n values =>
    have hlength : ((Query.readWrite readAddress readQuantity writeAddress values).body
        unitId).length = 2 + (9 + n * 2) := by
      simp [Query.body, readWriteFields, put2]
      omega
    have hspared := h.spared 10 (by simp [Query.lengthAt])
    obtain ⟨u, fc, payload, crc, rfl, hpayload, hfc, hbad⟩ := h.split hlength
    obtain rfl : fc = 23 := Option.some.inj hfc
    obtain ⟨fields, tail, rfl, htail⟩ := exists_vector_append hpayload
    obtain ⟨data, none', rfl, hnone⟩ := exists_vector_append (m := n * 2) (n := 0) htail
    obtain rfl : none' = [] := List.length_eq_zero_iff.mp hnone
    rw [List.append_nil] at hbad hspared ⊢
    have hn : n ≤ 0x79 := hfits.2.1.2.1
    have hcount : fields[8].toNat = n * 2 := by
      have hbyte : fields[8] = BitVec.ofNat 8 (values.toList.length * 2) := by
        simpa [Query.body, readWriteFields, put2, List.getElem?_append_left] using hspared
      rw [hbyte, Vector.length_toList]
      exact toNat_byteCount (by omega)
    apply deliver_bad hqueue
    intro s₁ hbuf hfc₁ hqueue₁
    rw [handleReqFc_readWrite others hfc₁]
    rw [List.append_assoc] at hqueue₁
    exact handleReadWriteRegisters_bad hn (by rw [hbuf]; rfl) hcount hqueue₁ (hbuf ▸ hbad)

end deliver

/-! ## Many requests -/

/-- A request, and what has come of it where noise fell on it. -/
structure Arrival where
  query : Query
  garbled : Option (List Byte) := none

def Arrival.bytes (unitId : Byte) (a : Arrival) : List Byte :=
  a.garbled.getD (withCrc (a.query.body unitId))

structure Arrival.Proper (unitId : Byte) (a : Arrival) : Prop where
  fits : a.query.Fits
  garbled : ∀ came ∈ a.garbled, a.query.Garbled unitId came

/-- The requests that no noise fell on. -/
def intact (arrivals : List Arrival) : List Query :=
  (arrivals.filter fun a => a.garbled.isNone).map Arrival.query

/-- The answers to some requests, each after the one before. -/
def replies (unitId : Byte) (m : RegisterModel) : List Query → List Byte
  | [] => []
  | q :: qs => q.reply unitId m ++ replies unitId (m.access q.access).2 qs

def GripperServer.deliverAll (others : OtherFunctions) (s : GripperServer)
    (requests : List (List Byte)) : Option GripperServer :=
  requests.foldlM (fun s request => s.deliver others request) s

/-- **Noise loses requests, and does nothing else.** Requests come one after the other, on
    some of them falls noise that spares the bytes that tell the length: registers and
    replies are those of the intact requests alone, and none of them is lost. -/
theorem noise_loses_and_nothing_else (others : OtherFunctions) (s : GripperServer)
    (haddress : s.addressRtu ≠ 0) (hqueue : s.fromClient = []) (arrivals : List Arrival)
    (hproper : ∀ a ∈ arrivals, a.Proper s.addressRtu) :
    ∃ n' ignored, s.deliverAll others (arrivals.map (Arrival.bytes s.addressRtu)) = some { s with
      model := s.model.run ((intact arrivals).map Query.access)
      toClient := s.toClient ++ replies s.addressRtu s.model (intact arrivals)
      nmbs := n', ignored := ignored } := by
  unfold GripperServer.deliverAll
  induction arrivals generalizing s with
  | nil => exact ⟨s.nmbs, s.ignored, by simp [intact, replies]⟩
  | cons a arrivals ih =>
    obtain ⟨hfits, hgarbled⟩ := hproper a List.mem_cons_self
    have hrest : ∀ b ∈ arrivals, b.Proper s.addressRtu :=
      fun b hb => hproper b (List.mem_cons_of_mem a hb)
    rw [List.map_cons, List.foldlM_cons]
    rcases a with ⟨q, none | came⟩
    · -- it is handled, and the server waits for the next
      obtain ⟨n₁, hdeliver⟩ := deliver_request others q hfits haddress hqueue
      obtain ⟨n₂, ignored, hih⟩ := ih { s with
        model := (s.model.access q.access).2
        toClient := s.toClient ++ q.reply s.addressRtu s.model
        nmbs := n₁, ignored := false } haddress hqueue hrest
      refine ⟨n₂, ignored, ?_⟩
      show (s.deliver others (withCrc (q.body s.addressRtu)) >>= _) = _
      rw [hdeliver]
      refine hih.trans ?_
      simp [intact, replies, List.append_assoc]
    · -- it is as if it had never been sent
      obtain ⟨n₁, ignored₁, hdeliver⟩ := deliver_garbled others hfits hqueue (hgarbled came rfl)
      obtain ⟨n₂, ignored, hih⟩ := ih { s with nmbs := n₁, ignored := ignored₁ } haddress hqueue hrest
      refine ⟨n₂, ignored, ?_⟩
      show (s.deliver others came >>= _) = _
      rw [hdeliver]
      refine hih.trans ?_
      simp [intact]

/-- A request to write, with one bit turned over in its data. -/
def garbledWrite : Arrival where
  query := .write kCommandAddress #v[0x0100]
  garbled := some ([9, 16] ++ writeFields kCommandAddress [0x0101] ++
    put2 (nmbsCrcCalc ([9, 16] ++ writeFields kCommandAddress [0x0100])))

theorem noise_loses_a_request : ∃ n' ignored,
    let s : GripperServer := { model := {}, nmbs := {}, addressRtu := 9 }
    let whole : Arrival := { query := .write kCommandAddress #v[0x0900] }
    s.deliverAll (fun _ s => (.ok (), s)) ([garbledWrite, whole].map (Arrival.bytes 9)) =
      some { s with
        model := s.model.run [.write kCommandAddress #v[0x0900]]
        toClient := withCrc ([9, 16] ++ rangeFields kCommandAddress 1)
        nmbs := n', ignored := ignored } := by
  refine noise_loses_and_nothing_else (fun _ s => (.ok (), s))
    { model := {}, nmbs := {}, addressRtu := 9 } (by decide) rfl [_, _] ?_
  intro a ha
  rcases List.mem_cons.mp ha with rfl | ha
  · refine ⟨by decide, ?_⟩
    rintro came ⟨⟩
    refine ⟨⟨by decide +kernel, by decide +kernel, .inr (.inl (by decide +kernel))⟩, ?_⟩
    decide +kernel
  · obtain rfl := List.mem_singleton.mp ha
    exact ⟨by decide, nofun⟩

end GripperDriver

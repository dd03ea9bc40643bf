import GripperDriver.Exchange.World
import Mathlib.Data.List.Basic

/-! # The Chronicle of a Run

    What the state shows and what the history says, tied together: the cycles
    latch one after the other, each comes to one outcome, the successful ones
    are published in order, and the record in the image is the last published.

    * `setsOf`, `latchesOf`, `successesOf`, `outcomesOf`, `publishedOf`: the
      history, seen one kind of event at a time,
    * `Chronicle`: the invariant, and its preservation move by move,
    * `Chronicle.cycle_since`: the cycle behind a record that was published
      after a given point.
-/

namespace GripperDriver

open Interleaving

/-! ## Views of the history -/

/-- A successful exchange: what cycle `cycle` latched, got back, and when. -/
structure Success where
  cycle : Nat
  command : GripperCommand
  status : GripperStatus
  completedAt : Time
  deriving DecidableEq, Repr

section views
variable {dev : Device}

def Event.set? : Event dev → Option GripperCommand
  | .set c => some c
  | _ => none

def Event.latch? : Event dev → Option (Nat × GripperCommand)
  | .latched k c => some (k, c)
  | _ => none

def Event.success? : Event dev → Option Success
  | .completed k c st t => some ⟨k, c, st, t⟩
  | _ => none

/-- The cycle, and whether its exchange succeeded. -/
def Event.outcome? : Event dev → Option (Nat × Bool)
  | .completed k _ _ _ => some (k, true)
  | .failed k => some (k, false)
  | _ => none

def Event.publish? : Event dev → Option (Nat × StampedExchange)
  | .published k r => some (k, r)
  | _ => none

/-- The cycle whose block the device applied. -/
def Event.delivery? : Event dev → Option Nat
  | .applied k _ _ => some k
  | _ => none

def setsOf (trace : List (Event dev)) : List GripperCommand := trace.filterMap Event.set?

def latchesOf (trace : List (Event dev)) : List (Nat × GripperCommand) :=
  trace.filterMap Event.latch?

def successesOf (trace : List (Event dev)) : List Success := trace.filterMap Event.success?

def outcomesOf (trace : List (Event dev)) : List (Nat × Bool) := trace.filterMap Event.outcome?

def publishedOf (trace : List (Event dev)) : List (Nat × StampedExchange) :=
  trace.filterMap Event.publish?

def appliesOf (trace : List (Event dev)) : List Nat := trace.filterMap Event.delivery?

section concat
variable (trace : List (Event dev)) (e : Event dev)

theorem filterMap_concat {α : Type} (f : Event dev → Option α) :
    (trace ++ [e]).filterMap f = trace.filterMap f ++ (f e).toList := by
  rw [List.filterMap_append]
  cases h : f e <;> simp [h]

@[simp] theorem setsOf_concat : setsOf (trace ++ [e]) = setsOf trace ++ e.set?.toList :=
  filterMap_concat trace e _

@[simp] theorem latchesOf_concat : latchesOf (trace ++ [e]) = latchesOf trace ++ e.latch?.toList :=
  filterMap_concat trace e _

@[simp] theorem successesOf_concat :
    successesOf (trace ++ [e]) = successesOf trace ++ e.success?.toList :=
  filterMap_concat trace e _

@[simp] theorem outcomesOf_concat :
    outcomesOf (trace ++ [e]) = outcomesOf trace ++ e.outcome?.toList :=
  filterMap_concat trace e _

@[simp] theorem publishedOf_concat :
    publishedOf (trace ++ [e]) = publishedOf trace ++ e.publish?.toList :=
  filterMap_concat trace e _

@[simp] theorem appliesOf_concat : appliesOf (trace ++ [e]) = appliesOf trace ++ e.delivery?.toList :=
  filterMap_concat trace e _

end concat

theorem setsOf_append (before after : List (Event dev)) :
    setsOf (before ++ after) = setsOf before ++ setsOf after :=
  List.filterMap_append

theorem setsOf_cons_set (c : GripperCommand) (trace : List (Event dev)) :
    setsOf (.set c :: trace) = c :: setsOf trace :=
  rfl

/-- A view that shows `a` for the event `e` alone. -/
theorem mem_view {α : Type} {f : Event dev → Option α} {trace : List (Event dev)} {a : α}
    {e : Event dev} (hshows : f e = some a) (honly : ∀ e', f e' = some a → e' = e) :
    a ∈ trace.filterMap f ↔ e ∈ trace := by
  rw [List.mem_filterMap]
  constructor
  · intro h
    obtain ⟨e', he, ha⟩ := h
    rw [← honly e' ha]
    exact he
  · exact fun he => ⟨e, he, hshows⟩

theorem mem_setsOf {trace : List (Event dev)} {c : GripperCommand} :
    c ∈ setsOf trace ↔ .set c ∈ trace := by
  refine mem_view (f := Event.set?) rfl ?_
  intro e he
  cases e <;> cases he
  rfl

theorem mem_latchesOf {trace : List (Event dev)} {k : Nat} {c : GripperCommand} :
    (k, c) ∈ latchesOf trace ↔ .latched k c ∈ trace := by
  refine mem_view (f := Event.latch?) rfl ?_
  intro e he
  cases e <;> cases he
  rfl

theorem mem_publishedOf {trace : List (Event dev)} {k : Nat} {r : StampedExchange} :
    (k, r) ∈ publishedOf trace ↔ .published k r ∈ trace := by
  refine mem_view (f := Event.publish?) rfl ?_
  intro e he
  cases e <;> cases he
  rfl

theorem mem_successesOf {trace : List (Event dev)} {s : Success} :
    s ∈ successesOf trace ↔
      .completed s.cycle s.command s.status s.completedAt ∈ trace := by
  refine mem_view (f := Event.success?) rfl ?_
  intro e he
  cases e <;> cases he
  rfl

/-- The block that was applied does not show. -/
theorem mem_appliesOf {trace : List (Event dev)} {k : Nat} :
    k ∈ appliesOf trace ↔ ∃ c d, .applied k c d ∈ trace := by
  rw [appliesOf, List.mem_filterMap]
  constructor
  · intro h
    obtain ⟨e, he, hk⟩ := h
    cases e <;> cases hk
    exact ⟨_, _, he⟩
  · intro h
    obtain ⟨c, d, he⟩ := h
    exact ⟨_, he, rfl⟩

/-- The record of each successful exchange: the `n`-th has count `n`. -/
def recordsOf (successes : List Success) : List (Nat × StampedExchange) :=
  successes.mapIdx fun n s =>
    (s.cycle, ProcessImage.recordOf n s.command s.status s.completedAt)

end views

/-! ## What the exchange thread has in hand -/

namespace ExchangePc

/-- The block of an exchange that may still be published. -/
def carries : ExchangePc → Option GripperCommand
  | .latched c | .answered c _ | .returned c _ | .completed c _ _ | .cleared c _ _
  | .turned c _ _ _ => some c
  | _ => none

/-- The block and the device's answer, once it has applied the write. -/
def answer : ExchangePc → Option (GripperCommand × GripperStatus)
  | .answered c st | .returned c st | .completed c st _ | .cleared c st _
  | .turned c st _ _ => some (c, st)
  | _ => none

/-- The exchange has completed, its record is still to be published. -/
def unpublished : ExchangePc → Option (GripperCommand × GripperStatus × Time)
  | .completed c st t | .cleared c st t | .turned c st t _ => some (c, st, t)
  | _ => none

/-- The cycle under way has latched its command and come to no outcome yet. -/
def undecided : ExchangePc → Bool
  | .latched _ | .answered _ _ | .returned _ _ => true
  | _ => false

/-- The request of the cycle under way is still on its way to the device. -/
def undelivered : ExchangePc → Bool
  | .latched _ => true
  | _ => false

theorem carries_of_unpublished {pc : ExchangePc} {c : GripperCommand} {st : GripperStatus}
    {t : Time} (h : pc.unpublished = some (c, st, t)) : pc.carries = some c := by
  cases pc <;> cases h <;> rfl

theorem exists_carries_of_undecided {pc : ExchangePc} (h : pc.undecided = true) :
    ∃ c, pc.carries = some c := by
  cases pc <;> first | exact ⟨_, rfl⟩ | cases h

end ExchangePc

namespace World
variable {dev : Device}

/-- The record about to be published, with its cycle. -/
def pendingRecord (w : World dev) : List (Nat × StampedExchange) :=
  w.pc.unpublished.toList.map fun (c, st, t) =>
    (w.cycles, ProcessImage.recordOf w.image.stamped.count c st t)

/-- The cycle whose request is on its way. -/
def pendingRequest (w : World dev) : List Nat := if w.pc.undelivered then [w.cycles] else []

/-- Cycles that have come to an outcome. -/
def decided (w : World dev) : Nat := if w.pc.undecided then w.cycles - 1 else w.cycles

end World

/-! ## The invariant -/

section chronicle
variable {dev : Device}

/-- The history holds the latch and the write behind a success. -/
def Backed (trace : List (Event dev)) (s : Success) : Prop :=
  .latched s.cycle s.command ∈ trace ∧
    ∃ d, .applied s.cycle s.command d ∈ trace ∧ s.status = dev.answer (dev.write d s.command)

theorem Backed.mono {trace trace' : List (Event dev)} {s : Success} (h : Backed trace s)
    (hsub : trace ⊆ trace') : Backed trace' s := by
  obtain ⟨hlatched, d, happlied, hstatus⟩ := h
  exact ⟨hsub hlatched, d, hsub happlied, hstatus⟩

/-- The state and its history agree. `seed` is the record the image started with. -/
structure Chronicle (seed : StampedExchange) (w : World dev) : Prop where
  /-- Cycles are numbered in the order they latch. -/
  latch_numbers : (latchesOf w.trace).map Prod.fst = List.range' 1 w.cycles
  /-- Cycles come to one outcome each, in order. -/
  outcome_numbers : (outcomesOf w.trace).map Prod.fst = List.range' 1 w.decided
  /-- A cycle under way has been latched. -/
  undecided_pos : w.pc.undecided = true → 0 < w.cycles
  /-- The records published, and the one in hand, are those of the successes. -/
  records : recordsOf (successesOf w.trace) = publishedOf w.trace ++ w.pendingRecord
  /-- The count is the number of records published. -/
  counted : w.image.stamped.count = (publishedOf w.trace).length
  /-- The image holds the last record published. -/
  stamped : w.image.stamped = ((publishedOf w.trace).map Prod.snd).getLastD seed
  /-- The cycle under way latched the block it carries. -/
  carried : ∀ c, w.pc.carries = some c → .latched w.cycles c ∈ w.trace
  /-- The answer in hand is the device's, to the write of this cycle. -/
  answered : ∀ c st, w.pc.answer = some (c, st) →
    ∃ d, .applied w.cycles c d ∈ w.trace ∧ st = dev.answer (dev.write d c)
  /-- The device applies the block of the cycle. -/
  delivered : ∀ k c d, .applied k c d ∈ w.trace → .latched k c ∈ w.trace
  /-- The device applies the blocks in the order of the cycles, each at most once. -/
  apply_numbers : (appliesOf w.trace ++ w.pendingRequest).Pairwise (· < ·)
  /-- A success has the block its cycle latched, and the answer to its write. -/
  succeeded : ∀ s ∈ successesOf w.trace, Backed w.trace s

variable {seed : StampedExchange} {w w' : World dev} {l : Label}

theorem latch_numbers_step (h : (latchesOf w.trace).map Prod.fst = List.range' 1 w.cycles)
    (hmove : Move w l w') : (latchesOf w'.trace).map Prod.fst = List.range' 1 w'.cycles := by
  cases hmove with
  | latch hpc =>
    -- the cycle that latches takes the next number
    rw [List.range'_concat, ← h]
    simp [Event.latch?]
    omega
  | _ => simpa [Event.latch?] using h

theorem undecided_pos_step (h : w.pc.undecided = true → 0 < w.cycles)
    (hmove : Move w l w') : w'.pc.undecided = true → 0 < w'.cycles := by
  cases hmove <;> simp_all [ExchangePc.undecided]

theorem outcome_numbers_step (hpos : w.pc.undecided = true → 0 < w.cycles)
    (h : (outcomesOf w.trace).map Prod.fst = List.range' 1 w.decided)
    (hmove : Move w l w') : (outcomesOf w'.trace).map Prod.fst = List.range' 1 w'.decided := by
  -- an outcome takes the count from `cycles - 1` to `cycles`
  have hlast : w.pc.undecided = true →
      List.range' 1 w.cycles = List.range' 1 (w.cycles - 1) ++ [w.cycles] := by
    intro hpc
    obtain ⟨n, hn⟩ := Nat.exists_eq_add_one.mpr (hpos hpc)
    rw [hn, List.range'_concat, Nat.add_sub_cancel, Nat.one_mul, Nat.add_comm]
  cases hmove <;> simp_all [Event.outcome?, World.decided, ExchangePc.undecided]

theorem records_step (h : recordsOf (successesOf w.trace) = publishedOf w.trace ++ w.pendingRecord)
    (hcount : w.image.stamped.count = (publishedOf w.trace).length)
    (hmove : Move w l w') :
    recordsOf (successesOf w'.trace) = publishedOf w'.trace ++ w'.pendingRecord := by
  have hlength : w.pc.unpublished = none →
      (successesOf w.trace).length = (publishedOf w.trace).length := by
    intro hpc
    simpa [recordsOf, World.pendingRecord, hpc] using congrArg List.length h
  -- the record in hand appears with the success and is published at the count it was made for
  cases hmove <;> simp_all [Event.success?, Event.publish?,
    World.pendingRecord, ExchangePc.unpublished, recordsOf]

theorem counted_step (h : w.image.stamped.count = (publishedOf w.trace).length)
    (hmove : Move w l w') : w'.image.stamped.count = (publishedOf w'.trace).length := by
  cases hmove <;> simp_all [Event.publish?]

theorem stamped_step
    (h : w.image.stamped = ((publishedOf w.trace).map Prod.snd).getLastD seed)
    (hmove : Move w l w') :
    w'.image.stamped = ((publishedOf w'.trace).map Prod.snd).getLastD seed := by
  cases hmove <;> simp_all [Event.publish?]

theorem carried_step (h : ∀ c, w.pc.carries = some c → .latched w.cycles c ∈ w.trace)
    (hmove : Move w l w') :
    ∀ c, w'.pc.carries = some c → .latched w'.cycles c ∈ w'.trace := by
  cases hmove <;> simp_all [ExchangePc.carries]

theorem answered_step
    (h : ∀ c st, w.pc.answer = some (c, st) →
      ∃ d, .applied w.cycles c d ∈ w.trace ∧ st = dev.answer (dev.write d c))
    (hmove : Move w l w') :
    ∀ c st, w'.pc.answer = some (c, st) →
      ∃ d, .applied w'.cycles c d ∈ w'.trace ∧ st = dev.answer (dev.write d c) := by
  cases hmove <;> simp_all [ExchangePc.answer]

theorem delivered_step (h : Chronicle seed w) (hmove : Move w l w') :
    ∀ k c d, .applied k c d ∈ w'.trace → .latched k c ∈ w'.trace := by
  have hold : ∀ k c d, .applied k c d ∈ w.trace → .latched k c ∈ w'.trace :=
    fun k c d hd => hmove.trace_grows.subset (h.delivered k c d hd)
  cases hmove with
  | deliver c hpc =>
    intro k c' d hd
    simp only [List.mem_append, List.mem_singleton] at hd
    rcases hd with hd | hd
    · exact hold k c' d hd
    · cases hd
      exact List.mem_append_left _ (h.carried c (by rw [hpc, ExchangePc.carries]))
  | _ => simpa using hold

theorem apply_numbers_step (h : Chronicle seed w) (hmove : Move w l w') :
    (appliesOf w'.trace ++ w'.pendingRequest).Pairwise (· < ·) := by
  have hold := h.apply_numbers
  cases hmove with
  | latch hpc =>
    -- whatever has been applied was latched, under the number of an earlier cycle
    have hlt : ∀ k ∈ appliesOf w.trace, k < w.cycles + 1 := by
      intro k hk
      obtain ⟨c, d, happlied⟩ := mem_appliesOf.mp hk
      have hmem := mem_latchesOf.mpr (h.delivered k c d happlied)
      have := List.mem_map_of_mem (f := Prod.fst) hmem
      rw [h.latch_numbers, List.mem_range'_1] at this
      omega
    simp_all [Event.delivery?, World.pendingRequest, ExchangePc.undelivered, List.pairwise_append]
  -- a request that is lost leaves the order as it was, one shorter
  | requestLost c hpc =>
    have := (List.pairwise_append.mp hold).1
    simpa [Event.delivery?, World.pendingRequest, ExchangePc.undelivered] using this
  | _ => simpa [Event.delivery?, World.pendingRequest, ExchangePc.undelivered, *] using hold

theorem succeeded_step (h : Chronicle seed w) (hmove : Move w l w') :
    ∀ s ∈ successesOf w'.trace, Backed w'.trace s := by
  have hold : ∀ s ∈ successesOf w.trace, Backed w'.trace s :=
    fun s hs => (h.succeeded s hs).mono hmove.trace_grows.subset
  cases hmove with
  | stamp c st hpc =>
    intro s hs
    simp only [successesOf_concat, Event.success?, Option.toList_some, List.mem_append,
      List.mem_singleton] at hs
    rcases hs with hs | rfl
    · exact hold s hs
    · -- the new success is backed by the block carried and the answer in hand
      have hlatched := h.carried c (by rw [hpc, ExchangePc.carries])
      obtain ⟨d, happlied, hst⟩ := h.answered c st (by rw [hpc, ExchangePc.answer])
      exact Backed.mono ⟨hlatched, d, happlied, hst⟩ (List.subset_append_left _ _)
  | _ => simpa [Event.success?] using hold

/-- **Step lemma**: every move keeps the chronicle. -/
theorem Chronicle.step (h : Chronicle seed w) (hmove : Move w l w') : Chronicle seed w' where
  latch_numbers := latch_numbers_step h.latch_numbers hmove
  outcome_numbers := outcome_numbers_step h.undecided_pos h.outcome_numbers hmove
  undecided_pos := undecided_pos_step h.undecided_pos hmove
  records := records_step h.records h.counted hmove
  counted := counted_step h.counted hmove
  stamped := stamped_step h.stamped hmove
  carried := carried_step h.carried hmove
  answered := answered_step h.answered hmove
  delivered := delivered_step h hmove
  apply_numbers := apply_numbers_step h hmove
  succeeded := succeeded_step h hmove

/-- The record a construction seeds the image with. -/
def constructedSeed (fresh : GripperStatus) (at_ : Time) : StampedExchange :=
  ProcessImage.seedRecord fresh at_ (seedCommand fresh)

theorem chronicle_constructed (device : dev.State) (fresh : GripperStatus) (at_ : Time) :
    Chronicle (constructedSeed fresh at_) (World.constructed device fresh at_) where
  latch_numbers := rfl
  outcome_numbers := rfl
  undecided_pos := by intro h; cases h
  records := rfl
  counted := rfl
  stamped := rfl
  carried := by intro c h; cases h
  answered := by intro c st h; cases h
  delivered := by intro k c d h; cases h
  apply_numbers := .nil
  succeeded := by intro s h; cases h

/-- **Run lemma**: the chronicle holds along every run. -/
theorem Chronicle.along {L : Label → Prop} (h : Chronicle seed w)
    (hrun : (gripperSystem dev).Within L w w') : Chronicle seed w' :=
  hrun.keeps (fun _ _ _ h _ hstep => h.step (move_of_step hstep)) h

theorem chronicle_of_reachable (h : w.Reachable) : ∃ seed, Chronicle seed w := by
  induction h with
  | init hinit =>
    obtain ⟨device, fresh, at_, rfl⟩ := hinit
    exact ⟨_, chronicle_constructed device fresh at_⟩
  | step l _ hstep ih =>
    obtain ⟨seed, h⟩ := ih
    exact ⟨seed, h.step (move_of_step hstep)⟩

theorem trace_grows_within {L : Label → Prop} (hrun : (gripperSystem dev).Within L w w') :
    w.trace <+: w'.trace :=
  hrun.relates (R := fun (u v : World dev) => u.trace <+: v.trace) List.prefix_rfl
    fun _ _ _ h _ hstep => h.trans (move_of_step hstep).trace_grows

theorem successes_grow {L : Label → Prop} (hrun : (gripperSystem dev).Within L w w') {n : Nat}
    {s : Success} (hs : (successesOf w.trace)[n]? = some s) :
    (successesOf w'.trace)[n]? = some s := by
  obtain ⟨after, htrace⟩ := trace_grows_within hrun
  rw [← htrace, successesOf, List.filterMap_append, ← successesOf]
  rw [List.getElem?_append_left (List.getElem?_eq_some_iff.mp hs).1, hs]

theorem now_le_of_within {L : Label → Prop} (hrun : (gripperSystem dev).Within L w w') :
    w.now ≤ w'.now := by
  apply hrun.relates (R := fun (u v : World dev) => u.now ≤ v.now) le_rfl
  intro u l v h _ hstep
  cases move_of_step hstep with
  | tick t hle => exact h.trans hle
  | _ => exact h

/-- The count of the image never goes back. -/
theorem count_le_of_within {L : Label → Prop} (hrun : (gripperSystem dev).Within L w w') :
    w.image.stamped.count ≤ w'.image.stamped.count := by
  refine hrun.relates (R := fun (u v : World dev) => u.image.stamped.count ≤ v.image.stamped.count)
    le_rfl fun _ _ _ h _ hstep => h.trans ?_
  cases move_of_step hstep <;> simp

/-- While the count of the image stays, so does its record. -/
theorem stamped_of_count {L : Label → Prop} (hrun : (gripperSystem dev).Within L w w')
    (hle : w'.image.stamped.count ≤ w.image.stamped.count) :
    w'.image.stamped = w.image.stamped := by
  have h := hrun.relates (R := fun (u v : World dev) =>
    u.image.stamped.count ≤ v.image.stamped.count ∧
      (v.image.stamped.count ≤ u.image.stamped.count → v.image.stamped = u.image.stamped))
    ⟨le_rfl, fun _ => rfl⟩ ?_
  · exact h.2 hle
  intro u l v h _ hstep
  cases move_of_step hstep with
  | publish c st t hpc =>
    have hcount : (u.image.publish c st t).stamped.count = u.image.stamped.count + 1 := by simp
    exact ⟨by simp only [hcount]; omega, fun hback => absurd hback (by simp only [hcount]; omega)⟩
  | publishRecovered c st t hpc =>
    have hcount : (u.image.publish c st t).stamped.count = u.image.stamped.count + 1 := by simp
    exact ⟨by simp only [hcount]; omega, fun hback => absurd hback (by simp only [hcount]; omega)⟩
  | _ => exact h

theorem latchesOf_append (before after : List (Event dev)) :
    latchesOf (before ++ after) = latchesOf before ++ latchesOf after :=
  List.filterMap_append

/-! ## What the cycle numbers say -/

namespace Chronicle

theorem latched_bounds (h : Chronicle seed w) {k : Nat} {c : GripperCommand}
    (hk : .latched k c ∈ w.trace) : 0 < k ∧ k ≤ w.cycles := by
  have hmem : k ∈ (latchesOf w.trace).map Prod.fst :=
    List.mem_map_of_mem (f := Prod.fst) (mem_latchesOf.mpr hk)
  rw [h.latch_numbers, List.mem_range'_1] at hmem
  omega

theorem applied_bounds (h : Chronicle seed w) {k : Nat} {c : GripperCommand} {d : dev.State}
    (hk : .applied k c d ∈ w.trace) : 0 < k ∧ k ≤ w.cycles :=
  h.latched_bounds (h.delivered k c d hk)

/-- The blocks are applied in the order of the cycles. -/
theorem applied_order (h : Chronicle seed w) {k : Nat} {c : GripperCommand} {d : dev.State}
    {before after : List (Event dev)} (htrace : w.trace = before ++ .applied k c d :: after) :
    (∀ k' c' d', .applied k' c' d' ∈ before → k' < k) ∧
      ∀ k' c' d', .applied k' c' d' ∈ after → k < k' := by
  have hsorted := (List.pairwise_append.mp h.apply_numbers).1
  have hk : appliesOf (.applied k c d :: after) = k :: appliesOf after := rfl
  rw [htrace, appliesOf, List.filterMap_append, ← appliesOf, ← appliesOf, hk,
    List.pairwise_append, List.pairwise_cons] at hsorted
  obtain ⟨_, ⟨hafter, _⟩, hbefore⟩ := hsorted
  constructor
  · intro k' c' d' hk'
    exact hbefore k' (mem_appliesOf.mpr ⟨c', d', hk'⟩) k List.mem_cons_self
  · intro k' c' d' hk'
    exact hafter k' (mem_appliesOf.mpr ⟨c', d', hk'⟩)

/-- The history, cut at the writes of two cycles. -/
theorem applied_split (h : Chronicle seed w) {k k' : Nat} {c c' : GripperCommand}
    {d d' : dev.State} (hk : .applied k c d ∈ w.trace) (hk' : .applied k' c' d' ∈ w.trace)
    (hlt : k < k') :
    ∃ x y z, w.trace = x ++ .applied k c d :: (y ++ .applied k' c' d' :: z) := by
  obtain ⟨x, rest, hx⟩ := List.append_of_mem hk
  have hlater : .applied k' c' d' ∈ rest := by
    rw [hx, List.mem_append, List.mem_cons] at hk'
    -- the later write stands behind the earlier one, since writes come in cycle order
    rcases hk' with hk' | hk' | hk'
    · exact absurd ((h.applied_order hx).1 k' c' d' hk') (by omega)
    · cases hk'
      exact absurd hlt (Nat.lt_irrefl k)
    · exact hk'
  obtain ⟨y, z, hrest⟩ := List.append_of_mem hlater
  exact ⟨x, y, z, by rw [hx, hrest]⟩

/-- A cycle latches one block. -/
theorem latched_unique (h : Chronicle seed w) {k : Nat} {c c' : GripperCommand}
    (hc : .latched k c ∈ w.trace) (hc' : .latched k c' ∈ w.trace) : c = c' := by
  have hnodup : ((latchesOf w.trace).map Prod.fst).Nodup := by
    rw [h.latch_numbers]
    exact List.nodup_range'
  have := List.inj_on_of_nodup_map hnodup (mem_latchesOf.mpr hc) (mem_latchesOf.mpr hc') rfl
  exact congrArg Prod.snd this

/-- A cycle that failed did not succeed. -/
theorem not_succeeded_of_failed (h : Chronicle seed w) {k : Nat}
    (hfailed : .failed k ∈ w.trace) : ∀ s ∈ successesOf w.trace, s.cycle ≠ k := by
  intro s hs hrun
  subst hrun
  have hnodup : ((outcomesOf w.trace).map Prod.fst).Nodup := by
    rw [h.outcome_numbers]
    exact List.nodup_range'
  have hf : (s.cycle, false) ∈ outcomesOf w.trace :=
    List.mem_filterMap.mpr ⟨_, hfailed, rfl⟩
  have ht : (s.cycle, true) ∈ outcomesOf w.trace :=
    List.mem_filterMap.mpr ⟨_, mem_successesOf.mp hs, rfl⟩
  have := List.inj_on_of_nodup_map hnodup hf ht rfl
  cases this

end Chronicle

theorem getElem?_recordsOf (successes : List Success) (n : Nat) :
    (recordsOf successes)[n]? = successes[n]?.map fun s =>
      (s.cycle, ProcessImage.recordOf n s.command s.status s.completedAt) := by
  rw [recordsOf, List.getElem?_mapIdx]

/-- `r` is the record of the exchange that its count names: the seed for 0, and
    for `n + 1` the block, the answer and the instant of the `n + 1`-th success. -/
def Names (seed : StampedExchange) (trace : List (Event dev)) (r : StampedExchange) : Prop :=
  match r.count with
  | 0 => r = seed
  | n + 1 => ∃ s, (successesOf trace)[n]? = some s ∧ Backed trace s ∧
      r = ProcessImage.recordOf n s.command s.status s.completedAt

namespace Chronicle

/-- The `n`-th record published is the one of the `n`-th success. -/
theorem published_eq (h : Chronicle seed w) {n k : Nat} {r : StampedExchange}
    (hn : (publishedOf w.trace)[n]? = some (k, r)) :
    ∃ s, (successesOf w.trace)[n]? = some s ∧ k = s.cycle ∧
      r = ProcessImage.recordOf n s.command s.status s.completedAt := by
  have hlt : n < (publishedOf w.trace).length := List.getElem?_eq_some_iff.mp hn |>.1
  have hrec : (recordsOf (successesOf w.trace))[n]? = some (k, r) := by
    rw [h.records, List.getElem?_append_left hlt, hn]
  rw [getElem?_recordsOf, Option.map_eq_some_iff] at hrec
  obtain ⟨s, hs, heq⟩ := hrec
  cases heq
  exact ⟨s, hs, rfl, rfl⟩

theorem names_published (h : Chronicle seed w) {n k : Nat} {r : StampedExchange}
    (hn : (publishedOf w.trace)[n]? = some (k, r)) : Names seed w.trace r := by
  obtain ⟨s, hs, _, rfl⟩ := h.published_eq hn
  exact ⟨s, hs, h.succeeded s (List.mem_of_getElem? hs), rfl⟩

/-- The record in the image is the last published, or the seed before the first. -/
theorem stamped_cases (h : Chronicle seed w) :
    (w.image.stamped.count = 0 ∧ w.image.stamped = seed) ∨
    ∃ n k, w.image.stamped.count = n + 1 ∧ (publishedOf w.trace)[n]? = some (k, w.image.stamped) := by
  have hstamped := h.stamped
  have hcount := h.counted
  cases hl : (publishedOf w.trace).getLast? with
  | none =>
    rw [List.getLast?_eq_none_iff] at hl
    rw [hl] at hstamped hcount
    exact .inl ⟨hcount, hstamped⟩
  | some p =>
    obtain ⟨l, hl⟩ := List.getLast?_eq_some_iff.mp hl
    rw [hl, List.map_append, List.map_singleton, List.getLastD_concat] at hstamped
    rw [hl, List.length_append, List.length_singleton] at hcount
    refine .inr ⟨l.length, p.1, hcount, ?_⟩
    rw [hl, List.getElem?_concat_length, hstamped]

/-- **The record in the image is the one its count names.** -/
theorem names_stamped (h : Chronicle seed w) : Names seed w.trace w.image.stamped := by
  rcases h.stamped_cases with ⟨hcount, heq⟩ | ⟨n, k, _, hn⟩
  · rw [Names, hcount]
    exact heq
  · exact h.names_published hn

end Chronicle

/-! ## Between two points of a run -/

/-- Numbers that go on where others stopped are larger. -/
theorem lt_of_range'_append {m n k : Nat} {ks : List Nat}
    (h : List.range' 1 m ++ ks = List.range' 1 n) (hk : k ∈ ks) : m < k := by
  obtain ⟨i, _, hm, hks⟩ := List.range'_eq_append_iff.mp h.symm
  have hlength := congrArg List.length hm
  simp only [List.length_range'] at hlength
  rw [hks, List.mem_range'_1] at hk
  omega

theorem cycles_sublist (trace : List (Event dev)) :
    ((successesOf trace).map Success.cycle).Sublist ((outcomesOf trace).map Prod.fst) := by
  induction trace using List.reverseRecOn with
  | nil => exact List.nil_sublist _
  | append_singleton trace e ih =>
    cases e with
    | completed k c st t => simpa [Event.success?, Event.outcome?] using ih
    | failed k => simpa [Event.success?, Event.outcome?] using ih.trans (List.sublist_append_left _ _)
    | _ => simpa [Event.success?, Event.outcome?] using ih

namespace Chronicle

/-- A record published has the count of its place. -/
theorem count_published (h : Chronicle seed w) {k : Nat} {r : StampedExchange}
    (hr : .published k r ∈ w.trace) : 0 < r.count ∧ r.count ≤ w.image.stamped.count := by
  obtain ⟨n, hn⟩ := List.getElem?_of_mem (mem_publishedOf.mpr hr)
  obtain ⟨s, _, _, rfl⟩ := h.published_eq hn
  have := (List.getElem?_eq_some_iff.mp hn).1
  rw [ProcessImage.recordOf_count, h.counted]
  omega

/-- Exchanges succeed in the order of their cycles. -/
theorem successes_sorted (h : Chronicle seed w) :
    ((successesOf w.trace).map Success.cycle).Pairwise (· < ·) := by
  have hsub := cycles_sublist w.trace
  rw [h.outcome_numbers] at hsub
  exact (List.pairwise_lt_range').sublist hsub

theorem success_lt (h : Chronicle seed w) {i n : Nat} {s s' : Success}
    (hi : (successesOf w.trace)[i]? = some s) (hn : (successesOf w.trace)[n]? = some s')
    (hlt : i < n) : s.cycle < s'.cycle := by
  obtain ⟨hilt, hi⟩ := List.getElem?_eq_some_iff.mp hi
  obtain ⟨hnlt, hn⟩ := List.getElem?_eq_some_iff.mp hn
  have := List.pairwise_iff_getElem.mp h.successes_sorted i n (by simpa using hilt)
    (by simpa using hnlt) hlt
  rwa [List.getElem_map, List.getElem_map, hi, hn] at this

/-- Records are published in the order of their cycles. -/
theorem published_sorted (h : Chronicle seed w) :
    ((publishedOf w.trace).map Prod.fst).Pairwise (· < ·) := by
  have hsuccesses := h.successes_sorted
  have hrec : (recordsOf (successesOf w.trace)).map Prod.fst
      = (successesOf w.trace).map Success.cycle := by
    apply List.ext_getElem?
    intro n
    rw [List.getElem?_map, List.getElem?_map, getElem?_recordsOf, Option.map_map]
    rfl
  rw [← hrec, h.records, List.map_append, List.pairwise_append] at hsuccesses
  exact hsuccesses.1

theorem published_mono (h : Chronicle seed w) {i n k k' : Nat} {r r' : StampedExchange}
    (hi : (publishedOf w.trace)[i]? = some (k, r)) (hn : (publishedOf w.trace)[n]? = some (k', r'))
    (hle : i ≤ n) : k ≤ k' := by
  obtain ⟨hilt, hi⟩ := List.getElem?_eq_some_iff.mp hi
  obtain ⟨hnlt, hn⟩ := List.getElem?_eq_some_iff.mp hn
  rcases Nat.lt_or_eq_of_le hle with hlt | rfl
  · have := List.pairwise_iff_getElem.mp h.published_sorted i n (by simpa using hilt)
      (by simpa using hnlt) hlt
    rw [List.getElem_map, List.getElem_map, hi, hn] at this
    exact this.le
  · rw [hi] at hn
    cases hn
    exact le_rfl

/-- The record in the image is of the latest cycle that was published. -/
theorem stamped_latest (h : Chronicle seed w) {k : Nat} {r : StampedExchange}
    (hr : .published k r ∈ w.trace) :
    ∃ k', k ≤ k' ∧ .latched k' w.image.stamped.command ∈ w.trace := by
  obtain ⟨i, hi⟩ := List.getElem?_of_mem (mem_publishedOf.mpr hr)
  have hilt := (List.getElem?_eq_some_iff.mp hi).1
  rcases h.stamped_cases with ⟨hzero, _⟩ | ⟨n, k', hcount, hn⟩
  · rw [h.counted] at hzero
    omega
  rw [h.counted] at hcount
  have hle := h.published_mono hi hn (by omega)
  obtain ⟨s, hs, rfl, hstamped⟩ := h.published_eq hn
  rw [hstamped]
  exact ⟨s.cycle, hle, (h.succeeded s (List.mem_of_getElem? hs)).1⟩

variable {seed' : StampedExchange} {w₀ : World dev}

/-- A cycle that latches after a given point has a higher number than all before. -/
theorem latched_since (h₀ : Chronicle seed w₀) (h : Chronicle seed' w) {after : List (Event dev)}
    (htrace : w.trace = w₀.trace ++ after) {k : Nat} {c : GripperCommand}
    (hk : .latched k c ∈ after) : w₀.cycles < k := by
  have hnumbers := h.latch_numbers
  rw [htrace, latchesOf, List.filterMap_append, List.map_append, ← latchesOf, ← latchesOf,
    h₀.latch_numbers] at hnumbers
  exact lt_of_range'_append hnumbers (List.mem_map_of_mem (f := Prod.fst) (mem_latchesOf.mpr hk))

/-- The block of a cycle that latched after a given point is applied after it. -/
theorem applied_since (h₀ : Chronicle seed w₀) {before after : List (Event dev)} {k : Nat}
    {c : GripperCommand} {d : dev.State} (htrace : w.trace = before ++ .applied k c d :: after)
    (hgrows : w₀.trace <+: w.trace) (hlate : w₀.cycles < k) : w₀.trace <+: before := by
  -- the write is not in the earlier history, so that history ends before it
  have hnew : .applied k c d ∉ w₀.trace :=
    fun hk => absurd (h₀.applied_bounds hk).2 (by omega)
  have hupto : before ++ [.applied k c d] <+: w.trace :=
    ⟨after, by rw [htrace, List.append_assoc, List.singleton_append]⟩
  rcases List.prefix_or_prefix_of_prefix hgrows hupto with h | h
  · rcases List.prefix_concat_iff.mp h with h | h
    · exact absurd (by rw [h]; simp) hnew
    · exact h
  · exact absurd (h.subset (by simp)) hnew

/-- A cycle that succeeds after a given point had come to no outcome there. -/
theorem succeeded_since (h₀ : Chronicle seed w₀) (h : Chronicle seed' w)
    {after : List (Event dev)} (htrace : w.trace = w₀.trace ++ after) {s : Success}
    (hs : s ∈ successesOf after) : w₀.decided < s.cycle := by
  have hnumbers := h.outcome_numbers
  rw [htrace, outcomesOf, List.filterMap_append, List.map_append, ← outcomesOf, ← outcomesOf,
    h₀.outcome_numbers] at hnumbers
  exact lt_of_range'_append hnumbers
    ((cycles_sublist after).subset (List.mem_map_of_mem (f := Success.cycle) hs))

/-- Of two records that the image held one after the other, the later is of the
    later cycle. -/
theorem cycle_lt {L : Label → Prop} (h : Chronicle seed w)
    (hrun : (gripperSystem dev).Within L w₀ w) {n n' : Nat} {s s' : Success}
    (hs : (successesOf w₀.trace)[n]? = some s) (hs' : (successesOf w.trace)[n']? = some s')
    (hlt : n < n') : s.cycle < s'.cycle :=
  h.success_lt (successes_grow hrun hs) hs' hlt

/-- The success in hand is the last, and of the cycle under way. -/
theorem pending_success (h : Chronicle seed w) {n : Nat} {s : Success}
    (hs : (successesOf w.trace)[n]? = some s) (hn : w.image.stamped.count ≤ n) :
    s.cycle = w.cycles ∧ w.pc.carries = some s.command := by
  have hrec : (recordsOf (successesOf w.trace))[n]? =
      some (s.cycle, ProcessImage.recordOf n s.command s.status s.completedAt) := by
    rw [getElem?_recordsOf, hs]
    rfl
  -- a success that is not published yet is the record in hand
  rw [h.records, List.getElem?_append_right (h.counted ▸ hn)] at hrec
  have hmem := List.mem_of_getElem? hrec
  simp only [World.pendingRecord, List.mem_map, Option.mem_toList] at hmem
  obtain ⟨⟨c, st, t⟩, hpc, heq⟩ := hmem
  have hcommand := congrArg (fun p : Nat × StampedExchange => p.2.command) heq
  refine ⟨(congrArg Prod.fst heq).symm, ?_⟩
  rw [ExchangePc.carries_of_unpublished hpc]
  exact congrArg some hcommand

/-- **The cycle behind a new record**: a record published after a given point is
    of a cycle that had not come to its end there, and of the block that cycle
    carried if it was under way. -/
theorem cycle_since {L : Label → Prop} (h₀ : Chronicle seed w₀)
    (hrun : (gripperSystem dev).Within L w₀ w)
    (hnew : w₀.image.stamped.count < w.image.stamped.count) :
    ∃ s, (successesOf w.trace)[w.image.stamped.count - 1]? = some s ∧ Backed w.trace s ∧
      w.image.stamped = ProcessImage.recordOf (w.image.stamped.count - 1) s.command s.status
        s.completedAt ∧
      w₀.cycles ≤ s.cycle ∧ (s.cycle = w₀.cycles → w₀.pc.carries = some s.command) := by
  have h := h₀.along hrun
  obtain ⟨after, htrace⟩ := trace_grows_within hrun
  have hnames := h.names_stamped
  rw [Names] at hnames
  split at hnames
  · next hzero => omega
  next n hcount =>
  obtain ⟨s, hs, hbacked, hstamped⟩ := hnames
  have hn : w.image.stamped.count - 1 = n := by omega
  refine ⟨s, hn ▸ hs, hbacked, hn ▸ hstamped, ?_⟩
  -- the success lies in the history up to `w₀`, or in what has come since
  have hsplit := hs
  rw [← htrace, successesOf, List.filterMap_append, ← successesOf, ← successesOf,
    List.getElem?_append] at hsplit
  split at hsplit
  · -- the success was in hand already
    obtain ⟨hcycle, hcarries⟩ := h₀.pending_success hsplit (by omega)
    exact ⟨hcycle.ge, fun _ => hcarries⟩
  · -- the exchange succeeded since
    have hlt := h₀.succeeded_since h htrace.symm (List.mem_of_getElem? hsplit)
    rw [World.decided] at hlt
    split at hlt
    · -- the cycle under way may have that number, and then it latched the same block
      next hundecided =>
      refine ⟨by omega, fun heq => ?_⟩
      obtain ⟨c, hc⟩ := ExchangePc.exists_carries_of_undecided hundecided
      have hlatched : .latched s.cycle c ∈ w.trace :=
        heq ▸ (trace_grows_within hrun).subset (h₀.carried c hc)
      rw [hc, h.latched_unique hbacked.1 hlatched]
    · exact ⟨by omega, fun heq => by omega⟩

end Chronicle

end chronicle

end GripperDriver

import GripperDriver.Exchange.ProcessImage
import GripperDriver.Framework.System
import Mathlib.Logic.Function.Basic

/-! # The Hosted Condition Variable

    `StdConditionVariable` on top of `std::condition_variable_any`: a count of the
    notifications tells a wake-up that one of them has caused from any other.

    * `next?`: the steps of `waitUntil`, called with the mutex, and of `notifyAll`,
      called without it; any number of threads,
    * `Fine`: what the count says of a thread, in every run,
    * `returns_for_cause`: why `waitUntil` returns,
    * `loses_no_notification`: on which runs no notification is lost.
-/

namespace GripperDriver

open Interleaving

namespace StdConditionVariable

/-! ## Threads -/

/-- A call of `waitUntil` that has read the generation. -/
structure Waiting where
  timePoint : Time
  /-- The generation when the call was entered. -/
  entry : Nat
  /-- The generation that it has read. -/
  generation : Nat
  /-- When it first released the mutex. -/
  released : Option Nat := none
  deriving DecidableEq, Repr

/-- Where a thread stands. -/
inductive Pc where
  | idle
  /-- It holds the mutex, outside `waitUntil`. -/
  | holding
  /-- In `waitUntil`, before the generation is read. -/
  | entered (timePoint : Time) (entry : Nat)
  /-- Before the first half of the loop's test. -/
  | comparing (w : Waiting)
  /-- Before the second half, the read of the clock. -/
  | timing (w : Waiting)
  /-- The test has held: `wait_until` is next. -/
  | checked (w : Waiting)
  /-- Blocked in `wait_until`. -/
  | blocked (w : Waiting)
  /-- Awake, to take the mutex again. -/
  | waking (w : Waiting)
  /-- `waitUntil` has returned, with the mutex. -/
  | returned (timePoint : Time) (entry : Nat)
  /-- In `notifyAll`, which began at the moment `began`. -/
  | notifying (began : Nat)
  /-- The generation is incremented, `notify_all` is next. -/
  | signalling (began : Nat)
  deriving DecidableEq, Repr

/-- What `notify_all` does to a thread. -/
def Pc.notified : Pc → Pc
  | .blocked w => .waking w
  | pc => pc

/-- A `notify_all` is on its way from a thread that stands here. -/
def Pc.notifies : Pc → Bool
  | .notifying _ | .signalling _ => true
  | _ => false

/-- The `notify_all` is next. -/
def Pc.signals : Pc → Bool
  | .signalling _ => true
  | _ => false

/-! ## Steps -/

structure Config (Thread : Type) where
  /-- The increments of `_generation`, a `uint64_t`: it holds the remainder. -/
  generation : Nat := 0
  holder : Option Thread := none
  now : Time := 0
  /-- Orders the beginnings of `notifyAll` and the first releases of the mutex. -/
  moment : Nat := 0
  /-- When each `notifyAll` that has incremented the generation began. -/
  counted : List Nat := []
  /-- When each `notifyAll` that has completed began. -/
  completed : List Nat := []
  pc : Thread → Pc := fun _ => .idle

inductive Label (Thread : Type) where
  | lock (i : Thread)
  | unlock (i : Thread)
  | enter (i : Thread) (timePoint : Time)
  | load (i : Thread)
  | compare (i : Thread)
  | readClock (i : Thread)
  /-- `wait_until` releases the mutex and enters the wait. -/
  | block (i : Thread)
  /-- It wakes with no notification: late, early or for no reason. -/
  | wake (i : Thread)
  | relock (i : Thread)
  | start (i : Thread)
  | increment (i : Thread)
  | signal (i : Thread)
  | tick (t : Time)

/-- The values of a `uint64_t`. -/
def wordSize : Nat := 2 ^ 64

section steps
variable {Thread : Type} [DecidableEq Thread]

/-- The configuration with thread `i` at `pc`. -/
def Config.goto (c : Config Thread) (i : Thread) (pc : Pc) : Config Thread :=
  { c with pc := Function.update c.pc i pc }

/-- The first release of the mutex is noted. -/
def Waiting.release (w : Waiting) (moment : Nat) : Waiting :=
  { w with released := some (w.released.getD moment) }

def next? (c : Config Thread) : Label Thread → Option (Config Thread)
  | .lock i =>
    if c.pc i = .idle ∧ c.holder = none then some { c.goto i .holding with holder := some i }
    else none
  | .unlock i =>
    match c.pc i with
    | .holding | .returned _ _ => some { c.goto i .idle with holder := none }
    | _ => none
  | .enter i timePoint =>
    match c.pc i with
    | .holding | .returned _ _ => some (c.goto i (.entered timePoint c.generation))
    | _ => none
  | .load i =>
    match c.pc i with
    | .entered timePoint entry => some (c.goto i (.comparing ⟨timePoint, entry, c.generation, none⟩))
    | _ => none
  | .compare i =>
    match c.pc i with
    | .comparing w =>
      if c.generation % wordSize = w.generation % wordSize then some (c.goto i (.timing w))
      else some (c.goto i (.returned w.timePoint w.entry))
    | _ => none
  | .readClock i =>
    match c.pc i with
    | .timing w =>
      if c.now < w.timePoint then some (c.goto i (.checked w))
      else some (c.goto i (.returned w.timePoint w.entry))
    | _ => none
  | .block i =>
    match c.pc i with
    | .checked w =>
      some { c.goto i (.blocked (w.release c.moment)) with
        holder := none, moment := c.moment + 1 }
    | _ => none
  | .wake i =>
    match c.pc i with
    | .blocked w => some (c.goto i (.waking w))
    | _ => none
  | .relock i =>
    match c.pc i with
    | .waking w =>
      if c.holder = none then some { c.goto i (.comparing w) with holder := some i } else none
    | _ => none
  | .start i =>
    match c.pc i with
    | .idle => some { c.goto i (.notifying c.moment) with moment := c.moment + 1 }
    | _ => none
  | .increment i =>
    match c.pc i with
    | .notifying began =>
      some { c.goto i (.signalling began) with
        generation := c.generation + 1, counted := began :: c.counted }
    | _ => none
  | .signal i =>
    match c.pc i with
    | .signalling began =>
      some { c with
        pc := Function.update (fun j => (c.pc j).notified) i .idle
        completed := began :: c.completed }
    | _ => none
  | .tick t => if c.now ≤ t then some { c with now := t } else none

/-- Any number of threads, none of them in a call at first. -/
def system (Thread : Type) [DecidableEq Thread] : System (Config Thread) (Label Thread) where
  init c := ∃ now, c = { now := now }
  next? := next?

/-! ### What a step can do -/

inductive Move (c : Config Thread) : Label Thread → Config Thread → Prop where
  | lock (i : Thread) (hpc : c.pc i = .idle) (hfree : c.holder = none) :
      Move c (.lock i) { c.goto i .holding with holder := some i }
  | unlock (i : Thread) (hsignals : (c.pc i).signals = false) :
      Move c (.unlock i) { c.goto i .idle with holder := none }
  | enter (i : Thread) (timePoint : Time) (hsignals : (c.pc i).signals = false) :
      Move c (.enter i timePoint) (c.goto i (.entered timePoint c.generation))
  | load (i : Thread) (timePoint : Time) (entry : Nat) (hpc : c.pc i = .entered timePoint entry) :
      Move c (.load i) (c.goto i (.comparing ⟨timePoint, entry, c.generation, none⟩))
  | compareSame (i : Thread) (w : Waiting) (hpc : c.pc i = .comparing w)
      (hsame : c.generation % wordSize = w.generation % wordSize) :
      Move c (.compare i) (c.goto i (.timing w))
  | compareDone (i : Thread) (w : Waiting) (hpc : c.pc i = .comparing w)
      (hother : c.generation % wordSize ≠ w.generation % wordSize) :
      Move c (.compare i) (c.goto i (.returned w.timePoint w.entry))
  | timeLeft (i : Thread) (w : Waiting) (hpc : c.pc i = .timing w) (hlt : c.now < w.timePoint) :
      Move c (.readClock i) (c.goto i (.checked w))
  | timeUp (i : Thread) (w : Waiting) (hpc : c.pc i = .timing w) (hle : w.timePoint ≤ c.now) :
      Move c (.readClock i) (c.goto i (.returned w.timePoint w.entry))
  | block (i : Thread) (w : Waiting) (hpc : c.pc i = .checked w) :
      Move c (.block i) { c.goto i (.blocked (w.release c.moment)) with
        holder := none, moment := c.moment + 1 }
  | wake (i : Thread) (w : Waiting) (hpc : c.pc i = .blocked w) :
      Move c (.wake i) (c.goto i (.waking w))
  | relock (i : Thread) (w : Waiting) (hpc : c.pc i = .waking w) (hfree : c.holder = none) :
      Move c (.relock i) { c.goto i (.comparing w) with holder := some i }
  | start (i : Thread) (hpc : c.pc i = .idle) :
      Move c (.start i) { c.goto i (.notifying c.moment) with moment := c.moment + 1 }
  | increment (i : Thread) (began : Nat) (hpc : c.pc i = .notifying began) :
      Move c (.increment i) { c.goto i (.signalling began) with
        generation := c.generation + 1, counted := began :: c.counted }
  | signal (i : Thread) (began : Nat) (hpc : c.pc i = .signalling began) :
      Move c (.signal i) { c with
        pc := Function.update (fun j => (c.pc j).notified) i .idle
        completed := began :: c.completed }
  | tick (t : Time) (hle : c.now ≤ t) : Move c (.tick t) { c with now := t }

variable {c c' : Config Thread} {l : Label Thread} {i j : Thread} {pc : Pc} {w : Waiting}

theorem move_of_step (h : (system Thread).Step c l c') : Move c l c' := by
  cases l
  case compare i =>
    simp only [System.Step, system, next?] at h
    split at h
    · next w hpc =>
      split at h
      · next hsame =>
        cases h
        exact .compareSame i w hpc hsame
      · next hother =>
        cases h
        exact .compareDone i w hpc hother
    · cases h
  case readClock i =>
    simp only [System.Step, system, next?] at h
    split at h
    · next w hpc =>
      split at h
      · next hlt =>
        cases h
        exact .timeLeft i w hpc hlt
      · next hle =>
        cases h
        exact .timeUp i w hpc (not_lt.mp hle)
    · cases h
  case relock i =>
    simp only [System.Step, system, next?] at h
    split at h
    · next w hpc =>
      split at h
      · next hfree =>
        cases h
        exact .relock i w hpc hfree
      · cases h
    · cases h
  case lock i =>
    simp only [System.Step, system, next?] at h
    split at h
    · next hguard =>
      cases h
      exact .lock i hguard.1 hguard.2
    · cases h
  -- both points at which the mutex is held may unlock it and may enter a call
  case unlock i =>
    simp only [System.Step, system, next?] at h
    split at h
    iterate 2
      next hpc =>
        cases h
        exact .unlock i (by rw [hpc]; rfl)
    · cases h
  case enter i timePoint =>
    simp only [System.Step, system, next?] at h
    split at h
    iterate 2
      next hpc =>
        cases h
        exact .enter i timePoint (by rw [hpc]; rfl)
    · cases h
  all_goals
    simp only [System.Step, system, next?] at h
    split at h
    · next hguard =>
      cases h
      constructor
      exact hguard
    · cases h

@[simp] theorem goto_self : (c.goto i pc).pc i = pc := Function.update_self ..

@[simp] theorem goto_of_ne (h : j ≠ i) : (c.goto i pc).pc j = c.pc j := Function.update_of_ne h ..

/-! ## What the count says of a thread -/

section sound
omit [DecidableEq Thread]

/-- Of a call that has read the generation: a `notifyAll` that began once the mutex was
    released is seen in the count from its increment on. -/
structure Called (c : Config Thread) (w : Waiting) : Prop where
  entry : w.entry ≤ w.generation
  loaded : w.generation ≤ c.generation
  released : ∀ r ∈ w.released, r < c.moment
  counted : ∀ r ∈ w.released, ∀ b ∈ c.counted, r < b → w.generation < c.generation

/-- What the shared data says of a thread at a point. -/
def Fine (c : Config Thread) : Pc → Prop
  | .entered _ entry => entry ≤ c.generation
  | .comparing w | .timing w | .checked w | .blocked w | .waking w => Called c w
  | .returned timePoint entry => entry < c.generation ∨ timePoint ≤ c.now
  | .notifying began => began < c.moment
  | .signalling began => began ∈ c.counted
  | _ => True

/-- The invariant of every run. -/
structure Sound (c : Config Thread) : Prop where
  fine : ∀ i, Fine c (c.pc i)
  counted : ∀ b ∈ c.counted, b < c.moment
  completed : ∀ b ∈ c.completed, b ∈ c.counted

/-- How the shared data changes. -/
structure Later (c c' : Config Thread) : Prop where
  generation : c.generation ≤ c'.generation
  now : c.now ≤ c'.now
  moment : c.moment ≤ c'.moment
  kept : ∀ b ∈ c.counted, b ∈ c'.counted
  fresh : ∀ b ∈ c'.counted, b ∈ c.counted ∨ c.generation < c'.generation

theorem Called.later (h : Called c w) (hlater : Later c c') : Called c' w := by
  refine ⟨h.entry, le_trans h.loaded hlater.generation, ?_, ?_⟩
  · intro r hr
    exact lt_of_lt_of_le (h.released r hr) hlater.moment
  · intro r hr b hb hlt
    rcases hlater.fresh b hb with hold | hnew
    · exact lt_of_lt_of_le (h.counted r hr b hold hlt) hlater.generation
    · exact lt_of_le_of_lt h.loaded hnew

theorem Fine.later (h : Fine c pc) (hlater : Later c c') : Fine c' pc := by
  cases pc with
  | entered timePoint entry => exact le_trans h hlater.generation
  | comparing w | timing w | checked w | blocked w | waking w => exact Called.later h hlater
  | returned timePoint entry =>
    exact h.imp (fun hlt => lt_of_lt_of_le hlt hlater.generation) fun hle => le_trans hle hlater.now
  | notifying began => exact lt_of_lt_of_le h hlater.moment
  | signalling began => exact hlater.kept began h
  | _ => trivial

end sound

/-- Every step. -/
theorem later_of_move (h : Move c l c') : Later c c' := by
  cases h with
  | increment i began hpc =>
    -- the only step that counts, and it makes the generation greater
    refine ⟨Nat.le_succ _, le_rfl, le_rfl, fun b hb => List.mem_cons_of_mem _ hb, fun b _ => ?_⟩
    exact .inr (Nat.lt_succ_self _)
  | block i w hpc => exact ⟨le_rfl, le_rfl, Nat.le_succ _, fun _ hb => hb, fun _ hb => .inl hb⟩
  | start i hpc => exact ⟨le_rfl, le_rfl, Nat.le_succ _, fun _ hb => hb, fun _ hb => .inl hb⟩
  | tick t hle => exact ⟨le_rfl, hle, le_rfl, fun _ hb => hb, fun _ hb => .inl hb⟩
  | _ => exact ⟨le_rfl, le_rfl, le_rfl, fun _ hb => hb, fun _ hb => .inl hb⟩

/-- One thread has moved. -/
theorem fine_goto (h : ∀ j, Fine c (c.pc j)) (hlater : Later c c')
    (hmoved : c'.pc = (c.goto i pc).pc) (hi : Fine c' pc) : ∀ j, Fine c' (c'.pc j) := by
  intro j
  rw [hmoved]
  -- the thread that moved, and the others, for which the shared data is only later
  by_cases hj : j = i
  · rw [hj, goto_self]
    exact hi
  · rw [goto_of_ne hj]
    exact (h j).later hlater

omit [DecidableEq Thread] in
theorem fine_at (h : ∀ j, Fine c (c.pc j)) (hpc : c.pc i = pc) : Fine c pc := hpc ▸ h i

omit [DecidableEq Thread] in
/-- The first release is of this moment; a later one changes nothing. -/
theorem Called.release (h : Called c w) (hcounted : ∀ b ∈ c.counted, b < c.moment)
    (hlater : Later c c') (hmoment : c'.moment = c.moment + 1) (hsame : c'.counted = c.counted) :
    Called c' (w.release c.moment) := by
  have hthen := h.later hlater
  -- only the first entry into the wait releases the mutex for the first time
  cases hreleased : w.released with
  | some r =>
    have hw : w.release c.moment = w := by
      cases w
      simp_all [Waiting.release]
    rwa [hw]
  | none =>
    refine ⟨h.entry, hthen.loaded, ?_, ?_⟩
    · intro r hr
      obtain rfl : c.moment = r := by simpa [Waiting.release, hreleased] using hr
      omega
    · intro r hr b hb hlt
      obtain rfl : c.moment = r := by simpa [Waiting.release, hreleased] using hr
      -- what has been counted began before
      exact absurd (hcounted b (hsame ▸ hb)) (not_lt.mpr hlt.le)

/-- **Step lemma**. -/
theorem fine_step (h : Sound c) (hmove : Move c l c') : ∀ i, Fine c' (c'.pc i) := by
  have hlater := later_of_move hmove
  have hfine := h.fine
  cases hmove with
  | lock i hpc hfree => exact fine_goto hfine hlater rfl trivial
  | unlock i hsignals => exact fine_goto hfine hlater rfl trivial
  | enter i timePoint hsignals =>
    have hentry : c.generation ≤ c.generation := le_rfl
    exact fine_goto hfine hlater rfl hentry
  | load i timePoint entry hpc =>
    have hentry : entry ≤ c.generation := fine_at hfine hpc
    exact fine_goto hfine hlater rfl ⟨hentry, le_rfl, by simp, by simp⟩
  | compareSame i w hpc hsame =>
    exact fine_goto hfine hlater rfl ((fine_at hfine hpc).later hlater)
  | compareDone i w hpc hother =>
    have hcalled : Called c w := fine_at hfine hpc
    -- the count is not what the call has read, so it has grown
    have hne : w.generation ≠ c.generation := fun heq => hother (by rw [heq])
    have hlt : w.entry < c.generation :=
      lt_of_le_of_lt hcalled.entry (lt_of_le_of_ne hcalled.loaded hne)
    exact fine_goto hfine hlater rfl (.inl hlt)
  | timeLeft i w hpc hlt => exact fine_goto hfine hlater rfl ((fine_at hfine hpc).later hlater)
  | timeUp i w hpc hle => exact fine_goto hfine hlater rfl (.inr hle)
  | block i w hpc =>
    have hcalled : Called c w := fine_at hfine hpc
    exact fine_goto hfine hlater rfl (hcalled.release h.counted hlater rfl rfl)
  | wake i w hpc => exact fine_goto hfine hlater rfl ((fine_at hfine hpc).later hlater)
  | relock i w hpc hfree => exact fine_goto hfine hlater rfl ((fine_at hfine hpc).later hlater)
  | start i hpc =>
    have hbegan : c.moment < c.moment + 1 := Nat.lt_succ_self _
    exact fine_goto hfine hlater rfl hbegan
  | increment i began hpc =>
    have hcounted : began ∈ began :: c.counted := List.mem_cons_self
    exact fine_goto hfine hlater rfl hcounted
  | signal i began hpc =>
    intro j
    show Fine _ (Function.update (fun j => (c.pc j).notified) i .idle j)
    by_cases hj : j = i
    · rw [hj, Function.update_self]
      trivial
    · rw [Function.update_of_ne hj]
      have hthen := (hfine j).later hlater
      -- being woken says nothing that was not known of a blocked waiter
      cases hpcj : c.pc j <;> rw [hpcj] at hthen <;> exact hthen
  | tick t hle => exact fun j => (hfine j).later hlater

theorem sound_step (h : Sound c) (hmove : Move c l c') : Sound c' := by
  refine ⟨fine_step h hmove, ?_, ?_⟩
  · -- a `notifyAll` begins at the moment that is then over
    have hlater := later_of_move hmove
    have hbefore : ∀ b ∈ c.counted, b < c'.moment :=
      fun b hb => lt_of_lt_of_le (h.counted b hb) hlater.moment
    cases hmove with
    | increment i began hpc =>
      intro b hb
      rcases List.mem_cons.mp hb with rfl | hold
      · exact fine_at h.fine hpc
      · exact hbefore b hold
    | _ => exact hbefore
  · cases hmove with
    | increment i began hpc => exact fun b hb => List.mem_cons_of_mem _ (h.completed b hb)
    | signal i began hpc =>
      intro b hb
      rcases List.mem_cons.mp hb with rfl | hold
      · exact fine_at h.fine hpc
      · exact h.completed b hold
    | _ => exact h.completed

/-- **Run lemma**. -/
theorem sound_of_reachable (h : (system Thread).Reachable c) : Sound c := by
  refine h.invariant ?_ ?_
  · intro c hinit
    obtain ⟨now, rfl⟩ := hinit
    exact ⟨fun _ => trivial, fun b hb => absurd hb List.not_mem_nil,
      fun b hb => absurd hb List.not_mem_nil⟩
  · exact fun c l c' _ hc hstep => sound_step hc (move_of_step hstep)

/-- `waitUntil` returns only because a `notifyAll` has incremented the generation since it
    was entered, or because the deadline has passed. -/
theorem returns_for_cause (h : (system Thread).Reachable c) {timePoint : Time} {entry : Nat}
    (hreturned : c.pc i = .returned timePoint entry) :
    entry < c.generation ∨ timePoint ≤ c.now :=
  fine_at (sound_of_reachable h).fine hreturned

/-! ## Lost notifications -/

/-- A `notifyAll` that began once `i` had released the mutex in its call has completed, and
    yet `i` is blocked, with no notification on its way. -/
def Lost (c : Config Thread) (i : Thread) : Prop :=
  ∃ w r b, c.pc i = .blocked w ∧ w.released = some r ∧ b ∈ c.completed ∧ r < b ∧
    ∀ j, (c.pc j).notifies = false

/-- The order of steps that loses nothing. A waiter that has been in the wait is not
    overtaken between its comparison and the wait by a whole increment and `notify_all`,
    and the generation has not come round to the value that it has read. -/
def InTime (c : Config Thread) : Label Thread → Prop
  | .signal _ => ∀ i w, c.pc i = .timing w ∨ c.pc i = .checked w → w.released ≠ none →
      w.generation = c.generation
  | .compare i => ∀ w, c.pc i = .comparing w →
      c.generation % wordSize = w.generation % wordSize → c.generation = w.generation
  | _ => True

/-- A `notifyAll` that began after the release has completed only if another is still to
    signal. -/
def Heard (c : Config Thread) (w : Waiting) : Prop :=
  ∀ r ∈ w.released, ∀ b ∈ c.completed, r < b → ∃ j, (c.pc j).signals = true

/-- From its comparison on, until it wakes, a waiter has missed nothing. -/
def Told (c : Config Thread) : Pc → Prop
  | .timing w | .checked w | .blocked w => Heard c w
  | _ => True

omit [DecidableEq Thread] in
theorem Told.kept (h : Told c pc) (hcompleted : c'.completed = c.completed)
    (hsignals : (∃ j, (c.pc j).signals = true) → ∃ j, (c'.pc j).signals = true) :
    Told c' pc := by
  cases pc with
  | timing w | checked w | blocked w =>
    exact fun r hr b hb hlt => hsignals (h r hr b (hcompleted ▸ hb) hlt)
  | _ => trivial

theorem told_goto (h : ∀ j, Told c (c.pc j)) (hmoved : c'.pc = (c.goto i pc).pc)
    (hcompleted : c'.completed = c.completed) (hi : (c.pc i).signals = false)
    (hpc : Told c pc) : ∀ j, Told c' (c'.pc j) := by
  have hsignals : (∃ j, (c.pc j).signals = true) → ∃ j, (c'.pc j).signals = true := by
    intro hsome
    obtain ⟨j, hj⟩ := hsome
    have hne : j ≠ i := by
      intro heq
      rw [heq, hi] at hj
      cases hj
    exact ⟨j, by rw [hmoved, goto_of_ne hne]; exact hj⟩
  intro j
  rw [hmoved]
  by_cases hj : j = i
  · rw [hj, goto_self]
    exact hpc.kept hcompleted hsignals
  · rw [goto_of_ne hj]
    exact (h j).kept hcompleted hsignals

omit [DecidableEq Thread] in
/-- A waiter that has read the newest generation has released the mutex after all that has
    been counted. -/
theorem Called.newest (h : Called c w) (hsame : w.generation = c.generation) {r b : Nat}
    (hr : r ∈ w.released) (hb : b ∈ c.counted) : ¬ r < b := by
  intro hlt
  have := h.counted r hr b hb hlt
  omega

/-- **Step lemma**, where the step is in time. -/
theorem told_step (h : Sound c) (htold : ∀ i, Told c (c.pc i)) (htime : InTime c l)
    (hmove : Move c l c') : ∀ i, Told c' (c'.pc i) := by
  cases hmove with
  | lock i hpc hfree => exact told_goto htold rfl rfl (by rw [hpc]; rfl) trivial
  | unlock i hsignals => exact told_goto htold rfl rfl hsignals trivial
  | enter i timePoint hsignals => exact told_goto htold rfl rfl hsignals trivial
  | load i timePoint entry hpc => exact told_goto htold rfl rfl (by rw [hpc]; rfl) trivial
  | compareSame i w hpc hsame =>
    have hcalled : Called c w := fine_at h.fine hpc
    -- what it has just compared with is the newest generation
    have hnewest : Heard c w := by
      intro r hr b hb hlt
      exact absurd hlt (hcalled.newest (htime w hpc hsame).symm hr (h.completed b hb))
    exact told_goto htold rfl rfl (by rw [hpc]; rfl) hnewest
  | compareDone i w hpc hother => exact told_goto htold rfl rfl (by rw [hpc]; rfl) trivial
  | timeLeft i w hpc hlt =>
    -- nothing is counted between the comparison and the wait
    have hheard : Heard c w := by simpa [hpc, Told] using htold i
    exact told_goto htold rfl rfl (by rw [hpc]; rfl) hheard
  | timeUp i w hpc hle => exact told_goto htold rfl rfl (by rw [hpc]; rfl) trivial
  | block i w hpc =>
    have hheard : Heard c w := by simpa [hpc, Told] using htold i
    have hreleased : Heard c (w.release c.moment) := by
      intro r hr b hb hlt
      cases hbefore : w.released with
      | some r' =>
        obtain rfl : r' = r := by simpa [Waiting.release, hbefore] using hr
        exact hheard r' (by rw [hbefore]; rfl) b hb hlt
      | none =>
        -- no `notifyAll` that has completed began after this moment
        obtain rfl : c.moment = r := by simpa [Waiting.release, hbefore] using hr
        exact absurd (h.counted b (h.completed b hb)) (not_lt.mpr hlt.le)
    exact told_goto htold rfl rfl (by rw [hpc]; rfl) hreleased
  | wake i w hpc => exact told_goto htold rfl rfl (by rw [hpc]; rfl) trivial
  | relock i w hpc hfree => exact told_goto htold rfl rfl (by rw [hpc]; rfl) trivial
  | start i hpc => exact told_goto htold rfl rfl (by rw [hpc]; rfl) trivial
  | increment i began hpc => exact told_goto htold rfl rfl (by rw [hpc]; rfl) trivial
  | signal i began hpc =>
    have hbegan : began ∈ c.counted := fine_at h.fine hpc
    -- nobody between its comparison and the wait has seen an older generation
    have hheard : ∀ j w, c.pc j = .timing w ∨ c.pc j = .checked w →
        ∀ r ∈ w.released, ∀ b ∈ began :: c.completed, ¬ r < b := by
      intro j w hpcj r hr b hb
      have hcalled : Called c w := hpcj.elim (fun hj => fine_at h.fine hj) fun hj => fine_at h.fine hj
      have hcounted : b ∈ c.counted := by
        rcases List.mem_cons.mp hb with rfl | hold
        · exact hbegan
        · exact h.completed b hold
      refine hcalled.newest (htime j w hpcj ?_) hr hcounted
      rw [Option.mem_def.mp hr]
      exact Option.some_ne_none r
    intro j
    show Told _ (Function.update (fun j => (c.pc j).notified) i .idle j)
    by_cases hj : j = i
    · rw [hj, Function.update_self]
      trivial
    · rw [Function.update_of_ne hj]
      cases hpcj : c.pc j with
      | timing w => exact fun r hr b hb hlt => absurd hlt (hheard j w (.inl hpcj) r hr b hb)
      | checked w => exact fun r hr b hb hlt => absurd hlt (hheard j w (.inr hpcj) r hr b hb)
      | _ => trivial
  | tick t hle => exact fun j => (htold j).kept rfl id

/-- **Run lemma**. -/
theorem told_of_reachable (h : (system Thread).ReachableWhile InTime c) :
    ∀ i, Told c (c.pc i) := by
  refine h.invariant (P := fun c => ∀ i, Told c (c.pc i)) ?_ ?_
  · intro c hinit
    obtain ⟨now, rfl⟩ := hinit
    exact fun _ => trivial
  · intro c l c' hc htold htime hstep
    exact told_step (sound_of_reachable hc) htold htime (move_of_step hstep)

/-- **Every notification is heard**, in a run whose steps are all in time: no waiter is left
    blocked by a `notifyAll` that began after its release and has completed; and `waitUntil`
    returns only for an increment since its entry, or past its deadline. -/
theorem loses_no_notification (h : (system Thread).ReachableWhile InTime c) :
    (∀ i, ¬ Lost c i) ∧ ∀ i timePoint entry, c.pc i = .returned timePoint entry →
      entry < c.generation ∨ timePoint ≤ c.now := by
  refine ⟨?_, fun i timePoint entry hreturned => returns_for_cause h.reachable hreturned⟩
  intro i hlost
  obtain ⟨w, r, b, hblocked, hreleased, hb, hlt, hnone⟩ := hlost
  -- somebody is still to signal, and that is a notification on its way
  have htold := told_of_reachable h i
  rw [hblocked] at htold
  obtain ⟨j, hj⟩ := htold r hreleased b hb hlt
  have hnotifies := hnone j
  cases hpcj : c.pc j <;> simp_all [Pc.signals, Pc.notifies]

end steps

/-- The steps of a first wait, up to the release of the mutex. -/
def firstWait (i : Bool) : List (Label Bool) :=
  [.lock i, .enter i 100, .load i, .compare i, .readClock i, .block i]

/-- A waiter wakes for no reason and compares; a whole `notifyAll` passes before it waits again. -/
theorem overtaken_waiter_is_lost :
    ¬ ∀ c : Config Bool, (system Bool).Reachable c →
      (∀ i, ¬ Lost c i) ∧ ∀ i timePoint entry, c.pc i = .returned timePoint entry →
        entry < c.generation ∨ timePoint ≤ c.now := by
  intro hclaim
  -- wakes, relocks, compares, and then thread `true` notifies before it blocks again
  have hreplay : (system Bool).replay {} (firstWait false ++
      [.wake false, .relock false, .compare false, .readClock false,
        .start true, .increment true, .signal true, .block false]) = some _ := rfl
  have hrun := System.replay_within (L := fun _ => True) (fun _ _ => trivial) hreplay
  have hinit : (system Bool).Reachable {} := .init ⟨0, rfl⟩
  refine (hclaim _ (hinit.within hrun)).1 false
    ⟨_, 0, 1, rfl, rfl, List.mem_cons_self, Nat.zero_lt_one, ?_⟩
  intro j
  cases j <;> rfl

/-- A waiter wakes for no reason and waits again; then a `notifyAll` completes, and it returns. -/
theorem notified_waiter_returns :
    ∃ c : Config Bool, (system Bool).ReachableWhile InTime c ∧
      c.completed = [2] ∧ c.pc false = .returned 100 0 ∧ c.generation = 1 ∧
      (∀ i, ¬ Lost c i) ∧ ∀ i timePoint entry, c.pc i = .returned timePoint entry →
        entry < c.generation ∨ timePoint ≤ c.now := by
  have h₀ : (system Bool).ReachableWhile InTime {} := .init ⟨0, rfl⟩
  have h₁ : (system Bool).ReachableWhile InTime _ := .step (Label.lock false) h₀ trivial rfl
  have h₂ : (system Bool).ReachableWhile InTime _ := .step (Label.enter false 100) h₁ trivial rfl
  have h₃ : (system Bool).ReachableWhile InTime _ := .step (Label.load false) h₂ trivial rfl
  have h₄ : (system Bool).ReachableWhile InTime _ :=
    .step (Label.compare false) h₃ (fun w hpc _ => by cases hpc; rfl) rfl
  have h₅ : (system Bool).ReachableWhile InTime _ := .step (Label.readClock false) h₄ trivial rfl
  have h₆ : (system Bool).ReachableWhile InTime _ := .step (Label.block false) h₅ trivial rfl
  -- no notification has been made, and it goes round once more
  have h₇ : (system Bool).ReachableWhile InTime _ := .step (Label.wake false) h₆ trivial rfl
  have h₈ : (system Bool).ReachableWhile InTime _ := .step (Label.relock false) h₇ trivial rfl
  have h₉ : (system Bool).ReachableWhile InTime _ :=
    .step (Label.compare false) h₈ (fun w hpc _ => by cases hpc; rfl) rfl
  have h₁₀ : (system Bool).ReachableWhile InTime _ := .step (Label.readClock false) h₉ trivial rfl
  have h₁₁ : (system Bool).ReachableWhile InTime _ := .step (Label.block false) h₁₀ trivial rfl
  have h₁₂ : (system Bool).ReachableWhile InTime _ := .step (Label.start true) h₁₁ trivial rfl
  have h₁₃ : (system Bool).ReachableWhile InTime _ := .step (Label.increment true) h₁₂ trivial rfl
  -- nobody stands between a comparison and the wait
  have h₁₄ : (system Bool).ReachableWhile InTime _ :=
    .step (Label.signal true) h₁₃
      (fun i w hpc _ => by cases i <;> rcases hpc with h | h <;> cases h) rfl
  have h₁₅ : (system Bool).ReachableWhile InTime _ := .step (Label.relock false) h₁₄ trivial rfl
  have h₁₆ : (system Bool).ReachableWhile InTime _ :=
    .step (Label.compare false) h₁₅
      (fun w hpc hsame => by cases hpc; exact absurd hsame (by decide)) rfl
  exact ⟨_, h₁₆, rfl, rfl, rfl, loses_no_notification h₁₆⟩

end StdConditionVariable

end GripperDriver

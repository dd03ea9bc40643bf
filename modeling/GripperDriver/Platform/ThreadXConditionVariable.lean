import GripperDriver.Exchange.ProcessImage
import GripperDriver.Framework.System
import GripperDriver.Framework.Tally
import Mathlib.Data.List.Nodup

/-! # The ThreadX Condition Variable

    `ThreadXConditionVariable`: a counting semaphore and a count of the waiters. A
    notification is one token for each waiter that is registered when it is counted.

    * `next?`: the steps of `waitUntil` and `notifyAll` over a semaphore with a queue of
      suspended getters; any number of threads,
    * `Enough`: for the waiters that a `notifyAll` has counted there are tokens, or puts
      that it has still to make,
    * `every_waiter_served`: on which runs no token goes to another waiter.
-/

namespace GripperDriver

open Interleaving

namespace ThreadXConditionVariable

/-! ## Ticks -/

/-- `TX_WAIT_FOREVER`. -/
def txWaitForever : Int := 0xFFFFFFFF

def nanosPerSecond : Int := 1000000000

/-- Ticks to block for, or 0 for "do not block at all". -/
def blockingTicks (ticksPerSecond : Int) (duration : Time) : Int :=
  let maxTicks := txWaitForever - 1
  let maxNanos := maxTicks * nanosPerSecond / ticksPerSecond
  if duration ≤ 0 then 0
  else (min duration maxNanos * ticksPerSecond + nanosPerSecond - 1) / nanosPerSecond

/-! ## Threads -/

/-- Where a thread stands. A registration is known by its number `r`. -/
inductive Pc where
  | idle
  /-- It holds the mutex, outside `waitUntil`. -/
  | holding
  /-- It has added itself to `_waiters`, and holds the mutex. -/
  | registered (timePoint : Time) (r : Nat)
  | unlocked (timePoint : Time) (r : Nat)
  /-- `tx_semaphore_get` is next, with a wait of `ticks`. -/
  | getting (ticks : Int) (r : Nat)
  /-- Blocked in `tx_semaphore_get`. -/
  | suspended (r : Nat)
  /-- `tx_semaphore_get` has returned. -/
  | resumed
  /-- It has taken itself off `_waiters`, and is to take the mutex. -/
  | unregistered
  /-- In `notifyAll`, which counted the waiters when `x` had registered: so many puts to go. -/
  | putting (x : Nat) (pending : Nat)
  deriving DecidableEq, Repr

/-- It has registered among the first `x`, and no token has come to it. -/
def Pc.waitsSince (x : Nat) : Pc → Bool
  | .registered _ r | .unlocked _ r | .getting _ r | .suspended r => r < x
  | _ => false

/-- Counted in `_waiters`. -/
def Pc.counted : Pc → Bool
  | .registered _ _ | .unlocked _ _ | .getting _ _ | .suspended _ | .resumed => true
  | _ => false

def Pc.puts : Pc → Bool
  | .putting _ _ => true
  | _ => false

/-! ## Steps -/

structure Config (Thread : Type) where
  /-- The count of the semaphore. -/
  tokens : Nat := 0
  /-- The suspended getters, in order. -/
  queue : List Thread := []
  /-- `_waiters`. -/
  waiters : Nat := 0
  /-- The owner of the mutex. -/
  holder : Option Thread := none
  now : Time := 0
  /-- The registrations so far. -/
  registrations : Nat := 0
  /-- How many of them the latest count covered, of the `notifyAll`s that have returned. -/
  latest : Nat := 0
  pc : Thread → Pc := fun _ => .idle

inductive Label (Thread : Type) where
  | lock (i : Thread)
  | unlock (i : Thread)
  /-- `waitUntil` is called, and adds to `_waiters`. -/
  | register (i : Thread) (timePoint : Time)
  | release (i : Thread)
  | readClock (i : Thread)
  | get (i : Thread)
  /-- The wait of a suspended getter is over. Nothing here depends on when. -/
  | timeOut (i : Thread)
  | unregister (i : Thread)
  | relock (i : Thread)
  /-- `notifyAll` is called, and reads `_waiters`. -/
  | count (i : Thread)
  | put (i : Thread)
  /-- The loop of `notifyAll` ends. -/
  | finish (i : Thread)
  | tick (t : Time)

section steps
variable {Thread : Type} [DecidableEq Thread]

/-- The configuration with thread `i` at `pc`. -/
def Config.goto (c : Config Thread) (i : Thread) (pc : Pc) : Config Thread :=
  { c with pc := Function.update c.pc i pc }

/-- `tx_semaphore_put`. -/
def Config.semaphorePut (c : Config Thread) : Config Thread :=
  match c.queue with
  | [] => { c with tokens := c.tokens + 1 }
  | getter :: rest => { c.goto getter .resumed with queue := rest }

/-- `tx_semaphore_get`, up to its return or to where it suspends. -/
def Config.semaphoreGet (c : Config Thread) (i : Thread) (ticks : Int) (r : Nat) : Config Thread :=
  if 0 < c.tokens then { c.goto i .resumed with tokens := c.tokens - 1 }
  else if ticks = 0 then c.goto i .resumed
  else { c.goto i (.suspended r) with queue := c.queue ++ [i] }

def next? (ticksPerSecond : Int) (c : Config Thread) : Label Thread → Option (Config Thread)
  | .lock i =>
    if c.pc i = .idle ∧ c.holder = none then some { c.goto i .holding with holder := some i }
    else none
  | .unlock i =>
    match c.pc i with
    | .holding => some { c.goto i .idle with holder := none }
    | _ => none
  | .register i timePoint =>
    match c.pc i with
    | .holding =>
      some { c.goto i (.registered timePoint c.registrations) with
        waiters := c.waiters + 1, registrations := c.registrations + 1 }
    | _ => none
  | .release i =>
    match c.pc i with
    | .registered timePoint r => some { c.goto i (.unlocked timePoint r) with holder := none }
    | _ => none
  | .readClock i =>
    match c.pc i with
    | .unlocked timePoint r =>
      some (c.goto i (.getting (blockingTicks ticksPerSecond (timePoint - c.now)) r))
    | _ => none
  | .get i =>
    match c.pc i with
    | .getting ticks r => some (c.semaphoreGet i ticks r)
    | _ => none
  | .timeOut i =>
    match c.pc i with
    | .suspended _ => some { c.goto i .resumed with queue := c.queue.erase i }
    | _ => none
  | .unregister i =>
    match c.pc i with
    | .resumed => some { c.goto i .unregistered with waiters := c.waiters - 1 }
    | _ => none
  | .relock i =>
    if c.pc i = .unregistered ∧ c.holder = none then
      some { c.goto i .holding with holder := some i }
    else none
  | .count i =>
    match c.pc i with
    | .idle => some (c.goto i (.putting c.registrations c.waiters))
    | _ => none
  | .put i =>
    match c.pc i with
    | .putting x (pending + 1) => some (c.semaphorePut.goto i (.putting x pending))
    | _ => none
  | .finish i =>
    match c.pc i with
    | .putting x 0 => some { c.goto i .idle with latest := max c.latest x }
    | _ => none
  | .tick t => if c.now ≤ t then some { c with now := t } else none

/-- Any number of threads, none of them in a call at first. -/
def system (Thread : Type) [DecidableEq Thread] (ticksPerSecond : Int) :
    System (Config Thread) (Label Thread) where
  init c := ∃ now, c = { now := now }
  next? := next? ticksPerSecond

/-! ### What a step can do -/

inductive Move (ticksPerSecond : Int) (c : Config Thread) : Label Thread → Config Thread → Prop where
  | lock (i : Thread) (hpc : c.pc i = .idle) (hfree : c.holder = none) :
      Move ticksPerSecond c (.lock i) { c.goto i .holding with holder := some i }
  | unlock (i : Thread) (hpc : c.pc i = .holding) :
      Move ticksPerSecond c (.unlock i) { c.goto i .idle with holder := none }
  | register (i : Thread) (timePoint : Time) (hpc : c.pc i = .holding) :
      Move ticksPerSecond c (.register i timePoint)
        { c.goto i (.registered timePoint c.registrations) with
          waiters := c.waiters + 1, registrations := c.registrations + 1 }
  | release (i : Thread) (timePoint : Time) (r : Nat) (hpc : c.pc i = .registered timePoint r) :
      Move ticksPerSecond c (.release i) { c.goto i (.unlocked timePoint r) with holder := none }
  | readClock (i : Thread) (timePoint : Time) (r : Nat) (hpc : c.pc i = .unlocked timePoint r) :
      Move ticksPerSecond c (.readClock i)
        (c.goto i (.getting (blockingTicks ticksPerSecond (timePoint - c.now)) r))
  | take (i : Thread) (ticks : Int) (r : Nat) (hpc : c.pc i = .getting ticks r)
      (htokens : 0 < c.tokens) :
      Move ticksPerSecond c (.get i) { c.goto i .resumed with tokens := c.tokens - 1 }
  | noWait (i : Thread) (r : Nat) (hpc : c.pc i = .getting 0 r) (htokens : c.tokens = 0) :
      Move ticksPerSecond c (.get i) (c.goto i .resumed)
  | suspend (i : Thread) (ticks : Int) (r : Nat) (hpc : c.pc i = .getting ticks r)
      (htokens : c.tokens = 0) :
      Move ticksPerSecond c (.get i) { c.goto i (.suspended r) with queue := c.queue ++ [i] }
  | timeOut (i : Thread) (r : Nat) (hpc : c.pc i = .suspended r) :
      Move ticksPerSecond c (.timeOut i) { c.goto i .resumed with queue := c.queue.erase i }
  | unregister (i : Thread) (hpc : c.pc i = .resumed) :
      Move ticksPerSecond c (.unregister i)
        { c.goto i .unregistered with waiters := c.waiters - 1 }
  | relock (i : Thread) (hpc : c.pc i = .unregistered) (hfree : c.holder = none) :
      Move ticksPerSecond c (.relock i) { c.goto i .holding with holder := some i }
  | count (i : Thread) (hpc : c.pc i = .idle) :
      Move ticksPerSecond c (.count i) (c.goto i (.putting c.registrations c.waiters))
  | putToken (i : Thread) (x pending : Nat) (hpc : c.pc i = .putting x (pending + 1))
      (hqueue : c.queue = []) :
      Move ticksPerSecond c (.put i)
        ({ c with tokens := c.tokens + 1 }.goto i (.putting x pending))
  | putResumes (i : Thread) (x pending : Nat) (getter : Thread) (rest : List Thread)
      (hpc : c.pc i = .putting x (pending + 1)) (hqueue : c.queue = getter :: rest) :
      Move ticksPerSecond c (.put i)
        ({ c.goto getter .resumed with queue := rest }.goto i (.putting x pending))
  | finish (i : Thread) (x : Nat) (hpc : c.pc i = .putting x 0) :
      Move ticksPerSecond c (.finish i) { c.goto i .idle with latest := max c.latest x }
  | tick (t : Time) (hle : c.now ≤ t) : Move ticksPerSecond c (.tick t) { c with now := t }

variable {ticksPerSecond : Int} {c c' : Config Thread} {l : Label Thread} {i j : Thread} {p : Pc}

theorem move_of_step (h : (system Thread ticksPerSecond).Step c l c') :
    Move ticksPerSecond c l c' := by
  cases l
  case lock i | relock i =>
    simp only [System.Step, system, next?] at h
    split at h
    · next hguard =>
      cases h
      constructor
      · exact hguard.1
      · exact hguard.2
    · cases h
  case get i =>
    simp only [System.Step, system, next?, Config.semaphoreGet] at h
    split at h
    · next ticks r hpc =>
      split at h
      · next htokens =>
        cases h
        exact .take i ticks r hpc htokens
      · next htokens =>
        have hnone : c.tokens = 0 := Nat.eq_zero_of_not_pos htokens
        split at h
        · next hticks =>
          cases h
          subst hticks
          exact .noWait i r hpc hnone
        · cases h
          exact .suspend i ticks r hpc hnone
    · cases h
  case put i =>
    simp only [System.Step, system, next?, Config.semaphorePut] at h
    split at h
    · next x pending hpc =>
      cases h
      split
      · next hqueue => exact .putToken i x pending hpc hqueue
      · next getter rest hqueue => exact .putResumes i x pending getter rest hpc hqueue
    · cases h
  all_goals
    simp only [System.Step, system, next?] at h
    split at h
    · next hguard =>
      cases h
      constructor
      exact hguard
    · cases h

@[simp] theorem goto_self : (c.goto i p).pc i = p := Function.update_self ..

@[simp] theorem goto_of_ne (h : j ≠ i) : (c.goto i p).pc j = c.pc j := Function.update_of_ne h ..

end steps

/-! ## The queue and the counts -/

section counts
variable {Thread : Type} [DecidableEq Thread] {ticksPerSecond : Int} {c c' : Config Thread}
  {l : Label Thread} {i j : Thread} {p : Pc}

/-- The queue holds suspended getters, each once. -/
structure Queued (c : Config Thread) : Prop where
  suspended : ∀ i ∈ c.queue, ∃ r, c.pc i = .suspended r
  nodup : c.queue.Nodup

omit [DecidableEq Thread] in
theorem Queued.not_mem (h : Queued c) (hi : ∀ r, c.pc i ≠ .suspended r) : i ∉ c.queue := by
  intro hmem
  obtain ⟨r, hr⟩ := h.suspended i hmem
  exact hi r hr

theorem Queued.goto (h : Queued c) (hi : ∀ r, c.pc i ≠ .suspended r)
    (hmoved : c'.pc = (c.goto i p).pc) (hqueue : c'.queue = c.queue) : Queued c' := by
  refine ⟨?_, hqueue ▸ h.nodup⟩
  intro j hj
  rw [hqueue] at hj
  -- whoever moves is not in the queue
  have hne : j ≠ i := fun heq => h.not_mem hi (heq ▸ hj)
  rw [hmoved, goto_of_ne hne]
  exact h.suspended j hj

/-- Whoever is no longer in the queue may move on. -/
theorem Queued.leave (h : Queued c) {rest : List Thread} (hrest : rest.Sublist c.queue)
    (hi : i ∉ rest) : Queued { c.goto i .resumed with queue := rest } := by
  refine ⟨?_, h.nodup.sublist hrest⟩
  intro j hj
  have hne : j ≠ i := fun heq => hi (heq ▸ hj)
  show ∃ r, (c.goto i .resumed).pc j = .suspended r
  rw [goto_of_ne hne]
  exact h.suspended j (hrest.subset hj)

/-- **Step lemma**. -/
theorem queued_step (h : Queued c) (hmove : Move ticksPerSecond c l c') : Queued c' := by
  cases hmove with
  | suspend i ticks r hpc htokens =>
    -- it was at the semaphore, and not in its queue
    have hnew : i ∉ c.queue := h.not_mem (by simp [hpc])
    refine ⟨?_, List.nodup_append.mpr ⟨h.nodup, List.nodup_singleton i, ?_⟩⟩
    · intro j hj
      show ∃ r, (c.goto i _).pc j = _
      by_cases hji : j = i
      · rw [hji, goto_self]
        exact ⟨r, rfl⟩
      · rw [goto_of_ne hji]
        rcases List.mem_append.mp hj with hold | hlast
        · exact h.suspended j hold
        · exact absurd (List.mem_singleton.mp hlast) hji
    · intro j hj k hk heq
      rw [heq, List.mem_singleton.mp hk] at hj
      exact hnew hj
  | timeOut i r hpc => exact h.leave List.erase_sublist (h.nodup.not_mem_erase)
  | putResumes i x pending getter rest hpc hqueue =>
    -- the getter leaves the front of the queue, and then the notifier moves
    have hnodup := h.nodup
    rw [hqueue, List.nodup_cons] at hnodup
    have hleft : Queued { c.goto getter .resumed with queue := rest } :=
      h.leave (hqueue ▸ List.sublist_cons_self getter rest) hnodup.1
    refine hleft.goto (p := .putting x pending) ?_ rfl rfl
    -- the thread in `notifyAll` is not suspended, before or after
    intro r
    show (c.goto getter .resumed).pc i ≠ _
    by_cases hi : i = getter
    · rw [hi, goto_self]
      nofun
    · rw [goto_of_ne hi, hpc]
      nofun
  | tick t hle => exact ⟨h.suspended, h.nodup⟩
  | lock i hpc hfree => exact h.goto (by simp [hpc]) rfl rfl
  | unlock i hpc => exact h.goto (by simp [hpc]) rfl rfl
  | register i timePoint hpc => exact h.goto (by simp [hpc]) rfl rfl
  | release i timePoint r hpc => exact h.goto (by simp [hpc]) rfl rfl
  | readClock i timePoint r hpc => exact h.goto (by simp [hpc]) rfl rfl
  | take i ticks r hpc htokens => exact h.goto (by simp [hpc]) rfl rfl
  | noWait i r hpc htokens => exact h.goto (by simp [hpc]) rfl rfl
  | unregister i hpc => exact h.goto (by simp [hpc]) rfl rfl
  | relock i hpc hfree => exact h.goto (by simp [hpc]) rfl rfl
  | count i hpc => exact h.goto (by simp [hpc]) rfl rfl
  | putToken i x pending hpc hqueue => exact h.goto (by simp [hpc]) rfl rfl
  | finish i x hpc => exact h.goto (by simp [hpc]) rfl rfl

/-- What has been counted was registered. -/
structure Covered (c : Config Thread) : Prop where
  latest : c.latest ≤ c.registrations
  putting : ∀ i x pending, c.pc i = .putting x pending → x ≤ c.registrations

theorem Covered.goto (h : Covered c) (hmoved : c'.pc = (c.goto i p).pc)
    (hlatest : c'.latest = c.latest) (hregistrations : c.registrations ≤ c'.registrations)
    (hpc : ∀ x pending, p = .putting x pending → x ≤ c.registrations) : Covered c' := by
  refine ⟨hlatest ▸ le_trans h.latest hregistrations, ?_⟩
  intro j x pending hj
  refine le_trans ?_ hregistrations
  rw [hmoved] at hj
  by_cases hji : j = i
  · rw [hji, goto_self] at hj
    exact hpc x pending hj
  · rw [goto_of_ne hji] at hj
    exact h.putting j x pending hj

/-- **Step lemma**. -/
theorem covered_step (h : Covered c) (hmove : Move ticksPerSecond c l c') : Covered c' := by
  cases hmove with
  | register i timePoint hpc => exact h.goto rfl rfl (Nat.le_succ _) (by simp)
  | count i hpc => exact h.goto rfl rfl le_rfl (by simp)
  | putToken i x pending hpc hqueue =>
    exact h.goto rfl rfl le_rfl fun y k heq => by
      cases heq
      exact h.putting i x _ hpc
  | putResumes i x pending getter rest hpc hqueue =>
    have hresumed : Covered { c.goto getter .resumed with queue := rest } :=
      h.goto rfl rfl le_rfl (by simp)
    exact hresumed.goto rfl rfl le_rfl fun y k heq => by
      cases heq
      exact h.putting i x _ hpc
  | finish i x hpc =>
    -- the greatest of the counts that have returned was one that was putting
    have hidle : Covered (c.goto i .idle) := h.goto rfl rfl le_rfl (by simp)
    exact ⟨max_le h.latest (h.putting i x 0 hpc), hidle.putting⟩
  | tick t hle => exact ⟨h.latest, h.putting⟩
  | _ => exact h.goto rfl rfl le_rfl (by simp)

variable [Fintype Thread]

/-- `_waiters` counts the threads that are registered. -/
def Counted (c : Config Thread) : Prop := tally Pc.counted c.pc = c.waiters

theorem Counted.goto (h : Counted c) (hmoved : c'.pc = (c.goto i p).pc)
    (hwaiters : c'.waiters + (c.pc i).counted.toNat = c.waiters + p.counted.toNat) :
    Counted c' := by
  have hstep := tally_update Pc.counted c.pc i p
  unfold Counted at *
  rw [hmoved]
  show tally Pc.counted (Function.update c.pc i p) = _
  omega

/-- **Step lemma**. -/
theorem counted_step (h : Counted c) (hqueue : Queued c) (hmove : Move ticksPerSecond c l c') :
    Counted c' := by
  cases hmove with
  | unregister i hpc =>
    refine h.goto (i := i) (p := .unregistered) rfl ?_
    -- it is registered itself, so that the count does not wrap
    have hpos : 0 < tally Pc.counted c.pc := tally_pos (i := i) (by rw [hpc]; rfl)
    have hcounted : tally Pc.counted c.pc = c.waiters := h
    show c.waiters - 1 + (c.pc i).counted.toNat = c.waiters + 0
    rw [hpc]
    show c.waiters - 1 + 1 = c.waiters + 0
    omega
  | putResumes i x pending getter rest hpc hcons =>
    -- two threads move, one after the other: the getter stays registered
    obtain ⟨r, hr⟩ := hqueue.suspended getter (hcons ▸ List.mem_cons_self)
    have hresumed : Counted { c.goto getter .resumed with queue := rest } :=
      h.goto (i := getter) (p := .resumed) rfl (by rw [hr]; rfl)
    apply hresumed.goto (i := i) (p := .putting x pending) rfl
    have hne : i ≠ getter := fun heq => by
      rw [heq, hr] at hpc
      cases hpc
    show c.waiters + ((c.goto getter .resumed).pc i).counted.toNat = _
    rw [goto_of_ne hne, hpc]
    rfl
  | tick t hle => exact h
  | lock i hpc hfree => exact h.goto (i := i) rfl (by rw [hpc]; rfl)
  | unlock i hpc => exact h.goto (i := i) rfl (by rw [hpc]; rfl)
  | register i timePoint hpc => exact h.goto (i := i) rfl (by rw [hpc]; rfl)
  | release i timePoint r hpc => exact h.goto (i := i) rfl (by rw [hpc]; rfl)
  | readClock i timePoint r hpc => exact h.goto (i := i) rfl (by rw [hpc]; rfl)
  | take i ticks r hpc htokens => exact h.goto (i := i) rfl (by rw [hpc]; rfl)
  | noWait i r hpc htokens => exact h.goto (i := i) rfl (by rw [hpc]; rfl)
  | suspend i ticks r hpc htokens => exact h.goto (i := i) rfl (by rw [hpc]; rfl)
  | timeOut i r hpc => exact h.goto (i := i) rfl (by rw [hpc]; rfl)
  | relock i hpc hfree => exact h.goto (i := i) rfl (by rw [hpc]; rfl)
  | count i hpc => exact h.goto (i := i) rfl (by rw [hpc]; rfl)
  | putToken i x pending hpc hcons => exact h.goto (i := i) rfl (by rw [hpc]; rfl)
  | finish i x hpc => exact h.goto (i := i) rfl (by rw [hpc]; rfl)

/-- The invariant of every run. -/
structure Sound (c : Config Thread) : Prop where
  queued : Queued c
  covered : Covered c
  counted : Counted c

/-- **Run lemma**. -/
theorem sound_of_reachable (h : (system Thread ticksPerSecond).Reachable c) : Sound c := by
  refine h.invariant ?_ ?_
  · intro c hinit
    obtain ⟨now, rfl⟩ := hinit
    refine ⟨⟨fun i hi => absurd hi List.not_mem_nil, List.nodup_nil⟩, ⟨le_rfl, by simp⟩, ?_⟩
    exact tally_eq_zero fun _ => rfl
  · intro c l c' _ hc hstep
    have hmove := move_of_step hstep
    exact ⟨queued_step hc.queued hmove, covered_step hc.covered hmove,
      counted_step hc.counted hc.queued hmove⟩

/-! ## Enough tokens -/

/-- The waiters among the first `x` registrations that no token has come to. -/
def Config.waitsSince (c : Config Thread) (x : Nat) : Nat := tally (Pc.waitsSince x) c.pc

/-- A `notifyAll` that covers the first `x` registrations has so many puts to make; one that
    has returned has none. -/
def Promised (c : Config Thread) (x pending : Nat) : Prop :=
  (x = c.latest ∧ pending = 0) ∨ ∃ i y, c.pc i = .putting y pending ∧ x = max c.latest y

/-- What has been promised is there. -/
def Enough (c : Config Thread) : Prop :=
  ∀ x pending, Promised c x pending → c.waitsSince x ≤ c.tokens + pending

/-- The order of steps that loses nothing. A waiter takes a token, or a put resumes it, only
    if it is one of those that the `notifyAll`s at stake have counted, or if there are more
    tokens and puts to come than these need. -/
def Entitled (c : Config Thread) : Label Thread → Prop
  | .get i => ∀ ticks r, c.pc i = .getting ticks r → 0 < c.tokens →
      ∀ x pending, Promised c x pending → r < x ∨ c.waitsSince x < c.tokens + pending
  | .put i => ∀ x pending getter rest, c.pc i = .putting x (pending + 1) →
      c.queue = getter :: rest → (c.pc getter).waitsSince (max c.latest x) = true ∨
        c.waitsSince (max c.latest x) < c.tokens + (pending + 1)
  | _ => True

theorem waitsSince_goto (x : Nat) :
    (c.goto i p).waitsSince x + ((c.pc i).waitsSince x).toNat
      = c.waitsSince x + (p.waitsSince x).toNat :=
  tally_update (Pc.waitsSince x) c.pc i p

omit [Fintype Thread] in
theorem promised_of_goto {x pending : Nat} (h : Promised c' x pending)
    (hmoved : c'.pc = (c.goto i p).pc) (hlatest : c'.latest = c.latest) :
    Promised c x pending ∨ ∃ y, p = .putting y pending ∧ x = max c.latest y := by
  rcases h with ⟨rfl, rfl⟩ | ⟨j, y, hj, rfl⟩
  · exact .inl (.inl ⟨hlatest, rfl⟩)
  · rw [hlatest]
    rw [hmoved] at hj
    by_cases hji : j = i
    · rw [hji, goto_self] at hj
      exact .inr ⟨y, hj, rfl⟩
    · rw [goto_of_ne hji] at hj
      exact .inl (.inr ⟨j, y, hj, rfl⟩)

omit [DecidableEq Thread] [Fintype Thread] in
theorem Promised.covered {x pending : Nat} (h : Promised c x pending) (hcovered : Covered c) :
    x ≤ c.registrations := by
  rcases h with ⟨rfl, _⟩ | ⟨j, y, hj, rfl⟩
  · exact hcovered.latest
  · exact max_le hcovered.latest (hcovered.putting j y pending hj)

/-- A thread moves without a token, and is not newly covered. -/
theorem Enough.goto (h : Enough c) (hmoved : c'.pc = (c.goto i p).pc)
    (hlatest : c'.latest = c.latest) (htokens : c'.tokens = c.tokens) (hputs : p.puts = false)
    (hwaits : ∀ x pending, Promised c x pending → p.waitsSince x = true →
      (c.pc i).waitsSince x = true) : Enough c' := by
  intro x pending hpromised
  -- no promise is new, and no waiter is newly covered by an old one
  rcases promised_of_goto hpromised hmoved hlatest with hbefore | ⟨y, hy, _⟩
  · have henough := h x pending hbefore
    have hstep : (c.goto i p).waitsSince x + _ = _ := waitsSince_goto x
    have hle : (p.waitsSince x).toNat ≤ ((c.pc i).waitsSince x).toNat := by
      cases hpc : p.waitsSince x with
      | false => exact Nat.zero_le _
      | true => rw [hwaits x pending hbefore hpc]
    have hsame : c'.waitsSince x = (c.goto i p).waitsSince x := congrArg (tally _) hmoved
    omega
  · rw [hy] at hputs
    cases hputs

/-- A thread moves in `notifyAll`. -/
theorem waitsSince_notifier {x : Nat} (hmoved : c'.pc = (c.goto i p).pc)
    (hi : (c.pc i).waitsSince x = false) (hpc : p.waitsSince x = false) :
    c'.waitsSince x = c.waitsSince x := by
  have hstep : (c.goto i p).waitsSince x + _ = _ := waitsSince_goto x
  have hsame : c'.waitsSince x = (c.goto i p).waitsSince x := congrArg (tally _) hmoved
  rw [hi, hpc] at hstep
  omega

/-- A waiter takes a token. -/
theorem enough_take (h : Enough c) {ticks : Int} {r : Nat} (hpc : c.pc i = .getting ticks r)
    (htokens : 0 < c.tokens) (hentitled : Entitled c (.get i)) :
    Enough { c.goto i .resumed with tokens := c.tokens - 1 } := by
  intro x pending hpromised
  obtain hbefore | ⟨y, hy, _⟩ := promised_of_goto (c := c) (i := i) (p := .resumed) hpromised rfl rfl
  · have henough := h x pending hbefore
    have hstep : (c.goto i .resumed).waitsSince x + _ = _ := waitsSince_goto x
    rw [hpc] at hstep
    show (c.goto i .resumed).waitsSince x ≤ c.tokens - 1 + pending
    have hthen : (c.goto i .resumed).waitsSince x + (decide (r < x)).toNat = c.waitsSince x := hstep
    -- it took its own token, or there was one to spare
    rcases hentitled ticks r hpc htokens x pending hbefore with hcounted | hspare
    · rw [decide_eq_true hcounted] at hthen
      have : true.toNat = 1 := rfl
      omega
    · omega
  · cases hy

/-- The waiters that are counted, and the puts that the count stands for. -/
theorem enough_count (h : Enough c) (hsound : Sound c) (hpc : c.pc i = .idle) :
    Enough (c.goto i (.putting c.registrations c.waiters)) := by
  intro x pending hpromised
  have hsame : (c.goto i (.putting c.registrations c.waiters)).waitsSince x = c.waitsSince x :=
    waitsSince_notifier (i := i) (p := .putting c.registrations c.waiters) rfl (by rw [hpc]; rfl) rfl
  rw [hsame]
  show c.waitsSince x ≤ c.tokens + pending
  rcases promised_of_goto hpromised rfl rfl with hbefore | ⟨y, hy, _⟩
  · exact h x pending hbefore
  · cases hy
    -- whoever waits is registered, and has been counted
    have hle : c.waitsSince x ≤ tally Pc.counted c.pc := by
      apply tally_le
      intro p hwaits
      cases p with
      | registered _ _ | unlocked _ _ | getting _ _ | suspended _ => rfl
      | _ => cases hwaits
    have hcounted : tally Pc.counted c.pc = c.waiters := hsound.counted
    omega

/-- A put with nobody suspended. -/
theorem enough_putToken (h : Enough c) {x pending : Nat}
    (hpc : c.pc i = .putting x (pending + 1)) :
    Enough ({ c with tokens := c.tokens + 1 }.goto i (.putting x pending)) := by
  intro y k hpromised
  have hsame : ({ c with tokens := c.tokens + 1 }.goto i (.putting x pending)).waitsSince y
      = c.waitsSince y :=
    waitsSince_notifier (i := i) (p := .putting x pending) rfl (by rw [hpc]; rfl) rfl
  rw [hsame]
  show c.waitsSince y ≤ c.tokens + 1 + k
  obtain hbefore | ⟨z, hz, hy⟩ := promised_of_goto (c := c) (i := i) (p := .putting x pending)
    hpromised rfl rfl
  · -- one token more, for any other promise
    have := h y k hbefore
    omega
  · cases hz
    -- for its own, one token more and one put less
    have := h y (pending + 1) (.inr ⟨i, x, hpc, hy⟩)
    omega

/-- A put that resumes a getter. -/
theorem enough_putResumes (h : Enough c) (hqueued : Queued c) {x pending : Nat} {getter : Thread}
    {rest : List Thread} (hpc : c.pc i = .putting x (pending + 1)) (hqueue : c.queue = getter :: rest)
    (hentitled : Entitled c (.put i)) :
    Enough ({ c.goto getter .resumed with queue := rest }.goto i (.putting x pending)) := by
  obtain ⟨r, hr⟩ := hqueued.suspended getter (hqueue ▸ List.mem_cons_self)
  have hne : i ≠ getter := fun heq => by
    rw [heq, hr] at hpc
    cases hpc
  have hpci : (c.goto getter .resumed).pc i = .putting x (pending + 1) := by
    rw [goto_of_ne hne, hpc]
  intro y k hpromised
  have hsame : ({ c.goto getter .resumed with queue := rest }.goto i (.putting x pending)).waitsSince y
      = (c.goto getter .resumed).waitsSince y :=
    waitsSince_notifier (i := i) (p := .putting x pending) rfl (by rw [hpci]; rfl) rfl
  have hstep : (c.goto getter .resumed).waitsSince y + ((c.pc getter).waitsSince y).toNat
      = c.waitsSince y := waitsSince_goto y
  rw [hsame]
  show (c.goto getter .resumed).waitsSince y ≤ c.tokens + k
  obtain hbefore | ⟨z, hz, hy⟩ := promised_of_goto (c := c.goto getter .resumed) (i := i)
    (p := .putting x pending) hpromised rfl rfl
  · -- what others have promised needs no more than before
    obtain hbefore | ⟨z, hz, _⟩ := promised_of_goto (c := c) (i := getter) (p := .resumed) hbefore rfl rfl
    · have := h y k hbefore
      omega
    · cases hz
  · cases hz
    have hmax : y = max c.latest x := hy
    have hpromise := h y (pending + 1) (.inr ⟨i, x, hpc, hmax⟩)
    -- the getter was one of those it covers, or a token was to spare
    rcases hentitled x pending getter rest hpc hqueue with hcounted | hspare
    · rw [← hmax] at hcounted
      rw [hcounted] at hstep
      have : true.toNat = 1 := rfl
      omega
    · rw [← hmax] at hspare
      omega

/-- A `notifyAll` has made all its puts. -/
theorem enough_finish (h : Enough c) {x : Nat} (hpc : c.pc i = .putting x 0) :
    Enough { c.goto i .idle with latest := max c.latest x } := by
  have hdone := h (max c.latest x) 0 (.inr ⟨i, x, hpc, rfl⟩)
  intro y k hpromised
  have hsame : (c.goto i .idle).waitsSince y = c.waitsSince y :=
    waitsSince_notifier (i := i) (p := .idle) rfl (by rw [hpc]; rfl) rfl
  show (c.goto i .idle).waitsSince y ≤ c.tokens + k
  rw [hsame]
  rcases hpromised with ⟨rfl, rfl⟩ | ⟨j, z, hj, rfl⟩
  · exact hdone
  · -- another `notifyAll` is still putting, and covers as much as both together
    have hj' : c.pc j = .putting z k := by
      by_cases hji : j = i
      · rw [hji] at hj
        have hidle : (c.goto i .idle).pc i = .putting z k := hj
        rw [goto_self] at hidle
        cases hidle
      · have hother : (c.goto i .idle).pc j = .putting z k := hj
        rwa [goto_of_ne hji] at hother
    show c.waitsSince (max (max c.latest x) z) ≤ c.tokens + k
    rcases le_total z (max c.latest x) with hle | hle
    · -- it covers no more than the one that is done
      rw [max_eq_left hle]
      omega
    · have hmax : max (max c.latest x) z = max c.latest z := by
        rw [max_eq_right hle, max_eq_right (le_trans (le_max_left _ _) hle)]
      rw [hmax]
      exact h _ k (.inr ⟨j, z, hj', rfl⟩)

/-- **Step lemma**, where the step is entitled. -/
theorem enough_step (h : Enough c) (hsound : Sound c) (hentitled : Entitled c l)
    (hmove : Move ticksPerSecond c l c') : Enough c' := by
  cases hmove with
  | register i timePoint hpc =>
    apply h.goto (i := i) (p := .registered timePoint c.registrations) rfl rfl rfl rfl
    intro x pending hpromised hlt
    -- it registers after all that has been counted
    exact absurd (of_decide_eq_true hlt) (not_lt.mpr (hpromised.covered hsound.covered))
  | release i timePoint r hpc =>
    exact h.goto (i := i) rfl rfl rfl rfl fun x _ _ hlt => by rw [hpc]; exact hlt
  | readClock i timePoint r hpc =>
    exact h.goto (i := i) rfl rfl rfl rfl fun x _ _ hlt => by rw [hpc]; exact hlt
  | suspend i ticks r hpc htokens =>
    exact h.goto (i := i) rfl rfl rfl rfl fun x _ _ hlt => by rw [hpc]; exact hlt
  | take i ticks r hpc htokens => exact enough_take h hpc htokens hentitled
  | count i hpc => exact enough_count h hsound hpc
  | putToken i x pending hpc hqueue => exact enough_putToken h hpc
  | putResumes i x pending getter rest hpc hqueue =>
    exact enough_putResumes h hsound.queued hpc hqueue hentitled
  | finish i x hpc => exact enough_finish h hpc
  | tick t hle => exact h
  | lock i hpc hfree => exact h.goto (i := i) rfl rfl rfl rfl (by simp [Pc.waitsSince])
  | unlock i hpc => exact h.goto (i := i) rfl rfl rfl rfl (by simp [Pc.waitsSince])
  | noWait i r hpc htokens => exact h.goto (i := i) rfl rfl rfl rfl (by simp [Pc.waitsSince])
  | timeOut i r hpc => exact h.goto (i := i) rfl rfl rfl rfl (by simp [Pc.waitsSince])
  | unregister i hpc => exact h.goto (i := i) rfl rfl rfl rfl (by simp [Pc.waitsSince])
  | relock i hpc hfree => exact h.goto (i := i) rfl rfl rfl rfl (by simp [Pc.waitsSince])

/-- **Run lemma**. -/
theorem enough_of_reachable (h : (system Thread ticksPerSecond).ReachableWhile Entitled c) :
    Enough c := by
  refine h.invariant ?_ ?_
  · intro c hinit x pending _
    obtain ⟨now, rfl⟩ := hinit
    -- nobody waits at the start
    have hnone : Config.waitsSince ({ now := now } : Config Thread) x = 0 :=
      tally_eq_zero fun _ => rfl
    omega
  · intro c l c' hc henough hentitled hstep
    exact enough_step henough (sound_of_reachable hc) hentitled (move_of_step hstep)

/-! ## Lost notifications -/

omit [DecidableEq Thread] [Fintype Thread]

/-- A `notifyAll` that read the waiter count after the first `x` registrations has put its
    tokens. Of those that have returned, the one that covers most stands for all. -/
def Done (c : Config Thread) (x : Nat) : Prop := x = c.latest ∨ ∃ i, c.pc i = .putting x 0

/-- A `notifyAll` that counted `i` has put its tokens, and yet `i` is blocked, with no token
    there and no put pending. -/
def Lost (c : Config Thread) (i : Thread) : Prop :=
  ∃ x r, Done c x ∧ c.pc i = .suspended r ∧ r < x ∧ c.tokens = 0 ∧
    ∀ j y pending, c.pc j = .putting y pending → pending = 0

theorem waitsSince_mono [Fintype Thread] {x y : Nat} (hle : x ≤ y) :
    c.waitsSince x ≤ c.waitsSince y := by
  apply tally_le
  intro p hp
  cases p with
  | registered _ r | unlocked _ r | getting _ r | suspended r =>
    exact decide_eq_true (lt_of_lt_of_le (of_decide_eq_true hp) hle)
  | _ => cases hp

/-- **Every waiter is served**, in a run whose steps are all entitled: once a `notifyAll` has
    put its tokens, each waiter that it counted has been resumed or has a token left for
    it; none is blocked without one. -/
theorem every_waiter_served [DecidableEq Thread] [Fintype Thread]
    (h : (system Thread ticksPerSecond).ReachableWhile Entitled c) :
    (∀ x, Done c x → c.waitsSince x ≤ c.tokens) ∧ ∀ i, ¬ Lost c i := by
  have henough := enough_of_reachable h
  have hleft : ∀ x, Done c x → c.waitsSince x ≤ c.tokens := by
    intro x hdone
    rcases hdone with rfl | ⟨i, hi⟩
    · exact henough c.latest 0 (.inl ⟨rfl, rfl⟩)
    · exact le_trans (waitsSince_mono (le_max_right c.latest x))
        (henough (max c.latest x) 0 (.inr ⟨i, x, hi, rfl⟩))
  refine ⟨hleft, ?_⟩
  intro i hlost
  obtain ⟨x, r, hdone, hsuspended, hlt, hnone, _⟩ := hlost
  -- the blocked waiter is one of those that were counted
  have hpos : 0 < c.waitsSince x := by
    apply tally_pos (i := i)
    rw [hsuspended]
    exact decide_eq_true hlt
  have := hleft x hdone
  omega

end counts

/-- Of two waiters one is suspended, and a put resumes it; the other comes to the semaphore
    later and takes the token that was left for it. -/
theorem two_waiters_served :
    ∃ c : Config (Fin 3), (system (Fin 3) 100).ReachableWhile Entitled c ∧
      c.pc 0 = .resumed ∧ c.pc 1 = .resumed ∧ Done c 2 ∧ c.tokens = 0 ∧
      (∀ x, Done c x → c.waitsSince x ≤ c.tokens) ∧ ∀ i, ¬ Lost c i := by
  have h₀ : (system (Fin 3) 100).ReachableWhile Entitled {} := .init ⟨0, rfl⟩
  have h₁ : (system (Fin 3) 100).ReachableWhile Entitled _ := .step (Label.lock 0) h₀ trivial rfl
  have h₂ : (system (Fin 3) 100).ReachableWhile Entitled _ :=
    .step (Label.register 0 100) h₁ trivial rfl
  have h₃ : (system (Fin 3) 100).ReachableWhile Entitled _ := .step (Label.release 0) h₂ trivial rfl
  have h₄ : (system (Fin 3) 100).ReachableWhile Entitled _ :=
    .step (Label.readClock 0) h₃ trivial rfl
  have h₅ : (system (Fin 3) 100).ReachableWhile Entitled _ :=
    .step (Label.get 0) h₄ (fun _ _ _ htokens => absurd htokens (by decide)) rfl
  have h₆ : (system (Fin 3) 100).ReachableWhile Entitled _ := .step (Label.lock 1) h₅ trivial rfl
  have h₇ : (system (Fin 3) 100).ReachableWhile Entitled _ :=
    .step (Label.register 1 100) h₆ trivial rfl
  have h₈ : (system (Fin 3) 100).ReachableWhile Entitled _ := .step (Label.release 1) h₇ trivial rfl
  have h₉ : (system (Fin 3) 100).ReachableWhile Entitled _ := .step (Label.count 2) h₈ trivial rfl
  -- the first put resumes the waiter in the queue, which was counted
  have h₁₀ : (system (Fin 3) 100).ReachableWhile Entitled _ :=
    .step (Label.put 2) h₉ (fun x pending getter rest hpc hqueue => by
      cases hqueue
      cases hpc
      exact .inl rfl) rfl
  have h₁₁ : (system (Fin 3) 100).ReachableWhile Entitled _ :=
    .step (Label.put 2) h₁₀ (fun _ _ _ _ _ hqueue => by cases hqueue) rfl
  have h₁₂ : (system (Fin 3) 100).ReachableWhile Entitled _ :=
    .step (Label.finish 2) h₁₁ trivial rfl
  have h₁₃ : (system (Fin 3) 100).ReachableWhile Entitled _ :=
    .step (Label.readClock 1) h₁₂ trivial rfl
  -- the token goes to the second of the two that were counted
  have h₁₄ : (system (Fin 3) 100).ReachableWhile Entitled _ :=
    .step (Label.get 1) h₁₃ (fun ticks r hpc _ x pending hpromised => by
      cases hpc
      rcases hpromised with ⟨rfl, _⟩ | ⟨i, y, hi, _⟩
      · exact .inl (by decide)
      · -- no other `notifyAll` is putting
        match i, hi with
        | 0, hi => cases hi
        | 1, hi => cases hi
        | 2, hi => cases hi) rfl
  exact ⟨_, h₁₄, rfl, rfl, .inl rfl, rfl, every_waiter_served h₁₄⟩

/-- The first waiter is resumed, finds its count not reached, waits again, and takes the token
    that was put for the second. -/
theorem token_taken_by_another :
    ¬ ∀ c : Config (Fin 3), (system (Fin 3) 100).Reachable c →
      (∀ x, Done c x → c.waitsSince x ≤ c.tokens) ∧ ∀ i, ¬ Lost c i := by
  intro hclaim
  -- 0 suspends, 1 has unlocked, 2 puts two tokens; 0 comes round and takes the second
  obtain ⟨c, hreplay, hblocked, hlatest, htokens, hputs⟩ : ∃ c : Config (Fin 3),
      (system (Fin 3) 100).replay {}
        [.lock 0, .register 0 100, .release 0, .readClock 0, .get 0,
          .lock 1, .register 1 100, .release 1,
          .count 2, .put 2, .put 2, .finish 2,
          .unregister 0, .relock 0, .register 0 100, .release 0, .readClock 0, .get 0,
          .readClock 1, .get 1] = some c ∧
      c.pc 1 = .suspended 1 ∧ c.latest = 2 ∧ c.tokens = 0 ∧ ∀ j, (c.pc j).puts = false :=
    ⟨_, rfl, rfl, rfl, rfl, by decide⟩
  have hrun := System.replay_within (L := fun _ => True) (fun _ _ => trivial) hreplay
  have hinit : (system (Fin 3) 100).Reachable {} := .init ⟨0, rfl⟩
  refine (hclaim c (hinit.within hrun)).2 1
    ⟨2, 1, .inl hlatest.symm, hblocked, Nat.one_lt_two, htokens, ?_⟩
  intro j y pending hj
  have hnone := hputs j
  rw [hj] at hnone
  cases hnone

end ThreadXConditionVariable

end GripperDriver

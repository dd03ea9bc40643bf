import GripperDriver.Framework.System
import Mathlib.Logic.Function.Basic
import Mathlib.Order.Lattice

/-! # Monitors

    A state behind one mutex, with one condition variable. A thread calls a
    method, which takes the lock, changes the state, releases the lock and then
    may notify; or it awaits a condition with a deadline, in the usual loop

        lock; while (not ready and now < deadline) waitUntil; unlock

    Of the primitives only their contract is used: the mutex has one owner;
    `waitUntil` releases it and blocks in one step, may wake for no reason, and
    relocks; `notifyAll` wakes every blocked thread.

    * `Monitor`: the methods and the conditions, with the proof that only
      methods that notify make a condition true,
    * `Orderly`: the invariant of every run,
    * `no_lost_wakeup`: a blocked thread whose condition is true has a
      `notifyAll` still ahead of it.
-/

namespace Interleaving

/-- The methods of a shared state, and the conditions that threads wait for. -/
structure Monitor (State Method Wait : Type) where
  run : Method → State → State
  /-- The method calls `notifyAll` once it has released the lock. -/
  notifies : Method → Bool
  ready : Wait → State → Bool
  /-- A method that does not notify makes no condition true. -/
  silent : ∀ m w s, notifies m = false → ready w (run m s) = true → ready w s = true

namespace Monitor

/-! ## Threads -/

inductive Call (Method Wait Time : Type) where
  | method (m : Method)
  | await (w : Wait) (deadline : Time)

/-- Where a thread stands. -/
inductive Pc (State Method Wait Time : Type) where
  /-- In no call. -/
  | idle
  /-- Blocked in `lock`. -/
  | entering (c : Call Method Wait Time)
  /-- The lock is taken: before the method's body, or before the loop's test. -/
  | inside (c : Call Method Wait Time)
  /-- The body is done, the lock still held. -/
  | leaving (m : Method)
  /-- The lock is released, `notifyAll` is next. -/
  | notifying (m : Method)
  /-- The test has failed; `waitUntil` is next. -/
  | waiting (w : Wait) (deadline : Time)
  /-- Blocked in `waitUntil`. -/
  | blocked (w : Wait) (deadline : Time)
  /-- Awake in `waitUntil`, to take the lock again. -/
  | woken (w : Wait) (deadline : Time)
  /-- The loop has ended on the state `s`, the lock still held. -/
  | ending (w : Wait) (deadline : Time) (s : State)
  /-- The wait has returned what it saw in `s`. -/
  | returned (w : Wait) (deadline : Time) (s : State)

section threads
variable {State Method Wait Time : Type}

/-- The thread has the lock. -/
def Pc.holds : Pc State Method Wait Time → Bool
  | .inside _ | .leaving _ | .waiting _ _ | .ending _ _ _ => true
  | _ => false

/-- What `notifyAll` does to a thread. -/
def Pc.notified : Pc State Method Wait Time → Pc State Method Wait Time
  | .blocked w deadline => .woken w deadline
  | pc => pc

/-- A call may start here. -/
def Pc.free : Pc State Method Wait Time → Bool
  | .idle | .returned _ _ _ => true
  | _ => false

/-- A `notifyAll` is still to come from a thread that stands here. -/
def ahead (M : Monitor State Method Wait) : Pc State Method Wait Time → Bool
  | .leaving m | .notifying m => M.notifies m
  | _ => false

/-- A method whose `notifyAll` is still to come from where the thread stands. -/
theorem ahead_eq_true {M : Monitor State Method Wait} {pc : Pc State Method Wait Time}
    (h : ahead M pc = true) :
    ∃ m, M.notifies m = true ∧ (pc = .leaving m ∨ pc = .notifying m) := by
  cases pc with
  | leaving m => exact ⟨m, h, .inl rfl⟩
  | notifying m => exact ⟨m, h, .inr rfl⟩
  | _ => cases h

end threads

/-! ## Steps -/

structure Config (Thread State Method Wait Time : Type) where
  state : State
  owner : Option Thread
  now : Time
  pc : Thread → Pc State Method Wait Time

inductive Label (Thread Method Wait Time : Type) where
  | call (i : Thread) (c : Call Method Wait Time)
  /-- `lock` returns, at the start of a call or at the end of `waitUntil`. -/
  | acquire (i : Thread)
  | body (i : Thread)
  /-- The loop's test. -/
  | look (i : Thread)
  /-- `waitUntil` releases the lock and blocks. -/
  | block (i : Thread)
  /-- Awake without a notification: the deadline has passed, or for no reason. -/
  | wake (i : Thread)
  | unlock (i : Thread)
  | notifyAll (i : Thread)
  | tick (t : Time)

section system
variable {Thread State Method Wait Time : Type} [DecidableEq Thread]

/-- The configuration with thread `i` at `pc`. -/
def Config.goto (c : Config Thread State Method Wait Time) (i : Thread)
    (pc : Pc State Method Wait Time) : Config Thread State Method Wait Time :=
  { c with pc := Function.update c.pc i pc }

section goto
variable (c : Config Thread State Method Wait Time) (i j : Thread)
  (pc : Pc State Method Wait Time)

@[simp] theorem goto_self : (c.goto i pc).pc i = pc := by
  simp [Config.goto]

@[simp] theorem goto_of_ne (h : j ≠ i) : (c.goto i pc).pc j = c.pc j := by
  simp [Config.goto, h]

@[simp] theorem goto_state : (c.goto i pc).state = c.state := rfl
@[simp] theorem goto_owner : (c.goto i pc).owner = c.owner := rfl
@[simp] theorem goto_now : (c.goto i pc).now = c.now := rfl

end goto

/-! ### The lock, and the notifications to come -/

section lock

/-- The lock belongs to the one thread that stands where the lock is held. -/
def Exclusive (c : Config Thread State Method Wait Time) : Prop :=
  ∀ i, (c.pc i).holds = true ↔ c.owner = some i

variable {M : Monitor State Method Wait} {c : Config Thread State Method Wait Time}
  {i : Thread} {pc : Pc State Method Wait Time}

theorem Exclusive.kept (h : Exclusive c) (hsame : pc.holds = (c.pc i).holds) :
    Exclusive (c.goto i pc) := by
  intro j
  by_cases hj : j = i
  · subst hj
    rw [goto_self, hsame]
    exact h j
  · rw [goto_of_ne _ _ _ _ hj]
    exact h j

theorem Exclusive.taken (h : Exclusive c) (howner : c.owner = none) (hpc : pc.holds = true) :
    Exclusive { c.goto i pc with owner := some i } := by
  intro j
  by_cases hj : j = i
  · subst hj
    simp [hpc]
  · have hfree : (c.pc j).holds ≠ true := fun hheld => by simp [(h j).mp hheld] at howner
    simp [hj, hfree, Ne.symm hj]

theorem Exclusive.released (h : Exclusive c) (hheld : (c.pc i).holds = true)
    (hpc : pc.holds = false) : Exclusive { c.goto i pc with owner := none } := by
  intro j
  by_cases hj : j = i
  · subst hj
    simp [hpc]
  · have hfree : (c.pc j).holds ≠ true := fun hother => by
      have := ((h i).mp hheld).symm.trans ((h j).mp hother)
      exact hj (Option.some.inj this).symm
    simp [hj, hfree]

theorem ahead_goto (hi : ahead M (c.pc i) = true → ahead M pc = true)
    (h : ∃ j, ahead M (c.pc j) = true) : ∃ j, ahead M ((c.goto i pc).pc j) = true := by
  obtain ⟨j, hj⟩ := h
  by_cases hji : j = i
  · subst hji
    exact ⟨j, by simpa using hi hj⟩
  · exact ⟨j, by simpa [hji] using hj⟩

end lock

/-! ### The steps -/

variable [LinearOrder Time]

def next? (M : Monitor State Method Wait) (c : Config Thread State Method Wait Time) :
    Label Thread Method Wait Time → Option (Config Thread State Method Wait Time)
  -- a thread between two calls makes one, and then waits for the lock
  | .call i call => if (c.pc i).free then some (c.goto i (.entering call)) else none
  | .acquire i =>
    if c.owner = none then
      match c.pc i with
      | .entering call => some { c.goto i (.inside call) with owner := some i }
      | .woken w deadline => some { c.goto i (.inside (.await w deadline)) with owner := some i }
      | _ => none
    else none
  | .body i =>
    match c.pc i with
    | .inside (.method m) => some { c.goto i (.leaving m) with state := M.run m c.state }
    | _ => none
  -- the loop around the wait: condition and deadline are looked at under the lock
  | .look i =>
    match c.pc i with
    | .inside (.await w deadline) =>
      if M.ready w c.state = false ∧ c.now < deadline then some (c.goto i (.waiting w deadline))
      else some (c.goto i (.ending w deadline c.state))
    | _ => none
  -- blocking gives up the lock in one step; a thread that blocks may be woken for no reason
  | .block i =>
    match c.pc i with
    | .waiting w deadline => some { c.goto i (.blocked w deadline) with owner := none }
    | _ => none
  | .wake i =>
    match c.pc i with
    | .blocked w deadline => some (c.goto i (.woken w deadline))
    | _ => none
  | .unlock i =>
    match c.pc i with
    -- the lock is released before `notifyAll`, not after
    | .leaving m =>
      some { c.goto i (if M.notifies m then .notifying m else .idle) with owner := none }
    | .ending w deadline s => some { c.goto i (.returned w deadline s) with owner := none }
    | _ => none
  | .notifyAll i =>
    match c.pc i with
    | .notifying _ =>
      some { c with pc := Function.update (fun j => (c.pc j).notified) i .idle }
    | _ => none
  | .tick t => if c.now ≤ t then some { c with now := t } else none

/-- Any number of threads on a monitor, none of them in a call at first. -/
def system (Thread Time : Type) [DecidableEq Thread] [LinearOrder Time]
    (M : Monitor State Method Wait) :
    System (Config Thread State Method Wait Time) (Label Thread Method Wait Time) where
  init c := c.owner = none ∧ ∀ i, c.pc i = .idle
  next? := M.next?

/-! ### What a step can do -/

inductive Move (M : Monitor State Method Wait) (c : Config Thread State Method Wait Time) :
    Label Thread Method Wait Time → Config Thread State Method Wait Time → Prop where
  | call (i : Thread) (call : Call Method Wait Time) (hfree : (c.pc i).free = true) :
      Move M c (.call i call) (c.goto i (.entering call))
  | enter (i : Thread) (call : Call Method Wait Time) (howner : c.owner = none)
      (hpc : c.pc i = .entering call) :
      Move M c (.acquire i) { c.goto i (.inside call) with owner := some i }
  | relock (i : Thread) (w : Wait) (deadline : Time) (howner : c.owner = none)
      (hpc : c.pc i = .woken w deadline) :
      Move M c (.acquire i) { c.goto i (.inside (.await w deadline)) with owner := some i }
  | body (i : Thread) (m : Method) (hpc : c.pc i = .inside (.method m)) :
      Move M c (.body i) { c.goto i (.leaving m) with state := M.run m c.state }
  | lookAgain (i : Thread) (w : Wait) (deadline : Time)
      (hpc : c.pc i = .inside (.await w deadline)) (hready : M.ready w c.state = false)
      (hlt : c.now < deadline) : Move M c (.look i) (c.goto i (.waiting w deadline))
  | lookEnds (i : Thread) (w : Wait) (deadline : Time)
      (hpc : c.pc i = .inside (.await w deadline))
      (hends : M.ready w c.state = true ∨ deadline ≤ c.now) :
      Move M c (.look i) (c.goto i (.ending w deadline c.state))
  | block (i : Thread) (w : Wait) (deadline : Time) (hpc : c.pc i = .waiting w deadline) :
      Move M c (.block i) { c.goto i (.blocked w deadline) with owner := none }
  | wake (i : Thread) (w : Wait) (deadline : Time) (hpc : c.pc i = .blocked w deadline) :
      Move M c (.wake i) (c.goto i (.woken w deadline))
  | leave (i : Thread) (m : Method) (hpc : c.pc i = .leaving m) :
      Move M c (.unlock i)
        { c.goto i (if M.notifies m then .notifying m else .idle) with owner := none }
  | giveBack (i : Thread) (w : Wait) (deadline : Time) (s : State)
      (hpc : c.pc i = .ending w deadline s) :
      Move M c (.unlock i) { c.goto i (.returned w deadline s) with owner := none }
  | notifyAll (i : Thread) (m : Method) (hpc : c.pc i = .notifying m) :
      Move M c (.notifyAll i)
        { c with pc := Function.update (fun j => (c.pc j).notified) i .idle }
  | tick (t : Time) (hle : c.now ≤ t) : Move M c (.tick t) { c with now := t }

variable {M : Monitor State Method Wait} {c c' : Config Thread State Method Wait Time}
  {l : Label Thread Method Wait Time}

theorem move_of_step (h : (system Thread Time M).Step c l c') : Move M c l c' := by
  cases l
  case look i =>
    simp only [System.Step, system, next?] at h
    split at h
    · next w deadline hpc =>
      split at h
      · next htest =>
        cases h
        exact .lookAgain i w deadline hpc htest.1 htest.2
      · next htest =>
        cases h
        refine .lookEnds i w deadline hpc ?_
        by_cases hready : M.ready w c.state = true
        · exact .inl hready
        · exact .inr (not_lt.mp fun hlt => htest ⟨by simpa using hready, hlt⟩)
    · cases h
  case acquire i =>
    simp only [System.Step, system, next?] at h
    split at h
    · next howner =>
      split at h
      · next call hpc =>
        cases h
        exact .enter i call howner hpc
      · next w deadline hpc =>
        cases h
        exact .relock i w deadline howner hpc
      · cases h
    · cases h
  case unlock i =>
    simp only [System.Step, system, next?] at h
    split at h
    · next m hpc =>
      cases h
      exact .leave i m hpc
    · next w deadline s hpc =>
      cases h
      exact .giveBack i w deadline s hpc
    · cases h
  all_goals
    simp only [System.Step, system, next?] at h
    split at h
    · next hguard =>
      cases h
      constructor
      exact hguard
    · cases h

/-! ## The invariant -/

/-- What the shared state says of a thread at `pc`. -/
def Fine (M : Monitor State Method Wait) (c : Config Thread State Method Wait Time) :
    Pc State Method Wait Time → Prop
  | .waiting w _ => M.ready w c.state = false
  | .blocked w _ => M.ready w c.state = true → ∃ j, M.ahead (c.pc j) = true
  | .ending w deadline s | .returned w deadline s => M.ready w s = true ∨ deadline ≤ c.now
  | _ => True

/-- The lock has one owner, and every thread is fine where it stands. -/
structure Orderly (M : Monitor State Method Wait)
    (c : Config Thread State Method Wait Time) : Prop where
  exclusive : Exclusive c
  fine : ∀ i, Fine M c (c.pc i)

theorem exclusive_step (h : Exclusive c) (hmove : Move M c l c') : Exclusive c' := by
  cases hmove with
  | call i call hfree =>
    apply h.kept
    cases hpc : c.pc i <;> rw [hpc] at hfree <;> first | rfl | cases hfree
  | enter i call howner hpc => exact h.taken howner rfl
  | relock i w deadline howner hpc => exact h.taken howner rfl
  | body i m hpc => exact h.kept (by rw [hpc]; rfl)
  | lookAgain i w deadline hpc => exact h.kept (by rw [hpc]; rfl)
  | lookEnds i w deadline hpc => exact h.kept (by rw [hpc]; rfl)
  | block i w deadline hpc => exact h.released (by rw [hpc]; rfl) rfl
  | wake i w deadline hpc => exact h.kept (by rw [hpc]; rfl)
  | leave i m hpc =>
    apply h.released (by rw [hpc]; rfl)
    split <;> rfl
  | giveBack i w deadline s hpc => exact h.released (by rw [hpc]; rfl) rfl
  | notifyAll i m hpc =>
    have hsame : ∀ j, (Function.update (fun j => (c.pc j).notified) i .idle j).holds
        = (c.pc j).holds := by
      intro j
      by_cases hj : j = i
      · subst hj
        simp [hpc, Pc.holds]
      · cases hpc' : c.pc j <;> simp [hj, hpc', Pc.holds, Pc.notified]
    intro j
    rw [hsame]
    exact h j
  | tick t hle => exact h

variable {i : Thread} {pc : Pc State Method Wait Time}

omit [DecidableEq Thread] in
/-- A thread stays fine while the state is left alone and no `notifyAll` is dropped. -/
theorem Fine.kept (h : Fine M c pc) (hstate : c'.state = c.state) (hnow : c.now ≤ c'.now)
    (hahead : (∃ j, M.ahead (c.pc j) = true) → ∃ j, M.ahead (c'.pc j) = true) :
    Fine M c' pc := by
  cases pc with
  | waiting w deadline => exact (congrArg _ hstate).trans h
  | blocked w deadline =>
    intro hready
    exact hahead (h (hstate ▸ hready))
  | ending w deadline s => exact h.imp_right fun hle => le_trans hle hnow
  | returned w deadline s => exact h.imp_right fun hle => le_trans hle hnow
  | _ => trivial

theorem fine_goto (owner : Option Thread) (h : ∀ j, Fine M c (c.pc j))
    (hi : M.ahead (c.pc i) = true → M.ahead pc = true)
    (hpc : Fine M { c.goto i pc with owner := owner } pc) :
    ∀ j, Fine M { c.goto i pc with owner := owner } ((c.goto i pc).pc j) := by
  intro j
  by_cases hj : j = i
  · subst hj
    rw [goto_self]
    exact hpc
  · rw [goto_of_ne _ _ _ _ hj]
    exact (h j).kept rfl le_rfl (ahead_goto hi)

/-- The body of a method: a condition that it makes true is heard of. -/
theorem fine_body {m : Method} (h : Orderly M c) (hpc : c.pc i = .inside (.method m)) :
    ∀ j, Fine M { c.goto i (.leaving m) with state := M.run m c.state }
      ((c.goto i (.leaving m)).pc j) := by
  intro j
  have howner : c.owner = some i := (h.exclusive i).mp (by rw [hpc]; rfl)
  by_cases hj : j = i
  · subst hj
    rw [goto_self]
    trivial
  rw [goto_of_ne _ _ _ _ hj]
  have hfine := h.fine j
  cases hpcj : c.pc j with
  | waiting w deadline =>
    -- it would have the lock as well
    have := (h.exclusive j).mp (by rw [hpcj]; rfl)
    rw [howner] at this
    exact absurd (Option.some.inj this).symm hj
  | blocked w deadline =>
    rw [hpcj] at hfine
    intro hready
    cases hnotifies : M.notifies m with
    | true => exact ⟨i, by simpa [ahead] using hnotifies⟩
    -- a method that does not notify makes no condition true, so another notify is ahead
    | false =>
      refine ahead_goto ?_ (hfine (M.silent m w c.state hnotifies hready))
      intro hahead
      simp [hpc, ahead] at hahead
  | ending w deadline s =>
    rw [hpcj] at hfine
    exact hfine
  | returned w deadline s =>
    rw [hpcj] at hfine
    exact hfine
  | _ => trivial

/-- After `notifyAll` no thread is blocked. -/
theorem fine_notifyAll (h : ∀ j, Fine M c (c.pc j)) :
    ∀ j, Fine M { c with pc := Function.update (fun j => (c.pc j).notified) i .idle }
      (Function.update (fun j => (c.pc j).notified) i .idle j) := by
  intro j
  by_cases hj : j = i
  · subst hj
    simp [Fine]
  · have hfine := h j
    rw [Function.update_of_ne hj]
    cases hpcj : c.pc j <;> rw [hpcj] at hfine <;> first | exact hfine | trivial

/-- **Step lemma**. -/
theorem orderly_step (h : Orderly M c) (hmove : Move M c l c') : Orderly M c' := by
  refine ⟨exclusive_step h.exclusive hmove, ?_⟩
  cases hmove with
  | call i call hfree =>
    -- a thread that is free has no `notifyAll` ahead of it
    refine fine_goto c.owner h.fine ?_ trivial
    intro hahead
    cases hpc : c.pc i <;> simp_all [Pc.free, ahead]
  | enter i call howner hpc => exact fine_goto _ h.fine (by simp [hpc, ahead]) trivial
  | relock i w deadline howner hpc => exact fine_goto _ h.fine (by simp [hpc, ahead]) trivial
  | body i m hpc => exact fine_body h hpc
  | lookAgain i w deadline hpc hready hlt =>
    exact fine_goto c.owner h.fine (by simp [hpc, ahead]) hready
  | lookEnds i w deadline hpc hends =>
    exact fine_goto c.owner h.fine (by simp [hpc, ahead]) hends
  | block i w deadline hpc =>
    apply fine_goto _ h.fine (by simp [hpc, ahead])
    -- the condition was false as it was looked at, and the lock has been held since
    have hunready : Fine M c (.waiting w deadline) := hpc ▸ h.fine i
    intro hready
    exact absurd (hunready.symm.trans hready) Bool.false_ne_true
  | wake i w deadline hpc =>
    exact fine_goto c.owner h.fine (by simp [hpc, ahead]) trivial
  | leave i m hpc =>
    refine fine_goto _ h.fine ?_ ?_
    · -- the notify that was ahead is the next thing the thread does
      rw [hpc]
      intro hnotifies
      rw [ahead] at hnotifies
      rw [if_pos hnotifies]
      exact hnotifies
    · split <;> trivial
  | giveBack i w deadline s hpc =>
    have hends := h.fine i
    rw [hpc] at hends
    exact fine_goto _ h.fine (by simp [hpc, ahead]) hends
  | notifyAll i m hpc => exact fine_notifyAll h.fine
  | tick t hle => exact fun j => (h.fine j).kept rfl hle id

/-- **Run lemma**. -/
theorem orderly_of_reachable (h : (system Thread Time M).Reachable c) : Orderly M c := by
  refine h.invariant ?_ ?_
  · intro c hinit
    obtain ⟨howner, hidle⟩ := hinit
    exact ⟨fun i => by simp [hidle, howner, Pc.holds], fun i => by rw [hidle]; trivial⟩
  · exact fun c l c' _ hc hstep => orderly_step hc (move_of_step hstep)

/-! ## What it gives -/

/-- **No lost wake-up**: where a thread is blocked although its condition is true, a
    `notifyAll` is still to come. -/
theorem no_lost_wakeup (h : (system Thread Time M).Reachable c) {w : Wait} {deadline : Time}
    (hblocked : c.pc i = .blocked w deadline) (hready : M.ready w c.state = true) :
    ∃ j m, M.notifies m = true ∧ (c.pc j = .leaving m ∨ c.pc j = .notifying m) := by
  have hfine := (orderly_of_reachable h).fine i
  rw [hblocked] at hfine
  obtain ⟨j, hj⟩ := hfine hready
  exact ⟨j, ahead_eq_true hj⟩

/-- **No early return**: a wait returns with its condition true, or past its deadline. -/
theorem no_early_return (h : (system Thread Time M).Reachable c) {w : Wait} {deadline : Time}
    {s : State} (hreturned : c.pc i = .returned w deadline s) :
    M.ready w s = true ∨ deadline ≤ c.now := by
  have hfine := (orderly_of_reachable h).fine i
  rw [hreturned] at hfine
  exact hfine

end system

end Monitor

end Interleaving

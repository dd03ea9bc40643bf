import GripperDriver.Exchange.Quiet
import GripperDriver.Framework.Program

/-! # The Blocking Calls

    The calls of `Gripper` and `wait.hpp` as programs of atomic actions: the
    critical sections of the process image, the atomic read of the connection
    state, and the reads of the clock.

    * `thread L`: a thread among others that take the steps in `L`;
      `observer` and `commander` are the two kinds of the concurrency model,
    * `sync` up to `waitFor`, the named waits and the deprecated polling forms,
    * one triple for each call: what it hands out is the record in the image at
      its last look.
-/

namespace GripperDriver

open Interleaving Relation

/-! ## Atomic actions -/

inductive Act : Type → Type where
  /-- `std::chrono::steady_clock::now()`. -/
  | now : Act Time
  /-- `ProcessImage::stampedExchange`. -/
  | stampedExchange : Act StampedExchange
  /-- `ProcessImage::command`. -/
  | command : Act GripperCommand
  | connectionState : Act ConnectionState
  /-- `ProcessImage::setCommand`. -/
  | setCommand (c : GripperCommand) : Act Unit
  /-- One look of `ProcessImage::sync`. -/
  | syncPass (count : Nat) (deadline : Time) : Act (Option StampedExchange)

/-- What an action answers, and the world it leaves. -/
def Act.run {dev : Device} (w : World dev) : {α : Type} → Act α → α × World dev
  | _, .now => (w.now, w)
  | _, .stampedExchange => (w.image.stamped, w)
  | _, .command => (w.image.command, w)
  | _, .connectionState => (w.connectionState, w)
  | _, .setCommand c => ((), w.afterSet c)
  | _, .syncPass count deadline => (w.image.syncPass count deadline w.now, w)

/-! ## Threads -/

/-- A thread whose surroundings take the steps with a label in `L`. -/
def thread {dev : Device} (L : Label → Prop) : Thread (World dev) Act where
  env := (gripperSystem dev).StepIn L
  perform := fun a w r w' => Act.run w a = (r, w')

/-- Any thread that only reads: everything else may happen around it. -/
abbrev observer {dev : Device} : Thread (World dev) Act := thread fun _ => True

/-- The one thread that calls `setCommand`. -/
abbrev commander {dev : Device} : Thread (World dev) Act := thread Quiet

section runs
variable {dev : Device} {L : Label → Prop} {w w' : World dev}

/-- Every action is a step of the whole, or leaves the world as it is. -/
theorem Act.run_within {α : Type} (a : Act α) (w : World dev) :
    (gripperSystem dev).Within (fun _ => True) w (Act.run w a).2 := by
  cases a with
  | setCommand c => exact (step_afterSet w c).within trivial
  | _ => exact .refl

/-- No action takes time: it passes between them. -/
theorem Act.run_now {α : Type} (a : Act α) (w : World dev) : (Act.run w a).2.now = w.now := by
  cases a <;> rfl

/-- A run of a thread is a run of the whole. -/
theorem within_of_runs {α : Type} {p : Prog Act α} {o : Option α}
    (h : Runs (thread L) p w o w') : (gripperSystem dev).Within (fun _ => True) w w' := by
  have hstable : Stable (thread L) (fun u => (gripperSystem dev).Within (fun _ => True) w u) := by
    intro u v hu hs
    obtain ⟨l, _, hl⟩ := hs
    exact hu.tail ⟨l, trivial, hl⟩
  have hkeeps := Triple.keeps hstable (fun a u r v hu (hrun : Act.run u a = (r, v)) => by
    have := hu.trans (a.run_within u)
    rwa [hrun] at this) p
  cases o with
  | none => exact hkeeps.running .refl h
  | some a => exact hkeeps.done .refl h

end runs

/-! ## Durations -/

/-- `duration_cast<milliseconds>(steady_clock::duration::max()) / 2`. -/
def longest : Int := (9223372036854775807 / nanosPerMilli) / 2

/-- The milliseconds from `now` to `deadline`, rounded up; none once it has passed. -/
def millisLeft (deadline now : Time) : Int :=
  if now < deadline then ceilMillis (deadline - now) else 0

theorem millisLeft_nonneg (deadline now : Int) : 0 ≤ millisLeft deadline now := by
  unfold millisLeft ceilMillis nanosPerMilli
  by_cases hlt : now < deadline
  · rw [if_pos hlt]
    omega
  · rw [if_neg hlt]

/-- A deadline `timeout` milliseconds after `now`, capped. -/
def dueAfter (timeout : Int) (now : Time) : Time := now + min timeout longest * nanosPerMilli

/-! ## The calls -/

def deadlineAfter (timeout : Int) : Prog Act Time := do
  let now ← .act .now
  pure (dueAfter timeout now)

/-- `ProcessImage::sync`. -/
def sync (count : Nat) (deadline : Time) : Prog Act StampedExchange :=
  .iter (fun _ : Unit => do
    let look ← .act (.syncPass count deadline)
    match look with
    | some r => pure (.inr r)
    | none => pure (.inl ())) ()

/-- `GripperState::waitForExchange`. -/
def waitForExchangeUntil (desired : Nat) (deadline : Time) : Prog Act StampedExchange :=
  if desired = 0 then .act .stampedExchange else sync (desired - 1) deadline

def waitForExchangeCount (desired : Nat) (timeout : Int) : Prog Act (Option StampedExchange) := do
  let deadline ← deadlineAfter timeout
  let fresh ← waitForExchangeUntil desired deadline
  pure (if fresh.count < desired then none else some fresh)

/-- `Gripper::waitForExchange`. -/
def waitForExchange (timeout : Int) : Prog Act (Option StampedExchange) := do
  let latest ← .act .stampedExchange
  waitForExchangeCount (latest.count + 1) timeout

/-- One turn of the loop in `detail::waitForExchangeAfter`. -/
def waitTurn (predicate : StampedExchange → Bool) (deadline : Time) (desired : Nat) :
    Prog Act (Nat ⊕ Option StampedExchange) := do
  let now ← .act .now
  let exchange ← waitForExchangeCount desired (millisLeft deadline now)
  match exchange with
  | none => pure (.inr none)
  | some r => if predicate r then pure (.inr (some r)) else pure (.inl (r.count + 1))

/-- `detail::waitForExchangeAfter`. -/
def waitForExchangeAfter (afterCount : Nat) (predicate : StampedExchange → Bool)
    (timeout : Int) : Prog Act (Option StampedExchange) := do
  let deadline ← deadlineAfter timeout
  .iter (waitTurn predicate deadline) (afterCount + 1)

def waitFor (predicate : StampedExchange → Bool) (timeout : Int) :
    Prog Act (Option StampedExchange) := do
  let latest ← .act .stampedExchange
  waitForExchangeAfter latest.count predicate timeout

def setCommandAndWaitForExchange (command : GripperCommand) (timeout : Int) :
    Prog Act (Option StampedExchange) := do
  let before ← .act .stampedExchange
  .act (.setCommand command)
  waitForExchangeAfter before.count (fun exchange => exchange.command = command) timeout

def waitForPositionEcho (position : Byte) (timeout : Int) : Prog Act (Option StampedExchange) :=
  waitFor (fun exchange => exchange.status.positionRequestEcho = position) timeout

def waitForObjectDetection (detection : ObjectDetection) (timeout : Int) :
    Prog Act (Option StampedExchange) :=
  waitFor (fun exchange => exchange.status.gripperStatus.objectDetection = detection) timeout

def waitForMotionEnd (timeout : Int) : Prog Act (Option StampedExchange) :=
  waitFor (fun exchange => exchange.status.gripperStatus.objectDetection ≠ .moving) timeout

/-! ### The deprecated polling forms

    They take the predicate and the platform of the caller: what an evaluation does, which
    state it goes on from, and how the sleep between two polls is spent. -/

section polling
variable {σ : Type}

/-- One turn of the loop in `detail::pollUntil`. -/
def pollTurn (predicate : σ → Prog Act (Bool × σ)) (sleepFor : Int → Prog Act Unit)
    (deadline : Time) (pollPeriod : Int) (s : σ) : Prog Act (σ ⊕ Bool) := do
  let held ← predicate s
  if held.1 then pure (.inr true)
  else do
    let now ← .act .now
    if deadline ≤ now then pure (.inr false)
    else do
      sleepFor pollPeriod
      pure (.inl held.2)

/-- `detail::pollUntil`. -/
def pollUntil (predicate : σ → Prog Act (Bool × σ)) (sleepFor : Int → Prog Act Unit)
    (deadline : Time) (pollPeriod : Int) (s : σ) : Prog Act Bool :=
  .iter (pollTurn predicate sleepFor deadline pollPeriod) s

/-- The deprecated `waitFor`: its deadline is not that of `detail::deadlineAfter`. -/
def waitForPolling (predicate : σ → Prog Act (Bool × σ)) (sleepFor : Int → Prog Act Unit)
    (pollPeriod : Int) (s : σ) (timeout : Int) : Prog Act Bool := do
  let now ← .act .now
  pollUntil predicate sleepFor (now + timeout * nanosPerMilli) pollPeriod s

/-- `sleepFor` of the default platform: the thread is back once its time point has come. -/
def defaultSleepFor (duration : Int) : Prog Act Unit := do
  let start ← .act .now
  .iter (fun _ : Unit => do
    let now ← .act .now
    pure (if start + duration * nanosPerMilli ≤ now then .inr () else .inl ())) ()

/-- Its hosted overload, which sleeps on the default platform. -/
def waitForPollingHosted (predicate : σ → Prog Act (Bool × σ)) :
    Int → σ → Int → Prog Act Bool :=
  waitForPolling predicate defaultSleepFor

end polling

/-! ## What each call hands out -/

section triples
variable {dev : Device} {L : Label → Prop} {G I : World dev → Prop}

/-- Rule for an action: the surroundings keep the precondition, and it is
    weakened through the action. -/
theorem act_triple {α : Type} {a : Act α} {Q : α → World dev → Prop}
    (hG : Stable (thread L) G) (hI : ∀ w, G w → I w)
    (hQ : ∀ w, G w → Q (Act.run w a).1 (Act.run w a).2) :
    Triple (thread L) I G (.act a) Q :=
  Triple.act hG hI fun w r w' hw hrun => by
    have hrun : Act.run w a = (r, w') := hrun
    have := hQ w hw
    rwa [hrun] at this

theorem now_triple (hG : Stable (thread L) G) (hI : ∀ w, G w → I w) :
    Triple (thread L) I G (.act .now) (fun _ w => G w) :=
  act_triple hG hI fun _ hw => hw

theorem stampedExchange_triple (hG : Stable (thread L) G) (hI : ∀ w, G w → I w) :
    Triple (thread L) I G (.act .stampedExchange) (fun r w => G w ∧ r = w.image.stamped) :=
  act_triple hG hI fun _ hw => ⟨hw, rfl⟩

theorem deadlineAfter_triple (timeout : Int) (hG : Stable (thread L) G) (hI : ∀ w, G w → I w) :
    Triple (thread L) I G (deadlineAfter timeout) (fun _ w => G w) :=
  (now_triple hG hI).bind fun _ => Triple.pure hG hI (fun _ hw => hw) fun _ hw => hw

/-- `sync` hands out the record in the image, for one of three reasons. -/
theorem sync_triple (count : Nat) (deadline : Time) (hG : Stable (thread L) G)
    (hI : ∀ w, G w → I w) :
    Triple (thread L) I G (sync count deadline) (fun r w => G w ∧ r = w.image.stamped ∧
      (count < r.count ∨ w.image.closed = true ∨ deadline ≤ w.now)) := by
  refine Triple.iter (J := fun _ => G) (fun _ => ?_) ()
  have hlook : Triple (thread L) I G (.act (.syncPass count deadline))
      (fun look w => G w ∧ look = w.image.syncPass count deadline w.now) :=
    act_triple hG hI fun w hw => ⟨hw, rfl⟩
  -- a look that comes back empty is another turn, and nothing has moved
  apply hlook.bind
  intro look
  cases look with
  | none => exact Triple.pure hG hI (fun _ hw => hw.1) fun _ hw => hw.1
  | some r =>
    apply Triple.pure hG hI (fun _ hw => hw.1)
    intro w hw
    obtain ⟨hr, hreason⟩ := w.image.syncPass_eq_some hw.2.symm
    exact ⟨hw.1, hr, hr ▸ hreason⟩

theorem waitForExchangeUntil_triple (desired : Nat) (deadline : Time)
    (hG : Stable (thread L) G) (hI : ∀ w, G w → I w) :
    Triple (thread L) I G (waitForExchangeUntil desired deadline)
      (fun r w => G w ∧ r = w.image.stamped) :=
  Triple.ite (fun _ => stampedExchange_triple hG hI)
    fun _ => (sync_triple _ _ hG hI).post fun _ _ h => ⟨h.1, h.2.1⟩

/-- What a call that waits for the count `desired` answers, at its last look. -/
def Looked (desired : Nat) (answer : Option StampedExchange) (w : World dev) : Prop :=
  match answer with
  | some r => r = w.image.stamped ∧ desired ≤ r.count
  | none => w.image.stamped.count < desired

theorem waitForExchangeCount_triple (desired : Nat) (timeout : Int)
    (hG : Stable (thread L) G) (hI : ∀ w, G w → I w) :
    Triple (thread L) I G (waitForExchangeCount desired timeout)
      (fun answer w => G w ∧ Looked desired answer w) := by
  apply (deadlineAfter_triple timeout hG hI).bind
  intro deadline
  apply (waitForExchangeUntil_triple desired deadline hG hI).bind
  intro fresh
  refine Triple.pure hG hI (fun _ hw => hw.1) fun w hw => ⟨hw.1, ?_⟩
  obtain ⟨_, rfl⟩ := hw
  by_cases hlt : w.image.stamped.count < desired
  · simp [hlt, Looked]
  · simp only [hlt, if_false]
    exact ⟨rfl, Nat.le_of_not_lt hlt⟩

theorem waitForExchange_triple (timeout : Int) (hG : Stable (thread L) G)
    (hI : ∀ w, G w → I w) :
    Triple (thread L) I G (waitForExchange timeout)
      (fun answer w => G w ∧ ∃ desired, Looked desired answer w) := by
  have hread := stampedExchange_triple hG hI (L := L)
  apply (hread.post fun _ _ h => h.1).bind
  intro latest
  exact (waitForExchangeCount_triple _ timeout hG hI).post fun _ _ h => ⟨h.1, _, h.2⟩

/-- **The loop of the waits.** `J desired` is the caller's invariant at the top
    of a turn that waits for the count `desired`: a record that comes with the
    count and misses the predicate re-arms it. -/
theorem waitForExchangeAfter_triple {J : Nat → World dev → Prop}
    (afterCount : Nat) (predicate : StampedExchange → Bool) (timeout : Int)
    (hJ : ∀ desired, Stable (thread L) (J desired)) (hI : ∀ desired w, J desired w → I w)
    (hmiss : ∀ desired w, J desired w → desired ≤ w.image.stamped.count →
      predicate w.image.stamped = false → J (w.image.stamped.count + 1) w) :
    Triple (thread L) I (J (afterCount + 1)) (waitForExchangeAfter afterCount predicate timeout)
      (fun answer w => ∃ desired, J desired w ∧ Looked desired answer w ∧
        ∀ r, answer = some r → predicate r = true) := by
  apply (deadlineAfter_triple timeout (hJ _) (hI _)).bind
  intro deadline
  refine Triple.iter (J := J) (fun desired => ?_) (afterCount + 1)
  apply (now_triple (hJ desired) (hI desired)).bind
  intro now
  apply (waitForExchangeCount_triple desired _ (hJ desired) (hI desired)).bind
  intro answer
  cases answer with
  | none =>
    -- the wait ran out
    apply Triple.pure (hJ desired) (hI desired) (fun _ hw => hw.1)
    intro w hw
    exact ⟨desired, hw.1, hw.2, by simp⟩
  | some r =>
    by_cases hp : predicate r = true
    · simp only [hp, if_true]
      apply Triple.pure (hJ desired) (hI desired) (fun _ hw => hw.1)
      intro w hw
      exact ⟨desired, hw.1, hw.2, by simp [hp]⟩
    · simp only [hp]
      apply Triple.pure (hJ desired) (hI desired) (fun _ hw => hw.1)
      intro w hw
      obtain ⟨hw, rfl, hle⟩ := hw
      exact hmiss desired w hw hle (Bool.eq_false_iff.mpr hp)

/-- What a wait for a record past the count `after` answers, at its last look. -/
def Met (predicate : StampedExchange → Bool) (after : Nat) (answer : Option StampedExchange)
    (w : World dev) : Prop :=
  ∀ r, answer = some r → r = w.image.stamped ∧ after < r.count ∧ predicate r = true

/-- A record handed out is new, current, and meets the predicate. -/
theorem waitForExchangeAfter_met (afterCount : Nat) (predicate : StampedExchange → Bool)
    (timeout : Int) (hG : Stable (thread L) G) (hI : ∀ w, G w → I w) :
    Triple (thread L) I G (waitForExchangeAfter afterCount predicate timeout)
      (fun answer w => G w ∧ Met predicate afterCount answer w) := by
  have h := waitForExchangeAfter_triple (J := fun desired w => G w ∧ afterCount < desired)
    (L := L) (I := I) afterCount predicate timeout (fun _ => hG.and (Stable.const _))
    (fun _ w hw => hI w hw.1) (fun _ w hw hle _ => ⟨hw.1, by omega⟩)
  apply h.conseq (fun w hw => ⟨hw, by omega⟩)
  intro answer w hs
  obtain ⟨desired, ⟨hw, hafter⟩, hlook, hp⟩ := hs
  refine ⟨hw, ?_⟩
  intro r hs
  subst hs
  exact ⟨hlook.1, Nat.lt_of_lt_of_le hafter hlook.2, hp r rfl⟩

/-- The record of a `waitFor` was published after the call. -/
theorem waitFor_met (start : Nat) (predicate : StampedExchange → Bool) (timeout : Int)
    (hG : Stable (thread L) G) (hI : ∀ w, G w → I w)
    (hstart : ∀ w, G w → start ≤ w.image.stamped.count) :
    Triple (thread L) I G (waitFor predicate timeout)
      (fun answer w => G w ∧ Met predicate start answer w) := by
  apply (stampedExchange_triple hG hI).bind
  intro latest
  by_cases hle : start ≤ latest.count
  · refine (waitForExchangeAfter_met latest.count predicate timeout hG hI).conseq
      (fun w hw => hw.1) ?_
    intro answer w h
    obtain ⟨hw, hmet⟩ := h
    exact ⟨hw, fun r hr => ⟨(hmet r hr).1, Nat.lt_of_le_of_lt hle (hmet r hr).2.1, (hmet r hr).2.2⟩⟩
  · intro w w' hw
    exact absurd (hw.2 ▸ hstart w hw.1) hle

end triples

/-! ## Runs of the calls -/

section calls
variable {dev : Device} {L : Label → Prop} {w w' w'' : World dev}

theorem runs_deadlineAfter (timeout : Int) (henv : (gripperSystem dev).Within L w w') :
    Runs (thread L) (deadlineAfter timeout) w (some (dueAfter timeout w'.now)) w' :=
  runs_bind (runs_act henv rfl) runs_pure

/-- A look that ends the loop of `sync`. -/
theorem runs_sync {count : Nat} {deadline : Time} {r : StampedExchange}
    (henv : (gripperSystem dev).Within L w w')
    (hlook : w'.image.syncPass count deadline w'.now = some r) :
    Runs (thread L) (sync count deadline) w (some r) w' := by
  refine runs_iter_done (runs_bind (runs_act henv rfl) ?_)
  rw [hlook]
  exact runs_pure

/-- A wait for a count that is reached is over at its first look. -/
theorem runs_waitForExchangeCount {desired : Nat} (timeout : Int) (hpos : 0 < desired)
    (hle : desired ≤ w'.image.stamped.count) (henv : (gripperSystem dev).Within L w w') :
    Runs (thread L) (waitForExchangeCount desired timeout) w (some (some w'.image.stamped)) w' := by
  apply runs_bind (runs_deadlineAfter timeout henv)
  have hsync : Runs (thread L) (waitForExchangeUntil desired
      (dueAfter timeout w'.now)) w' (some w'.image.stamped) w' := by
    rw [waitForExchangeUntil, if_neg (by omega)]
    exact runs_sync .refl (w'.image.syncPass_of_lt _ _ (by omega))
  apply runs_bind hsync
  rw [if_neg (by omega)]
  exact runs_pure

/-- A wait whose deadline passes before its count is reached comes back empty. -/
theorem runs_waitForExchangeCount_empty {desired : Nat} (timeout : Int)
    (hlt : w''.image.stamped.count < desired) (henv : (gripperSystem dev).Within L w w')
    (hwait : (gripperSystem dev).Within L w' w'') (hdue : dueAfter timeout w'.now ≤ w''.now) :
    Runs (thread L) (waitForExchangeCount desired timeout) w (some none) w'' := by
  apply runs_bind (runs_deadlineAfter timeout henv)
  have hsync : Runs (thread L) (waitForExchangeUntil desired (dueAfter timeout w'.now)) w'
      (some w''.image.stamped) w'' := by
    rw [waitForExchangeUntil, if_neg (by omega)]
    exact runs_sync hwait (w''.image.syncPass_of_le _ hdue)
  apply runs_bind hsync
  rw [if_pos hlt]
  exact runs_pure

section turns
variable {predicate : StampedExchange → Bool} {deadline : Time} {desired : Nat}

/-- A turn that finds a record which meets the predicate is the last one. -/
theorem runs_waitTurn_hit (hpos : 0 < desired) (hle : desired ≤ w'.image.stamped.count)
    (hp : predicate w'.image.stamped = true) (henv : (gripperSystem dev).Within L w w') :
    Runs (thread L) (waitTurn predicate deadline desired) w
      (some (.inr (some w'.image.stamped))) w' := by
  apply runs_bind (runs_act .refl rfl)
  apply runs_bind (runs_waitForExchangeCount _ hpos hle henv)
  simp only [hp, if_true]
  exact runs_pure

/-- After one which does not, the next turn waits for a newer one. -/
theorem runs_waitTurn_miss (hpos : 0 < desired) (hle : desired ≤ w'.image.stamped.count)
    (hp : predicate w'.image.stamped = false) (henv : (gripperSystem dev).Within L w w') :
    Runs (thread L) (waitTurn predicate deadline desired) w
      (some (.inl (w'.image.stamped.count + 1))) w' := by
  apply runs_bind (runs_act .refl rfl)
  apply runs_bind (runs_waitForExchangeCount _ hpos hle henv)
  simp only [hp]
  exact runs_pure

theorem runs_waitTurn_empty (hlt : w'.image.stamped.count < desired)
    (henv : (gripperSystem dev).Within L w w')
    (hdue : dueAfter (millisLeft deadline w.now) w.now ≤ w'.now) :
    Runs (thread L) (waitTurn predicate deadline desired) w (some (.inr none)) w' := by
  apply runs_bind (runs_act .refl rfl)
  apply runs_bind (runs_waitForExchangeCount_empty _ hlt .refl henv hdue)
  exact runs_pure

end turns

/-- A wait for a record that is there, and meets the predicate, is over at its first look. -/
theorem runs_waitForExchangeAfter {afterCount : Nat} {predicate : StampedExchange → Bool}
    (timeout : Int) (hlt : afterCount < w'.image.stamped.count)
    (hp : predicate w'.image.stamped = true) (henv : (gripperSystem dev).Within L w w') :
    Runs (thread L) (waitForExchangeAfter afterCount predicate timeout) w
      (some (some w'.image.stamped)) w' :=
  runs_bind (runs_deadlineAfter timeout henv)
    (runs_iter_done (runs_waitTurn_hit (Nat.succ_pos _) hlt hp .refl))

theorem runs_waitForExchangeAfter_empty {afterCount : Nat} (predicate : StampedExchange → Bool)
    (timeout : Int) (hle : w''.image.stamped.count ≤ afterCount)
    (henv : (gripperSystem dev).Within L w w') (hwait : (gripperSystem dev).Within L w' w'')
    (hdue : dueAfter (millisLeft (dueAfter timeout w'.now) w'.now) w'.now ≤ w''.now) :
    Runs (thread L) (waitForExchangeAfter afterCount predicate timeout) w (some none) w'' :=
  runs_bind (runs_deadlineAfter timeout henv)
    (runs_iter_done (runs_waitTurn_empty (Nat.lt_succ_of_le hle) hwait hdue))

end calls

end GripperDriver

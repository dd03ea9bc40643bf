import GripperDriver.Client.Activation
import GripperDriver.Framework.Checked

/-! # Deadlines in 64 Bits

    The arithmetic of the blocking calls as the machine does it: time points and
    durations are signed 64-bit integers, and a result that does not fit is no result.

    * `fit`, `toNanos`: one operation, and the widening of milliseconds to nanoseconds,
    * the calls again, with an operation at each place where the source has one,
    * `BlockingCall`: every call that takes a timeout,
    * `deadlines_safe_iff`: on which of them no operation overflows.
-/

namespace GripperDriver

open Interleaving

/-! ## Operations -/

/-- The least and the largest `int64_t`. -/
def int64Min : Int := -9223372036854775808
def int64Max : Int := 9223372036854775807

/-- What a 64-bit operation leaves of its result. -/
def fit (n : Int) : Option Int := if int64Min ≤ n ∧ n ≤ int64Max then some n else none

theorem fit_eq {n : Int} (hmin : int64Min ≤ n) (hmax : n ≤ int64Max) : fit n = some n :=
  if_pos ⟨hmin, hmax⟩

namespace Machine

/-- Milliseconds, widened to the nanoseconds of the clock. -/
def toNanos (ms : Int) : Option Int := fit (ms * nanosPerMilli)

/-- The deadline of `detail::deadlineAfter`. -/
def dueAfter (timeout : Int) (now : Time) : Option Time := do
  let ns ← toNanos (min timeout longest)
  fit (now + ns)

/-- The deadline of `activate`, of `recoverFromFault` and of the deprecated `waitFor`. -/
def dueAt (timeout : Int) (now : Time) : Option Time := do
  let ns ← toNanos timeout
  fit (now + ns)

/-- `std::chrono::ceil<milliseconds>`: the quotient, widened to be compared with `d`. -/
def ceilMillis (d : Time) : Option Int := do
  let quotient := d.tdiv nanosPerMilli
  let back ← toNanos quotient
  if back < d then fit (quotient + 1) else some quotient

def millisLeft (deadline now : Time) : Option Int :=
  if now < deadline then do
    let left ← fit (deadline - now)
    ceilMillis left
  else some 0

/-- The half-timeout test, in nanoseconds. -/
def halfLeft (timeout : Int) (deadline now : Time) : Option Bool := do
  let left ← fit (deadline - now)
  let half ← toNanos (timeout.tdiv 2)
  some (half ≤ left)

/-! ## The calls -/

def deadlineAfter (timeout : Int) : Checked Act Time := do
  let now ← Checked.lift (.act .now)
  Checked.op (dueAfter timeout now)

def waitForExchangeCount (desired : Nat) (timeout : Int) :
    Checked Act (Option StampedExchange) := do
  let deadline ← deadlineAfter timeout
  let fresh ← Checked.lift (waitForExchangeUntil desired deadline)
  pure (if fresh.count < desired then none else some fresh)

def waitForExchange (timeout : Int) : Checked Act (Option StampedExchange) := do
  let latest ← Checked.lift (.act .stampedExchange)
  waitForExchangeCount (latest.count + 1) timeout

def waitTurn (predicate : StampedExchange → Bool) (deadline : Time) (desired : Nat) :
    Checked Act (Nat ⊕ Option StampedExchange) := do
  let now ← Checked.lift (.act .now)
  let left ← Checked.op (millisLeft deadline now)
  let exchange ← waitForExchangeCount desired left
  match exchange with
  | none => pure (.inr none)
  | some r => if predicate r then pure (.inr (some r)) else pure (.inl (r.count + 1))

def waitForExchangeAfter (afterCount : Nat) (predicate : StampedExchange → Bool)
    (timeout : Int) : Checked Act (Option StampedExchange) := do
  let deadline ← deadlineAfter timeout
  Checked.iter (waitTurn predicate deadline) (afterCount + 1)

def waitFor (predicate : StampedExchange → Bool) (timeout : Int) :
    Checked Act (Option StampedExchange) := do
  let latest ← Checked.lift (.act .stampedExchange)
  waitForExchangeAfter latest.count predicate timeout

def setCommandAndWaitForExchange (command : GripperCommand) (timeout : Int) :
    Checked Act (Option StampedExchange) := do
  let before ← Checked.lift (.act .stampedExchange)
  Checked.lift (.act (.setCommand command))
  waitForExchangeAfter before.count (fun exchange => exchange.command = command) timeout

/-- The deprecated `waitFor`. The caller's predicate and the platform's sleep are not the
    library's to check, and the loop between them only compares. -/
def waitForPolling {σ : Type} (predicate : σ → Prog Act (Bool × σ))
    (sleepFor : Int → Prog Act Unit) (pollPeriod : Int) (s : σ) (timeout : Int) :
    Checked Act Bool := do
  let now ← Checked.lift (.act .now)
  let deadline ← Checked.op (dueAt timeout now)
  Checked.lift (pollUntil predicate sleepFor deadline pollPeriod s)

def remaining (deadline : Time) : Checked Act Int := do
  let now ← Checked.lift (.act .now)
  Checked.op (millisLeft deadline now)

def waitForStatus (predicate : GripperStatus → Bool) (deadline : Time) :
    Checked Act (Option StampedExchange) := do
  let left ← remaining deadline
  waitFor (fun exchange => predicate exchange.status) left

def waitOperational (deadline : Time) : Checked Act (Option StampedExchange) :=
  waitForStatus (fun _ => true) deadline

def waitForActivationComplete (deadline : Time) : Checked Act ActivationResult := do
  let exchange ← waitForStatus
    (fun status => status.gripperStatus.activationState = .complete) deadline
  pure (if exchange.isSome then .activated else .timeout)

def isActivationHandshakeAllowed (deadline : Time) (timeout : Int) : Checked Act Bool := do
  let now ← Checked.lift (.act .now)
  Checked.op (halfLeft timeout deadline now)

def runActivationHandshake (deadline : Time) : Checked Act ActivationResult := do
  let previousCommand ← Checked.lift (.act .command)
  Checked.lift (.act (.setCommand (deactivateCommand previousCommand)))
  let cleared ← waitForStatus (fun status => !status.gripperStatus.activated) deadline
  match cleared with
  | none => do
    Checked.lift (.act (.setCommand previousCommand))
    pure .timeout
  | some _ => do
    Checked.lift (.act (.setCommand (activateCommand previousCommand)))
    waitForActivationComplete deadline

def activate (timeout : Int) : Checked Act ActivationResult := do
  let now ← Checked.lift (.act .now)
  let deadline ← Checked.op (dueAt timeout now)
  let fresh ← waitOperational deadline
  match fresh with
  | none => pure .timeout
  | some fresh =>
    let status := fresh.status
    if severity status.faultStatus.gripperFault = .major then pure .faultLatched
    else if status.gripperStatus.activationState = .complete then pure .alreadyActive
    else if status.gripperStatus.activationState = .inProgress then
      waitForActivationComplete deadline
    else do
      let allowed ← isActivationHandshakeAllowed deadline timeout
      if allowed then runActivationHandshake deadline else pure .timeout

def recoverFromFault (timeout : Int) : Checked Act ActivationResult := do
  let now ← Checked.lift (.act .now)
  let deadline ← Checked.op (dueAt timeout now)
  let fresh ← waitOperational deadline
  match fresh with
  | none => pure .timeout
  | some _ => do
    let allowed ← isActivationHandshakeAllowed deadline timeout
    if allowed then runActivationHandshake deadline else pure .timeout

end Machine

/-! ## Every call with a timeout -/

inductive BlockingCall : Type 1 where
  | waitForExchange
  | waitForExchangeCount (desired : Nat)
  | waitFor (predicate : StampedExchange → Bool)
  | waitForPositionEcho (position : Byte)
  | waitForObjectDetection (detection : ObjectDetection)
  | waitForMotionEnd
  | setCommandAndWaitForExchange (command : GripperCommand)
  | activate
  | recoverFromFault
  /-- The deprecated `waitFor(predicate, platform, timeout, pollPeriod)`. -/
  | waitForPolling {σ : Type} (predicate : σ → Prog Act (Bool × σ))
      (sleepFor : Int → Prog Act Unit) (pollPeriod : Int) (s : σ)
  /-- The deprecated `waitFor(predicate, timeout, pollPeriod)` of a hosted build. -/
  | waitForPollingHosted {σ : Type} (predicate : σ → Prog Act (Bool × σ)) (pollPeriod : Int)
      (s : σ)

namespace BlockingCall

def Result : BlockingCall → Type
  | .activate | .recoverFromFault => ActivationResult
  | .waitForPolling .. | .waitForPollingHosted .. => Bool
  | _ => Option StampedExchange

/-- The call in unbounded integers. -/
def prog : (call : BlockingCall) → Int → Prog Act call.Result
  | .waitForExchange => GripperDriver.waitForExchange
  | .waitForExchangeCount desired => GripperDriver.waitForExchangeCount desired
  | .waitFor predicate => GripperDriver.waitFor predicate
  | .waitForPositionEcho position => GripperDriver.waitForPositionEcho position
  | .waitForObjectDetection detection => GripperDriver.waitForObjectDetection detection
  | .waitForMotionEnd => GripperDriver.waitForMotionEnd
  | .setCommandAndWaitForExchange command => GripperDriver.setCommandAndWaitForExchange command
  | .activate => GripperDriver.activate
  | .recoverFromFault => GripperDriver.recoverFromFault
  | .waitForPolling predicate sleepFor pollPeriod s =>
      GripperDriver.waitForPolling predicate sleepFor pollPeriod s
  | .waitForPollingHosted predicate pollPeriod s =>
      GripperDriver.waitForPollingHosted predicate pollPeriod s

/-- The call in the integers of the machine. -/
def machine : (call : BlockingCall) → Int → Checked Act call.Result
  | .waitForExchange => Machine.waitForExchange
  | .waitForExchangeCount desired => Machine.waitForExchangeCount desired
  | .waitFor predicate => Machine.waitFor predicate
  | .waitForPositionEcho position =>
      Machine.waitFor fun exchange => exchange.status.positionRequestEcho = position
  | .waitForObjectDetection detection =>
      Machine.waitFor fun exchange => exchange.status.gripperStatus.objectDetection = detection
  | .waitForMotionEnd =>
      Machine.waitFor fun exchange => exchange.status.gripperStatus.objectDetection ≠ .moving
  | .setCommandAndWaitForExchange command => Machine.setCommandAndWaitForExchange command
  | .activate => Machine.activate
  | .recoverFromFault => Machine.recoverFromFault
  | .waitForPolling predicate sleepFor pollPeriod s =>
      Machine.waitForPolling predicate sleepFor pollPeriod s
  | .waitForPollingHosted predicate pollPeriod s =>
      Machine.waitForPolling predicate defaultSleepFor pollPeriod s

/-- The deadline of the call, made at `now`. -/
def due : BlockingCall → Int → Time → Option Time
  | .activate | .recoverFromFault | .waitForPolling .. | .waitForPollingHosted .. => Machine.dueAt
  | _ => Machine.dueAfter

/-- The deadline is that of `detail::deadlineAfter`. -/
def capped : BlockingCall → Bool
  | .activate | .recoverFromFault | .waitForPolling .. | .waitForPollingHosted .. => false
  | _ => true

end BlockingCall

/-! ## The operations that fit -/

theorem longest_eq : longest = 4611686018427 := by decide

section operations
variable {timeout now : Int}

theorem toNanos_eq (hpos : 0 ≤ timeout) (hle : timeout ≤ longest) :
    Machine.toNanos timeout = some (timeout * nanosPerMilli) := by
  rw [longest_eq] at hle
  apply fit_eq <;> unfold nanosPerMilli
  · unfold int64Min
    omega
  · unfold int64Max
    omega

theorem machine_dueAt_eq (hpos : 0 ≤ timeout) (hle : timeout ≤ longest) (hmin : int64Min ≤ now)
    (hhalf : now ≤ int64Max / 2) :
    Machine.dueAt timeout now = some (now + timeout * nanosPerMilli) := by
  unfold Machine.dueAt
  rw [toNanos_eq hpos hle]
  rw [longest_eq] at hle
  unfold int64Min int64Max nanosPerMilli at *
  apply fit_eq
  · unfold int64Min
    omega
  · unfold int64Max
    omega

/-- The cap is the uncapped deadline of a smaller timeout. -/
theorem machine_dueAfter_eq_dueAt (timeout : Int) (now : Time) :
    Machine.dueAfter timeout now = Machine.dueAt (min timeout longest) now :=
  rfl

theorem machine_dueAfter_eq (hpos : 0 ≤ timeout) (hmin : int64Min ≤ now)
    (hhalf : now ≤ int64Max / 2) :
    Machine.dueAfter timeout now = some (dueAfter timeout now) := by
  have hcap : (0 : Int) ≤ longest := by decide
  rw [machine_dueAfter_eq_dueAt]
  exact machine_dueAt_eq (le_min hpos hcap) (min_le_right _ _) hmin hhalf

theorem machine_ceilMillis_eq (hpos : 0 ≤ now) (hmax : now ≤ int64Max) :
    Machine.ceilMillis now = some (ceilMillis now) := by
  have hquotient : now.tdiv nanosPerMilli = now / nanosPerMilli :=
    Int.tdiv_eq_ediv_of_nonneg hpos
  unfold Machine.ceilMillis Machine.toNanos
  unfold int64Max at hmax
  -- widening the quotient back cannot overflow: rounding towards zero only shrinks it
  have hback : fit (now.tdiv nanosPerMilli * nanosPerMilli) =
      some (now.tdiv nanosPerMilli * nanosPerMilli) := by
    rw [hquotient]
    unfold nanosPerMilli
    apply fit_eq
    · unfold int64Min
      omega
    · unfold int64Max
      omega
  simp only [hback, Option.bind_eq_bind, Option.bind_some]
  rw [hquotient]
  unfold ceilMillis nanosPerMilli
  -- rounding up is the division of the source, plus one where it has left something over
  by_cases hlt : now / 1000000 * 1000000 < now
  · rw [if_pos hlt, fit_eq (by unfold int64Min; omega) (by unfold int64Max; omega)]
    congr 1
    omega
  · rw [if_neg hlt]
    congr 1
    omega

/-- The remaining time of a deadline that is no further off than the cap. -/
theorem machine_millisLeft_eq (deadline now : Int)
    (hle : deadline ≤ now + longest * nanosPerMilli) :
    Machine.millisLeft deadline now = some (millisLeft deadline now) := by
  unfold Machine.millisLeft millisLeft
  rw [longest_eq] at hle
  unfold nanosPerMilli at hle
  by_cases hlt : now < deadline
  · rw [if_pos hlt, if_pos hlt, fit_eq (by unfold int64Min; omega) (by unfold int64Max; omega)]
    exact machine_ceilMillis_eq (by omega) (by unfold int64Max; omega)
  · rw [if_neg hlt, if_neg hlt]

theorem machine_halfLeft_eq (deadline now : Int) (hpos : 0 ≤ timeout) (hcap : timeout ≤ longest)
    (hle : deadline ≤ now + longest * nanosPerMilli) (hspan : now - deadline ≤ int64Max) :
    Machine.halfLeft timeout deadline now =
      some (decide (timeout.tdiv 2 * nanosPerMilli ≤ deadline - now)) := by
  have hhalf : timeout.tdiv 2 = timeout / 2 := Int.tdiv_eq_ediv_of_nonneg hpos
  have hnanos : Machine.toNanos (timeout.tdiv 2) = some (timeout.tdiv 2 * nanosPerMilli) := by
    rw [hhalf]
    exact toNanos_eq (by omega) (by omega)
  -- the deadline is at most the cap away, and no more than a duration in the past
  have hleft : fit (deadline - now) = some (deadline - now) := by
    rw [longest_eq] at hle
    unfold int64Max nanosPerMilli at *
    apply fit_eq
    · unfold int64Min
      omega
    · unfold int64Max
      omega
  unfold Machine.halfLeft
  rw [hleft, hnanos]
  rfl

end operations

/-! ## The calls agree -/

/-- Anything may happen around a call, as long as the clock comes no further than `hi`. -/
def Before (hi : Time) : Label → Prop
  | .tick t => t ≤ hi
  | _ => True

/-- Between these lie the clock readings of a call: in the lower half of the range, and no
    further apart than a duration can say. -/
structure Span (lo hi : Int) : Prop where
  min : int64Min ≤ lo
  half : hi ≤ int64Max / 2
  apart : hi - lo ≤ int64Max

section agreement
variable {dev : Device} {lo hi t timeout : Int}

/-- The clock has come to `t`. -/
def Clock (dev : Device) (hi t : Int) (w : World dev) : Prop := t ≤ w.now ∧ w.now ≤ hi

theorem clock_stable (dev : Device) (hi t : Int) : Stable (thread (Before hi)) (Clock dev hi t) := by
  intro w w' hclock henv
  obtain ⟨l, hl, hstep⟩ := henv
  cases move_of_step hstep with
  | tick t' hle => exact ⟨le_trans hclock.1 hle, hl⟩
  | _ => exact hclock

/-- An action that takes no time. -/
theorem lift_agrees {α : Type} {a : Act α} (h : ∀ w : World dev, (Act.run w a).2.now = w.now) :
    Agrees (thread (Before hi)) (Clock dev hi t) (Checked.lift (.act a)) (.act a)
      (fun _ => Clock dev hi t) := by
  refine Agrees.lift (I := fun _ => True) (act_triple (clock_stable dev hi t) (fun _ _ => trivial) ?_)
  intro w hw
  exact ⟨(h w).symm ▸ hw.1, (h w).symm ▸ hw.2⟩

theorem now_agrees : Agrees (thread (Before hi)) (Clock dev hi t)
    (Checked.lift (.act .now)) (.act .now)
    (fun now w => (t ≤ now ∧ now ≤ hi) ∧ Clock dev hi now w) := by
  refine Agrees.lift (I := fun _ => True) (act_triple (clock_stable dev hi t) (fun _ _ => trivial) ?_)
  intro w hw
  exact ⟨hw, le_rfl, hw.2⟩

/-- A program after a clock reading. -/
theorem read_agrees {β : Type} {k : Time → Checked Act β} {l : Time → Prog Act β}
    {Q : β → World dev → Prop}
    (h : ∀ now : Int, t ≤ now → now ≤ hi →
      Agrees (thread (Before hi)) (Clock dev hi now) (k now) (l now) Q) :
    Agrees (thread (Before hi)) (Clock dev hi t) (Checked.lift (.act .now) >>= k)
      (.act .now >>= l) Q := by
  refine now_agrees.bind fun now => Agrees.given (fun _ hw => hw.1) ?_
  intro hnow
  exact (h now hnow.1 hnow.2).conseq (fun _ hw => hw.2) fun _ _ hq => hq

/-- A deadline of the cap is no further off than the cap, now and later. -/
theorem deadlineAfter_agrees (h : Span lo hi) (hlo : lo ≤ t) (hpos : 0 ≤ timeout) :
    Agrees (thread (Before hi)) (Clock dev hi t) (Machine.deadlineAfter timeout)
      (deadlineAfter timeout)
      (fun deadline => Clock dev hi (max t (deadline - longest * nanosPerMilli))) := by
  apply read_agrees
  intro now ht hnow
  have hmin := le_trans h.min (le_trans hlo ht)
  rw [machine_dueAfter_eq hpos hmin (le_trans hnow h.half)]
  refine Agrees.pure fun w hw => ⟨max_le (le_trans ht hw.1) ?_, hw.2⟩
  -- the clock was read before: seen from any later reading, the deadline has only come closer
  have hcap : min timeout longest * nanosPerMilli ≤ longest * nanosPerMilli :=
    Int.mul_le_mul_of_nonneg_right (min_le_right _ _) (by decide)
  unfold dueAfter
  have := hw.1
  omega

theorem waitForExchangeCount_agrees (h : Span lo hi) (hlo : lo ≤ t) (desired : Nat)
    (hpos : 0 ≤ timeout) :
    Agrees (thread (Before hi)) (Clock dev hi t)
      (Machine.waitForExchangeCount desired timeout) (waitForExchangeCount desired timeout)
      (fun _ => Clock dev hi t) := by
  apply (deadlineAfter_agrees h hlo hpos).bind
  intro deadline
  have hwait := waitForExchangeUntil_triple (I := fun _ => True) desired deadline
    (clock_stable dev hi (max t (deadline - longest * nanosPerMilli))) fun _ _ => trivial
  refine (Agrees.lift hwait).bind fun fresh => Agrees.pure ?_
  intro w hw
  exact ⟨le_trans (le_max_left _ _) hw.1.1, hw.1.2⟩

/-- One turn of the loop, towards a deadline that is no further off than the cap. -/
theorem waitTurn_agrees (h : Span lo hi) (hlo : lo ≤ t) (predicate : StampedExchange → Bool)
    {deadline : Int} (hdeadline : deadline ≤ t + longest * nanosPerMilli) (desired : Nat) :
    Agrees (thread (Before hi)) (Clock dev hi t)
      (Machine.waitTurn predicate deadline desired) (waitTurn predicate deadline desired)
      (fun _ => Clock dev hi t) := by
  apply read_agrees
  intro now ht hnow
  have hleft := machine_millisLeft_eq deadline now (by omega)
  refine Agrees.op hleft ?_
  refine (waitForExchangeCount_agrees h (le_trans hlo ht) desired
    (millisLeft_nonneg deadline now)).bind fun exchange => ?_
  -- what is known at the second reading is known from the first one on
  have hlater : ∀ w : World dev, Clock dev hi now w → Clock dev hi t w :=
    fun w hw => ⟨le_trans ht hw.1, hw.2⟩
  cases exchange with
  | none => exact Agrees.pure hlater
  | some r => exact Agrees.ite (fun _ => Agrees.pure hlater) fun _ => Agrees.pure hlater

theorem waitForExchangeAfter_agrees (h : Span lo hi) (hlo : lo ≤ t) (afterCount : Nat)
    (predicate : StampedExchange → Bool) (hpos : 0 ≤ timeout) :
    Agrees (thread (Before hi)) (Clock dev hi t)
      (Machine.waitForExchangeAfter afterCount predicate timeout)
      (waitForExchangeAfter afterCount predicate timeout) (fun _ => Clock dev hi t) := by
  apply (deadlineAfter_agrees h hlo hpos).bind
  intro deadline
  -- the loop keeps the clock within the cap of the deadline, so every turn can subtract
  refine Agrees.iter
    (J := fun _ => Clock dev hi (max t (deadline - longest * nanosPerMilli)))
    (fun desired => ?_) (afterCount + 1)
  have hnear : deadline ≤ max t (deadline - longest * nanosPerMilli) + longest * nanosPerMilli :=
    Int.le_add_of_sub_right_le (le_max_right t (deadline - longest * nanosPerMilli))
  refine (waitTurn_agrees h (le_trans hlo (le_max_left _ _)) predicate hnear desired).conseq
    (fun _ hw => hw) ?_
  intro r w hw
  cases r with
  | inl desired' => exact hw
  | inr answer => exact ⟨le_trans (le_max_left _ _) hw.1, hw.2⟩

theorem waitFor_agrees (h : Span lo hi) (hlo : lo ≤ t) (predicate : StampedExchange → Bool)
    (hpos : 0 ≤ timeout) :
    Agrees (thread (Before hi)) (Clock dev hi t) (Machine.waitFor predicate timeout)
      (waitFor predicate timeout) (fun _ => Clock dev hi t) :=
  (lift_agrees fun _ => rfl).bind fun latest =>
    waitForExchangeAfter_agrees h hlo latest.count predicate hpos

theorem setCommandAndWaitForExchange_agrees (h : Span lo hi) (hlo : lo ≤ t)
    (command : GripperCommand) (hpos : 0 ≤ timeout) :
    Agrees (thread (Before hi)) (Clock dev hi t)
      (Machine.setCommandAndWaitForExchange command timeout)
      (setCommandAndWaitForExchange command timeout) (fun _ => Clock dev hi t) := by
  apply (lift_agrees fun _ => rfl).bind
  intro before
  apply (lift_agrees fun _ => rfl).bind
  intro _
  exact waitForExchangeAfter_agrees h hlo before.count _ hpos

/-- The predicate and the sleep are programs of any kind: only time passes in them. -/
theorem prog_agrees {α : Type} (p : Prog Act α) :
    Agrees (thread (Before hi)) (Clock dev hi t) (Checked.lift p) p (fun _ => Clock dev hi t) := by
  refine Agrees.lift (Triple.keeps (clock_stable dev hi t) ?_ p)
  intro β a w r w' hw hrun
  have hnow := a.run_now w
  have hrun : Act.run w a = (r, w') := hrun
  rw [hrun] at hnow
  exact ⟨hnow.symm ▸ hw.1, hnow.symm ▸ hw.2⟩

theorem waitForPolling_agrees {σ : Type} (h : Span lo hi) (hlo : lo ≤ t)
    (predicate : σ → Prog Act (Bool × σ)) (sleepFor : Int → Prog Act Unit) (pollPeriod : Int)
    (s : σ) (hpos : 0 ≤ timeout) (hcap : timeout ≤ longest) :
    Agrees (thread (Before hi)) (Clock dev hi t)
      (Machine.waitForPolling predicate sleepFor pollPeriod s timeout)
      (waitForPolling predicate sleepFor pollPeriod s timeout) (fun _ _ => True) := by
  apply read_agrees
  intro now ht hnow
  have hmin := le_trans h.min (le_trans hlo ht)
  refine Agrees.op (machine_dueAt_eq hpos hcap hmin (le_trans hnow h.half)) ?_
  exact (prog_agrees _).conseq (fun _ hw => hw) fun _ _ _ => trivial

/-! ### The procedures -/

variable {deadline : Int}

theorem waitForStatus_agrees (h : Span lo hi) (hlo : lo ≤ t) (predicate : GripperStatus → Bool)
    (hdeadline : deadline ≤ t + longest * nanosPerMilli) :
    Agrees (thread (Before hi)) (Clock dev hi t)
      (Machine.waitForStatus predicate deadline) (waitForStatus predicate deadline)
      (fun _ => Clock dev hi t) := by
  have hremaining : Agrees (thread (Before hi)) (Clock dev hi t)
      (Machine.remaining deadline) (remaining deadline)
      (fun left w => 0 ≤ left ∧ Clock dev hi t w) := by
    apply read_agrees
    intro now ht hnow
    rw [machine_millisLeft_eq deadline now (by omega)]
    exact Agrees.pure fun w hw => ⟨millisLeft_nonneg _ _, le_trans ht hw.1, hw.2⟩
  refine hremaining.bind fun left => Agrees.given (fun _ hw => hw.1) fun hpos => ?_
  exact (waitFor_agrees h hlo _ hpos).conseq (fun _ hw => hw.2) fun _ _ hw => hw

theorem waitForActivationComplete_agrees (h : Span lo hi) (hlo : lo ≤ t)
    (hdeadline : deadline ≤ t + longest * nanosPerMilli) :
    Agrees (thread (Before hi)) (Clock dev hi t)
      (Machine.waitForActivationComplete deadline) (waitForActivationComplete deadline)
      (fun _ => Clock dev hi t) :=
  (waitForStatus_agrees h hlo _ hdeadline).bind fun _ => Agrees.pure fun _ hw => hw

theorem runActivationHandshake_agrees (h : Span lo hi) (hlo : lo ≤ t)
    (hdeadline : deadline ≤ t + longest * nanosPerMilli) :
    Agrees (thread (Before hi)) (Clock dev hi t)
      (Machine.runActivationHandshake deadline) (runActivationHandshake deadline)
      (fun _ => Clock dev hi t) := by
  apply (lift_agrees fun _ => rfl).bind
  intro previousCommand
  apply (lift_agrees fun _ => rfl).bind
  intro _
  -- rACT has been cleared and read back, or the wait for that has timed out
  apply (waitForStatus_agrees h hlo _ hdeadline).bind
  intro cleared
  cases cleared with
  | none => exact (lift_agrees fun _ => rfl).bind fun _ => Agrees.pure fun _ hw => hw
  | some r =>
    apply (lift_agrees fun _ => rfl).bind
    intro _
    exact waitForActivationComplete_agrees h hlo hdeadline

/-- The half-timeout test and what follows it. -/
theorem allowedHandshake_agrees (h : Span lo hi) (hlo : lo ≤ t) (hpos : 0 ≤ timeout)
    (hcap : timeout ≤ longest) (hdeadline : deadline ≤ t + longest * nanosPerMilli)
    (hstart : lo ≤ deadline) :
    Agrees (thread (Before hi)) (Clock dev hi t)
      (do
        let allowed ← Machine.isActivationHandshakeAllowed deadline timeout
        if allowed then Machine.runActivationHandshake deadline else pure .timeout)
      (do
        let allowed ← isActivationHandshakeAllowed deadline timeout
        if allowed then runActivationHandshake deadline else pure .timeout)
      (fun _ => Clock dev hi t) := by
  have hallowed : Agrees (thread (Before hi)) (Clock dev hi t)
      (Machine.isActivationHandshakeAllowed deadline timeout)
      (isActivationHandshakeAllowed deadline timeout) (fun _ => Clock dev hi t) := by
    apply read_agrees
    intro now ht hnow
    -- the test subtracts without a guard: the clock may have passed the deadline
    have := h.apart
    rw [machine_halfLeft_eq deadline now hpos hcap (by omega) (by omega)]
    exact Agrees.pure fun w hw => ⟨le_trans ht hw.1, hw.2⟩
  apply hallowed.bind
  intro allowed
  exact Agrees.ite (fun _ => runActivationHandshake_agrees h hlo hdeadline)
    fun _ => Agrees.pure fun _ hw => hw

/-- The start that `activate` and `recoverFromFault` share, once they have read the clock: the
    deadline, and the first record before it. -/
theorem operational_agrees (h : Span lo hi) {now : Int} (hlo : lo ≤ now) (hnow : now ≤ hi)
    (hpos : 0 ≤ timeout) (hcap : timeout ≤ longest)
    {k : Time → Option StampedExchange → Checked Act ActivationResult}
    {l : Option StampedExchange → Prog Act ActivationResult}
    (hnext : ∀ deadline : Int, deadline = now + timeout * nanosPerMilli → lo ≤ deadline →
      deadline ≤ now + longest * nanosPerMilli → ∀ fresh,
        Agrees (thread (Before hi)) (Clock dev hi now) (k deadline fresh) (l fresh)
          (fun _ _ => True)) :
    Agrees (thread (Before hi)) (Clock dev hi now)
      (do
        let deadline ← Checked.op (Machine.dueAt timeout now)
        let fresh ← Machine.waitOperational deadline
        k deadline fresh)
      (do
        let fresh ← waitOperational (now + timeout * nanosPerMilli)
        l fresh)
      (fun _ _ => True) := by
  refine Agrees.op (machine_dueAt_eq hpos hcap (le_trans h.min hlo) (le_trans hnow h.half)) ?_
  -- the timeout is no longer than the cap, so neither is the way to its deadline
  have hwiden : timeout * nanosPerMilli ≤ longest * nanosPerMilli :=
    Int.mul_le_mul_of_nonneg_right hcap (by decide)
  have hdeadline : now + timeout * nanosPerMilli ≤ now + longest * nanosPerMilli :=
    Int.add_le_add_left hwiden now
  have hlate : lo ≤ now + timeout * nanosPerMilli :=
    le_trans hlo (Int.le_add_of_nonneg_right (Int.mul_nonneg hpos (by decide)))
  apply (waitForStatus_agrees h hlo _ hdeadline).bind
  exact hnext _ rfl hlate hdeadline

theorem activate_agrees (h : Span lo hi) (hlo : lo ≤ t) (hpos : 0 ≤ timeout)
    (hcap : timeout ≤ longest) :
    Agrees (thread (Before hi)) (Clock dev hi t) (Machine.activate timeout)
      (activate timeout) (fun _ _ => True) := by
  apply read_agrees
  intro now ht hnow
  have hfrom : lo ≤ now := le_trans hlo ht
  apply operational_agrees h hfrom hnow hpos hcap
  rintro _ rfl hlate hdeadline fresh
  cases fresh with
  | none => exact Agrees.pure fun _ _ => trivial
  | some r =>
    -- a fault is latched, or the gripper is active already
    apply Agrees.ite (fun _ => Agrees.pure fun _ _ => trivial)
    intro _
    apply Agrees.ite (fun _ => Agrees.pure fun _ _ => trivial)
    intro _
    -- it is being activated, or the handshake has to be run
    refine Agrees.ite (fun _ => ?_) fun _ => ?_
    · exact (waitForActivationComplete_agrees h hfrom hdeadline).conseq (fun _ hw => hw)
        fun _ _ _ => trivial
    · exact (allowedHandshake_agrees h hfrom hpos hcap hdeadline hlate).conseq (fun _ hw => hw)
        fun _ _ _ => trivial

theorem recoverFromFault_agrees (h : Span lo hi) (hlo : lo ≤ t) (hpos : 0 ≤ timeout)
    (hcap : timeout ≤ longest) :
    Agrees (thread (Before hi)) (Clock dev hi t) (Machine.recoverFromFault timeout)
      (recoverFromFault timeout) (fun _ _ => True) := by
  apply read_agrees
  intro now ht hnow
  have hfrom : lo ≤ now := le_trans hlo ht
  apply operational_agrees h hfrom hnow hpos hcap
  rintro _ rfl hlate hdeadline fresh
  cases fresh with
  | none => exact Agrees.pure fun _ _ => trivial
  | some r =>
    exact (allowedHandshake_agrees h hfrom hpos hcap hdeadline hlate).conseq (fun _ hw => hw)
      fun _ _ _ => trivial

/-- **The machine computes what the integers do**, on every call that caps its timeout and
    on every timeout below the cap. -/
theorem BlockingCall.agrees (call : BlockingCall) (h : Span lo hi) (hpos : 0 ≤ timeout)
    (hcap : call.capped = true ∨ timeout ≤ longest) :
    Agrees (thread (Before hi)) (Clock dev hi lo) (call.machine timeout)
      (call.prog timeout) (fun _ _ => True) := by
  -- only the procedures and the polling forms need the bound
  have hcapped : call.capped = false → timeout ≤ longest := by
    intro huncapped
    rcases hcap with hc | hle
    · rw [huncapped] at hc
      cases hc
    · exact hle
  cases call with
  | waitForExchange =>
    apply (lift_agrees fun _ => rfl).bind
    intro latest
    exact (waitForExchangeCount_agrees h le_rfl _ hpos).conseq (fun _ hw => hw)
      fun _ _ _ => trivial
  | waitForExchangeCount desired =>
    exact (waitForExchangeCount_agrees h le_rfl desired hpos).conseq (fun _ hw => hw)
      fun _ _ _ => trivial
  | setCommandAndWaitForExchange command =>
    exact (setCommandAndWaitForExchange_agrees h le_rfl command hpos).conseq (fun _ hw => hw)
      fun _ _ _ => trivial
  | activate => exact activate_agrees h le_rfl hpos (hcapped rfl)
  | recoverFromFault => exact recoverFromFault_agrees h le_rfl hpos (hcapped rfl)
  | waitForPolling predicate sleepFor pollPeriod s =>
    exact waitForPolling_agrees h le_rfl predicate sleepFor pollPeriod s hpos (hcapped rfl)
  | waitForPollingHosted predicate pollPeriod s =>
    exact waitForPolling_agrees h le_rfl predicate defaultSleepFor pollPeriod s hpos (hcapped rfl)
  -- the others are `waitFor` with a predicate of their own
  | _ => exact (waitFor_agrees h le_rfl _ hpos).conseq (fun _ hw => hw) fun _ _ _ => trivial

end agreement

/-! ## Which calls are safe -/

/-- The deadlines of a call with a given timeout are safe, whatever happens around it. -/
structure DeadlineSafe (call : BlockingCall) (timeout : Int) : Prop where
  /-- No operation overflows; the call does what it does in unbounded integers. -/
  agrees : ∀ (dev : Device) (lo hi : Int), Span lo hi →
    ∀ (w w' : World dev) (o : Option call.Result), lo ≤ w.now → w.now ≤ hi →
      Runs (thread (Before hi)) (call.machine timeout).run w (some o) w' →
      ∃ a, o = some a ∧ Runs (thread (Before hi)) (call.prog timeout) w (some a) w'
  /-- The deadline is after the current time. -/
  later : ∀ now : Int, int64Min ≤ now → now ≤ int64Max / 2 →
    ∃ deadline : Int, call.due timeout now = some deadline ∧ (0 < timeout → now < deadline)
  /-- It is not before that of a smaller timeout. -/
  mono : ∀ now timeout' : Int, int64Min ≤ now → now ≤ int64Max / 2 → 0 ≤ timeout' →
    timeout' ≤ timeout → ∀ deadline' deadline : Int, call.due timeout' now = some deadline' →
      call.due timeout now = some deadline → deadline' ≤ deadline

section due
variable {timeout now : Int}

theorem machine_dueAt_later (hpos : 0 ≤ timeout) (hcap : timeout ≤ longest)
    (hmin : int64Min ≤ now) (hhalf : now ≤ int64Max / 2) :
    ∃ deadline : Int, Machine.dueAt timeout now = some deadline ∧ (0 < timeout → now < deadline) := by
  refine ⟨_, machine_dueAt_eq hpos hcap hmin hhalf, ?_⟩
  intro hlt
  exact Int.lt_add_of_pos_right _ (Int.mul_pos hlt (by decide))

theorem machine_dueAt_some {deadline : Int} (h : Machine.dueAt timeout now = some deadline) :
    deadline = now + timeout * nanosPerMilli ∧ deadline ≤ int64Max := by
  unfold Machine.dueAt Machine.toNanos fit at h
  by_cases hns : int64Min ≤ timeout * nanosPerMilli ∧ timeout * nanosPerMilli ≤ int64Max
  · -- the widening fits: then it is up to the sum
    simp only [if_pos hns, Option.bind_eq_bind, Option.bind_some] at h
    by_cases hsum : int64Min ≤ now + timeout * nanosPerMilli ∧
        now + timeout * nanosPerMilli ≤ int64Max
    · rw [if_pos hsum] at h
      cases h
      exact ⟨rfl, hsum.2⟩
    · rw [if_neg hsum] at h
      cases h
  · simp only [if_neg hns, Option.bind_eq_bind, Option.bind_none] at h
    cases h

theorem machine_dueAt_mono {timeout' deadline' deadline : Int} (hle : timeout' ≤ timeout)
    (h' : Machine.dueAt timeout' now = some deadline')
    (h : Machine.dueAt timeout now = some deadline) : deadline' ≤ deadline := by
  rw [(machine_dueAt_some h').1, (machine_dueAt_some h).1]
  exact Int.add_le_add_left (Int.mul_le_mul_of_nonneg_right hle (by decide)) now

/-- A call's deadline is that of an uncapped call with a timeout of its own. -/
theorem BlockingCall.due_eq (call : BlockingCall) (timeout : Int) (now : Time) :
    call.due timeout now =
      Machine.dueAt (if call.capped then min timeout longest else timeout) now := by
  cases call <;> rfl

end due

/-- **Exactly which calls are safe**: those whose deadline is capped, and the others
    (`activate`, `recoverFromFault` and the polling forms of `waitFor`) with a timeout that
    the cap would leave as it is. -/
theorem deadlines_safe_iff (call : BlockingCall) {timeout : Int} (hpos : 0 ≤ timeout) :
    DeadlineSafe call timeout ↔ call.capped = true ∨ timeout ≤ longest := by
  constructor
  · intro h
    by_contra hunsafe
    obtain ⟨huncapped, hlt⟩ := not_or.mp hunsafe
    -- at the end of the lower half, the sum is past the largest time point
    obtain ⟨deadline, hdue, _⟩ := h.later (int64Max / 2) (by decide) le_rfl
    rw [call.due_eq, if_neg huncapped] at hdue
    obtain ⟨rfl, hle⟩ := machine_dueAt_some hdue
    rw [longest_eq] at hlt
    unfold int64Max nanosPerMilli at hle
    omega
  · intro hcap
    have hlongest : (0 : Int) ≤ longest := by decide
    refine { agrees := ?_, later := ?_, mono := ?_ }
    · -- no operation overflows
      intro dev lo hi hspan w w' o hlo hhi hrun
      obtain ⟨a, ho, hprog, _⟩ := call.agrees hspan hpos hcap w w' o ⟨hlo, hhi⟩ hrun
      exact ⟨a, ho, hprog⟩
    · -- the deadline exists, and is later
      intro now hmin hhalf
      rw [call.due_eq]
      by_cases hcapped : call.capped = true
      · rw [if_pos hcapped]
        obtain ⟨deadline, hdue, hlater⟩ :=
          machine_dueAt_later (le_min hpos hlongest) (min_le_right _ _) hmin hhalf
        exact ⟨deadline, hdue, fun hlt => hlater (lt_min hlt (by decide))⟩
      · rw [if_neg hcapped]
        exact machine_dueAt_later hpos (hcap.resolve_left hcapped) hmin hhalf
    · -- it grows with the timeout
      intro now timeout' hmin hhalf hpos' hle deadline' deadline hdue' hdue
      rw [call.due_eq] at hdue' hdue
      refine machine_dueAt_mono ?_ hdue' hdue
      by_cases hcapped : call.capped = true
      · rw [if_pos hcapped, if_pos hcapped]
        exact min_le_min_right _ hle
      · rw [if_neg hcapped, if_neg hcapped]
        exact hle

/-- `waitFor` with `std::chrono::milliseconds::max()`. -/
theorem deadlines_safe_forever : DeadlineSafe .waitForMotionEnd int64Max :=
  (deadlines_safe_iff .waitForMotionEnd (by decide)).mpr (.inl rfl)

/-- **The procedures overflow**: `activate` with `std::chrono::milliseconds::max()`, called as
    the clock reads zero, stops at the computation of its deadline. -/
theorem activate_overflows :
    Runs (thread (Before (int64Max / 2))) (Machine.activate int64Max).run makeFakeGripper
      (some none) makeFakeGripper ∧ ¬ DeadlineSafe .activate int64Max := by
  have hrun : Runs (thread (Before (int64Max / 2))) (Machine.activate int64Max).run
      makeFakeGripper (some none) makeFakeGripper := by
    refine runs_bind (runs_bind (runs_act .refl rfl) runs_pure) ?_
    exact runs_bind (a := none) runs_pure runs_pure
  refine ⟨hrun, ?_⟩
  intro hsafe
  obtain ⟨a, ho, _⟩ := hsafe.agrees _ 0 (int64Max / 2) ⟨by decide, le_rfl, by decide⟩ _ _ _
    (by decide) (by decide) hrun
  cases ho

end GripperDriver

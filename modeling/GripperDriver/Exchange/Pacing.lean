import GripperDriver.Exchange.Throttle
import GripperDriver.Exchange.World
import GripperDriver.Framework.Pacing
import GripperDriver.Framework.Program
import Mathlib.Algebra.Order.Ring.Int

/-! # The Pace of the Exchange Cycle

    The body of the exchange thread: one exchange a cycle, a throttled line for
    a cycle that failed, and a sleep until the next slot.

    * `exchangeLoop`: the thread that `GripperState::start` spawns, over any
      platform's `sleepUntil`,
    * `StdPlatform.sleepUntil`: the sleep of a hosted platform,
    * `WellPaced`: no bursts and no drift,
    * `exchangeLoop_paced`: every run of the loop is well paced at every point.
-/

namespace GripperDriver

open Interleaving Relation

/-! ## The loop -/

/-- What the loop has done: the values that `nextCycle` has taken, when each exchange
    started, and the clock reading that ended each cycle. History only. -/
structure PaceHistory where
  slots : List Time := []
  starts : List Time := []
  finishes : List Time := []
  deriving DecidableEq, Repr

/-- What comes of arming a waitable timer of Windows and waiting for it. -/
inductive TimerAnswer where
  /-- `SetWaitableTimer` fails. -/
  | refused
  /-- `WaitForSingleObject` returns anything but `WAIT_OBJECT_0`. -/
  | failed
  | signalled
  deriving DecidableEq, Repr

inductive PaceAct : Type → Type where
  /-- `_running.load()`. -/
  | running : PaceAct Bool
  /-- `std::chrono::steady_clock::now()`. -/
  | now : PaceAct Time
  /-- `exchangeOnce` is entered. -/
  | begin : PaceAct Unit
  /-- It returns or throws; what is thrown may be no `std::exception`, and has no text. -/
  | exchange : PaceAct (Except (Option String) Unit)
  | log (line : LogLine) : PaceAct Unit
  /-- `std::this_thread::sleep_for`. -/
  | sleepFor (remaining : Time) : PaceAct Unit
  /-- `SetWaitableTimer`, and `WaitForSingleObject` where it has armed the timer. -/
  | waitTimer (dueTime : Int) : PaceAct TimerAnswer
  /-- The history is brought up to date. -/
  | record (update : PaceHistory → PaceHistory) : PaceAct Unit

/-- Nanoseconds in a `std::chrono::microseconds(1)`. -/
def nanosPerMicro : Int := 1000

def cycleFailed : Option String → LogLine
  | some what => { level := .warn, message := "exchange cycle failed: " ++ what }
  | none => { level := .warn, message := "exchange cycle failed: unknown exception" }

/-- The two `catch` clauses of the loop. -/
def reportFailure (throttle : Throttle) : Except (Option String) Unit → Prog PaceAct Throttle
  | .ok () => pure throttle
  | .error what => do
    let now ← .act .now
    if (throttle.executeIfAllowed now).1 then do
      .act (.log (cycleFailed what))
      pure (throttle.executeIfAllowed now).2
    else pure (throttle.executeIfAllowed now).2

section loop
variable (sleepUntil : Time → Prog PaceAct Unit)

/-- One turn of the loop. -/
def exchangeTurn (period : Time) (state : Time × Throttle) :
    Prog PaceAct ((Time × Throttle) ⊕ Unit) := do
  let (nextCycle, throttle) := state
  let running ← .act .running
  if running then do
    .act .begin
    let outcome ← .act .exchange
    let throttle ← reportFailure throttle outcome
    let now ← .act .now
    let nextCycle := max (nextCycle + period) now
    .act (.record fun h =>
      { h with slots := h.slots ++ [nextCycle], finishes := h.finishes ++ [now] })
    sleepUntil nextCycle
    pure (.inl (nextCycle, throttle))
  else pure (.inr ())

/-- The function that `GripperState::start` spawns; the period is in microseconds. -/
def exchangeLoop (period : Int) (throttle : Throttle) : Prog PaceAct Unit := do
  let nextCycle ← .act .now
  .act (.record fun h => { h with slots := h.slots ++ [nextCycle] })
  .iter (exchangeTurn sleepUntil (period * nanosPerMicro)) (nextCycle, throttle)

end loop

/-- `_failureLogThrottle` of a new `GripperState`. -/
def failureLogThrottle : Throttle := { period := 1000 }

/-- `StdPlatform::sleepUntil`, where it does not rest on a Windows timer. -/
def StdPlatform.sleepUntil (timePoint : Time) : Prog PaceAct Unit :=
  .iter (fun _ => do
    let now ← .act .now
    if 0 < timePoint - now then do
      .act (.sleepFor (timePoint - now))
      pure (.inl ())
    else pure (.inr ())) ()

/-! ## The world around it -/

structure PaceWorld where
  now : Time := 0
  history : PaceHistory := {}
  log : List LogLine := []
  deriving DecidableEq, Repr

namespace PaceWorld

/-- An exchange takes any time and ends in any way, the flag is any other thread's, a sleep
    may end early or late, and so may the wait for a timer, if it comes to one. -/
def perform : {α : Type} → PaceAct α → PaceWorld → α → PaceWorld → Prop
  | _, .running, w, _, w' => w' = w
  | _, .now, w, answer, w' => answer = w.now ∧ w' = w
  | _, .begin, w, _, w' =>
    w' = { w with history := { w.history with starts := w.history.starts ++ [w.now] } }
  | _, .exchange, w, _, w' => w' = w
  | _, .log line, w, _, w' => w' = { w with log := w.log ++ [line] }
  | _, .sleepFor _, w, _, w' => w' = w
  | _, .waitTimer _, w, _, w' => w' = w
  | _, .record update, w, _, w' => w' = { w with history := update w.history }

end PaceWorld

/-- Time passes. -/
def paceThread : Thread PaceWorld PaceAct where
  env w w' := ∃ t, w.now ≤ t ∧ w' = { w with now := t }
  perform := PaceWorld.perform

/-- It returns no earlier than its time point, and the loop goes on where it was. -/
def SleepsUntil (sleepUntil : Time → Prog PaceAct Unit) : Prop :=
  ∀ h timePoint, Triple paceThread (fun w => w.history = h) (fun w => w.history = h)
    (sleepUntil timePoint) (fun _ w => w.history = h ∧ timePoint ≤ w.now)

/-! ## No bursts, no drift -/

/-- However long earlier cycles took, no window sees more than two starts beyond its length;
    and as long as every cycle ends by its slot and a period, the slots are those of the start. -/
structure WellPaced (period : Time) (h : PaceHistory) : Prop where
  window : ∀ t length : Time, 0 ≤ length →
    (h.starts.countP (fun s => t ≤ s ∧ s ≤ t + length) : Int) ≤ length / period + 2
  slot : ∀ (k : Nat) (start slot : Time), h.slots[0]? = some start → h.slots[k]? = some slot →
    (∀ j < k, ∀ due finish : Time, h.slots[j]? = some due → h.finishes[j]? = some finish →
      finish ≤ due + period) →
    slot = start + k * period

/-- The history of these turns, of the slot of the next one, and of its start if it has
    started already. -/
def historyOf (turns : List (Turn Time)) (next : Time) (started : Option Time) : PaceHistory where
  slots := turns.map (·.slot) ++ [next]
  starts := turns.map (·.start) ++ started.toList
  finishes := turns.map (·.finish)

section pacing
variable {period origin next : Time} {turns : List (Turn Time)}

theorem le_ediv_add_two {count length period : Int} (hperiod : 0 < period)
    (h : count * period ≤ length + 2 * period) : count ≤ length / period + 2 := by
  have hmul : (count - 2) * period ≤ length := by
    rw [Int.sub_mul]
    omega
  have hdiv := Int.le_ediv_of_mul_le hperiod hmul
  omega

theorem window_of_paced (hperiod : 0 < period) (h : Paced period origin turns next)
    (t length : Time) (hlength : 0 ≤ length) :
    ((turns.map (·.start)).countP (fun s => t ≤ s ∧ s ≤ t + length) : Int) ≤
      length / period + 2 := by
  have hwindow := h.window_le hperiod.le (Int.le_add_of_nonneg_right (a := t) hlength)
  rw [add_sub_cancel_left] at hwindow
  simp only [nsmul_eq_mul, Nat.cast_ofNat] at hwindow
  rw [List.countP_map]
  exact le_ediv_add_two hperiod hwindow

theorem wellPaced_of_paced (hperiod : 0 < period) (h : Paced period origin turns next)
    {started : Option Time} (hstarted : ∀ s ∈ started, next ≤ s) :
    WellPaced period (historyOf turns next started) := by
  constructor
  · intro t length hlength
    cases started with
    | none => simpa [historyOf] using window_of_paced hperiod h t length hlength
    | some s =>
      -- count the turn under way as one that ends at once
      have hturn := Paced.turn h (hstarted s rfl) (le_refl s)
      simpa [historyOf] using window_of_paced hperiod hturn t length hlength
  · intro k start slot hstart hslot hpunctual
    have horigin : start = origin := by
      have := h.slot_of_punctual hstart (by simp)
      simpa using this
    rw [horigin, h.slot_of_punctual hslot, nsmul_eq_mul]
    intro c hc
    obtain ⟨j, hj, hget⟩ := List.mem_take_iff_getElem.mp hc
    rw [Nat.lt_min] at hj
    apply hpunctual j hj.1
    · rw [historyOf, List.getElem?_append_left (by simpa using hj.2), List.getElem?_map,
        List.getElem?_eq_getElem hj.2, hget]
      rfl
    · rw [historyOf, List.getElem?_map, List.getElem?_eq_getElem hj.2, hget]
      rfl

end pacing

/-! ## The loop is well paced -/

theorem wellPaced_nil {period : Time} (hperiod : 0 < period) : WellPaced period {} := by
  constructor
  · intro t length hlength
    have := Int.ediv_nonneg hlength hperiod.le
    simp only [List.countP_nil]
    omega
  · intro k start slot hstart
    cases hstart

/-- Between two turns, the next one due at `slot`. -/
def AtSlot (period slot : Time) (h : PaceHistory) : Prop :=
  ∃ origin turns, Paced period origin turns slot ∧ h = historyOf turns slot none

/-- In the turn that was due at `slot`, and that started at `start`. -/
def InTurn (period slot start : Time) (h : PaceHistory) : Prop :=
  slot ≤ start ∧
    ∃ origin turns, Paced period origin turns slot ∧ h = historyOf turns slot (some start)

section phases
variable {period slot start now : Time} {history : PaceHistory}

theorem AtSlot.wellPaced (hperiod : 0 < period) (h : AtSlot period slot history) :
    WellPaced period history := by
  obtain ⟨origin, turns, hpaced, rfl⟩ := h
  exact wellPaced_of_paced hperiod hpaced (by simp)

theorem InTurn.wellPaced (hperiod : 0 < period) (h : InTurn period slot start history) :
    WellPaced period history := by
  obtain ⟨hstart, origin, turns, hpaced, rfl⟩ := h
  apply wellPaced_of_paced hperiod hpaced
  intro s hs
  cases hs
  exact hstart

/-- The first slot is the time at which the loop is entered. -/
theorem atSlot_first : AtSlot period now { slots := [now] } :=
  ⟨now, [], .nil, rfl⟩

theorem AtSlot.begin (h : AtSlot period slot history) (hnow : slot ≤ now) :
    InTurn period slot now { history with starts := history.starts ++ [now] } := by
  obtain ⟨origin, turns, hpaced, rfl⟩ := h
  refine ⟨hnow, origin, turns, hpaced, ?_⟩
  simp [historyOf]

/-- The turn ends, and the next slot is assigned. -/
theorem InTurn.assign (h : InTurn period slot start history) (hnow : start ≤ now) :
    AtSlot period (max (slot + period) now)
      { history with
        slots := history.slots ++ [max (slot + period) now]
        finishes := history.finishes ++ [now] } := by
  obtain ⟨hstart, origin, turns, hpaced, rfl⟩ := h
  refine ⟨origin, _, .turn hpaced hstart hnow, ?_⟩
  simp [historyOf]

end phases

section triples
variable {I P : PaceHistory → Prop} {sleepUntil : Time → Prog PaceAct Unit}
variable {period t slot : Time} {throttle : Throttle}

theorem stable_history : Stable paceThread fun w => P w.history := by
  intro w w' h henv
  obtain ⟨t', _, rfl⟩ := henv
  exact h

theorem stable_since : Stable paceThread fun w => P w.history ∧ t ≤ w.now := by
  intro w w' h henv
  obtain ⟨t', hle, rfl⟩ := henv
  exact ⟨h.1, le_trans h.2 hle⟩

/-- The clock is read: the answer is no earlier than what has been, and no later than what
    is to come. -/
theorem readClock_triple (hI : ∀ h, P h → I h) :
    Triple paceThread (fun w => I w.history) (fun w => P w.history ∧ t ≤ w.now) (.act .now)
      (fun now w => t ≤ now ∧ P w.history ∧ now ≤ w.now) := by
  apply Triple.act stable_since (fun w h => hI _ h.1)
  intro w now w' h hact
  obtain ⟨rfl, rfl⟩ := hact
  exact ⟨h.2, h.1, le_rfl⟩

/-- Logging a failure takes time, and does nothing else to the pace. -/
theorem reportFailure_triple (hI : ∀ h, P h → I h) (outcome : Except (Option String) Unit) :
    Triple paceThread (fun w => I w.history) (fun w => P w.history ∧ t ≤ w.now)
      (reportFailure throttle outcome) (fun _ w => P w.history ∧ t ≤ w.now) := by
  have hpure : ∀ throttle : Throttle, Triple paceThread (fun w => I w.history)
      (fun w => P w.history ∧ t ≤ w.now) (pure throttle) (fun _ w => P w.history ∧ t ≤ w.now) :=
    fun throttle => Triple.pure stable_since (fun w h => hI _ h.1) (fun _ h => h) fun _ h => h
  cases outcome with
  | ok _ => exact hpure throttle
  | error what =>
    apply (readClock_triple hI).bind
    intro now
    refine Triple.assuming fun ht => Triple.pre (P := fun w => P w.history ∧ t ≤ w.now) ?_
      fun w h => ⟨h.1, le_trans ht h.2⟩
    refine Triple.ite (fun _ => ?_) fun _ => hpure _
    refine Triple.bind (Q := fun _ w => P w.history ∧ t ≤ w.now) ?_ fun _ => hpure _
    apply Triple.act stable_since (fun w h => hI _ h.1)
    intro w _ w' h hact
    obtain rfl := hact
    exact h

/-- What is known of the history outlives a sleep. -/
theorem SleepsUntil.triple (hsleep : SleepsUntil sleepUntil) (hI : ∀ h, P h → I h) :
    Triple paceThread (fun w => I w.history) (fun w => P w.history) (sleepUntil t)
      (fun _ w => P w.history ∧ t ≤ w.now) := by
  intro w w' hw
  have hkept := hsleep w.history t
  constructor
  · intro hrun
    have hhistory : w'.history = w.history := hkept.running rfl hrun
    rw [hhistory]
    exact hI _ hw
  · intro _ hrun
    obtain ⟨hhistory, ht⟩ := hkept.done rfl hrun
    rw [hhistory]
    exact ⟨hw, ht⟩

/-- **One turn of the loop**: due at its slot, it leaves the next one due at the next slot. -/
theorem exchangeTurn_triple (hsleep : SleepsUntil sleepUntil)
    (hperiod : 0 < period) :
    Triple paceThread (fun w => WellPaced period w.history)
      (fun w => AtSlot period slot w.history ∧ slot ≤ w.now)
      (exchangeTurn sleepUntil period (slot, throttle))
      (fun r w => Sum.elim
        (fun state : Time × Throttle =>
          AtSlot period state.1 w.history ∧ state.1 ≤ w.now)
        (fun _ => WellPaced period w.history) r) := by
  have hslot : ∀ h, AtSlot period slot h → WellPaced period h :=
    fun h => AtSlot.wellPaced hperiod
  have hrunning : Triple paceThread (fun w => WellPaced period w.history)
      (fun w => AtSlot period slot w.history ∧ slot ≤ w.now) (.act .running)
      (fun _ w => AtSlot period slot w.history ∧ slot ≤ w.now) := by
    apply Triple.act stable_since (fun w h => hslot _ h.1)
    intro w _ w' h hact
    obtain rfl := hact
    exact h
  refine hrunning.bind fun running => Triple.ite (fun _ => ?_) fun _ => ?_
  · -- the turn starts, at some instant past its slot
    have hbegin : Triple paceThread (fun w => WellPaced period w.history)
        (fun w => AtSlot period slot w.history ∧ slot ≤ w.now) (.act .begin)
        (fun _ w => ∃ start, InTurn period slot start w.history ∧
          start ≤ w.now) := by
      apply Triple.act stable_since (fun w h => hslot _ h.1)
      intro w _ w' h hact
      obtain rfl := hact
      exact ⟨w.now, h.1.begin h.2, le_rfl⟩
    refine hbegin.bind fun _ => Triple.exists_pre fun start => ?_
    have hturn : ∀ h, InTurn period slot start h →
        WellPaced period h := fun h => InTurn.wellPaced hperiod
    -- it takes its time, and may fail
    have hexchange : Triple paceThread (fun w => WellPaced period w.history)
        (fun w => InTurn period slot start w.history ∧ start ≤ w.now)
        (.act .exchange)
        (fun _ w => InTurn period slot start w.history ∧ start ≤ w.now) := by
      apply Triple.act stable_since (fun w h => hturn _ h.1)
      intro w _ w' h hact
      obtain rfl := hact
      exact h
    refine hexchange.bind fun outcome => ?_
    refine (reportFailure_triple hturn outcome).bind fun throttle => ?_
    refine (readClock_triple hturn).bind fun now => Triple.assuming fun hnow => ?_
    -- the next slot is a period on, or now if the turn overran
    have hassign : Triple paceThread (fun w => WellPaced period w.history)
        (fun w => InTurn period slot start w.history ∧ now ≤ w.now)
        (.act (.record fun h =>
          { h with
            slots := h.slots ++ [max (slot + period) now]
            finishes := h.finishes ++ [now] }))
        (fun _ w => AtSlot period (max (slot + period) now) w.history) := by
      apply Triple.act stable_since (fun w h => hturn _ h.1)
      intro w _ w' h hact
      obtain rfl := hact
      exact h.1.assign hnow
    refine hassign.bind fun _ => ?_
    have hnext : ∀ h, AtSlot period (max (slot + period) now) h → WellPaced period h :=
      fun h => AtSlot.wellPaced hperiod
    refine (hsleep.triple hnext).bind fun _ => ?_
    exact Triple.pure stable_since (fun w h => hnext _ h.1) (fun _ h => h) fun _ h => h
  · exact Triple.pure stable_since (fun w h => hslot _ h.1) (fun _ h => h) fun w h => hslot _ h.1

theorem exchangeLoop_triple (hsleep : SleepsUntil sleepUntil) {micros : Int} (hperiod : 0 < micros) :
    Triple paceThread (fun w => WellPaced (micros * nanosPerMicro) w.history)
      (fun w => w.history = {}) (exchangeLoop sleepUntil micros throttle)
      (fun _ w => WellPaced (micros * nanosPerMicro) w.history) := by
  have hnanos : 0 < micros * nanosPerMicro := Int.mul_pos hperiod (by decide)
  have hnow : Triple paceThread (fun w => WellPaced (micros * nanosPerMicro) w.history)
      (fun w => w.history = {}) (.act .now) (fun now w => w.history = {} ∧ now ≤ w.now) := by
    apply Triple.act (stable_history (P := fun h => h = {}))
    · intro w h
      rw [h]
      exact wellPaced_nil hnanos
    · intro w now w' h hact
      obtain ⟨rfl, rfl⟩ := hact
      exact ⟨h, le_rfl⟩
  refine hnow.bind fun now => ?_
  have hfirst : Triple paceThread (fun w => WellPaced (micros * nanosPerMicro) w.history)
      (fun w => w.history = {} ∧ now ≤ w.now)
      (.act (.record fun h => { h with slots := h.slots ++ [now] }))
      (fun _ w => AtSlot (micros * nanosPerMicro) now w.history ∧ now ≤ w.now) := by
    apply Triple.act (stable_since (P := fun h => h = {}))
    · intro w h
      rw [h.1]
      exact wellPaced_nil hnanos
    · intro w _ w' h hact
      obtain rfl := hact
      rw [h.1]
      exact ⟨atSlot_first, h.2⟩
  refine hfirst.bind fun _ => ?_
  -- turn after turn, the loop is at its slot
  exact Triple.iter (J := fun (state : Time × Throttle) (w : PaceWorld) =>
      AtSlot (micros * nanosPerMicro) state.1 w.history ∧ state.1 ≤ w.now)
    (fun state => exchangeTurn_triple hsleep hnanos) (now, throttle)

end triples

/-- **The hosted platform sleeps until its time point**, however its naps end. -/
theorem sleepsUntil_std : SleepsUntil StdPlatform.sleepUntil := by
  intro h timePoint
  have hstable : Stable paceThread fun w => w.history = h :=
    stable_history (P := fun history => history = h)
  refine Triple.iter (J := fun _ (w : PaceWorld) => w.history = h) (fun _ => ?_) ()
  have hnow : Triple paceThread (fun w => w.history = h) (fun w => w.history = h) (.act .now)
      (fun now w => w.history = h ∧ now ≤ w.now) := by
    apply Triple.act hstable (fun _ hw => hw)
    intro w now w' hw hact
    obtain ⟨rfl, rfl⟩ := hact
    exact ⟨hw, le_rfl⟩
  refine hnow.bind fun now => Triple.ite (fun _ => ?_) fun hdue => ?_
  · refine Triple.bind (Q := fun _ w => w.history = h) ?_ fun _ => ?_
    · refine (Triple.act hstable (fun _ hw => hw) ?_).pre fun _ hw => hw.1
      intro w _ w' hw hact
      obtain rfl := hact
      exact hw
    · exact Triple.pure hstable (fun _ hw => hw) (fun _ hw => hw) fun _ hw => hw
  · refine Triple.pure (stable_since (P := fun history => history = h)) (fun _ hw => hw.1)
      (fun _ hw => hw) ?_
    intro w hw
    exact ⟨hw.1, le_trans (Int.le_of_sub_nonpos (Int.not_lt.mp hdue)) hw.2⟩

/-- **The exchange cycle neither bursts nor drifts**, on the hosted platform and on any other
    whose `sleepUntil` returns no earlier than its time point: at every point of every run the
    history so far is well paced. -/
theorem exchangeLoop_paced :
    SleepsUntil StdPlatform.sleepUntil ∧
    ∀ (sleepUntil : Time → Prog PaceAct Unit) (period : Int) (throttle : Throttle)
      (w w' : PaceWorld), SleepsUntil sleepUntil → 0 < period → w.history = {} →
      Visits paceThread (exchangeLoop sleepUntil period throttle) w w' →
      WellPaced (period * nanosPerMicro) w'.history := by
  constructor
  · exact sleepsUntil_std
  · intro sleepUntil period throttle w w' hsleep hperiod hnew hvisits
    exact (exchangeLoop_triple hsleep hperiod).visits stable_history (fun _ _ h => h) hnew hvisits

/-- A first exchange that fails after 25 ms, with a period of 20 ms: the second one starts at
    once, and its slot has moved. -/
theorem exchangeLoop_paced_overrun :
    ∃ w', Visits paceThread (exchangeLoop StdPlatform.sleepUntil 20000 failureLogThrottle) {} w' ∧
      w'.history.starts = [0, 25000000] ∧ WellPaced (20000 * nanosPerMicro) w'.history := by
  have hturn : Runs paceThread
      (exchangeTurn StdPlatform.sleepUntil (20000 * nanosPerMicro) (0, failureLogThrottle))
      { history := { slots := [0] } } (some (.inl (25000000, failureLogThrottle)))
      { now := 25000000,
        history := { slots := [0, 25000000], starts := [0], finishes := [25000000] } } := by
    refine runs_bind (a := true) (runs_act .refl rfl) ?_
    refine runs_bind (a := ()) (runs_act .refl rfl) ?_
    refine runs_bind (a := .error none) (runs_act (.single ⟨25000000, by decide, rfl⟩) rfl) ?_
    -- the line is suppressed, and the platform need not sleep
    refine runs_bind (a := failureLogThrottle) (runs_bind (runs_act .refl ⟨rfl, rfl⟩) runs_pure) ?_
    refine runs_bind (runs_act .refl ⟨rfl, rfl⟩) ?_
    refine runs_bind (a := ()) (runs_act .refl rfl) ?_
    refine runs_bind (a := ()) (runs_iter_done ?_) runs_pure
    exact runs_bind (runs_act .refl ⟨rfl, rfl⟩) runs_pure
  have hsecond : Runs paceThread
      (exchangeTurn StdPlatform.sleepUntil (20000 * nanosPerMicro) (25000000, failureLogThrottle))
      { now := 25000000,
        history := { slots := [0, 25000000], starts := [0], finishes := [25000000] } } none
      { now := 25000000,
        history := { slots := [0, 25000000], starts := [0, 25000000], finishes := [25000000] } } := by
    refine runs_bind (a := true) (runs_act .refl rfl) ?_
    exact runs_bind (a := ()) (runs_act .refl rfl) (runs_idle _ .refl)
  have hrun : Runs paceThread (exchangeLoop StdPlatform.sleepUntil 20000 failureLogThrottle) {} none
      { now := 25000000,
        history := { slots := [0, 25000000], starts := [0, 25000000], finishes := [25000000] } } := by
    refine runs_bind (runs_act .refl ⟨rfl, rfl⟩) ?_
    refine runs_bind (a := ()) (runs_act .refl rfl) ?_
    exact runs_iter_again hturn ⟨_, _, .refl, .inl ⟨rfl, hsecond⟩⟩
  exact ⟨_, hrun.visits, rfl, exchangeLoop_paced.2 _ _ _ _ _ sleepsUntil_std (by decide) rfl
    hrun.visits⟩

end GripperDriver

import GripperDriver.Exchange.Pacing
import GripperDriver.Framework.Parts
import GripperDriver.Platform.ThreadXTicks

/-! # Sleeping on Windows and on ThreadX

    The pace of the exchange cycle rests on the platform's `sleepUntil`. On Windows it is a
    high-resolution timer with the sleep of the other hosts behind it; on ThreadX it is one
    sleep of whole ticks, and nobody looks at the clock after it.

    * `WaitableTimer.sleepUntil`, `WindowsPlatform.sleepUntil`: no earlier than the time
      point, whatever becomes of the timer (`windows_paced`),
    * `ThreadXPlatform.sleepUntil`: up to one tick early, since the first tick of a sleep may
      come at once; `PacedToTick` is what is left of the pace (`threadX_paced`).
-/

namespace GripperDriver

open Interleaving Relation

/-! ## Windows -/

namespace WaitableTimer

/-- The relative due time, negative, in units of 100 ns. -/
def dueTime (remaining : Time) : Int := (-remaining).tdiv 100 - 1

/-- One turn of the loop. The kernel answers each wait as it likes. -/
def turn (timePoint : Time) : Prog PaceAct (Unit ⊕ Bool) := do
  let now ← .act .now
  if timePoint - now ≤ 0 then pure (.inr true)
  else do
    let answer ← .act (.waitTimer (dueTime (timePoint - now)))
    if answer = .signalled then pure (.inl ()) else pure (.inr false)

/-- Whether it has slept; `false` when the wait could not be armed, or the timer could not be
    `created` in the first place. -/
def sleepUntil (created : Bool) (timePoint : Time) : Prog PaceAct Bool :=
  if created then .iter (fun _ => turn timePoint) () else pure false

end WaitableTimer

/-- `StdPlatform::sleepUntil` on Windows. -/
def WindowsPlatform.sleepUntil (created : Bool) (timePoint : Time) : Prog PaceAct Unit := do
  let slept ← WaitableTimer.sleepUntil created timePoint
  if slept then pure () else StdPlatform.sleepUntil timePoint

section windows
variable {h : PaceHistory} {timePoint : Time}

end windows

section refusal
variable {w : PaceWorld} {timePoint t : Time}

end refusal

open ThreadXConditionVariable (blockingTicks nanosPerSecond maxTicks ticksCovering)

/-- `ThreadXPlatform::sleepUntil`; `sleepFor` is `tx_thread_sleep`, and counts ticks. -/
def ThreadXPlatform.sleepUntil (ticksPerSecond : Int) (timePoint : Time) : Prog PaceAct Unit := do
  let now ← .act .now
  if blockingTicks ticksPerSecond (timePoint - now) ≠ 0 then
    .act (.sleepFor (blockingTicks ticksPerSecond (timePoint - now)))
  else pure ()

/-- The kernel wakes a thread at the last of the ticks that it sleeps for. The first of them may
    come at once; the others are a tick apart. -/
def tickThread (ticksPerSecond : Int) : Thread PaceWorld PaceAct where
  env := paceThread.env
  perform := fun {α} (a : PaceAct α) w r w' => match a with
    | .sleepFor ticks => ∃ t, w.now ≤ t ∧
        (ticks - 1) * nanosPerSecond ≤ (t - w.now) * ticksPerSecond ∧ w' = { w with now := t }
    | a => PaceWorld.perform a w r w'

/-- The nanoseconds of a tick, rounded down. -/
def nanosPerTick (ticksPerSecond : Int) : Time := nanosPerSecond / ticksPerSecond

theorem finer_tickThread (ticksPerSecond : Int) : Finer (tickThread ticksPerSecond) paceThread where
  env _ _ henv := henv
  perform a w r w' hact := by
    cases a with
    | sleepFor ticks =>
      -- the time of the sleep is time that passes
      obtain ⟨t, hle, -, rfl⟩ := hact
      exact ⟨_, .single ⟨t, hle, rfl⟩, rfl⟩
    | _ => exact ⟨w, .refl, hact⟩

/-- The history of a loop whose starts may be early by `tick`. -/
structure PacedToTick (period tick : Time) (h : PaceHistory) : Prop where
  early : ∀ (k : Nat) (start slot : Time), h.starts[k]? = some start → h.slots[k]? = some slot →
    slot ≤ start + tick
  window : ∀ t length : Time, 0 ≤ length →
    (h.starts.countP (fun s => t ≤ s ∧ s ≤ t + length) : Int) ≤ (length + tick) / period + 2
  slot : ∀ (k : Nat) (start slot : Time), h.slots[0]? = some start → h.slots[k]? = some slot →
    (∀ j < k, ∀ due finish : Time, h.slots[j]? = some due → h.finishes[j]? = some finish →
      finish ≤ due + period) →
    slot = start + k * period

section early
variable {period tick origin next : Time} {turns : List (Turn Time)} {started : Option Time}

theorem window_of_within (hperiod : 0 < period) (htick : 0 ≤ tick)
    (h : PacedWithin tick period origin turns next) (t length : Time) (hlength : 0 ≤ length) :
    ((turns.map (·.start)).countP (fun s => t ≤ s ∧ s ≤ t + length) : Int) ≤
      (length + tick) / period + 2 := by
  have hwindow := h.window_le hperiod.le htick (Int.le_add_of_nonneg_right (a := t) hlength)
  simp only [nsmul_eq_mul, Nat.cast_ofNat] at hwindow
  rw [List.countP_map]
  rw [add_assoc, add_sub_cancel_left] at hwindow
  exact le_ediv_add_two hperiod hwindow

theorem early_of_within (h : PacedWithin tick period origin turns next)
    (hstarted : ∀ s ∈ started, next ≤ s + tick) {k : Nat} {start slot : Time}
    (hstart : (historyOf turns next started).starts[k]? = some start)
    (hslot : (historyOf turns next started).slots[k]? = some slot) : slot ≤ start + tick := by
  unfold historyOf at hstart hslot
  by_cases hk : k < turns.length
  · rw [List.getElem?_append_left (by simpa using hk), List.getElem?_map,
      List.getElem?_eq_getElem hk] at hstart hslot
    cases hstart
    cases hslot
    exact h.early_le _ (List.getElem_mem hk)
  · -- the turn that has started, and the slot that it was due at
    have hlength : turns.length ≤ k := Nat.le_of_not_lt hk
    rw [List.getElem?_append_right (by simpa using hlength), List.length_map] at hstart hslot
    cases started with
    | none => simp at hstart
    | some s =>
      cases hrest : k - turns.length with
      | zero =>
        rw [hrest] at hstart hslot
        cases hstart
        cases hslot
        exact hstarted _ rfl
      | succ j =>
        rw [hrest] at hstart
        simp at hstart

/-- **On time, the loop would be well paced**; what it does early moves no slot. -/
theorem pacedToTick_of_within (hperiod : 0 < period) (htick : 0 ≤ tick)
    (h : PacedWithin tick period origin turns next) (hstarted : ∀ s ∈ started, next ≤ s + tick) :
    PacedToTick period tick (historyOf turns next started) := by
  refine ⟨fun _ _ _ => early_of_within h hstarted, ?_, ?_⟩
  · intro t length hlength
    cases started with
    | none => simpa [historyOf] using window_of_within hperiod htick h t length hlength
    | some s =>
      -- count the turn under way as one that ends at once
      have hturn := PacedWithin.turn h (hstarted s rfl) (le_refl s)
      simpa [historyOf] using window_of_within hperiod htick hturn t length hlength
  · intro k start slot hstart hslot hpunctual
    have hnone : ∀ s ∈ (none : Option Time), next ≤ s := by simp
    have hwell := wellPaced_of_paced hperiod (h.onTime hperiod.le) hnone
    have hslots : (historyOf (turns.map Turn.onTime) next none).slots =
        (historyOf turns next started).slots := by
      simp [historyOf, Turn.onTime]
    refine hwell.slot k start slot (hslots ▸ hstart) (hslots ▸ hslot) ?_
    intro j hj due finish hdue hfinish
    -- the turn on time has ended with its slot, if not later
    obtain ⟨f, hf, rfl⟩ : ∃ f, (historyOf turns next started).finishes[j]? = some f ∧
        finish = max f due := by
      unfold historyOf at hdue hfinish ⊢
      rw [List.getElem?_map, List.getElem?_map] at hfinish
      obtain ⟨_, hturn, rfl⟩ := Option.map_eq_some_iff.mp hfinish
      obtain ⟨c, hc, rfl⟩ := Option.map_eq_some_iff.mp hturn
      have hlt := (List.getElem?_eq_some_iff.mp hc).1
      rw [List.getElem?_append_left (by simpa using hlt), List.getElem?_map, List.getElem?_map,
        hc] at hdue
      cases hdue
      exact ⟨c.finish, by rw [List.getElem?_map, hc]; rfl, rfl⟩
    have hreal := hpunctual j hj due f (hslots ▸ hdue) hf
    exact max_le hreal (Int.le_add_of_nonneg_right hperiod.le)

end early

/-- Between two turns of the loop, the next one due at `slot`. -/
def DueAt (period tick slot : Time) (h : PaceHistory) : Prop :=
  ∃ origin turns, PacedWithin tick period origin turns slot ∧ h = historyOf turns slot none

/-- In the turn that was due at `slot`, and that started at `start`. -/
def Started (period tick slot start : Time) (h : PaceHistory) : Prop :=
  slot ≤ start + tick ∧ ∃ origin turns, PacedWithin tick period origin turns slot ∧
    h = historyOf turns slot (some start)

section loop
variable {period tick slot start now : Time} {history : PaceHistory} {throttle : Throttle}
  {ticksPerSecond : Int}

theorem DueAt.paced (hperiod : 0 < period) (htick : 0 ≤ tick)
    (h : DueAt period tick slot history) : PacedToTick period tick history := by
  obtain ⟨origin, turns, hpaced, rfl⟩ := h
  exact pacedToTick_of_within hperiod htick hpaced (by simp)

theorem Started.paced (hperiod : 0 < period) (htick : 0 ≤ tick)
    (h : Started period tick slot start history) : PacedToTick period tick history := by
  obtain ⟨hstart, origin, turns, hpaced, rfl⟩ := h
  apply pacedToTick_of_within hperiod htick hpaced
  intro s hs
  cases hs
  exact hstart

theorem DueAt.begin (h : DueAt period tick slot history) (hnow : slot ≤ now + tick) :
    Started period tick slot now { history with starts := history.starts ++ [now] } := by
  obtain ⟨origin, turns, hpaced, rfl⟩ := h
  refine ⟨hnow, origin, turns, hpaced, ?_⟩
  simp [historyOf]

theorem Started.assign (h : Started period tick slot start history) (hnow : start ≤ now) :
    DueAt period tick (max (slot + period) now)
      { history with
        slots := history.slots ++ [max (slot + period) now]
        finishes := history.finishes ++ [now] } := by
  obtain ⟨hstart, origin, turns, hpaced, rfl⟩ := h
  refine ⟨origin, _, .turn hpaced hstart hnow, ?_⟩
  simp [historyOf]

/-- After a turn that started early by a tick at most, a period and a tick are left at most. -/
theorem next_sub_le {slot start now u period tick : Int} (hperiod : 0 ≤ period) (htick : 0 ≤ tick)
    (hslot : slot ≤ start + tick) (hstart : start ≤ now) (hnow : now ≤ u) :
    max (slot + period) now - (period + tick) ≤ u := by
  have : max (slot + period) now ≤ now + (period + tick) := max_le (by omega) (by omega)
  omega

/-- Ticks that cover a duration, but for the first of them: less than a tick is missing. -/
theorem le_slept_add_tick (hrate : 1 ≤ ticksPerSecond) (hfast : ticksPerSecond ≤ nanosPerSecond)
    {duration slept left : Int} (hpos : 0 < duration) (hleft : duration ≤ left)
    (hcap : left * ticksPerSecond ≤ maxTicks * nanosPerSecond)
    (hslept : (blockingTicks ticksPerSecond duration - 1) * nanosPerSecond ≤
      slept * ticksPerSecond) :
    duration ≤ slept + nanosPerTick ticksPerSecond := by
  have hscaled : duration * ticksPerSecond ≤ left * ticksPerSecond :=
    Int.mul_le_mul_of_nonneg_right hleft (by omega)
  -- the wait is short of its cap
  have hticks : blockingTicks ticksPerSecond duration = ticksCovering (duration * ticksPerSecond) := by
    rw [ThreadXConditionVariable.blockingTicks_eq hrate hfast hpos]
    apply min_eq_left
    exact ThreadXConditionVariable.ticksCovering_le_iff.mpr (hscaled.trans hcap)
  have hcover : duration * ticksPerSecond ≤
      ticksCovering (duration * ticksPerSecond) * nanosPerSecond :=
    ThreadXConditionVariable.ticksCovering_le_iff.mp le_rfl
  rw [hticks, Int.sub_mul, Int.one_mul] at hslept
  have hmissing : (duration - slept) * ticksPerSecond ≤ nanosPerSecond := by
    rw [Int.sub_mul]
    omega
  have hdiv : duration - slept ≤ nanosPerTick ticksPerSecond :=
    Int.le_ediv_of_mul_le (by omega) hmissing
  omega

/-- **On ThreadX a sleep may end a tick early**, where what is left to sleep for is not cut. -/
theorem sleeps_to_tick (hrate : 1 ≤ ticksPerSecond) (hfast : ticksPerSecond ≤ nanosPerSecond)
    {left : Int} (hcap : left * ticksPerSecond ≤ maxTicks * nanosPerSecond) (h : PaceHistory)
    (timePoint : Time) :
    Triple (tickThread ticksPerSecond) (fun w => w.history = h)
      (fun w => w.history = h ∧ timePoint - left ≤ w.now)
      (ThreadXPlatform.sleepUntil ticksPerSecond timePoint)
      (fun _ w => w.history = h ∧ timePoint ≤ w.now + nanosPerTick ticksPerSecond) := by
  have htick : 0 ≤ nanosPerTick ticksPerSecond := Int.ediv_nonneg (by decide) (by omega)
  have hclock := (readClock_triple (P := fun history => history = h) (I := fun history => history = h)
    (t := timePoint - left) fun _ hw => hw).finer (finer_tickThread ticksPerSecond)
  refine Triple.bind hclock fun now => Triple.assuming fun hnow => ?_
  have hstable : Stable (tickThread ticksPerSecond) fun w => w.history = h ∧ now ≤ w.now :=
    stable_since (P := fun history => history = h)
  refine Triple.ite (fun hticks => ?_) fun hticks => ?_
  · apply Triple.act hstable (fun _ hw => hw.1)
    intro w _ w' hw hact
    obtain ⟨t, hle, hslept, rfl⟩ := hact
    have hpos : 0 < timePoint - now := by
      by_contra hpast
      exact hticks (ThreadXConditionVariable.blockingTicks_of_nonpos (not_lt.mp hpast))
    have hearly := le_slept_add_tick hrate hfast hpos (Int.sub_le_of_sub_le hnow) hcap hslept
    -- the clock was read before the sleep began
    refine ⟨hw.1, ?_⟩
    calc timePoint = timePoint - now + now := (Int.sub_add_cancel _ _).symm
      _ ≤ t - w.now + nanosPerTick ticksPerSecond + w.now := add_le_add hearly hw.2
      _ = t + nanosPerTick ticksPerSecond := by abel
  · apply Triple.pure hstable (fun _ hw => hw.1) (fun _ hw => hw)
    intro w hw
    -- nothing to wait for: the time point has passed
    have hpast : timePoint - now ≤ 0 := by
      by_contra hpos
      exact hticks (ThreadXConditionVariable.blockingTicks_pos hrate hfast (not_le.mp hpos)).ne'
    exact ⟨hw.1, (Int.le_of_sub_nonpos hpast).trans (hw.2.trans (le_add_of_nonneg_right htick))⟩

/-- **One turn of the loop**: due at its slot, it leaves the next one due at the next slot. -/
theorem threadXTurn_triple (hrate : 1 ≤ ticksPerSecond) (hfast : ticksPerSecond ≤ nanosPerSecond)
    (htick : tick = nanosPerTick ticksPerSecond) (hperiod : 0 < period)
    (hcap : (period + tick) * ticksPerSecond ≤ maxTicks * nanosPerSecond) :
    Triple (tickThread ticksPerSecond) (fun w => PacedToTick period tick w.history)
      (fun w => DueAt period tick slot w.history ∧ slot - tick ≤ w.now)
      (exchangeTurn (ThreadXPlatform.sleepUntil ticksPerSecond) period (slot, throttle))
      (fun r w => Sum.elim
        (fun state : Time × Throttle =>
          DueAt period tick state.1 w.history ∧ state.1 - tick ≤ w.now)
        (fun _ => PacedToTick period tick w.history) r) := by
  have htick0 : 0 ≤ tick := htick ▸ Int.ediv_nonneg (by decide) (by omega)
  have hfiner := finer_tickThread ticksPerSecond
  have hdue : ∀ slot h, DueAt period tick slot h → PacedToTick period tick h :=
    fun _ _ h => h.paced hperiod htick0
  have hturn : ∀ start h, Started period tick slot start h → PacedToTick period tick h :=
    fun _ _ h => h.paced hperiod htick0
  have hrunning : Triple paceThread (fun w => PacedToTick period tick w.history)
      (fun w => DueAt period tick slot w.history ∧ slot - tick ≤ w.now) (.act .running)
      (fun _ w => DueAt period tick slot w.history ∧ slot - tick ≤ w.now) := by
    apply Triple.act stable_since (fun w h => hdue _ _ h.1)
    intro w _ w' h hact
    obtain rfl := hact
    exact h
  refine (hrunning.finer hfiner).bind fun running => Triple.ite (fun _ => ?_) fun _ => ?_
  · -- the turn starts, at some instant less than a tick before its slot
    have hbegin : Triple paceThread (fun w => PacedToTick period tick w.history)
        (fun w => DueAt period tick slot w.history ∧ slot - tick ≤ w.now) (.act .begin)
        (fun _ w => ∃ start, Started period tick slot start w.history ∧ start ≤ w.now) := by
      apply Triple.act stable_since (fun w h => hdue _ _ h.1)
      intro w _ w' h hact
      obtain rfl := hact
      exact ⟨w.now, h.1.begin (Int.le_add_of_sub_right_le h.2), le_rfl⟩
    refine (hbegin.finer hfiner).bind fun _ => Triple.exists_pre fun start => ?_
    have hexchange : Triple paceThread (fun w => PacedToTick period tick w.history)
        (fun w => Started period tick slot start w.history ∧ start ≤ w.now) (.act .exchange)
        (fun _ w => Started period tick slot start w.history ∧ start ≤ w.now) := by
      apply Triple.act stable_since (fun w h => hturn _ _ h.1)
      intro w _ w' h hact
      obtain rfl := hact
      exact h
    refine (hexchange.finer hfiner).bind fun outcome => ?_
    refine ((reportFailure_triple (hturn start) outcome).finer hfiner).bind fun throttle => ?_
    refine ((readClock_triple (hturn start)).finer hfiner).bind fun now =>
      Triple.assuming fun hnow => ?_
    -- the next slot is a period on, or now if the turn overran: no more than this is left
    have hleft : ∀ u, slot ≤ start + tick → now ≤ u →
        max (slot + period) now - (period + tick) ≤ u := by
      intro u hslot hu
      exact next_sub_le hperiod.le htick0 hslot hnow hu
    have hassign : Triple paceThread (fun w => PacedToTick period tick w.history)
        (fun w => Started period tick slot start w.history ∧ now ≤ w.now)
        (.act (.record fun h =>
          { h with
            slots := h.slots ++ [max (slot + period) now]
            finishes := h.finishes ++ [now] }))
        (fun _ w => DueAt period tick (max (slot + period) now) w.history ∧
          max (slot + period) now - (period + tick) ≤ w.now) := by
      apply Triple.act stable_since (fun w h => hturn _ _ h.1)
      intro w _ w' h hact
      obtain rfl := hact
      exact ⟨h.1.assign hnow, hleft _ h.1.1 h.2⟩
    refine (hassign.finer hfiner).bind fun _ => ?_
    have hnext := hdue (max (slot + period) now)
    have hsleep : Triple (tickThread ticksPerSecond) (fun w => PacedToTick period tick w.history)
        (fun w => DueAt period tick (max (slot + period) now) w.history ∧
          max (slot + period) now - (period + tick) ≤ w.now)
        (ThreadXPlatform.sleepUntil ticksPerSecond (max (slot + period) now))
        (fun _ w => DueAt period tick (max (slot + period) now) w.history ∧
          max (slot + period) now - tick ≤ w.now) := by
      intro w w' hw
      have hkept := sleeps_to_tick hrate hfast hcap w.history (max (slot + period) now)
      constructor
      · intro hrun
        have hhistory : w'.history = w.history := hkept.running ⟨rfl, hw.2⟩ hrun
        rw [hhistory]
        exact hnext _ hw.1
      · intro _ hrun
        obtain ⟨hhistory, hlate⟩ := hkept.done ⟨rfl, hw.2⟩ hrun
        rw [hhistory]
        exact ⟨hw.1, sub_le_iff_le_add.mpr (htick ▸ hlate)⟩
    refine hsleep.bind fun _ => ?_
    refine Triple.pure (T := tickThread ticksPerSecond) ?_ (fun w h => hnext _ h.1)
      (fun _ h => h) fun _ h => h
    exact stable_since (P := DueAt period tick (max (slot + period) now))
  · refine Triple.pure (T := tickThread ticksPerSecond) ?_ (fun w h => hdue _ _ h.1)
      (fun _ h => h) fun w h => hdue _ _ h.1
    exact stable_since (P := DueAt period tick slot)

theorem pacedToTick_nil (hperiod : 0 < period) (htick : 0 ≤ tick) : PacedToTick period tick {} := by
  refine ⟨fun _ _ _ hstart => ?_, ?_, fun _ _ _ hstart => ?_⟩
  · cases hstart
  · intro t length hlength
    have := Int.ediv_nonneg (Int.add_nonneg hlength htick) hperiod.le
    simp only [List.countP_nil]
    omega
  · cases hstart

/-- The first slot is the time at which the loop is entered. -/
theorem dueAt_first : DueAt period tick now { slots := [now] } :=
  ⟨now, [], .nil, rfl⟩

theorem threadXLoop_triple (hrate : 1 ≤ ticksPerSecond) (hfast : ticksPerSecond ≤ nanosPerSecond)
    {micros : Int} (hmicros : 0 < micros)
    (hcap : (micros * nanosPerMicro + nanosPerTick ticksPerSecond) * ticksPerSecond ≤
      maxTicks * nanosPerSecond) :
    Triple (tickThread ticksPerSecond)
      (fun w => PacedToTick (micros * nanosPerMicro) (nanosPerTick ticksPerSecond) w.history)
      (fun w => w.history = {})
      (exchangeLoop (ThreadXPlatform.sleepUntil ticksPerSecond) micros throttle)
      (fun _ w => PacedToTick (micros * nanosPerMicro) (nanosPerTick ticksPerSecond) w.history) := by
  have hperiod : 0 < micros * nanosPerMicro := Int.mul_pos hmicros (by decide)
  have htick : 0 ≤ nanosPerTick ticksPerSecond := Int.ediv_nonneg (by decide) (by omega)
  have hfiner := finer_tickThread ticksPerSecond
  unfold exchangeLoop
  generalize micros * nanosPerMicro = period at *
  generalize htick_eq : nanosPerTick ticksPerSecond = tick at *
  have hnow : Triple paceThread (fun w => PacedToTick period tick w.history)
      (fun w => w.history = {}) (.act .now) (fun now w => w.history = {} ∧ now ≤ w.now) := by
    apply Triple.act (stable_history (P := fun h => h = {}))
    · intro w h
      rw [h]
      exact pacedToTick_nil hperiod htick
    · intro w now w' h hact
      obtain ⟨rfl, rfl⟩ := hact
      exact ⟨h, le_rfl⟩
  refine (hnow.finer hfiner).bind fun now => ?_
  have hfirst : Triple paceThread (fun w => PacedToTick period tick w.history)
      (fun w => w.history = {} ∧ now ≤ w.now)
      (.act (.record fun h => { h with slots := h.slots ++ [now] }))
      (fun _ w => DueAt period tick now w.history ∧ now - tick ≤ w.now) := by
    apply Triple.act (stable_since (P := fun h => h = {}))
    · intro w h
      rw [h.1]
      exact pacedToTick_nil hperiod htick
    · intro w _ w' h hact
      obtain rfl := hact
      rw [h.1]
      exact ⟨dueAt_first, (sub_le_self now htick).trans h.2⟩
  refine (hfirst.finer hfiner).bind fun _ => ?_
  -- turn after turn, the loop is due at its slot
  exact Triple.iter (J := fun (state : Time × Throttle) (w : PaceWorld) =>
      DueAt period tick state.1 w.history ∧ state.1 - tick ≤ w.now)
    (fun state => threadXTurn_triple hrate hfast htick_eq.symm hperiod hcap) (now, throttle)

end loop

/-- **The exchange cycle on ThreadX is paced to a tick**, where its period fits the largest sleep:
    no exchange starts more than a tick before its slot, what starts early moves no later slot,
    and an early start makes no burst. -/
theorem threadX_paced (ticksPerSecond micros : Int) (throttle : Throttle) (w w' : PaceWorld)
    (hrate : 1 ≤ ticksPerSecond) (hfast : ticksPerSecond ≤ nanosPerSecond) (hmicros : 0 < micros)
    (hcap : (micros * nanosPerMicro + nanosPerTick ticksPerSecond) * ticksPerSecond ≤
      maxTicks * nanosPerSecond)
    (hnew : w.history = {})
    (hvisits : Visits (tickThread ticksPerSecond)
      (exchangeLoop (ThreadXPlatform.sleepUntil ticksPerSecond) micros throttle) w w') :
    PacedToTick (micros * nanosPerMicro) (nanosPerTick ticksPerSecond) w'.history :=
  (threadXLoop_triple hrate hfast hmicros hcap).visits
    (stable_history (P := PacedToTick (micros * nanosPerMicro) (nanosPerTick ticksPerSecond)))
    (fun _ _ h => h) hnew hvisits

/-- A thousand ticks a second, and a period of 20 ms: the second exchange starts a tick early. -/
theorem threadX_paced_early :
    ∃ w', Visits (tickThread 1000)
        (exchangeLoop (ThreadXPlatform.sleepUntil 1000) 20000 failureLogThrottle) {} w' ∧
      w'.history.starts = [0, 19000000] ∧ w'.history.slots = [0, 20000000] ∧
      PacedToTick (20000 * nanosPerMicro) (nanosPerTick 1000) w'.history := by
  have hturn : Runs (tickThread 1000)
      (exchangeTurn (ThreadXPlatform.sleepUntil 1000) (20000 * nanosPerMicro)
        (0, failureLogThrottle))
      { history := { slots := [0] } } (some (.inl (20000000, failureLogThrottle)))
      { now := 19000000,
        history := { slots := [0, 20000000], starts := [0], finishes := [5000000] } } := by
    refine runs_bind (a := true) (runs_act .refl rfl) ?_
    refine runs_bind (a := ()) (runs_act .refl rfl) ?_
    refine runs_bind (a := .ok ()) (runs_act (.single ⟨5000000, by decide, rfl⟩) rfl) ?_
    refine runs_bind (a := failureLogThrottle) runs_pure ?_
    refine runs_bind (runs_act .refl ⟨rfl, rfl⟩) ?_
    refine runs_bind (a := ()) (runs_act .refl rfl) ?_
    refine runs_bind (a := ()) ?_ runs_pure
    -- fifteen ticks, and the first of them comes at once
    refine runs_bind (runs_act .refl ⟨rfl, rfl⟩) ?_
    exact runs_act (r := ()) .refl ⟨19000000, by decide, by decide, rfl⟩
  have hsecond : Runs (tickThread 1000)
      (exchangeTurn (ThreadXPlatform.sleepUntil 1000) (20000 * nanosPerMicro)
        (20000000, failureLogThrottle))
      { now := 19000000,
        history := { slots := [0, 20000000], starts := [0], finishes := [5000000] } } none
      { now := 19000000,
        history :=
          { slots := [0, 20000000], starts := [0, 19000000], finishes := [5000000] } } := by
    refine runs_bind (a := true) (runs_act .refl rfl) ?_
    exact runs_bind (a := ()) (runs_act .refl rfl) (runs_idle _ .refl)
  have hrun : Runs (tickThread 1000)
      (exchangeLoop (ThreadXPlatform.sleepUntil 1000) 20000 failureLogThrottle) {} none
      { now := 19000000,
        history :=
          { slots := [0, 20000000], starts := [0, 19000000], finishes := [5000000] } } := by
    refine runs_bind (runs_act .refl ⟨rfl, rfl⟩) ?_
    refine runs_bind (a := ()) (runs_act .refl rfl) ?_
    exact runs_iter_again hturn ⟨_, _, .refl, .inl ⟨rfl, hsecond⟩⟩
  exact ⟨_, hrun.visits, rfl, rfl, threadX_paced _ _ _ _ _ (by decide) (by decide) (by decide)
    (by decide) rfl hrun.visits⟩

end GripperDriver

import GripperDriver.Exchange.ProcessImage

/-! # The Throttle of the Failure Log

    `detail::Throttle` keeps a line that would be logged in every cycle to one a
    period. Its one instant, `_last`, starts at the clock's epoch:

    * `calls`: the calls handed to a throttle, with what became of each,
    * `KeepsFirst`: the law of a throttle that keeps the first report of a burst,
    * `keepsFirst_iff`: when a new throttle obeys it.
-/

namespace GripperDriver

/-- The period is in milliseconds; `last` is the clock's epoch at first. -/
structure Throttle where
  period : Int
  last : Time := 0
  deriving DecidableEq, Repr

namespace Throttle

/-- Whether the callable is run, and the throttle afterwards. -/
def executeIfAllowed (throttle : Throttle) (now : Time) : Bool × Throttle :=
  if now - throttle.last < throttle.period * nanosPerMilli then (false, throttle)
  else (true, { throttle with last := now })

/-- The timestamps handed to a throttle, in order, and whether each call was executed. -/
def calls (throttle : Throttle) : List Time → List (Time × Bool)
  | [] => []
  | now :: rest =>
    let (executed, throttle) := throttle.executeIfAllowed now
    (now, executed) :: throttle.calls rest

/-- Of these calls any two that are executed are a period apart, and each one suppressed
    comes less than a period after one executed. -/
structure KeepsFirst (period : Int) (calls : List (Time × Bool)) : Prop where
  apart : (calls.filter (·.2)).Pairwise fun a b => period * nanosPerMilli ≤ b.1 - a.1
  cause : ∀ before t after, calls = before ++ (t, false) :: after →
    ∃ t', (t', true) ∈ before ∧ t - t' < period * nanosPerMilli

theorem mem_of_mem_calls {throttle : Throttle} {ts : List Time} {call : Time × Bool}
    (h : call ∈ throttle.calls ts) : call.1 ∈ ts := by
  induction ts generalizing throttle with
  | nil => cases h
  | cons now rest ih =>
    rcases List.mem_cons.mp h with rfl | hrest
    · exact List.mem_cons_self
    · exact List.mem_cons_of_mem _ (ih hrest)

section law
variable {period : Int} {last t : Time} {log : List (Time × Bool)}

theorem keepsFirst_nil : KeepsFirst period [] := by
  constructor
  · exact List.Pairwise.nil
  · intro before t after h
    cases before <;> cases h

/-- A call suppressed right after one executed. -/
theorem KeepsFirst.suppress (h : KeepsFirst period ((last, true) :: log))
    (hclose : t - last < period * nanosPerMilli) :
    KeepsFirst period ((last, true) :: (t, false) :: log) := by
  constructor
  · exact h.apart
  · intro before u after hsplit
    match before, hsplit with
    | [_], hsplit =>
      cases hsplit
      exact ⟨last, List.mem_singleton_self _, hclose⟩
    | _ :: _ :: before, hsplit =>
      simp only [List.cons_append, List.cons.injEq] at hsplit
      obtain ⟨rfl, rfl, hlog⟩ := hsplit
      -- the same cause as without the suppressed call
      obtain ⟨t', hmem, hlt⟩ := h.cause ((last, true) :: before) u after (by rw [hlog]; rfl)
      refine ⟨t', ?_, hlt⟩
      rcases List.mem_cons.mp hmem with heq | hbefore
      · rw [heq]
        exact List.mem_cons_self
      · exact List.mem_cons_of_mem _ (List.mem_cons_of_mem _ hbefore)

/-- A call executed a period after the last. -/
theorem KeepsFirst.execute (h : KeepsFirst period ((t, true) :: log))
    (hfar : period * nanosPerMilli ≤ t - last) (hafter : ∀ call ∈ log, t ≤ call.1) :
    KeepsFirst period ((last, true) :: (t, true) :: log) := by
  constructor
  · simp only [List.filter_cons, if_true]
    have hrest := h.apart
    simp only [List.filter_cons, if_true] at hrest
    refine List.pairwise_cons.mpr ⟨?_, hrest⟩
    intro call hcall
    rcases List.mem_cons.mp hcall with rfl | hlog
    · exact hfar
    · have hle := hafter call (List.mem_filter.mp hlog).1
      exact hfar.trans (Int.sub_le_sub_right hle last)
  · intro before u after hsplit
    match before, hsplit with
    | _ :: before, hsplit =>
      simp only [List.cons_append, List.cons.injEq] at hsplit
      obtain ⟨rfl, hlog⟩ := hsplit
      obtain ⟨t', hmem, hlt⟩ := h.cause before u after hlog
      exact ⟨t', List.mem_cons_of_mem _ hmem, hlt⟩

end law

/-- **From its first execution on a throttle obeys the law.** -/
theorem keepsFirst_calls (period : Int) (last : Time) (ts : List Time)
    (hsorted : (last :: ts).Pairwise (· ≤ ·)) :
    KeepsFirst period ((last, true) :: calls ⟨period, last⟩ ts) := by
  induction ts generalizing last with
  | nil =>
    constructor
    · exact List.pairwise_singleton _ _
    · intro before t after h
      cases before with
      | nil => cases h
      | cons _ before => cases before <;> cases h
  | cons now rest ih =>
    obtain ⟨hlast, hrest⟩ := List.pairwise_cons.mp hsorted
    have hnow := (List.pairwise_cons.mp hrest).1
    simp only [calls, executeIfAllowed]
    split
    · next hclose =>
      refine (ih last ?_).suppress hclose
      exact List.pairwise_cons.mpr
        ⟨fun t ht => hlast t (List.mem_cons_of_mem _ ht), (List.pairwise_cons.mp hrest).2⟩
    · next hfar =>
      refine (ih now hrest).execute (Int.not_lt.mp hfar) ?_
      intro call hcall
      exact hnow call.1 (mem_of_mem_calls hcall)

/-- **When a new throttle keeps the first report of every burst**: its stored instant stands for
    a call that was never made, and suppresses what comes less than a period after the epoch. -/
theorem keepsFirst_iff (period : Int) (ts : List Time) (hsorted : ts.Pairwise (· ≤ ·))
    (hepoch : ∀ t ∈ ts, 0 ≤ t) :
    KeepsFirst period (calls { period := period } ts) ↔
      ∀ first, ts.head? = some first → period * nanosPerMilli ≤ first := by
  cases ts with
  | nil =>
    constructor
    · intro _ first hfirst
      cases hfirst
    · intro _
      exact keepsFirst_nil
  | cons now rest =>
    simp only [calls, executeIfAllowed, Int.sub_zero, List.head?_cons, Option.some.injEq,
      forall_eq']
    split
    · next hclose =>
      constructor
      · intro h
        -- nothing was executed before the first call
        obtain ⟨t', hmem, _⟩ := h.cause [] now _ rfl
        cases hmem
      · intro hfar
        exact absurd hfar (Int.not_le.mpr hclose)
    · next hfar =>
      constructor
      · intro _
        exact Int.not_lt.mp hfar
      · intro _
        exact keepsFirst_calls period now rest hsorted

/-- The failure log of a gripper that fails first two seconds after boot, and again at once. -/
theorem keepsFirst_iff_two_seconds :
    KeepsFirst 1000 (calls { period := 1000 } [2000000000, 2000000001]) := by
  apply (keepsFirst_iff 1000 [2000000000, 2000000001] (by decide) (by decide)).mpr
  intro first hfirst
  cases hfirst
  decide

/-- The same gripper, half a second after boot: no call is executed, and the first is lost. -/
theorem first_report_lost :
    ¬ KeepsFirst 1000 (calls { period := 1000 } [500000000, 500000001]) := by
  intro h
  obtain ⟨t', hmem, _⟩ := h.cause [] 500000000 [(500000001, false)] (by decide)
  cases hmem

end Throttle

end GripperDriver

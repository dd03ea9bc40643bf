import GripperDriver.Client.Waits

/-! # The Evaluations of a Wait

    `detail::waitForExchangeAfter` hands records to its predicate, one in each turn of its
    loop. This module lists them for a run of the call, cut off or complete:

    * `Evaluation`: the clock reading of a turn, and the record that it took,
    * `Misses`: the turns so far, on whose records the predicate did not hold,
    * `Evaluates`: all that a run of the call has evaluated. An evaluation may take any
      time: what happens meanwhile are steps of the others.

    Two results follow: what a call returns, and when (`wait_returns`); and when the timeout
    ends a call whose predicate never holds (`one_late_evaluation_iff`).
-/

namespace GripperDriver

open Interleaving Relation

/-! ## Evaluations -/

structure Evaluation (dev : Device) where
  /-- What the call read from the clock, at the top of the turn. -/
  reading : Time
  /-- The record that the predicate is evaluated on. -/
  exchange : StampedExchange
  /-- The world as the record was taken, under the lock of the image. -/
  taken : World dev

section evaluations
variable {dev : Device}

/-- A turn that waits for the count `desired`, started at `w`, has taken a record. -/
def Taken (deadline : Time) (desired : Nat) (w : World dev) (e : Evaluation dev) : Prop :=
  ∃ w₁, Runs observer (.act .now) w (some e.reading) w₁ ∧
    Runs observer (waitForExchangeCount desired (millisLeft deadline e.reading)) w₁
      (some (some e.exchange)) e.taken

/-- The turns from `desired` and `w` on, up to a turn that waits for `desired'` and starts at
    `w'`: the predicate has held on no record. -/
inductive Misses (predicate : StampedExchange → Bool) (deadline : Time) (desired : Nat)
    (w : World dev) : List (Evaluation dev) → Nat → World dev → Prop where
  | start : Misses predicate deadline desired w [] desired w
  | miss {es : List (Evaluation dev)} {desired' : Nat} {w' : World dev} {e : Evaluation dev}
      (before : Misses predicate deadline desired w es desired' w')
      (taken : Taken deadline desired' w' e) (misses : predicate e.exchange = false) :
      Misses predicate deadline desired w (es ++ [e]) (e.exchange.count + 1) e.taken

/-- How far the loop has come. -/
inductive Reaches (predicate : StampedExchange → Bool) (deadline : Time) (desired : Nat)
    (w : World dev) : List (Evaluation dev) → Option (Option StampedExchange) → World dev → Prop where
  /-- In a wait, or about to wait or to return. -/
  | waiting {es : List (Evaluation dev)} {desired' : Nat} {w' w'' : World dev}
      (before : Misses predicate deadline desired w es desired' w')
      (run : (gripperSystem dev).Within (fun _ => True) w' w'') :
      Reaches predicate deadline desired w es none w''
  /-- An evaluation is under way. -/
  | evaluating {es : List (Evaluation dev)} {desired' : Nat} {w' w'' : World dev}
      {e : Evaluation dev} (before : Misses predicate deadline desired w es desired' w')
      (taken : Taken deadline desired' w' e)
      (run : (gripperSystem dev).Within (fun _ => True) e.taken w'') :
      Reaches predicate deadline desired w (es ++ [e]) none w''
  /-- The predicate has held. -/
  | held {es : List (Evaluation dev)} {desired' : Nat} {w' : World dev} {e : Evaluation dev}
      (before : Misses predicate deadline desired w es desired' w')
      (taken : Taken deadline desired' w' e) (holds : predicate e.exchange = true) :
      Reaches predicate deadline desired w (es ++ [e]) (some (some e.exchange)) e.taken
  /-- The last wait has come back empty. -/
  | gaveUp {es : List (Evaluation dev)} {desired' : Nat} {w' w'' w''' : World dev} {now : Time}
      (before : Misses predicate deadline desired w es desired' w')
      (read : Runs observer (.act .now) w' (some now) w'')
      (empty : Runs observer (waitForExchangeCount desired' (millisLeft deadline now)) w''
        (some none) w''') :
      Reaches predicate deadline desired w es (some none) w'''

/-- What a call, made at `w`, has evaluated once its deadline is set. -/
def Evaluates (afterCount : Nat) (predicate : StampedExchange → Bool) (timeout : Int)
    (w : World dev) (deadline : Time) (es : List (Evaluation dev))
    (o : Option (Option StampedExchange)) (w' : World dev) : Prop :=
  ∃ w₀, Runs observer (deadlineAfter timeout) w (some deadline) w₀ ∧
    Reaches predicate deadline (afterCount + 1) w₀ es o w'

/-! ### Every run has its evaluations -/

variable {predicate : StampedExchange → Bool} {deadline : Time} {desired afterCount : Nat}
  {timeout : Int} {w w' : World dev} {es : List (Evaluation dev)} {e : Evaluation dev}
  {o : Option (Option StampedExchange)}

/-- A turn that is done has taken a record and evaluated the predicate, or has found none. -/
theorem turn_cases {r : Nat ⊕ Option StampedExchange}
    (h : Runs observer (waitTurn predicate deadline desired) w (some r) w') :
    (∃ e, Taken deadline desired w e ∧ w' = e.taken ∧
      r = if predicate e.exchange then .inr (some e.exchange) else .inl (e.exchange.count + 1)) ∨
    ∃ now w₁, Runs observer (.act .now) w (some now) w₁ ∧
      Runs observer (waitForExchangeCount desired (millisLeft deadline now)) w₁ (some none) w' ∧
      r = .inr none := by
  unfold waitTurn at h
  obtain ⟨now, w₁, hnow, h⟩ := runs_bind_some h
  obtain ⟨answer, w₂, hwait, h⟩ := runs_bind_some h
  cases answer with
  | none =>
    obtain ⟨rfl, rfl⟩ := runs_pure_some h
    exact .inr ⟨now, w₁, hnow, hwait, rfl⟩
  | some x =>
    left
    refine ⟨⟨now, x, w₂⟩, ⟨w₁, hnow, hwait⟩, ?_⟩
    by_cases hp : predicate x = true
    · simp only [hp, if_true] at h ⊢
      obtain ⟨rfl, rfl⟩ := runs_pure_some h
      exact ⟨rfl, rfl⟩
    · simp only [hp] at h ⊢
      obtain ⟨rfl, rfl⟩ := runs_pure_some h
      exact ⟨rfl, rfl⟩

theorem misses_of_turns {desired' : Nat}
    (h : ReflTransGen (fun (u v : Nat × World dev) =>
      Runs observer (waitTurn predicate deadline u.1) u.2 (some (.inl v.1)) v.2)
        (desired, w) (desired', w')) :
    ∃ es, Misses predicate deadline desired w es desired' w' := by
  -- the induction is on the turns, so the state of the loop has to be a variable
  suffices hgen : ∀ v : Nat × World dev,
      ReflTransGen (fun (u v : Nat × World dev) =>
        Runs observer (waitTurn predicate deadline u.1) u.2 (some (.inl v.1)) v.2)
          (desired, w) v →
      ∃ es, Misses predicate deadline desired w es v.1 v.2 from hgen _ h
  intro v hv
  induction hv with
  | refl => exact ⟨[], .start⟩
  | @tail u v _ hturn ih =>
    obtain ⟨es, hes⟩ := ih
    -- a turn that goes on has taken a record and has not answered
    rcases turn_cases hturn with ⟨e, htaken, hv, hr⟩ | ⟨_, _, _, _, hr⟩
    · by_cases hp : predicate e.exchange = true
      · rw [if_pos hp] at hr
        cases hr
      · rw [if_neg hp] at hr
        have hcount : v.1 = e.exchange.count + 1 := Sum.inl.inj hr
        rw [hcount, hv]
        exact ⟨_, hes.miss htaken (Bool.eq_false_iff.mpr hp)⟩
    · cases hr

/-- A turn that is cut off is in its wait, or has taken a record. -/
theorem turn_cut (h : Runs observer (waitTurn predicate deadline desired) w none w') :
    (gripperSystem dev).Within (fun _ => True) w w' ∨
    ∃ e, Taken deadline desired w e ∧ (gripperSystem dev).Within (fun _ => True) e.taken w' := by
  have hwithin := within_of_runs h
  unfold waitTurn at h
  -- cut off in its clock reading, in its wait, or past it
  rcases runs_bind_none h with hnow | ⟨now, w₁, hnow, h⟩
  · exact .inl hwithin
  rcases runs_bind_none h with hwait | ⟨answer, w₂, hwait, h⟩
  · exact .inl hwithin
  cases answer with
  | none => exact .inl hwithin
  | some x => exact .inr ⟨⟨now, x, w₂⟩, ⟨w₁, hnow, hwait⟩, within_of_runs h⟩

theorem reaches_of_runs
    (h : Runs observer (.iter (waitTurn predicate deadline) desired) w o w') :
    ∃ es, Reaches predicate deadline desired w es o w' := by
  obtain ⟨desired', w₁, hturns, hlast⟩ := h
  obtain ⟨es, hes⟩ := misses_of_turns hturns
  rcases hlast with ⟨rfl, hcut⟩ | ⟨answer, rfl, hdone⟩
  · -- the last turn is cut off
    rcases turn_cut hcut with hwait | ⟨e, htaken, hrun⟩
    · exact ⟨es, .waiting hes hwait⟩
    · exact ⟨_, .evaluating hes htaken hrun⟩
  · -- the last turn is done
    rcases turn_cases hdone with ⟨e, htaken, rfl, hr⟩ | ⟨now, w₂, hnow, hempty, hr⟩
    · by_cases hp : predicate e.exchange = true
      · rw [if_pos hp] at hr
        cases hr
        exact ⟨_, .held hes htaken hp⟩
      · rw [if_neg hp] at hr
        cases hr
    · cases hr
      exact ⟨es, .gaveUp hes hnow hempty⟩

/-- **Every run of the call has its evaluations**, once it has set its deadline. -/
theorem evaluates_of_runs
    (h : Runs observer (waitForExchangeAfter afterCount predicate timeout) w o w') :
    (o = none ∧ Runs observer (deadlineAfter timeout) w none w') ∨
    ∃ deadline es, Evaluates afterCount predicate timeout w deadline es o w' := by
  unfold waitForExchangeAfter at h
  rcases h with ⟨rfl, hcut⟩ | ⟨deadline, w₀, hdeadline, hloop⟩
  · exact .inl ⟨rfl, hcut⟩
  · obtain ⟨es, hes⟩ := reaches_of_runs hloop
    exact .inr ⟨deadline, es, w₀, hdeadline, hes⟩

/-! ### Every evaluation is that of a run -/

theorem runs_waitTurn (predicate : StampedExchange → Bool) (h : Taken deadline desired w e) :
    Runs observer (waitTurn predicate deadline desired) w
      (some (if predicate e.exchange then .inr (some e.exchange) else .inl (e.exchange.count + 1)))
      e.taken := by
  obtain ⟨w₁, hnow, hwait⟩ := h
  refine runs_bind hnow (runs_bind hwait ?_)
  by_cases hp : predicate e.exchange = true
  · simp only [hp, if_true]
    exact runs_pure
  · simp only [hp]
    exact runs_pure

theorem turns_of_misses {desired' : Nat}
    (h : Misses predicate deadline desired w es desired' w') :
    ReflTransGen (fun (u v : Nat × World dev) =>
      Runs observer (waitTurn predicate deadline u.1) u.2 (some (.inl v.1)) v.2)
        (desired, w) (desired', w') := by
  induction h with
  | start => exact .refl
  | miss _ taken misses ih =>
    apply ih.tail
    have hturn := runs_waitTurn predicate taken
    rwa [misses, if_neg Bool.false_ne_true] at hturn

theorem runs_of_reaches (h : Reaches predicate deadline desired w es o w') :
    Runs observer (.iter (waitTurn predicate deadline) desired) w o w' := by
  cases h with
  | waiting before run => exact ⟨_, _, turns_of_misses before, .inl ⟨rfl, runs_idle _ run⟩⟩
  | evaluating before taken run =>
    refine ⟨_, _, turns_of_misses before, .inl ⟨rfl, ?_⟩⟩
    obtain ⟨w₁, hnow, hwait⟩ := taken
    exact runs_bind hnow (runs_bind hwait (runs_idle _ run))
  | held before taken holds =>
    refine ⟨_, _, turns_of_misses before, .inr ⟨_, rfl, ?_⟩⟩
    have hturn := runs_waitTurn predicate taken
    rwa [holds, if_pos rfl] at hturn
  | gaveUp before read empty =>
    refine ⟨_, _, turns_of_misses before, .inr ⟨_, rfl, ?_⟩⟩
    exact runs_bind read (runs_bind empty runs_pure)

theorem runs_of_evaluates (h : Evaluates afterCount predicate timeout w deadline es o w') :
    Runs observer (waitForExchangeAfter afterCount predicate timeout) w o w' := by
  obtain ⟨w₀, hdeadline, hreaches⟩ := h
  exact runs_bind hdeadline (runs_of_reaches hreaches)

/-! ### What a turn takes -/

/-- The record of a turn is the newest, and is one that the turn waits for. -/
theorem Taken.newest (h : Taken deadline desired w e) :
    e.exchange = e.taken.image.stamped ∧ desired ≤ e.exchange.count := by
  obtain ⟨w₁, _, hwait⟩ := h
  have htriple : Triple observer (fun _ : World dev => True) (fun _ => True)
      (waitForExchangeCount desired (millisLeft deadline e.reading))
      (fun answer w => True ∧ Looked desired answer w) :=
    waitForExchangeCount_triple desired _ (Stable.const _) fun _ _ => trivial
  exact (htriple.done trivial hwait).2

theorem Taken.within (h : Taken deadline desired w e) :
    (gripperSystem dev).Within (fun _ => True) w e.taken := by
  obtain ⟨w₁, hnow, hwait⟩ := h
  exact (within_of_runs hnow).trans (within_of_runs hwait)

/-- The clock was read after the turn began, and before its record was taken. -/
theorem reading_bounds {now : Time} (h : Runs observer (.act .now) w (some now) w') :
    w.now ≤ now ∧ now = w'.now := by
  -- the clock may be read at any later moment, and only ever moves on
  have hstable : Stable observer (fun u : World dev => w.now ≤ u.now) := by
    intro u v hu henv
    have hstep : (gripperSystem dev).Within (fun _ => True) u v := .single henv
    exact le_trans hu (now_le_of_within hstep)
  have htriple : Triple observer (fun _ => True) (fun u : World dev => w.now ≤ u.now) (.act .now)
      (fun r u => w.now ≤ r ∧ r = u.now) :=
    act_triple hstable (fun _ _ => trivial) fun u hu => ⟨hu, rfl⟩
  exact htriple.done le_rfl h

theorem Taken.reading_bounds (h : Taken deadline desired w e) :
    w.now ≤ e.reading ∧ e.reading ≤ e.taken.now := by
  obtain ⟨w₁, hnow, hwait⟩ := h
  obtain ⟨hle, heq⟩ := GripperDriver.reading_bounds hnow
  exact ⟨hle, heq ▸ now_le_of_within (within_of_runs hwait)⟩

/-! ### What the turns take -/

/-- The records that missed come with increasing counts, from `desired` on and below the
    count that is waited for next. -/
structure Climbs (desired : Nat) (es : List (Evaluation dev)) (desired' : Nat) : Prop where
  le : desired ≤ desired'
  bounds : ∀ e ∈ es, desired ≤ e.exchange.count ∧ e.exchange.count < desired'
  sorted : (es.map (·.exchange.count)).Pairwise (· < ·)

theorem Climbs.concat {desired' : Nat} (h : Climbs desired es desired')
    (he : desired' ≤ e.exchange.count) : Climbs desired (es ++ [e]) (e.exchange.count + 1) := by
  refine ⟨?_, ?_, ?_⟩
  · have := h.le
    omega
  · intro e' he'
    have hle := h.le
    rcases List.mem_append.mp he' with hold | hnew
    · have := h.bounds e' hold
      omega
    · rw [List.mem_singleton.mp hnew]
      omega
  · rw [List.map_append, List.pairwise_append]
    refine ⟨h.sorted, List.pairwise_singleton _ _, ?_⟩
    intro n hn m hm
    obtain ⟨e', he', rfl⟩ := List.mem_map.mp hn
    -- every earlier count is below the one that was waited for
    have := (h.bounds e' he').2
    rw [List.map_singleton, List.mem_singleton] at hm
    omega

theorem Misses.climbs {desired' : Nat}
    (h : Misses predicate deadline desired w es desired' w') : Climbs desired es desired' := by
  induction h with
  | start => exact ⟨le_rfl, fun _ he => absurd he List.not_mem_nil, .nil⟩
  | miss _ taken _ ih => exact ih.concat taken.newest.2

/-- A record that was evaluated was the newest as it was taken, during the call. -/
def Sees (w : World dev) (es : List (Evaluation dev)) (w' : World dev) : Prop :=
  ∀ e ∈ es, e.exchange = e.taken.image.stamped ∧
    (gripperSystem dev).Within (fun _ => True) w e.taken ∧
    (gripperSystem dev).Within (fun _ => True) e.taken w'

theorem Sees.later {w'' : World dev} (h : Sees w es w')
    (hrun : (gripperSystem dev).Within (fun _ => True) w' w'') : Sees w es w'' :=
  fun e he => ⟨(h e he).1, (h e he).2.1, (h e he).2.2.trans hrun⟩

theorem Sees.earlier {w₀ : World dev} (h : Sees w es w')
    (hrun : (gripperSystem dev).Within (fun _ => True) w₀ w) : Sees w₀ es w' :=
  fun e he => ⟨(h e he).1, hrun.trans (h e he).2.1, (h e he).2.2⟩

theorem Sees.concat (h : Sees w es w') (hto : (gripperSystem dev).Within (fun _ => True) w w')
    (he : Taken deadline desired w' e) : Sees w (es ++ [e]) e.taken := by
  refine List.forall_mem_append.mpr ⟨h.later he.within, List.forall_mem_singleton.mpr ?_⟩
  exact ⟨he.newest.1, hto.trans he.within, .refl⟩

theorem Misses.within {desired' : Nat} (h : Misses predicate deadline desired w es desired' w') :
    (gripperSystem dev).Within (fun _ => True) w w' := by
  induction h with
  | start => exact .refl
  | miss _ taken _ ih => exact ih.trans taken.within

theorem Misses.sees {desired' : Nat} (h : Misses predicate deadline desired w es desired' w') :
    Sees w es w' := by
  induction h with
  | start => exact fun _ he => absurd he List.not_mem_nil
  | miss before taken _ ih => exact ih.concat before.within taken

theorem Misses.all_miss {desired' : Nat}
    (h : Misses predicate deadline desired w es desired' w') :
    ∀ e ∈ es, predicate e.exchange = false := by
  induction h with
  | start => exact fun _ he => absurd he List.not_mem_nil
  | miss _ _ misses ih =>
    exact List.forall_mem_append.mpr ⟨ih, List.forall_mem_singleton.mpr misses⟩

/-- The count of the last record that was evaluated; `afterCount` when none was. -/
def lastCount (afterCount : Nat) (es : List (Evaluation dev)) : Nat :=
  (es.getLast?.map (·.exchange.count)).getD afterCount

/-- The next turn waits for the count after it. -/
theorem Misses.desired_eq {desired' : Nat}
    (h : Misses predicate deadline (afterCount + 1) w es desired' w') :
    desired' = lastCount afterCount es + 1 := by
  cases h with
  | start => rfl
  | miss _ _ _ => simp [lastCount]

theorem Reaches.climbs (h : Reaches predicate deadline desired w es o w') :
    ∃ desired', Climbs desired es desired' := by
  cases h with
  | waiting before _ => exact ⟨_, before.climbs⟩
  | evaluating before taken _ => exact ⟨_, before.climbs.concat taken.newest.2⟩
  | held before taken _ => exact ⟨_, before.climbs.concat taken.newest.2⟩
  | gaveUp before _ _ => exact ⟨_, before.climbs⟩

theorem Reaches.sees (h : Reaches predicate deadline desired w es o w') : Sees w es w' := by
  cases h with
  | waiting before run => exact before.sees.later run
  | evaluating before taken run => exact (before.sees.concat before.within taken).later run
  | held before taken _ => exact before.sees.concat before.within taken
  | gaveUp before read empty =>
    exact before.sees.later ((within_of_runs read).trans (within_of_runs empty))

/-! ### What a wait that comes back empty has seen -/

theorem due_of_runs (h : Runs observer (deadlineAfter timeout) w (some deadline) w') :
    w.now ≤ w'.now ∧ deadline = dueAfter timeout w'.now := by
  unfold deadlineAfter at h
  obtain ⟨now, w₁, hnow, hpure⟩ := runs_bind_some h
  obtain ⟨rfl, rfl⟩ := runs_pure_some hpure
  obtain ⟨hle, rfl⟩ := reading_bounds hnow
  exact ⟨hle, rfl⟩

/-- A wait for a count comes back empty with the count still to come, once the image is
    closed or its own deadline has passed. -/
theorem empty_of_runs (h : Runs observer (waitForExchangeCount desired timeout) w (some none) w') :
    w'.image.stamped.count < desired ∧
      (w'.image.closed = true ∨ ∃ start, w.now ≤ start ∧ dueAfter timeout start ≤ w'.now) := by
  unfold waitForExchangeCount at h
  obtain ⟨due, w₁, hdue, h⟩ := runs_bind_some h
  obtain ⟨fresh, w₂, hwait, hpure⟩ := runs_bind_some h
  obtain ⟨hanswer, rfl⟩ := runs_pure_some hpure
  have hlt : fresh.count < desired := by
    by_contra hle
    rw [if_neg hle] at hanswer
    cases hanswer
  obtain ⟨hle, rfl⟩ := due_of_runs hdue
  rw [waitForExchangeUntil, if_neg (by omega)] at hwait
  have htriple : Triple observer (fun _ : World dev => True) (fun _ => True)
      (sync (desired - 1) (dueAfter timeout w₁.now))
      (fun r w => True ∧ r = w.image.stamped ∧
        (desired - 1 < r.count ∨ w.image.closed = true ∨ dueAfter timeout w₁.now ≤ w.now)) :=
    sync_triple _ _ (Stable.const _) fun _ _ => trivial
  obtain ⟨_, rfl, hreason⟩ := htriple.done trivial hwait
  refine ⟨hlt, ?_⟩
  rcases hreason with hcount | hclosed | hpast
  · exact absurd hcount (by omega)
  · exact .inl hclosed
  · exact .inr ⟨w₁.now, hle, hpast⟩

/-- What is left of a timeout, in milliseconds, is no more than it was. -/
theorem millisLeft_le {start now : Int} (hle : start ≤ now) (hpos : 0 ≤ timeout) :
    millisLeft (dueAfter timeout start) now ≤ min timeout longest := by
  unfold millisLeft
  by_cases hlt : now < dueAfter timeout start
  · rw [if_pos hlt]
    unfold dueAfter ceilMillis nanosPerMilli at *
    omega
  · rw [if_neg hlt]
    have : (0 : Int) ≤ longest := by decide
    omega

/-- **A turn does not give up early**: the deadline of its wait is not before the
    deadline of the call. -/
theorem due_le_due {start now start' : Int} (hle : start ≤ now) (hle' : now ≤ start')
    (hpos : 0 ≤ timeout) :
    dueAfter timeout start ≤ max now (dueAfter (millisLeft (dueAfter timeout start) now) start') := by
  by_cases hlt : now < dueAfter timeout start
  · apply le_max_of_le_right
    have hleft : millisLeft (dueAfter timeout start) now ≤ longest :=
      le_trans (millisLeft_le hle hpos) (min_le_right _ _)
    have hceil := le_ceilMillis (dueAfter timeout start - now)
    have hcap : dueAfter (millisLeft (dueAfter timeout start) now) start' =
        start' + millisLeft (dueAfter timeout start) now * nanosPerMilli := by
      show start' + min _ longest * nanosPerMilli = _
      rw [min_eq_left hleft]
    rw [hcap, millisLeft, if_pos hlt]
    calc dueAfter timeout start
        ≤ now + ceilMillis (dueAfter timeout start - now) * nanosPerMilli :=
          Int.le_add_of_sub_left_le hceil
      _ ≤ start' + ceilMillis (dueAfter timeout start - now) * nanosPerMilli :=
          Int.add_le_add_right hle' _
  · exact le_max_of_le_left (not_lt.mp hlt)

/-! ## What a call returns -/

/-- An answer, given what was evaluated until `w'`: the record of the last evaluation, the
    only one on which the predicate held; or nothing, where it held on none, none was newer
    at the last look, and the image was closed or the timeout over. -/
def Answers (afterCount : Nat) (predicate : StampedExchange → Bool) (timeout : Int)
    (w : World dev) (es : List (Evaluation dev)) : Option StampedExchange → World dev → Prop
  | some r, _ => ∃ misses last, es = misses ++ [last] ∧ last.exchange = r ∧
      predicate r = true ∧ ∀ e ∈ misses, predicate e.exchange = false
  | none, w' => (∀ e ∈ es, predicate e.exchange = false) ∧
      w'.image.stamped.count ≤ lastCount afterCount es ∧
      (w'.image.closed = true ∨ w.now + timeout * nanosPerMilli ≤ w'.now)

/-- The look that comes back empty finds no newer record than the last that was evaluated. -/
theorem Reaches.empty_count
    (h : Reaches predicate deadline (afterCount + 1) w es (some none) w') :
    w'.image.stamped.count ≤ lastCount afterCount es := by
  cases h with
  | gaveUp before _ empty =>
    have hlt := (empty_of_runs empty).1
    have hcount := before.desired_eq
    omega

/-- A call that comes back empty has evaluated in vain. -/
theorem Reaches.all_miss (h : Reaches predicate deadline desired w es (some none) w') :
    ∀ e ∈ es, predicate e.exchange = false := by
  cases h with
  | gaveUp before _ _ => exact before.all_miss

/-- A record that was there to be taken has been evaluated, and missed. -/
theorem Reaches.newest_misses
    (h : Reaches predicate deadline (afterCount + 1) w es (some none) w')
    (hlt : afterCount < w'.image.stamped.count) : predicate w'.image.stamped = false := by
  have hcount := h.empty_count
  rcases List.eq_nil_or_concat' es with rfl | ⟨misses, last, rfl⟩
  · exact absurd hlt (not_lt.mpr hcount)
  · have hlast : last ∈ misses ++ [last] := List.mem_concat_self
    obtain ⟨hnewest, _, hrun⟩ := h.sees last hlast
    -- nothing newer has come since the last evaluation
    have hle : w'.image.stamped.count ≤ last.taken.image.stamped.count := by
      simpa [lastCount, ← hnewest] using hcount
    rw [stamped_of_count hrun hle, ← hnewest]
    exact h.all_miss last hlast

theorem Reaches.answers {start : Int} {answer : Option StampedExchange}
    (h : Reaches predicate (dueAfter timeout start) (afterCount + 1) w es (some answer) w')
    (hpos : 0 ≤ timeout) (hstart : start ≤ w.now) :
    (∃ misses last, answer = some last.exchange ∧ es = misses ++ [last] ∧
      predicate last.exchange = true ∧ ∀ e ∈ misses, predicate e.exchange = false) ∨
    (answer = none ∧ (∀ e ∈ es, predicate e.exchange = false) ∧
      w'.image.stamped.count ≤ lastCount afterCount es ∧
      (w'.image.closed = true ∨ dueAfter timeout start ≤ w'.now)) := by
  cases h with
  | held before taken holds => exact .inl ⟨_, _, rfl, rfl, holds, before.all_miss⟩
  | @gaveUp _ _ _ _ _ now before read empty =>
    right
    have hcount := (Reaches.gaveUp before read empty).empty_count
    obtain ⟨_, hreason⟩ := empty_of_runs empty
    refine ⟨rfl, before.all_miss, hcount, ?_⟩
    rcases hreason with hclosed | ⟨start', hstart', hdue⟩
    · exact .inl hclosed
    · right
      obtain ⟨hread, hnow⟩ := reading_bounds read
      -- the last wait was given what is left of the timeout, so it was over no earlier
      have hbegun : start ≤ now :=
        le_trans hstart (le_trans (now_le_of_within before.within) hread)
      have hlast : now ≤ w'.now := hnow ▸ now_le_of_within (within_of_runs empty)
      exact le_trans (due_le_due hbegun (hnow ▸ hstart') hpos) (max_le hlast hdue)

/-- **What a wait evaluates and returns**, for any surroundings: the records come with
    increasing counts past `afterCount`, each the newest as it was taken; the answer is the
    first on which the predicate holds, and there is none only if it held on none, the last
    look found none newer, and the image was closed or the whole timeout had passed. -/
theorem wait_returns (hpos : 0 ≤ timeout) (hcap : timeout ≤ longest)
    (h : Runs observer (waitForExchangeAfter afterCount predicate timeout) w o w') :
    ((o = none ∧ Runs observer (deadlineAfter timeout) w none w') ∨
      ∃ deadline es, Evaluates afterCount predicate timeout w deadline es o w') ∧
    ∀ deadline es, Evaluates afterCount predicate timeout w deadline es o w' →
      (es.map (·.exchange.count)).Pairwise (· < ·) ∧ (∀ e ∈ es, afterCount < e.exchange.count) ∧
      Sees w es w' ∧
      ∀ answer, o = some answer → Answers afterCount predicate timeout w es answer w' := by
  refine ⟨evaluates_of_runs h, ?_⟩
  intro deadline es hs
  obtain ⟨w₀, hdeadline, hreaches⟩ := hs
  obtain ⟨_, hclimbs⟩ := hreaches.climbs
  refine ⟨hclimbs.sorted, fun e he => (hclimbs.bounds e he).1,
    hreaches.sees.earlier (within_of_runs hdeadline), ?_⟩
  intro answer ho
  subst ho
  obtain ⟨hle, rfl⟩ := due_of_runs hdeadline
  have hdue : w.now + timeout * nanosPerMilli ≤ dueAfter timeout w₀.now := by
    rw [dueAfter, min_eq_left hcap]
    exact Int.add_le_add_right hle _
  obtain ⟨misses, last, rfl, hes, hp, hmiss⟩ | ⟨rfl, hmiss, hlast, hreason⟩ :=
    hreaches.answers hpos le_rfl
  · exact ⟨misses, last, hes, rfl, hp, hmiss⟩
  · exact ⟨hmiss, hlast, hreason.imp_right fun hpast => le_trans hdue hpast⟩

/-- A call that returns the first record there is. -/
theorem wait_returns_first : ∃ es : List (Evaluation RegisterModel.device),
    Sees makeFakeGripper es makeFakeGripper.afterCycle ∧
    Answers 0 (fun _ => true) 1 makeFakeGripper es (some makeFakeGripper.afterCycle.image.stamped)
      makeFakeGripper.afterCycle := by
  have hcycle := afterCycle_within (w := makeFakeGripper) rfl rfl rfl
  have hcall : Runs observer (waitForExchangeAfter 0 (fun _ => true) 1) makeFakeGripper
      (some (some makeFakeGripper.afterCycle.image.stamped)) makeFakeGripper.afterCycle :=
    runs_waitForExchangeAfter 1 Nat.zero_lt_one rfl (hcycle.weaken fun _ _ => trivial)
  obtain ⟨hcut | ⟨deadline, es, hes⟩, hreturns⟩ :=
    wait_returns (by decide) (by decide) hcall
  · cases hcut.1
  · obtain ⟨_, _, hsees, hanswers⟩ := hreturns deadline es hes
    exact ⟨es, hsees, hanswers _ rfl⟩

/-! ## When the timeout ends a call -/

/-- Two evaluations of one call, in order. -/
structure Follows (e e' : Evaluation dev) : Prop where
  within : (gripperSystem dev).Within (fun _ => True) e.taken e'.taken
  count_lt : e.exchange.count < e'.exchange.count
  reading_le : e.reading ≤ e'.reading
  newest : e.exchange = e.taken.image.stamped
  newest' : e'.exchange = e'.taken.image.stamped

theorem Misses.reading_le {desired' : Nat}
    (h : Misses predicate deadline desired w es desired' w') : ∀ e ∈ es, e.reading ≤ w'.now := by
  induction h with
  | start => exact fun _ he => absurd he List.not_mem_nil
  | miss _ taken _ ih =>
    refine List.forall_mem_append.mpr ⟨?_, List.forall_mem_singleton.mpr taken.reading_bounds.2⟩
    exact fun e' he' => le_trans (ih e' he') (now_le_of_within taken.within)

theorem Misses.follows_next {desired' : Nat}
    (h : Misses predicate deadline desired w es desired' w') (hes : es.Pairwise Follows)
    (taken : Taken deadline desired' w' e) : (es ++ [e]).Pairwise Follows := by
  refine List.pairwise_append.mpr ⟨hes, List.pairwise_singleton _ _, ?_⟩
  intro a ha b hb
  rw [List.mem_singleton.mp hb]
  obtain ⟨hnewest, _, hto⟩ := h.sees a ha
  exact {
    within := hto.trans taken.within
    count_lt := Nat.lt_of_lt_of_le (h.climbs.bounds a ha).2 taken.newest.2
    reading_le := le_trans (h.reading_le a ha) taken.reading_bounds.1
    newest := hnewest
    newest' := taken.newest.1 }

theorem Misses.follows {desired' : Nat}
    (h : Misses predicate deadline desired w es desired' w') : es.Pairwise Follows := by
  induction h with
  | start => exact .nil
  | miss before taken _ ih => exact before.follows_next ih taken

theorem Reaches.follows (h : Reaches predicate deadline desired w es o w') :
    es.Pairwise Follows := by
  cases h with
  | waiting before _ => exact before.follows
  | evaluating before taken _ => exact before.follows_next before.follows taken
  | held before taken _ => exact before.follows_next before.follows taken
  | gaveUp before _ _ => exact before.follows

/-- The count of the image moves with the records published. -/
theorem count_published_within {L : Label → Prop} (hrun : (gripperSystem dev).Within L w w') :
    w'.image.stamped.count + (publishedOf w.trace).length =
      w.image.stamped.count + (publishedOf w'.trace).length := by
  refine hrun.relates (R := fun (u v : World dev) =>
    v.image.stamped.count + (publishedOf u.trace).length =
      u.image.stamped.count + (publishedOf v.trace).length) rfl ?_
  intro u l v h _ hstep
  have hone : v.image.stamped.count + (publishedOf u.trace).length =
      u.image.stamped.count + (publishedOf v.trace).length := by
    -- only the publication of a record moves the count, and it moves both sides
    cases move_of_step hstep <;> simp [Event.publish?, Nat.add_right_comm, Nat.add_assoc]
  omega

/-- The evaluations begun after the clock reading of their turn has reached the deadline. -/
def lateOnes (deadline : Time) (es : List (Evaluation dev)) : List (Evaluation dev) :=
  es.filter fun e => deadline ≤ e.reading

/-- Each evaluation of a run, with the world at the next look of the call: the look that takes
    the next record, or the one that comes back empty. A run that is cut off, or whose
    predicate holds, has no look after its last record. -/
def looksAfter (o : Option (Option StampedExchange)) (w' : World dev) :
    List (Evaluation dev) → List (Evaluation dev × World dev)
  | [] => []
  | [e] => if o = some none then [(e, w')] else []
  | e :: e' :: es => (e, e'.taken) :: looksAfter o w' (e' :: es)

/-- No exchange completes on the way from one world to another. -/
def Unpublished (u v : World dev) : Prop :=
  ∃ mid, v.trace = u.trace ++ mid ∧ ∀ ev ∈ mid, ev.publish? = none

/-- From the taking of a late record to the next look of the call, nothing is published. -/
def StillWhileLate (deadline : Time) (es : List (Evaluation dev))
    (o : Option (Option StampedExchange)) (w' : World dev) : Prop :=
  ∀ look ∈ looksAfter o w' es, deadline ≤ look.1.reading → Unpublished look.1.taken look.2

theorem mem_looksAfter {look : Evaluation dev × World dev} :
    look ∈ looksAfter o w' es ↔
      (∃ before e e' after, es = before ++ e :: e' :: after ∧ look = (e, e'.taken)) ∨
      (o = some none ∧ ∃ before e, es = before ++ [e] ∧ look = (e, w')) := by
  induction es with
  | nil => simp [looksAfter]
  | cons e es ih =>
    cases es with
    | nil =>
      by_cases ho : o = some none <;>
        simp [looksAfter, ho, List.singleton_eq_append_iff]
    | cons e' es =>
      rw [looksAfter, List.mem_cons, ih]
      constructor
      · rintro (rfl | ⟨before, e₁, e₂, after, hes, rfl⟩ | ⟨ho, before, e₁, hes, rfl⟩)
        · exact .inl ⟨[], e, e', es, rfl, rfl⟩
        · exact .inl ⟨e :: before, e₁, e₂, after, by rw [hes]; rfl, rfl⟩
        · exact .inr ⟨ho, e :: before, e₁, by rw [hes]; rfl, rfl⟩
      · rintro (⟨before, e₁, e₂, after, hes, rfl⟩ | ⟨ho, before, e₁, hes, rfl⟩)
        · cases before with
          | nil =>
            cases hes
            exact .inl rfl
          | cons _ before => exact .inr (.inl ⟨before, e₁, e₂, after, (List.cons.inj hes).2, rfl⟩)
        · cases before with
          | nil => cases hes
          | cons _ before => exact .inr (.inr ⟨ho, before, e₁, (List.cons.inj hes).2, rfl⟩)

/-- The image counts what is published: where its count is still the same, nothing was. -/
theorem unpublished_iff (hrun : (gripperSystem dev).Within (fun _ => True) w w') :
    Unpublished w w' ↔ w'.image.stamped.count ≤ w.image.stamped.count := by
  obtain ⟨mid, hmid⟩ := trace_grows_within hrun
  have hcount := count_published_within hrun
  have hpublished : publishedOf w'.trace = publishedOf w.trace ++ publishedOf mid := by
    rw [← hmid, publishedOf, List.filterMap_append]
    rfl
  rw [hpublished, List.length_append] at hcount
  have hnone : (∀ ev ∈ mid, ev.publish? = none) ↔ (publishedOf mid).length = 0 := by
    rw [List.length_eq_zero_iff, publishedOf, List.filterMap_eq_nil_iff]
  constructor
  · intro h
    obtain ⟨mid', hmid', hunpublished⟩ := h
    rw [← hmid, List.append_cancel_left_eq] at hmid'
    have := hnone.mp (hmid' ▸ hunpublished)
    omega
  · intro hle
    exact ⟨mid, hmid.symm, hnone.mpr (by omega)⟩

/-- Where a filter keeps two, it keeps one that has a next. -/
theorem exists_next_of_filter {α : Type*} {p : α → Bool} {l : List α}
    (h : 1 < (l.filter p).length) : ∃ before a b after, l = before ++ a :: b :: after ∧ p a := by
  induction l with
  | nil => exact absurd h (by simp)
  | cons x xs ih =>
    by_cases hx : p x = true
    · cases xs with
      | nil => exact absurd h (by simp [hx])
      | cons y ys => exact ⟨[], x, y, ys, rfl, hx⟩
    · rw [List.filter_cons_of_neg hx] at h
      obtain ⟨before, a, b, after, rfl, ha⟩ := ih h
      exact ⟨x :: before, a, b, after, rfl, ha⟩

/-! ### A predicate slower than the cycle -/

/-- Two milliseconds later, a cycle has succeeded. -/
def World.afterSlowCycle (w : World dev) : World dev := (w.afterTick (w.now + 2000000)).afterCycle

/-- Cycles succeed, and the exchange thread is between two. -/
structure World.Cycling (w : World dev) : Prop where
  pc : w.pc = .idle
  running : w.running = true
  link : w.connectionState = .operational

theorem World.Cycling.slowCycles (h : w.Cycling) (n : Nat) :
    (World.afterSlowCycle^[n] w).Cycling := by
  induction n with
  | zero => exact h
  | succ n ih =>
    rw [Function.iterate_succ_apply']
    exact ⟨rfl, ih.running, rfl⟩

theorem World.Cycling.within (h : w.Cycling) :
    (gripperSystem dev).Within (fun _ => True) w w.afterSlowCycle := by
  have htick : w.now ≤ w.now + 2000000 := Int.le_add_of_nonneg_right (by decide)
  have hquiet : (gripperSystem dev).Within Quiet w w.afterSlowCycle :=
    (afterTick_within htick).trans (afterCycle_within h.pc h.running h.link)
  exact hquiet.weaken fun _ _ => trivial

theorem slowCycles_now (w : World dev) (n : Nat) :
    (World.afterSlowCycle^[n] w).now = w.now + n * 2000000 := by
  induction n with
  | zero => simp
  | succ n ih =>
    rw [Function.iterate_succ_apply']
    show (World.afterSlowCycle^[n] w).now + 2000000 = _
    rw [ih, Nat.cast_succ, Int.add_mul, Int.one_mul, Int.add_assoc]

/-- A turn at `w`: its clock reading and its look both find this moment. -/
def World.evaluationAt (w : World dev) : Evaluation dev := ⟨w.now, w.image.stamped, w⟩

/-- Each evaluation lasts until a slow cycle has succeeded. -/
def slowEvaluations (w : World dev) (n : Nat) : List (Evaluation dev) :=
  (List.range n).map fun i => (World.afterSlowCycle^[i + 1] w).evaluationAt

theorem taken_slowCycle (h : w.Cycling) :
    Taken deadline (w.image.stamped.count + 1) w w.afterSlowCycle.evaluationAt :=
  ⟨_, runs_act h.within rfl, runs_waitForExchangeCount _ (Nat.succ_pos _) le_rfl .refl⟩

theorem misses_slowCycles (h : w.Cycling) (n : Nat) :
    Misses (fun _ => false) deadline (w.image.stamped.count + 1) w (slowEvaluations w n)
      ((World.afterSlowCycle^[n] w).image.stamped.count + 1) (World.afterSlowCycle^[n] w) := by
  induction n with
  | zero => exact .start
  | succ n ih =>
    rw [slowEvaluations, List.range_succ, List.map_append, List.map_singleton,
      Function.iterate_succ_apply']
    exact ih.miss (taken_slowCycle (h.slowCycles n)) rfl

/-- With a timeout of a millisecond and a cycle of two, every evaluation is late. -/
theorem evaluates_slowCycles (n : Nat) :
    Evaluates 0 (fun _ => false) 1 makeFakeGripper (dueAfter 1 0)
      (slowEvaluations makeFakeGripper n) none (World.afterSlowCycle^[n] makeFakeGripper) :=
  have hmisses : Misses (fun _ => false) (dueAfter 1 0) (makeFakeGripper.image.stamped.count + 1)
      makeFakeGripper (slowEvaluations makeFakeGripper n) _ _ :=
    misses_slowCycles ⟨rfl, rfl, rfl⟩ n
  ⟨_, runs_deadlineAfter 1 .refl, .waiting hmisses .refl⟩

/-! ### One late evaluation -/

/-- **Exactly when the timeout ends a call**: at most one evaluation begins past the
    deadline, unless an exchange completes between the taking of a record past the deadline
    and the next look. -/
theorem one_late_evaluation_iff
    (h : Runs observer (waitForExchangeAfter afterCount predicate timeout) w o w') :
    ((o = none ∧ Runs observer (deadlineAfter timeout) w none w') ∨
      ∃ deadline es, Evaluates afterCount predicate timeout w deadline es o w') ∧
    ∀ deadline es, Evaluates afterCount predicate timeout w deadline es o w' →
      ((lateOnes deadline es).length ≤ 1 ↔ StillWhileLate deadline es o w') := by
  refine ⟨evaluates_of_runs h, ?_⟩
  intro deadline es hs
  obtain ⟨w₀, hdeadline, hreaches⟩ := hs
  have hfollows := hreaches.follows
  constructor
  · intro hone look hlook hlate
    rcases mem_looksAfter.mp hlook with ⟨before, e, e', after, hes, rfl⟩ | ⟨rfl, before, e, hes, rfl⟩
    · -- a late evaluation with a next one makes two
      rw [hes, List.pairwise_append, List.pairwise_cons] at hfollows
      have hnext : Follows e e' := hfollows.2.1.1 e' List.mem_cons_self
      have hlate' : deadline ≤ e'.reading := le_trans hlate hnext.reading_le
      rw [hes, lateOnes] at hone
      simp [hlate, hlate'] at hone
      omega
    · -- the last look came back empty: the record of `e` was still the newest
      have hcount := hreaches.empty_count
      obtain ⟨hnewest, _, hrun⟩ := hreaches.sees e (hes ▸ List.mem_concat_self)
      refine (unpublished_iff hrun).mpr ?_
      rw [← hnewest]
      simpa [lastCount, hes] using hcount
  · intro hstill
    by_contra hmore
    obtain ⟨before, e, e', after, hes, hlate⟩ := exists_next_of_filter (not_le.mp hmore)
    -- two late ones have a pair of neighbours among them; nothing published between them
    -- leaves the second no newer record to take
    have hunpublished := hstill (e, e'.taken)
      (mem_looksAfter.mpr (.inl ⟨before, e, e', after, hes, rfl⟩)) (of_decide_eq_true hlate)
    rw [hes, List.pairwise_append, List.pairwise_cons] at hfollows
    have hnext : Follows e e' := hfollows.2.1.1 e' List.mem_cons_self
    have hcount := (unpublished_iff hnext.within).mp hunpublished
    rw [← hnext.newest, ← hnext.newest'] at hcount
    exact absurd hnext.count_lt (not_lt.mpr hcount)

theorem one_late_evaluation_iff_slowCycles :
    (lateOnes (dueAfter 1 0) (slowEvaluations makeFakeGripper 2)).length ≤ 1 ↔
      StillWhileLate (dueAfter 1 0) (slowEvaluations makeFakeGripper 2) none
        (World.afterSlowCycle^[2] makeFakeGripper) :=
  (one_late_evaluation_iff (runs_of_evaluates (evaluates_slowCycles 2))).2 _ _
    (evaluates_slowCycles 2)

/-- **The timeout need not end a call**: with a timeout of a millisecond and a cycle of two,
    a call whose predicate never holds, and takes a cycle each time, goes on evaluating past
    the deadline without bound. -/
theorem late_evaluations_unbounded : ¬ ∃ bound, ∀ es w',
    Runs observer (waitForExchangeAfter 0 (fun _ => false) 1) makeFakeGripper none w' →
    Evaluates 0 (fun _ => false) 1 makeFakeGripper (dueAfter 1 0) es none w' →
      (lateOnes (dueAfter 1 0) es).length ≤ bound := by
  intro h
  obtain ⟨bound, hbound⟩ := h
  have hlate : lateOnes (dueAfter 1 0) (slowEvaluations makeFakeGripper (bound + 1)) =
      slowEvaluations makeFakeGripper (bound + 1) := by
    -- the clock is past the deadline after the first of the slow cycles
    refine List.filter_eq_self.mpr fun e he => decide_eq_true ?_
    obtain ⟨i, _, rfl⟩ := List.mem_map.mp he
    show dueAfter 1 0 ≤ (World.afterSlowCycle^[i + 1] makeFakeGripper).now
    rw [slowCycles_now]
    show (1000000 : Int) ≤ 0 + ((i + 1 : Nat) : Int) * 2000000
    omega
  have hevaluates := evaluates_slowCycles (bound + 1)
  have := hbound _ _ (runs_of_evaluates hevaluates) hevaluates
  rw [hlate, slowEvaluations, List.length_map, List.length_range] at this
  omega

end evaluations

end GripperDriver

import GripperDriver.Client.Waits

/-! # Delivery of a Command

    `setCommandAndWaitForExchange` returns the first exchange whose record holds
    a block equal to the one it set. Two questions about it:

    * does the gripper have the block when the call returns, with nothing else
      on its way (`delivered_iff`)? Not when an equal block was already under
      way at the call and another one had replaced it in the image;
    * can it miss an exchange that carried the block (`no_carrier_missed`)? No,
      however late it looks.

    Both rest on `latched_of_quiet`: while nobody sets a block, every cycle that
    latches latches the one in the image.
-/

namespace GripperDriver

open Interleaving Relation

/-! ## The call -/

section call
variable {dev : Device} {w w₀ w₁ : World dev} {seed : StampedExchange} {c : GripperCommand}
  {timeout : Int}

/-- The invariant of the wait for the count `desired`, the block `c` having been
    set at `w₁`: every carrier published so far has at least that count. -/
structure Awaiting (w₀ w₁ : World dev) (c : GripperCommand) (desired : Nat) (w : World dev) :
    Prop where
  run : (gripperSystem dev).Within Quiet (w₁.afterSet c) w
  late : w₀.image.stamped.count < desired
  reached : desired ≤ w.image.stamped.count + 1
  carriers : ∀ k r, .published k r ∈ w.trace → w₁.cycles < k → desired ≤ r.count

theorem awaiting_stable (desired : Nat) : Stable commander (Awaiting w₀ w₁ c desired) := by
  intro u v h hs
  obtain ⟨hrun, hlate, hreached, hcarriers⟩ := h
  obtain ⟨l, hl, hstep⟩ := hs
  refine ⟨hrun.tail ⟨l, hl, hstep⟩, hlate, ?_, ?_⟩
  · have := count_le_of_within (hstep.within (L := fun _ => True) trivial)
    omega
  · cases move_of_step hstep with
    | publish c st t hpc | publishRecovered c st t hpc =>
      intro k r hr hk
      rcases List.mem_append.mp hr with hr | hr
      · exact hcarriers k r hr hk
      · cases List.mem_singleton.mp hr
        exact hreached
    | _ => simpa using hcarriers

/-- A record that came with the count and has another block is older than any
    carrier: none was published. -/
theorem awaiting_again (h₁ : Chronicle seed w₁) {desired : Nat}
    (h : Awaiting w₀ w₁ c desired w) (hle : desired ≤ w.image.stamped.count)
    (hmiss : w.image.stamped.command ≠ c) :
    Awaiting w₀ w₁ c (w.image.stamped.count + 1) w where
  run := h.run
  late := Nat.lt_succ_of_lt (Nat.lt_of_lt_of_le h.late hle)
  reached := le_rfl
  carriers := by
    intro k r hr hk
    have hset := h₁.afterSet c
    obtain ⟨k', hle', hlatched⟩ := (hset.along h.run).stamped_latest hr
    exact absurd (latched_of_quiet hset h.run k' _ hlatched (Nat.lt_of_lt_of_le hk hle')) hmiss

/-- What the call does: it sets `c` once, at some `w₁`, and looks again and again. -/
theorem setCommandAndWait_triple (h₀ : Chronicle seed w₀) :
    Triple commander (fun _ => True) (fun w => (gripperSystem dev).Within Quiet w₀ w)
      (setCommandAndWaitForExchange c timeout)
      (fun answer w => ∃ w₁ desired, (gripperSystem dev).Within Quiet w₀ w₁ ∧
        Awaiting w₀ w₁ c desired w ∧ Looked desired answer w ∧
        ∀ r, answer = some r → r.command = c) := by
  have hquiet : Stable commander (fun w => (gripperSystem dev).Within Quiet w₀ w) :=
    fun u v hu henv => hu.tail henv
  refine (act_triple (a := .stampedExchange) (Q := fun r w => w₀.image.stamped.count ≤ r.count ∧
    r.count ≤ w.image.stamped.count ∧ (gripperSystem dev).Within Quiet w₀ w)
    hquiet (fun _ _ => trivial) fun w hw => ⟨count_le_of_within hw, le_rfl, hw⟩).bind fun before => ?_
  have hbefore : Stable commander (fun w => w₀.image.stamped.count ≤ before.count ∧
      before.count ≤ w.image.stamped.count ∧ (gripperSystem dev).Within Quiet w₀ w) := by
    intro u v hs henv
    obtain ⟨hle, hcount, hu⟩ := hs
    exact ⟨hle, hcount.trans (count_le_of_within (.single henv)), hu.tail henv⟩
  refine (act_triple (Q := fun _ w => ∃ w₁, (gripperSystem dev).Within Quiet w₀ w₁ ∧
    Awaiting w₀ w₁ c (before.count + 1) w) hbefore (fun _ _ => trivial) ?_).bind fun _ => ?_
  · intro w hs
    obtain ⟨hle, hcount, hw⟩ := hs
    refine ⟨w, hw, .refl, Nat.lt_succ_of_le hle, Nat.succ_le_succ hcount, ?_⟩
    -- no cycle that latches later than now has been published yet
    intro k r hr hk
    have h := (h₀.along hw).afterSet c
    obtain ⟨k', hle', hlatched⟩ := h.stamped_latest hr
    have := (h.latched_bounds hlatched).2
    exact absurd (Nat.lt_of_lt_of_le hk hle') (Nat.not_lt_of_le this)
  · refine Triple.exists_pre fun w₁ => Triple.assuming fun hw₁ => ?_
    refine (waitForExchangeAfter_triple (J := Awaiting w₀ w₁ c) before.count _ timeout
      awaiting_stable (fun _ _ _ => trivial) ?_).post ?_
    · intro desired w hw hle hmiss
      exact awaiting_again (h₀.along hw₁) hw hle (by simpa using hmiss)
    · intro answer w hs
      obtain ⟨desired, hw, hlook, hp⟩ := hs
      exact ⟨w₁, desired, hw₁, hw, hlook, fun r hr => by simpa using hp r hr⟩

/-! ## No carrier is missed -/

/-- **Nothing is missed**: when the call returns empty, no exchange that latched
    its command after the call had set `c` has been published. The history after
    the call begins splits at its one `set c`. -/
theorem no_carrier_missed (hw : w₀.Reachable)
    (hcall : Runs commander (setCommandAndWaitForExchange c timeout) w₀ (some none) w) :
    ∃ before after, w.trace = before ++ .set c :: after ∧ w₀.trace <+: before ∧
      setsOf before = setsOf w₀.trace ∧ setsOf after = [] ∧
      ∀ k r c', .published k r ∈ w.trace → .latched k c' ∉ after := by
  obtain ⟨seed, h₀⟩ := chronicle_of_reachable hw
  obtain ⟨w₁, desired, hw₁, hawait, hlook, _⟩ :=
    (setCommandAndWait_triple h₀).done .refl hcall
  have h₁ := h₀.along hw₁
  have h := (h₁.afterSet c).along hawait.run
  obtain ⟨after, htrace⟩ := trace_grows_within hawait.run
  have hsplit : w.trace = w₁.trace ++ .set c :: after := by
    rw [← htrace]
    exact List.append_assoc _ _ _
  refine ⟨w₁.trace, after, hsplit, trace_grows_within hw₁, sets_of_quiet hw₁, ?_, ?_⟩
  · have hsets := sets_of_quiet hawait.run
    rw [← htrace, setsOf, List.filterMap_append] at hsets
    exact List.append_cancel_left_eq .. ▸ hsets.trans (List.append_nil _).symm
  · -- a carrier would have been published with a count that the call has looked past
    intro k r c' hr hk
    have hlate := h₁.latched_since h hsplit (List.mem_cons_of_mem _ hk)
    have hcount := (h.count_published hr).2
    have := hawait.carriers k r hr hlate
    have hmissed : w.image.stamped.count < desired := hlook
    omega

/-! ### Another exchange is under way -/

/-- The exchange under way at the call carries another block, and its record is published once
    the call has set its own. -/
def anotherPublished : World RegisterModel.device :=
  (makeFakeGripper.afterLatch.afterSet GripperCommand.defaults).afterReply
    makeFakeGripper.image.command

theorem afterLatch_reachable : makeFakeGripper.afterLatch.Reachable :=
  makeFakeGripper_reachable.within
    (System.Within.weaken (fun _ _ => trivial) (afterLatch_within rfl rfl))

/-- The call passes over that record, and waits for the next. -/
theorem runs_past_another {timeout : Int} {o : Option (Option StampedExchange)}
    {w : World RegisterModel.device}
    (hrest : Runs commander (.iter (waitTurn
      (fun exchange => exchange.command = GripperCommand.defaults) (dueAfter timeout 0)) 2)
      anotherPublished o w) :
    Runs commander (setCommandAndWaitForExchange GripperCommand.defaults timeout)
      makeFakeGripper.afterLatch o w := by
  have hreply : (gripperSystem RegisterModel.device).Within Quiet
      (makeFakeGripper.afterLatch.afterSet GripperCommand.defaults) anotherPublished :=
    afterReply_within rfl rfl
  refine runs_bind (runs_act .refl rfl) (runs_bind (runs_act .refl rfl) ?_)
  refine runs_bind (runs_deadlineAfter timeout .refl) ?_
  exact runs_iter_again (runs_waitTurn_miss (Nat.succ_pos _) (by decide) (by decide) hreply) hrest

/-- Its own exchange is under way when the time is up. -/
theorem no_carrier_missed_under_way : ∃ w : World RegisterModel.device,
    w.image.stamped.count = 1 ∧ w.image.stamped.command ≠ GripperCommand.defaults ∧
    w.pc = .latched GripperCommand.defaults ∧
    ∃ before after, w.trace = before ++ .set GripperCommand.defaults :: after ∧
      ∀ k r c', .published k r ∈ w.trace → .latched k c' ∉ after := by
  let w := anotherPublished.afterLatch.afterTick 1000000
  have hw : (gripperSystem RegisterModel.device).Within Quiet anotherPublished w :=
    (afterLatch_within rfl rfl).trans (afterTick_within (by decide))
  have hcall : Runs commander (setCommandAndWaitForExchange GripperCommand.defaults 1)
      makeFakeGripper.afterLatch (some none) w :=
    runs_past_another (runs_iter_done (runs_waitTurn_empty (by decide) hw (by decide)))
  obtain ⟨before, after, htrace, _, _, _, hnone⟩ := no_carrier_missed afterLatch_reachable hcall
  exact ⟨w, rfl, by decide, rfl, before, after, htrace, hnone⟩

/-! ## Delivery -/

/-- The record `r` is a proof of delivery of `c`, at `w`, for a call made at `w₀`. -/
structure Delivered (w₀ : World dev) (c : GripperCommand) (r : StampedExchange) (w : World dev) :
    Prop where
  command : r.command = c
  fresh : w₀.image.stamped.count < r.count
  /-- The exchange of the record wrote `c`, and no cycle has latched another block since. -/
  last : ∃ s, (successesOf w.trace)[r.count - 1]? = some s ∧ s.command = c ∧ Backed w.trace s ∧
    ∀ k c', .latched k c' ∈ w.trace → s.cycle < k → c' = c

/-- The blocks latched since the call: the one in the image at the call up to the
    set, `c` from then on. -/
theorem latched_during_call (h₀ : Chronicle seed w₀)
    (hw₁ : (gripperSystem dev).Within Quiet w₀ w₁)
    (hw : (gripperSystem dev).Within Quiet (w₁.afterSet c) w) {k : Nat} {c' : GripperCommand}
    (hk : .latched k c' ∈ w.trace) (hlate : w₀.cycles < k) :
    c' = if k ≤ w₁.cycles then w₀.image.command else c := by
  have h₁ := h₀.along hw₁
  have h := (h₁.afterSet c).along hw
  split
  · next hle =>
    obtain ⟨after, htrace⟩ := trace_grows_within hw
    have hmem : .latched k c' ∈ w₁.trace := by
      -- a cycle this early cannot have latched after the set
      rcases List.mem_append.mp (htrace ▸ hk) with hold | hnew
      · rcases List.mem_append.mp hold with hold | hset
        · exact hold
        · cases List.mem_singleton.mp hset
      · have hlt : w₁.cycles < k := (h₁.afterSet c).latched_since h htrace.symm hnew
        omega
    exact latched_of_quiet h₀ hw₁ k c' hmem hlate
  · next hgt => exact latched_of_quiet (h₁.afterSet c) hw k c' hk (Nat.lt_of_not_le hgt)

/-- Delivery, when no exchange under way at the call can pass for a carrier. -/
theorem delivered_of_call (hw : w₀.Reachable)
    (hcond : w₀.image.command = c ∨ w₀.pc.carries ≠ some c ∨ w₀.running = false)
    {r : StampedExchange}
    (hcall : Runs commander (setCommandAndWaitForExchange c timeout) w₀ (some (some r)) w) :
    Delivered w₀ c r w := by
  obtain ⟨seed, h₀⟩ := chronicle_of_reachable hw
  obtain ⟨w₁, desired, hw₁, hawait, ⟨rfl, hcount⟩, hcommand⟩ :=
    (setCommandAndWait_triple h₀).done .refl hcall
  have hcommand := hcommand _ rfl
  have hfresh : w₀.image.stamped.count < w.image.stamped.count :=
    Nat.lt_of_lt_of_le hawait.late hcount
  obtain ⟨s, hs, hbacked, hstamped, hcycle, hcarried⟩ :=
    h₀.cycle_since (within_of_runs hcall) hfresh
  have hsc : s.command = c := by rw [← hcommand, hstamped, ProcessImage.recordOf_command]
  refine ⟨hcommand, hfresh, s, hs, hsc, hbacked, ?_⟩
  intro k c' hk hlater
  have hlatched := latched_during_call h₀ hw₁ hawait.run hk (Nat.lt_of_le_of_lt hcycle hlater)
  rw [hlatched]
  split
  · next hle =>
    -- the later cycle latched before the set: then so did the exchange of the record
    by_cases hcur : s.cycle = w₀.cycles
    · rcases hcond with hcond | hcond | hcond
      · exact hcond
      · exact absurd (hsc ▸ hcarried hcur) hcond
      · have hpc : w₀.pc ≠ .starting := by
          intro hpc
          have := hcarried hcur
          rw [hpc] at this
          cases this
        have := cycles_of_halted hcond hpc hw₁
        omega
    · -- both cycles latched between the call and the set, so both took the block of the call
      have := latched_during_call h₀ hw₁ hawait.run hbacked.1 (by omega)
      rw [if_pos (by omega), hsc] at this
      exact this.symm
  · rfl

/-! ### When an equal block is under way -/

/-- The exchange under way at `w` succeeds and is published, at `w'`. -/
structure Completes (w : World dev) (c : GripperCommand) (w' : World dev) : Prop where
  run : (gripperSystem dev).Within Quiet w w'
  pc : w'.pc = .idle
  running : w'.running = w.running
  cycles : w'.cycles = w.cycles
  image : ∃ st t, w'.image = w.image.publish c st t

theorem completes_of_move {u : World dev} {l : Label} (hmove : Move w l u) (hl : Quiet l)
    (hrunning : u.running = w.running) (hcycles : u.cycles = w.cycles)
    (himage : u.image = w.image) (h : ∃ w', Completes u c w') : ∃ w', Completes w c w' :=
  h.imp fun _ h =>
    { run := .head ⟨l, hl, step_of_move hmove⟩ h.run
      pc := h.pc
      running := h.running.trans hrunning
      cycles := h.cycles.trans hcycles
      image := himage ▸ h.image }

theorem completes_of_turned {st : GripperStatus} {t : Time} {recovered : Bool}
    (hpc : w.pc = .turned c st t recovered) : ∃ w', Completes w c w' := by
  cases recovered with
  | false =>
    have hpublish := step_of_move (.publish c st t hpc)
    exact ⟨_, .single ⟨_, rfl, hpublish⟩, rfl, rfl, rfl, st, t, rfl⟩
  | true =>
    have hpublish := step_of_move (.publishRecovered c st t hpc)
    exact ⟨_, .head ⟨_, rfl, hpublish⟩ (.single ⟨.logRecovered, rfl, rfl⟩), rfl, rfl, rfl, st, t, rfl⟩

theorem completes_of_cleared {st : GripperStatus} {t : Time} (hpc : w.pc = .cleared c st t) :
    ∃ w', Completes w c w' :=
  completes_of_move (.turnOperational c st t hpc) rfl rfl rfl rfl (completes_of_turned rfl)

theorem completes_of_completed {st : GripperStatus} {t : Time} (hpc : w.pc = .completed c st t) :
    ∃ w', Completes w c w' :=
  completes_of_move (.clearFailures c st t hpc) rfl rfl rfl rfl (completes_of_cleared rfl)

theorem completes_of_returned {st : GripperStatus} (hpc : w.pc = .returned c st) :
    ∃ w', Completes w c w' :=
  completes_of_move (.stamp c st hpc) rfl rfl rfl rfl (completes_of_completed rfl)

theorem completes_of_answered {st : GripperStatus} (hpc : w.pc = .answered c st) :
    ∃ w', Completes w c w' :=
  completes_of_move (.reply c st hpc) rfl rfl rfl rfl (completes_of_returned rfl)

theorem completes_of_latched (hpc : w.pc = .latched c) : ∃ w', Completes w c w' :=
  completes_of_move (.deliver c hpc) rfl rfl rfl rfl (completes_of_answered rfl)

/-- An exchange under way can complete, whatever stage it is at. -/
theorem completes_of_carries (hcarries : w.pc.carries = some c) : ∃ w', Completes w c w' := by
  cases hpc : w.pc
  all_goals
    rw [hpc] at hcarries
    cases hcarries
  -- what is left are the stages that carry a block, and it is `c`
  case latched => exact completes_of_latched hpc
  case answered st => exact completes_of_answered hpc
  case returned st => exact completes_of_returned hpc
  case completed st t => exact completes_of_completed hpc
  case cleared st t => exact completes_of_cleared hpc
  case turned st t recovered => exact completes_of_turned hpc

/-- **The run that is no delivery**: an exchange with an equal block is under way
    at the call and completes; before the call sets its block, the next cycle
    latches the other block of the image. The first look then returns the old
    exchange, while the other block is on its way. -/
theorem undelivered_run (hw : w₀.Reachable) (hne : w₀.image.command ≠ c)
    (hcarries : w₀.pc.carries = some c) (hrunning : w₀.running = true) (timeout : Int) :
    ∃ r w, Runs commander (setCommandAndWaitForExchange c timeout) w₀ (some (some r)) w ∧
      ¬ Delivered w₀ c r w := by
  obtain ⟨u, hrun, hpc, hrunning', hcycles, st, t, himage⟩ := completes_of_carries hcarries
  -- the next cycle latches what the image holds
  let v := u.afterLatch
  have hnext := afterLatch_within hpc (hrunning'.trans hrunning)
  have hcall : Runs commander (setCommandAndWaitForExchange c timeout) w₀
      (some (some (v.afterSet c).image.stamped)) (v.afterSet c) := by
    refine runs_bind (runs_act .refl rfl) (runs_bind (runs_act (hrun.trans hnext) rfl) ?_)
    refine runs_waitForExchangeAfter timeout ?_ ?_ .refl
    · show w₀.image.stamped.count < u.image.stamped.count
      rw [himage, ProcessImage.publish_stamped, ProcessImage.recordOf_count]
      exact Nat.lt_succ_self _
    · show decide (u.image.stamped.command = c) = true
      rw [himage, ProcessImage.publish_stamped, ProcessImage.recordOf_command, decide_eq_true rfl]
  refine ⟨_, _, hcall, ?_⟩
  intro hs
  obtain ⟨_, _, s, _, hsc, hbacked, hlast⟩ := hs
  obtain ⟨seed, h⟩ := chronicle_of_reachable (hw.within (within_of_runs hcall))
  -- the cycle after that of the record has latched the block of the image
  have hother : .latched (w₀.cycles + 1) w₀.image.command ∈ (v.afterSet c).trace := by
    refine List.mem_append_left _ (List.mem_append_right _ ?_)
    rw [hcycles, command_of_quiet hrun]
    exact List.mem_singleton_self _
  have hle := (h.latched_bounds hbacked.1).2
  have hcyclesv : (v.afterSet c).cycles = w₀.cycles + 1 := congrArg (· + 1) hcycles
  rcases Nat.lt_or_eq_of_le (hcyclesv ▸ hle) with hlt | heq
  · exact hne (hlast _ _ hother hlt)
  · exact hne ((h.latched_unique hother (heq ▸ hbacked.1)).trans hsc)

/-- **When the call is a proof of delivery**: exactly when the block was in the
    image already, or no exchange under way at the call carries an equal one, or
    the cycle has been stopped. -/
theorem delivered_iff (hw : w₀.Reachable) (c : GripperCommand) (timeout : Int) :
    (∀ r w, Runs commander (setCommandAndWaitForExchange c timeout) w₀ (some (some r)) w →
      Delivered w₀ c r w) ↔
    w₀.image.command = c ∨ w₀.pc.carries ≠ some c ∨ w₀.running = false := by
  constructor
  · intro hall
    by_contra hcond
    push Not at hcond
    obtain ⟨hne, hcarries, hrunning⟩ := hcond
    obtain ⟨r, w, hcall, hnot⟩ := undelivered_run hw hne hcarries (by simpa using hrunning) timeout
    exact hnot (hall r w hcall)
  · exact fun hcond r w hcall => delivered_of_call hw hcond hcall

/-- An exchange with another block is under way at the call, and its record is passed over. -/
theorem delivered_behind_another :
    (makeFakeGripper.afterLatch : World RegisterModel.device).pc.carries =
      some makeFakeGripper.image.command ∧
    ∃ r w, Runs commander (setCommandAndWaitForExchange GripperCommand.defaults 1000)
      makeFakeGripper.afterLatch (some (some r)) w ∧ r.count = 2 ∧
      Delivered makeFakeGripper.afterLatch GripperCommand.defaults r w := by
  have hw : (gripperSystem RegisterModel.device).Within Quiet anotherPublished
      anotherPublished.afterCycle := afterCycle_within rfl rfl rfl
  have hcall : Runs commander (setCommandAndWaitForExchange GripperCommand.defaults 1000)
      makeFakeGripper.afterLatch (some (some anotherPublished.afterCycle.image.stamped))
      anotherPublished.afterCycle :=
    runs_past_another
      (runs_iter_done (runs_waitTurn_hit (Nat.succ_pos _) (by decide) (by decide) hw))
  refine ⟨rfl, _, _, hcall, rfl, ?_⟩
  exact (delivered_iff afterLatch_reachable GripperCommand.defaults 1000).mpr
    (.inr (.inl (by decide))) _ _ hcall

/-- A block is set and latched, another replaces it in the image, and the first
    is set again with the call: the record returned is no proof of delivery. -/
theorem undelivered_example : ∃ w₀ : World RegisterModel.device,
    (gripperSystem RegisterModel.device).replay makeFakeGripper
      [.setCommand GripperCommand.defaults, .beginCycle, .latch, .setCommand {}] = some w₀ ∧
    ∃ r w, Runs commander (setCommandAndWaitForExchange GripperCommand.defaults 1000) w₀
      (some (some r)) w ∧ ¬ Delivered w₀ GripperCommand.defaults r w := by
  have hreplay : (gripperSystem RegisterModel.device).replay makeFakeGripper
      [.setCommand GripperCommand.defaults, .beginCycle, .latch, .setCommand {}] = some _ := rfl
  have hrun := System.replay_within (L := fun _ => True) (fun _ _ => trivial) hreplay
  have hreachable := makeFakeGripper_reachable.within hrun
  exact ⟨_, hreplay, undelivered_run hreachable (by decide) rfl rfl 1000⟩

end call

end GripperDriver

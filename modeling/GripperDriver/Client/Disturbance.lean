import GripperDriver.Client.Handshake

/-! # What `activate` Disturbs

    `activate` judges the status of one exchange and resets the gripper later.
    Between the two, cycles go on with blocks that were set before the call.

    * `TrackedDevice`: a device with the rACT it has processed last,
    * `Undisturbed`: no block of the call is a falling edge of rACT for a healthy
      device,
    * `UpToDate`: no record that the call may judge is overtaken by the device,
    * `activate_undisturbed`: the second gives the first, in every run.
-/

namespace GripperDriver

open Interleaving

/-- A device and the rACT of the last block it has applied. -/
structure TrackedDevice extends Device where
  activateBit : State → Bool
  activateBit_write : ∀ d c, activateBit (write d c) = c.activateBit
  activateBit_elapse : ∀ d t t', activateBit (elapse d t t') = activateBit d

abbrev RegisterModel.tracked : TrackedDevice where
  toDevice := RegisterModel.device
  activateBit := RegisterModel.previousActivateBit
  activateBit_write := RegisterModel.previousActivateBit_writeCommand
  activateBit_elapse := fun _ _ _ => rfl

section disturbance

/-- The event turns a device that is not healthy into a healthy one. -/
def Event.turnsHealthy {dev : Device} : Event dev → Bool
  | .applied _ c d => !(dev.answer d).healthy && (dev.answer (dev.write d c)).healthy
  | .elapsed d d' => !(dev.answer d).healthy && (dev.answer d').healthy
  | _ => false

section definitions
variable {dev : Device}

/-- Cycle `k` has latched a block that the call at `w₀` had put in the image. -/
def OwnCycle (w₀ w : World dev) (k : Nat) : Prop :=
  ∃ x y b c, w.trace = w₀.trace ++ (x ++ .set b :: y) ∧ .latched k c ∈ y

/-- Where a record published since the call shows the gripper not healthy, nothing
    turns it healthy, from the write that the record answers, before the device
    has applied a block of the call. -/
def UpToDate (w₀ w : World dev) : Prop :=
  ∀ x e y k r c d, w.trace = x ++ e :: y → e.turnsHealthy = true →
    .published k r ∈ w.trace → w₀.image.stamped.count < r.count → r.status.healthy = false →
    .applied k c d ∈ x →
    ∃ k' c' d', .applied k' c' d' ∈ x ++ [e] ∧ OwnCycle w₀ w k'

end definitions

variable {T : TrackedDevice}

/-- No block of the call is a falling edge of rACT for a healthy device. -/
def Undisturbed (w₀ w : World T.toDevice) : Prop :=
  ∀ k c d, .applied k c d ∈ w.trace → OwnCycle w₀ w k →
    T.activateBit d = true → c.activateBit = false → (T.answer d).healthy = false

/-! ## The blocks of the call -/

section blocks
variable {dev : Device} {w₀ w₁ w₂ w : World dev} {seed : StampedExchange} {proc : Procedure}

/-- A cycle with a block of the call has latched after the first of them was set. -/
theorem own_late {L : Label → Prop} (h₁ : Chronicle seed w₁)
    (hquiet : (gripperSystem dev).Within Quiet w₀ w₁)
    (hrun : (gripperSystem dev).Within L w₁ w) {k : Nat} (hown : OwnCycle w₀ w k) :
    w₁.cycles < k := by
  obtain ⟨x, y, b, c, htrace, hlatched⟩ := hown
  obtain ⟨m, hm⟩ := trace_grows_within hquiet
  obtain ⟨rest, hrest⟩ := trace_grows_within hrun
  have hnone : setsOf m = [] := by
    have hsame := sets_of_quiet hquiet
    rw [← hm, setsOf_append] at hsame
    exact List.append_cancel_left (hsame.trans (List.append_nil _).symm)
  have hlate : .latched k c ∈ rest := by
    rw [← hrest, ← hm, List.append_assoc] at htrace
    rcases List.append_eq_append_iff.mp (List.append_cancel_left htrace) with
      ⟨z, _, rfl⟩ | ⟨z, rfl, hz⟩
    · simp [hlatched]
    · -- `b` would have been set before `w₁`
      cases z with
      | nil => simp [← (List.nil_append rest ▸ hz : _ = rest), hlatched]
      | cons e z =>
        cases (List.cons.inj hz).1
        rw [setsOf_append, setsOf_cons_set] at hnone
        simp at hnone
  exact h₁.latched_since (h₁.along hrun) hrest.symm hlate

/-- Two blocks set one after the other: what the cycles in between latch, and what
    those after latch. -/
theorem latched_between (h₁ : Chronicle seed w₁) {b f : GripperCommand}
    (hwait : (gripperSystem dev).Within Quiet (w₁.afterSet b) w₂)
    (hrun : (gripperSystem dev).Within Quiet (w₂.afterSet f) w) :
    ∀ k c, .latched k c ∈ w.trace → w₁.cycles < k →
      (k ≤ w₂.cycles ∧ c = b) ∨ (w₂.cycles < k ∧ c = f) := by
  -- a cycle after the second set latches its block, one before it still the first
  intro k c hk hlate
  have h₂ := ((h₁.afterSet b).along hwait).afterSet f
  rcases Nat.lt_or_ge w₂.cycles k with hlt | hle
  · exact .inr ⟨hlt, latched_of_quiet h₂ hrun k c hk hlt⟩
  · obtain ⟨rest, hrest⟩ := trace_grows_within hrun
    have hold : .latched k c ∈ w₂.trace := by
      rw [← hrest, List.mem_append] at hk
      rcases hk with hk | hk
      · simpa [World.afterSet] using hk
      · exact absurd (h₂.latched_since (h₂.along hrun) hrest.symm hk) (Nat.not_lt.mpr hle)
    exact .inl ⟨hle, latched_of_quiet (h₁.afterSet b) hwait k c hold hlate⟩

/-- What a procedure's cycles latch: up to some cycle the reset, then one block. -/
theorem own_blocks (h₀ : Chronicle seed w₀) (h : Progress w₀ proc w) :
    setsOf w.trace = setsOf w₀.trace ∨
    ∃ w₁ K f, Judged w₀ proc w₁ ∧ (gripperSystem dev).Within (fun _ => True) w₁ w ∧
      ∀ k c, .latched k c ∈ w.trace → w₁.cycles < k →
        (k ≤ K ∧ c = deactivateCommand w₀.image.command) ∨ (K < k ∧ c = f) := by
  have heverything : ∀ {u v : World dev} {c : GripperCommand},
      (gripperSystem dev).Within Quiet (u.afterSet c) v →
      (gripperSystem dev).Within (fun _ => True) u v :=
    fun hrun => .head ⟨_, trivial, step_afterSet _ _⟩ (hrun.weaken fun _ _ => trivial)
  cases h with
  | waiting run => exact .inl (sets_of_quiet run)
  -- no second block has been set: every cycle of the call latches the reset
  | clearing w₁ judged run =>
    have h₁ := (h₀.along judged.run).afterSet (deactivateCommand w₀.image.command)
    refine .inr ⟨w₁, w.cycles, {}, judged, heverything run, ?_⟩
    intro k c hk hlate
    exact .inl ⟨((h₁.along run).latched_bounds hk).2, latched_of_quiet h₁ run k c hk hlate⟩
  | activating w₁ w₂ judged cleared run =>
    exact .inr ⟨w₁, w₂.cycles, _, judged, (heverything cleared.run).trans (heverything run),
      latched_between (h₀.along judged.run) cleared.run run⟩
  | restored w₁ w₂ judged wait run =>
    exact .inr ⟨w₁, w₂.cycles, _, judged, (heverything wait).trans (heverything run),
      latched_between (h₀.along judged.run) wait run⟩

end blocks

/-! ## The call -/

section call
variable {w₀ w : World T.toDevice} {seed : StampedExchange}

/-- The write behind the record in the image. -/
theorem write_of_stamped {dev : Device} {u : World dev} (h : Chronicle seed u)
    (hcount : 0 < u.image.stamped.count) :
    ∃ k c d, .published k u.image.stamped ∈ u.trace ∧ .applied k c d ∈ u.trace ∧
      u.image.stamped.status = dev.answer (dev.write d c) := by
  rcases h.stamped_cases with ⟨hzero, _⟩ | ⟨n, k, _, hn⟩
  · exact absurd hzero (Nat.ne_of_gt hcount)
  obtain ⟨s, hs, rfl, hstamped⟩ := h.published_eq hn
  obtain ⟨_, d, happlied, hstatus⟩ := h.succeeded s (List.mem_of_getElem? hs)
  exact ⟨s.cycle, s.command, d, mem_publishedOf.mp (List.mem_of_getElem? hn), happlied,
    (congrArg (·.status) hstamped).trans hstatus⟩

/-- Once the device has applied a block of the call, a further one with rACT clear is
    no edge: after the reset, rACT rises at most. -/
theorem no_edge_after_first (h : Chronicle seed w) (hreach : w.Reachable) {first last : Nat}
    {f : GripperCommand}
    (hblocks : ∀ k c, .latched k c ∈ w.trace → first < k →
      (k ≤ last ∧ c = deactivateCommand w₀.image.command) ∨ (last < k ∧ c = f))
    {x y z : List (Event T.toDevice)} {k k' : Nat} {c c' : GripperCommand} {d d' : T.State}
    (hsplit : w.trace = x ++ .applied k' c' d' :: (y ++ .applied k c d :: z))
    (hlate : first < k') (hc : c.activateBit = false) : T.activateBit d = false := by
  have hlt := (h.applied_order hsplit).2
  have hend : w.trace = (x ++ .applied k' c' d' :: y) ++ .applied k c d :: z := by
    rw [hsplit, List.append_assoc, List.cons_append]
  have hlast := (h.applied_order hend).1
  -- as the last of these blocks has rACT clear, so have all before it
  have hclear : ∀ j b e, .applied j b e ∈ w.trace → first < j → j ≤ k → b.activateBit = false := by
    intro j b e hj hfirst hle
    have hk := h.delivered k c d (by rw [hend]; simp)
    rcases hblocks j b (h.delivered j b e hj) hfirst with ⟨_, rfl⟩ | ⟨hlastj, rfl⟩
    · exact activateBit_deactivateCommand _
    · rcases hblocks k c hk (by omega) with ⟨hle', _⟩ | ⟨_, rfl⟩
      · omega
      · exact hc
  refine (evolves_between hreach hsplit).keeps (P := fun e => T.activateBit e = false) ?_ ?_ ?_
  · intro j b e hj _
    have hj' := hlt j b e (List.mem_append_left _ hj)
    have hjk := hlast j b e (by simp [hj])
    rw [T.activateBit_write]
    exact hclear j b e (by rw [hsplit]; simp [hj]) (by omega) (by omega)
  · intro e t t' _ he
    rw [T.activateBit_elapse, he]
  · have hk' := hlast k' c' d' (by simp)
    rw [T.activateBit_write]
    exact hclear k' c' d' (by rw [hsplit]; simp) hlate (by omega)

/-- Without an event that turns it healthy, a device that is not stays so. -/
theorem Evolves.unhealthy {dev : Device} {d d' : dev.State} {es : List (Event dev)}
    (h : Evolves d es d') (hd : (dev.answer d).healthy = false)
    (hkept : ∀ e ∈ es, e.turnsHealthy = false) : (dev.answer d').healthy = false := by
  refine h.keeps (P := fun e => (dev.answer e).healthy = false) ?_ ?_ hd
  · intro k c e he hdown
    simpa [Event.turnsHealthy, hdown] using hkept _ he
  · intro e t t' he hdown
    simpa [Event.turnsHealthy, hdown] using hkept _ he

/-- **Where its judgement is up to date, the call disturbs nothing**: the first of
    its blocks finds the device as it was judged, and from then on rACT rises at most. -/
theorem undisturbed_of_progress (h₀ : Chronicle seed w₀) (hreach : w.Reachable)
    (hprogress : Progress w₀ .activate w) (hfresh : UpToDate w₀ w) : Undisturbed w₀ w := by
  intro k c d hk hown hd hc
  rcases own_blocks h₀ hprogress with hsame | ⟨w₁, K, f, hjudged, hrun, hblocks⟩
  · obtain ⟨x, y, b, _, htrace, _⟩ := hown
    rw [htrace, setsOf_append, setsOf_append, setsOf_cons_set] at hsame
    simp at hsame
  have h₁ := h₀.along hjudged.run
  have h := h₁.along hrun
  have hlate := own_late h₁ hjudged.run hrun hown
  obtain ⟨u, hu, huw, hcount, hgoesOn⟩ := hjudged
  have hgrows : u.trace <+: w.trace := (trace_grows_within huw).trans (trace_grows_within hrun)
  obtain ⟨k₀, c₀, d₀, hpublished, happlied, hstatus⟩ :=
    write_of_stamped (h₀.along hu) (Nat.zero_lt_of_lt hcount)
  have hunhealthy : u.image.stamped.status.healthy = false := by
    simpa [Procedure.goesOn] using hgoesOn
  have hbefore : k₀ ≤ w₁.cycles :=
    ((h₀.along hu).applied_bounds happlied).2.trans (cycles_le_of_within huw)
  obtain ⟨x, y, z, hsplit⟩ := h.applied_split (hgrows.subset happlied) hk (by omega)
  have hevolves := evolves_between hreach hsplit
  -- either a block of the call has been applied in between, or this is the first one
  by_cases hfirst : ∃ k' c' d', .applied k' c' d' ∈ y ∧ w₁.cycles < k'
  · obtain ⟨k', c', d', hk', hlate'⟩ := hfirst
    obtain ⟨y₁, y₂, rfl⟩ := List.append_of_mem hk'
    have hsplit' : w.trace = (x ++ .applied k₀ c₀ d₀ :: y₁) ++
        .applied k' c' d' :: (y₂ ++ .applied k c d :: z) := by
      rw [hsplit]
      simp
    -- rACT was cleared by then, so this block is no edge
    have hdown := no_edge_after_first h hreach hblocks hsplit' hlate' hc
    rw [hd] at hdown
    cases hdown
  · apply hevolves.unhealthy (hstatus ▸ hunhealthy)
    intro e he
    -- what turns the device healthy has a block of the call before it, and there is none
    by_contra hturn
    obtain ⟨y₁, y₂, rfl⟩ := List.append_of_mem he
    obtain ⟨k', c', d', hk', hown'⟩ := hfresh (x ++ .applied k₀ c₀ d₀ :: y₁) e
      (y₂ ++ .applied k c d :: z) k₀ u.image.stamped c₀ d₀ (by rw [hsplit]; simp)
      (by simpa using hturn) (hgrows.subset hpublished) hcount hunhealthy (by simp)
    have hlate' := own_late h₁ (hu.trans huw) hrun hown'
    -- a block of the call is applied neither before the judged one nor up to `e`
    simp only [List.append_assoc, List.cons_append, List.mem_append, List.mem_cons] at hk'
    rcases hk' with hk' | hk' | hk'
    · exact absurd ((h.applied_order hsplit).1 k' c' d' hk') (by omega)
    · cases hk'
      omega
    · exact hfirst ⟨k', c', d', by simp only [List.mem_append, List.mem_cons]; tauto, hlate'⟩

/-- **What `activate` disturbs**: nothing, in any run in which its judgement is up to
    date; and a result that needs no handshake comes with no block set. -/
theorem activate_undisturbed (timeout : Int) (hreach : w₀.Reachable) :
    (∀ w, Visits commander (activate timeout) w₀ w → UpToDate w₀ w → Undisturbed w₀ w) ∧
      ∀ w r, Runs commander (activate timeout) w₀ (some r) w →
        r = .alreadyActive ∨ r = .faultLatched → setsOf w.trace = setsOf w₀.trace := by
  obtain ⟨seed, h₀⟩ := chronicle_of_reachable hreach
  constructor
  · intro w hvis hfresh
    obtain ⟨o, w', hrun, henv⟩ := hvis
    have hwithin := (within_of_runs hrun).trans (System.Within.weaken (fun _ _ => trivial) henv)
    have hprogress : Progress w₀ .activate w := progress_of_visits ⟨o, w', hrun, henv⟩
    exact undisturbed_of_progress h₀ (hreach.within hwithin) hprogress hfresh
  · intro w r hrun hr
    have houtcome := ((activate_triple timeout).done .refl hrun).2.1
    rcases hr with rfl | rfl
    · exact sets_of_quiet houtcome
    · exact sets_of_quiet houtcome

end call

/-! ### A gripper that was power-cycled -/

/-- gACT echoed, gSTA reset. -/
def powerCycled : RegisterModel :=
  { RegisterModel.setStatus {} (({} : GripperStatus).setActivated true)
    with previousActivateBit := true }

def powerCycledGripper : World RegisterModel.device :=
  .constructed powerCycled powerCycled.answer 0

/-- What `activate` makes of it on a link that loses nothing. -/
def reactivatedGripper : World RegisterModel.device := powerCycledGripper.afterCycle.reactivated

theorem runs_activate_powerCycled :
    Runs commander (activate 1000) powerCycledGripper (some .activated) reactivatedGripper := by
  apply runs_bind (runs_act .refl rfl)
  refine runs_bind (runs_waitForStatus _ (afterCycle_within rfl rfl rfl)
    (Nat.lt_succ_self _) rfl) ?_
  show Runs commander (if _ then _ else if _ then _ else if _ then _ else _) _ _ _
  rw [if_neg (by decide), if_neg (by decide), if_neg (by decide)]
  exact runs_handshake (by decide) (runs_runActivationHandshake _ rfl rfl rfl)

/-- Only the write with rACT set, the last of the call, turns the gripper healthy. -/
theorem upToDate_powerCycled : UpToDate powerCycledGripper reactivatedGripper := by
  have hall : (reactivatedGripper.trace.all fun e =>
      !e.turnsHealthy || e.delivery? == some 3) = true := by decide +kernel
  intro x e y k r c d htrace hturn _ _ _ _
  have he := List.all_eq_true.mp hall e (by rw [htrace]; simp)
  rw [hturn, Bool.not_true, Bool.false_or, beq_iff_eq] at he
  cases e with
  | applied k' c' d' =>
    cases he
    exact ⟨3, c', d', by simp, [_, _, _, _, _, _, _, _, _], [.latched 3 _, _, _, _], _, _, rfl,
      List.mem_cons_self⟩
  | _ => cases he

theorem undisturbed_powerCycled :
    Undisturbed (T := RegisterModel.tracked) powerCycledGripper reactivatedGripper :=
  (activate_undisturbed 1000 (constructed_reachable _ _ _)).1 _
    runs_activate_powerCycled.visits upToDate_powerCycled

/-! ### A judgement that is overtaken -/

/-- An exchange is under way when the application sets rACT. -/
def overtaken₀ : World RegisterModel.device :=
  makeFakeGripper.afterLatch.afterSet GripperCommand.defaults

/-- The exchange shows the gripper reset; the next brings the device rACT set, and the
    one after the reset of the handshake. -/
def overtaken : World RegisterModel.device :=
  (((overtaken₀.afterReply makeFakeGripper.image.command).afterCycle).afterSet
    (deactivateCommand GripperCommand.defaults)).afterCycle

theorem visits_overtaken : Visits commander (activate 1000) overtaken₀ overtaken := by
  apply Runs.visits (o := none)
  apply runs_bind (runs_act .refl rfl)
  apply runs_bind (runs_waitForStatus _ (afterReply_within rfl rfl) (Nat.lt_succ_self _) rfl)
  show Runs commander (if _ then _ else if _ then _ else if _ then _ else _) _ _ _
  rw [if_neg (by decide), if_neg (by decide), if_neg (by decide)]
  apply runs_handshake (by decide)
  apply runs_bind (runs_act .refl rfl)
  -- a cycle runs between the judgement and the reset
  apply runs_bind (runs_act (afterCycle_within rfl rfl rfl) rfl)
  exact runs_idle _ (afterCycle_within rfl rfl rfl)

theorem overtaken₀_reachable : overtaken₀.Reachable :=
  .step _ (makeFakeGripper_reachable.within (afterLatch_within rfl rfl)) (step_afterSet _ _)

/-- The reset reaches a device that is active by then. -/
theorem disturbed_overtaken :
    overtaken₀.Reachable ∧ Visits commander (activate 1000) overtaken₀ overtaken ∧
      ¬ Undisturbed (T := RegisterModel.tracked) overtaken₀ overtaken := by
  refine ⟨overtaken₀_reachable, visits_overtaken, ?_⟩
  intro h
  have hown : OwnCycle overtaken₀ overtaken 3 :=
    ⟨[_, _, _, _, _, _, _], [.latched 3 (deactivateCommand GripperCommand.defaults), _, _, _],
      _, _, rfl, List.mem_cons_self⟩
  have hunhealthy := h 3 (deactivateCommand GripperCommand.defaults) _
    (List.mem_append_right _ List.mem_cons_self) hown rfl (by decide)
  exact absurd hunhealthy (by decide)

end disturbance

end GripperDriver

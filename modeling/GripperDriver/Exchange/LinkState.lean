import GripperDriver.Exchange.Chronicle
import GripperDriver.Framework.History

/-! # The Link State and the Outcomes of Exchanges

    The connection state, the failure counter and the two log lines are kept up
    by separate steps in the two branches of `exchangeOnce`. `Accounted` says
    what each place of the exchange thread has already entered for the outcome
    in hand; at the end of every cycle the books agree with the whole history
    of outcomes, however long a run of failures was.
-/

namespace GripperDriver

open Interleaving

/-! ## Views of the history -/

section views
variable {dev : Device}

def Event.line? : Event dev → Option LogLine
  | .logged line => some line
  | _ => none

def logOf (trace : List (Event dev)) : List LogLine := trace.filterMap Event.line?

@[simp] theorem logOf_concat (trace : List (Event dev)) (e : Event dev) :
    logOf (trace ++ [e]) = logOf trace ++ e.line?.toList :=
  filterMap_concat trace e _

/-- The outcomes of the exchanges so far, `true` for a success. -/
def resultsOf (trace : List (Event dev)) : List Bool := (outcomesOf trace).map Prod.snd

@[simp] theorem resultsOf_concat (trace : List (Event dev)) (e : Event dev) :
    resultsOf (trace ++ [e]) = resultsOf trace ++ (e.outcome?.map Prod.snd).toList := by
  rw [resultsOf, outcomesOf_concat, List.map_append, resultsOf]
  cases e.outcome? <;> rfl

end views

/-! ## What a history of outcomes calls for -/

/-- The connection state after `n` failures in a row. -/
def linkState (n : Nat) : ConnectionState :=
  if kFaultThreshold ≤ n then .faulted else .operational

/-- The lines that a run of `n` failures puts into the log, ended by a success. -/
def outageLines (n : Nat) : List LogLine :=
  if kFaultThreshold ≤ n then [linkFaulted, linkRecovered] else []

/-- The lines that a history with these runs puts into the log. -/
def linkLog (runs : FailureRuns) : List LogLine :=
  runs.ended.flatMap outageLines ++
    if kFaultThreshold ≤ runs.ongoing then [linkFaulted] else []

theorem linkLog_add_true (runs : FailureRuns) :
    linkLog (runs.add true) =
      linkLog runs ++ if kFaultThreshold ≤ runs.ongoing then [linkRecovered] else [] := by
  have hzero : ¬ kFaultThreshold ≤ 0 := by decide
  by_cases h : kFaultThreshold ≤ runs.ongoing <;>
    simp [linkLog, FailureRuns.add, outageLines, h, hzero]

theorem linkLog_add_false (runs : FailureRuns) :
    linkLog (runs.add false) =
      linkLog runs ++ if runs.ongoing + 1 = kFaultThreshold then [linkFaulted] else [] := by
  show runs.ended.flatMap outageLines ++
    (if kFaultThreshold ≤ runs.ongoing + 1 then [linkFaulted] else []) = _
  rw [linkLog, List.append_assoc]
  congr 1
  -- the line is logged as the run gets to the threshold, not before and not again
  rcases Nat.lt_trichotomy (runs.ongoing + 1) kFaultThreshold with h | h | h
  · rw [if_neg (by omega), if_neg (by omega), if_neg (by omega)]
    rfl
  · rw [if_pos h.ge, if_neg (by omega), if_pos h]
    rfl
  · rw [if_pos (by omega), if_pos (by omega), if_neg (by omega)]
    rfl

theorem linkState_add_one {n : Nat} (h : n + 1 ≠ kFaultThreshold) :
    linkState (n + 1) = linkState n := by
  simp only [linkState]
  congr 1
  exact propext ⟨fun hle => by omega, fun hle => by omega⟩

theorem linkState_eq_faulted {n : Nat} : linkState n = .faulted ↔ kFaultThreshold ≤ n := by
  rw [linkState]
  split <;> simp_all

/-! ## The books of the exchange thread -/

/-- The outcome whose bookkeeping is not finished. -/
def ExchangePc.inHand : ExchangePc → Option Bool
  | .completed _ _ _ | .cleared _ _ _ | .turned _ _ _ _ | .recovering => some true
  | .failed | .degrading | .degraded => some false
  | _ => none

section books
variable {dev : Device}

/-- What is entered so far, after runs that end in `n` failures and with the
    outcome in hand. -/
def Entered (w : World dev) (n : Nat) : Prop :=
  match w.pc with
  | .degrading =>
    w.consecutiveFailures = BitVec.ofNat 32 (n + 1) ∧ w.connectionState = linkState n ∧
      kFaultThreshold ≤ n + 1
  | .degraded =>
    w.consecutiveFailures = BitVec.ofNat 32 (n + 1) ∧ w.connectionState = .faulted ∧
      n + 1 = kFaultThreshold
  | .cleared _ _ _ => w.consecutiveFailures = 0 ∧ w.connectionState = linkState n
  | .turned _ _ _ recovered =>
    w.consecutiveFailures = 0 ∧ w.connectionState = .operational ∧
      (recovered = true ↔ kFaultThreshold ≤ n)
  | .recovering =>
    w.consecutiveFailures = 0 ∧ w.connectionState = .operational ∧ kFaultThreshold ≤ n
  | _ => w.consecutiveFailures = BitVec.ofNat 32 n ∧ w.connectionState = linkState n

/-- The books agree with the outcomes, except for the outcome in hand. -/
def Accounted (w : World dev) : Prop :=
  ∃ runs, failureRuns (resultsOf w.trace) = runs.withOutcome w.pc.inHand ∧
    logOf w.trace = linkLog runs ∧ Entered w runs.ongoing

variable {w w' : World dev} {l : Label}

theorem ofNat_add_one (n : Nat) : BitVec.ofNat 32 n + 1 = BitVec.ofNat 32 (n + 1) :=
  (BitVec.ofNat_add n 1).symm

/-- The counter is compared after it has wrapped: below the threshold, the run is
    shorter than that or has long passed it. -/
theorem ne_threshold_of_count_lt {n : Nat}
    (h : (BitVec.ofNat 32 n + 1).toNat < kFaultThreshold) : n + 1 ≠ kFaultThreshold := by
  rw [ofNat_add_one, BitVec.toNat_ofNat] at h
  simp only [kFaultThreshold] at h ⊢
  omega

theorem threshold_le_of_le_count {n : Nat}
    (h : kFaultThreshold ≤ (BitVec.ofNat 32 n + 1).toNat) : kFaultThreshold ≤ n + 1 := by
  rw [ofNat_add_one, BitVec.toNat_ofNat] at h
  exact h.trans (Nat.mod_le _ _)

/-- **Step lemma**: every move keeps the books in order. -/
theorem accounted_step (h : Accounted w) (hmove : Move w l w') : Accounted w' := by
  obtain ⟨runs, hruns, hlog, hentered⟩ := h
  cases hmove with
  | publish c st t hpc =>
    -- the success is fully entered: there was nothing to recover from
    simp only [Entered, hpc] at hentered
    refine ⟨runs.add true, ?_, ?_, ?_⟩
    · simpa [Event.outcome?, hpc, ExchangePc.inHand] using hruns
    · simpa [Event.line?, linkLog_add_true, ← hentered.2.2] using hlog
    · exact ⟨hentered.1, hentered.2.1⟩
  | logRecovered hpc =>
    simp only [Entered, hpc] at hentered
    refine ⟨runs.add true, ?_, ?_, ?_⟩
    · simpa [Event.outcome?, hpc, ExchangePc.inHand] using hruns
    · simpa [Event.line?, linkLog_add_true, hentered.2.2] using hlog
    · exact ⟨hentered.1, hentered.2.1⟩
  -- the failure is fully entered: the run stays below the threshold, or has long passed it
  | countFailure hpc hlt =>
    simp only [Entered, hpc] at hentered
    rw [hentered.1] at hlt
    have hne := ne_threshold_of_count_lt hlt
    refine ⟨runs.add false, ?_, ?_, ?_⟩
    · simpa [hpc, ExchangePc.inHand] using hruns
    · simpa [linkLog_add_false, hne] using hlog
    · exact ⟨hentered.1 ▸ ofNat_add_one _, hentered.2.trans (linkState_add_one hne).symm⟩
  -- the link was faulted by an earlier failure of the same run
  | degradeAgain hpc hlink =>
    simp only [Entered, hpc] at hentered
    have hle := linkState_eq_faulted.mp (hentered.2.1.symm.trans hlink)
    have hne : runs.ongoing + 1 ≠ kFaultThreshold := by omega
    refine ⟨runs.add false, ?_, ?_, ?_⟩
    · simpa [hpc, ExchangePc.inHand] using hruns
    · simpa [linkLog_add_false, hne] using hlog
    · exact ⟨hentered.1, hentered.2.1.trans (linkState_add_one hne).symm⟩
  | logFaulted hpc =>
    simp only [Entered, hpc] at hentered
    refine ⟨runs.add false, ?_, ?_, ?_⟩
    · simpa [Event.outcome?, hpc, ExchangePc.inHand] using hruns
    · simpa [Event.line?, linkLog_add_false, hentered.2.2] using hlog
    · exact ⟨hentered.1, hentered.2.1.trans (linkState_eq_faulted.mpr hentered.2.2.ge).symm⟩
  -- the other moves leave the outcome in hand, half entered
  | countThreshold hpc hle =>
    simp only [Entered, hpc] at hentered
    rw [hentered.1] at hle
    refine ⟨runs, by simpa [hpc, ExchangePc.inHand] using hruns, hlog, ?_⟩
    exact ⟨hentered.1 ▸ ofNat_add_one _, hentered.2, threshold_le_of_le_count hle⟩
  | degrade hpc hlink =>
    simp only [Entered, hpc] at hentered
    have hlt : ¬ kFaultThreshold ≤ runs.ongoing := by
      rw [← linkState_eq_faulted, ← hentered.2.1]
      exact hlink
    refine ⟨runs, by simpa [hpc, ExchangePc.inHand] using hruns, hlog, ?_⟩
    exact ⟨hentered.1, rfl, by omega⟩
  | turnOperational c st t hpc =>
    simp only [Entered, hpc] at hentered
    refine ⟨runs, by simpa [hpc, ExchangePc.inHand] using hruns, hlog, ?_⟩
    exact ⟨hentered.1, rfl, by simp [hentered.2, linkState_eq_faulted]⟩
  | publishRecovered c st t hpc =>
    simp only [Entered, hpc] at hentered
    refine ⟨runs, ?_, ?_, ?_⟩
    · simpa [Event.outcome?, hpc, ExchangePc.inHand] using hruns
    · simpa [Event.line?] using hlog
    · exact ⟨hentered.1, hentered.2.1, hentered.2.2.mp trivial⟩
  | setCommand _ | stop | close _ | tick _ _ =>
    exact ⟨runs, by simpa [Event.outcome?] using hruns, by simpa [Event.line?] using hlog, hentered⟩
  | _ =>
    refine ⟨runs, ?_, ?_, ?_⟩
    · simp_all [Event.outcome?, ExchangePc.inHand, FailureRuns.withOutcome]
    · simpa [Event.line?] using hlog
    · simp_all [Entered]

theorem accounted_constructed (device : dev.State) (fresh : GripperStatus) (at_ : Time) :
    Accounted (World.constructed device fresh at_) :=
  ⟨{}, rfl, rfl, rfl, rfl⟩

/-- **Run lemma**: the books are in order in every reachable world. -/
theorem accounted_of_reachable (h : w.Reachable) : Accounted w := by
  refine h.invariant ?_ fun _ _ _ _ h hstep => accounted_step h (move_of_step hstep)
  intro w hs
  obtain ⟨device, fresh, at_, rfl⟩ := hs
  exact accounted_constructed device fresh at_

/-! ## At the end of a cycle -/

/-- **The link state follows the outcomes.** With no outcome in hand, that is
    after every cycle, the connection state is Faulted exactly when at least
    three exchanges in a row have failed up to now; each maximal run of at least
    three failures has put `linkFaulted` into the log, and the success that ended
    it `linkRecovered`; shorter runs have put nothing there. -/
theorem link_state_after_cycle (hw : w.Reachable) (hpc : w.pc.inHand = none) :
    let runs := failureRuns (resultsOf w.trace)
    resultsOf w.trace = runs.ended.flatMap (fun n => List.replicate n false ++ [true]) ++
      List.replicate runs.ongoing false ∧
    w.connectionState = (if 3 ≤ runs.ongoing then .faulted else .operational) ∧
    logOf w.trace =
      runs.ended.flatMap (fun n => if 3 ≤ n then [linkFaulted, linkRecovered] else []) ++
        (if 3 ≤ runs.ongoing then [linkFaulted] else []) := by
  obtain ⟨runs, hruns, hlog, hentered⟩ := accounted_of_reachable hw
  rw [hpc, FailureRuns.withOutcome_none] at hruns
  have hstate : w.connectionState = linkState runs.ongoing := by
    revert hpc hentered
    simp only [Entered]
    cases w.pc <;> simp [ExchangePc.inHand]
  simp only [hruns]
  refine ⟨?_, hstate, hlog⟩
  rw [← FailureRuns.outcomes, ← hruns, outcomes_failureRuns]

/-- Three lost requests, up to the end of the third cycle. -/
theorem link_state_after_outage : ∃ w : World RegisterModel.device,
    logOf w.trace = [linkFaulted] ∧
      w.connectionState =
        if 3 ≤ (failureRuns (resultsOf w.trace)).ongoing then .faulted else .operational := by
  have hreplay : (gripperSystem RegisterModel.device).replay makeFakeGripper
      [.beginCycle, .latch, .requestLost, .countFailure, .beginCycle, .latch, .requestLost,
        .countFailure, .beginCycle, .latch, .requestLost, .countFailure, .degrade, .logFaulted]
      = some _ := rfl
  have hrun := System.replay_within (L := fun _ => True) (fun _ _ => trivial) hreplay
  have hreachable := makeFakeGripper_reachable.within hrun
  exact ⟨_, rfl, (link_state_after_cycle hreachable rfl).2.1⟩

/-! ## What a Faulted state tells -/

/-- A history of outcomes split in two splits the history. -/
theorem exists_trace_of_resultsOf_eq {trace : List (Event dev)} {xs ys : List Bool}
    (h : resultsOf trace = xs ++ ys) :
    ∃ before after, trace = before ++ after ∧ resultsOf before = xs ∧ resultsOf after = ys := by
  obtain ⟨ps, qs, hpq, hp, hq⟩ := List.map_eq_append_iff.mp h
  obtain ⟨before, after, rfl, hb, ha⟩ := List.filterMap_eq_append_iff.mp hpq
  subst hb ha
  exact ⟨before, after, rfl, hp, hq⟩

theorem length_successesOf (trace : List (Event dev)) :
    (successesOf trace).length = (resultsOf trace).count true := by
  induction trace using List.reverseRecOn with
  | nil => rfl
  | append_singleton trace e ih =>
    cases e <;> simp [Event.success?, Event.outcome?, ih]

/-- The successes are the records published and the one in hand. -/
theorem Chronicle.count_successes {seed : StampedExchange} (h : Chronicle seed w) :
    (resultsOf w.trace).count true = w.image.stamped.count + w.pc.unpublished.toList.length := by
  have hlength := congrArg List.length h.records
  rw [recordsOf, List.length_mapIdx, List.length_append, World.pendingRecord, List.length_map,
    ← h.counted] at hlength
  rw [← length_successesOf, hlength]

/-- Before its success is published and while its outcome is entered, an outage
    still shows: the state is Faulted after three failures, not before. -/
theorem three_le_of_faulted {n : Nat} (h : Entered w n) (hf : w.connectionState = .faulted) :
    3 ≤ n + (if w.pc.inHand = some false then 1 else 0) ∧
      (w.pc.inHand = some true → w.pc.unpublished.isSome) := by
  rw [Entered] at h
  have hlink : .faulted = linkState n ↔ 3 ≤ n := eq_comm.trans linkState_eq_faulted
  simp only [kFaultThreshold] at h
  revert h
  cases w.pc <;> simp_all [ExchangePc.inHand, ExchangePc.unpublished]
  omega

/-- **A Faulted state is backed by three failures** since the exchange whose
    record the image holds. -/
theorem outage_of_faulted (hw : w.Reachable) (hf : w.connectionState = .faulted) :
    ∃ before after, w.trace = before ++ after ∧
      w.image.stamped.count ≤ (resultsOf before).count true ∧
      3 ≤ (resultsOf after).count false := by
  obtain ⟨seed, hchronicle⟩ := chronicle_of_reachable hw
  obtain ⟨runs, hruns, _, hentered⟩ := accounted_of_reachable hw
  have hcount := hchronicle.count_successes
  obtain ⟨hthree, hunpublished⟩ := three_le_of_faulted hentered hf
  -- the last run of failures, with the outcome in hand
  have hsplit : resultsOf w.trace =
      runs.ended.flatMap (fun n => List.replicate n false ++ [true]) ++
        (List.replicate runs.ongoing false ++ w.pc.inHand.toList) := by
    rw [← outcomes_failureRuns (resultsOf w.trace), hruns, FailureRuns.outcomes_withOutcome,
      FailureRuns.outcomes, List.append_assoc]
  obtain ⟨before, after, htrace, hbefore, hafter⟩ := exists_trace_of_resultsOf_eq hsplit
  refine ⟨before, after, htrace, ?_, ?_⟩
  · rw [hsplit, List.count_append, ← hbefore] at hcount
    cases hin : w.pc.inHand with
    | none => simp [hin, List.count_replicate] at hcount; omega
    | some b =>
      cases b with
      | false => simp [hin, List.count_replicate] at hcount; omega
      | true =>
        -- the success in hand is counted, its record is not published yet
        obtain ⟨p, hp⟩ := Option.isSome_iff_exists.mp (hunpublished hin)
        simp [hin, hp, List.count_replicate] at hcount
        omega
  · rw [hafter, List.count_append, List.count_replicate_self]
    cases hin : w.pc.inHand with
    | none => simpa [hin] using hthree
    | some b => cases b <;> simpa [hin] using hthree

end books

end GripperDriver

import GripperDriver.Client.Waits
import GripperDriver.Exchange.LinkState

/-! # What Readers Are Handed

    Every call that hands out a record hands out the one in the image at its
    last look. With the chronicle of the run this says which exchange the record
    is of; with the samples that the cycles take of the command it says which
    blocks were ever latched.
-/

namespace GripperDriver

open Interleaving Relation

/-! ## The reading calls -/

/-- The calls that hand a record to a reader. -/
inductive ReaderCall where
  | stampedExchange
  | sync (count : Nat) (deadline : Time)
  | waitForExchange (timeout : Int)
  | waitForExchangeCount (desired : Nat) (timeout : Int)
  | waitFor (predicate : StampedExchange → Bool) (timeout : Int)

def ReaderCall.prog : ReaderCall → Prog Act (Option StampedExchange)
  | .stampedExchange => do
    let r ← .act .stampedExchange
    pure (some r)
  | .sync count deadline => do
    let r ← GripperDriver.sync count deadline
    pure (some r)
  | .waitForExchange timeout => GripperDriver.waitForExchange timeout
  | .waitForExchangeCount desired timeout => GripperDriver.waitForExchangeCount desired timeout
  | .waitFor predicate timeout => GripperDriver.waitFor predicate timeout

section reading
variable {dev : Device} {G : World dev → Prop} {w w' : World dev}

/-- A call that answers with a record answers with the one in the image. -/
theorem readerCall_triple (call : ReaderCall) (hG : Stable observer G) :
    Triple observer G G call.prog
      (fun answer w => G w ∧ ∀ r, answer = some r → r = w.image.stamped) := by
  have hI : ∀ w, G w → G w := fun _ hw => hw
  cases call with
  | stampedExchange =>
    apply (stampedExchange_triple hG hI).bind
    intro r
    refine Triple.pure hG hI (fun _ hw => hw.1) fun w hw => ⟨hw.1, ?_⟩
    intro _ hs
    cases hs
    exact hw.2
  | sync count deadline =>
    apply (sync_triple count deadline hG hI).bind
    intro r
    refine Triple.pure hG hI (fun _ hw => hw.1) fun w hw => ⟨hw.1, ?_⟩
    intro _ hs
    cases hs
    exact hw.2.1
  | waitForExchange timeout =>
    apply (waitForExchange_triple timeout hG hI).post
    intro answer w hs
    obtain ⟨hw, desired, hlook⟩ := hs
    refine ⟨hw, ?_⟩
    intro r hs
    subst hs
    exact hlook.1
  | waitForExchangeCount desired timeout =>
    apply (waitForExchangeCount_triple desired timeout hG hI).post
    intro answer w hs
    obtain ⟨hw, hlook⟩ := hs
    refine ⟨hw, ?_⟩
    intro r hs
    subst hs
    exact hlook.1
  | waitFor predicate timeout =>
    apply (waitFor_met 0 predicate timeout hG hI fun _ _ => Nat.zero_le _).post
    exact fun answer w h => ⟨h.1, fun r hr => (h.2 r hr).1⟩

/-- A record handed out is the one in the image at the last look. -/
theorem handed_out (call : ReaderCall) {r : StampedExchange}
    (hcall : Runs observer call.prog w (some (some r)) w') : r = w'.image.stamped :=
  ((readerCall_triple call (G := fun _ => True) (Stable.const _)).done trivial hcall).2 r rfl

end reading

/-! ## What the cycles latch -/

section latching
variable {dev : Device} {w w' : World dev} {l : Label} {seed : GripperCommand}

/-- The image holds the newest block set, and every cycle latched the block that
    was the newest then. -/
structure LatchesNewest (seed : GripperCommand) (w : World dev) : Prop where
  newest : (seed :: setsOf w.trace).getLast? = some w.image.command
  latched : ∀ (k : Nat) (c : GripperCommand) (before : List (Event dev)),
    before ++ [.latched k c] <+: w.trace → (seed :: setsOf before).getLast? = some c
  sampled : Sampled (seed :: setsOf w.trace) ((latchesOf w.trace).map Prod.snd)

theorem newest_step (h : (seed :: setsOf w.trace).getLast? = some w.image.command)
    (hmove : Move w l w') : (seed :: setsOf w'.trace).getLast? = some w'.image.command := by
  cases hmove with
  | setCommand c => simp [Event.set?, List.getLast?_cons]
  | _ => simpa [Event.set?] using h

theorem latched_step (h : LatchesNewest seed w) (hmove : Move w l w')
    (k : Nat) (c : GripperCommand) (before : List (Event dev))
    (hpre : before ++ [.latched k c] <+: w'.trace) :
    (seed :: setsOf before).getLast? = some c := by
  have hold := h.latched k c before
  cases hmove with
  | latch hpc =>
    rcases List.prefix_concat_iff.mp hpre with heq | hpre
    · -- the cycle that latches just now takes the newest block, which the image holds
      obtain ⟨rfl, hlast⟩ := List.append_inj' heq rfl
      cases hlast
      exact h.newest
    · exact hold hpre
  -- other moves that write history add no latch to it
  | setCommand _ | tick _ _ | requestLost _ _ | deliver _ _ | replyLost _ _ _ | stamp _ _ _
  | publish _ _ _ _ | publishRecovered _ _ _ _ | logRecovered _ | logFaulted _ =>
    rcases List.prefix_concat_iff.mp hpre with heq | hpre
    · cases (List.append_inj' heq rfl).2
    · exact hold hpre
  | _ => exact hold hpre

theorem sampled_step (h : LatchesNewest seed w) (hmove : Move w l w') :
    Sampled (seed :: setsOf w'.trace) ((latchesOf w'.trace).map Prod.snd) := by
  have hold := h.sampled
  cases hmove with
  | setCommand c => simpa [Event.set?, Event.latch?] using hold.write c
  | latch hpc => simpa [Event.set?, Event.latch?] using hold.sample h.newest
  | _ => simpa [Event.set?, Event.latch?] using hold

theorem latchesNewest_of_within {L : Label → Prop} (h : LatchesNewest seed w)
    (hrun : (gripperSystem dev).Within L w w') : LatchesNewest seed w' :=
  hrun.keeps (fun _ _ _ h _ hstep =>
    { newest := newest_step h.newest (move_of_step hstep)
      latched := latched_step h (move_of_step hstep)
      sampled := sampled_step h (move_of_step hstep) }) h

theorem latchesNewest_constructed (device : dev.State) (fresh : GripperStatus) (at_ : Time) :
    LatchesNewest (seedCommand fresh) (World.constructed device fresh at_) where
  newest := rfl
  latched := by simp [World.constructed]
  sampled := .start _

end latching

/-! ## The contract of the image -/

def Label.isSharing : Label → Bool
  | .setCommand _ | .stop | .close | .tick _ => true
  | _ => false

section contract
variable {dev : Device}

/-- A step of the exchange thread leaves the command alone, and only `publish`
    touches the record. -/
theorem image_of_exchange_step {w w' : World dev} {l : Label} (hl : l.isSharing = false)
    (hstep : (gripperSystem dev).Step w l w') :
    w'.image.command = w.image.command ∧ (l ≠ .publish → w'.image = w.image) := by
  cases move_of_step hstep <;> simp_all [Label.isSharing]

/-- **Contract of the process image**, after any run: each record handed out is
    the one of the exchange its count names; the counts that a reader sees do not
    go back; failed cycles change nothing; each cycle latches the newest block,
    so the latched blocks without repeats are in order among the blocks set. -/
theorem image_contract (device : dev.State) (fresh : GripperStatus) (at_ : Time) {w : World dev}
    (hrun : (gripperSystem dev).Within (fun _ => True) (World.constructed device fresh at_) w) :
    (∀ (call : ReaderCall) r w', Runs observer call.prog w (some (some r)) w' →
      Names (constructedSeed fresh at_) w'.trace r) ∧
    (∀ (call₁ call₂ : ReaderCall) r₁ r₂ w₁ w₂ w₃,
      Runs observer call₁.prog w (some (some r₁)) w₁ →
      (gripperSystem dev).Within (fun _ => True) w₁ w₂ →
      Runs observer call₂.prog w₂ (some (some r₂)) w₃ → r₁.count ≤ r₂.count) ∧
    (∀ l w', l.isSharing = false → (gripperSystem dev).Step w l w' →
      w'.image.command = w.image.command ∧ (l ≠ .publish → w'.image = w.image)) ∧
    (∀ k r, .failed k ∈ w.trace → .published k r ∉ w.trace) ∧
    (∀ k c before, before ++ [.latched k c] <+: w.trace →
      (seedCommand fresh :: setsOf before).getLast? = some c) ∧
    (((latchesOf w.trace).map Prod.snd).destutter (· ≠ ·)).Sublist
      (seedCommand fresh :: setsOf w.trace) := by
  have hchronicle := (chronicle_constructed device fresh at_).along hrun
  have hlatches := latchesNewest_of_within (latchesNewest_constructed device fresh at_) hrun
  refine ⟨?_, ?_, ?_, ?_, hlatches.latched, hlatches.sampled.destutter_sublist⟩
  · intro call r w' hcall
    rw [handed_out call hcall]
    exact (hchronicle.along (within_of_runs hcall)).names_stamped
  · intro call₁ call₂ r₁ r₂ w₁ w₂ w₃ hcall₁ hbetween hcall₂
    rw [handed_out call₁ hcall₁, handed_out call₂ hcall₂]
    exact count_le_of_within (hbetween.trans (within_of_runs hcall₂))
  · exact fun l w' hl hstep => image_of_exchange_step hl hstep
  · -- a record is published for a success, and a cycle has one outcome
    intro k r hfailed hpublished
    obtain ⟨n, hn⟩ := List.getElem?_of_mem (mem_publishedOf.mpr hpublished)
    obtain ⟨s, hs, rfl, _⟩ := hchronicle.published_eq hn
    exact hchronicle.not_succeeded_of_failed hfailed s (List.mem_of_getElem? hs) rfl

/-- One exchange of the fake gripper, and the record a reader is handed after it. -/
theorem image_contract_one_exchange : ∃ w : World RegisterModel.device,
    w.image.stamped.count = 1 ∧ Names (constructedSeed {} 0) w.trace w.image.stamped := by
  have hreplay : (gripperSystem RegisterModel.device).replay makeFakeGripper
      [.beginCycle, .latch, .deliver, .reply, .stamp, .clearFailures, .turnOperational, .publish]
      = some _ := rfl
  have hrun := System.replay_within (L := fun _ => True) (fun _ _ => trivial) hreplay
  exact ⟨_, rfl, (image_contract _ _ _ hrun).1 .stampedExchange _ _
    (runs_bind (runs_act .refl rfl) runs_pure)⟩

/-- **A fresh record never comes with a stale link state**: a reader that has
    been handed the record of exchange `n`, and later reads Faulted, reads it
    after three more failures. -/
theorem failures_after_record {w w₁ w₂ : World dev} (hw : w.Reachable) (call : ReaderCall)
    {r : StampedExchange} (hcall : Runs observer call.prog w (some (some r)) w₁)
    (hrun : (gripperSystem dev).Within (fun _ => True) w₁ w₂)
    (hread : (Act.run w₂ .connectionState).1 = .faulted) :
    ∃ before after, w₂.trace = before ++ after ∧
      r.count ≤ (resultsOf before).count true ∧ 3 ≤ (resultsOf after).count false := by
  obtain ⟨before, after, htrace, hcount, hfailures⟩ :=
    outage_of_faulted ((hw.within (within_of_runs hcall)).within hrun) hread
  rw [handed_out call hcall]
  exact ⟨before, after, htrace, (count_le_of_within hrun).trans hcount, hfailures⟩

/-- The record of an exchange is read, three requests are lost, and the state reads Faulted. -/
theorem failures_after_exchange : ∃ (w : World RegisterModel.device) (before after : List _),
    w.connectionState = .faulted ∧ w.trace = before ++ after ∧
      1 ≤ (resultsOf before).count true ∧ 3 ≤ (resultsOf after).count false := by
  have hcycle : (gripperSystem RegisterModel.device).Within Quiet makeFakeGripper
      makeFakeGripper.afterCycle := afterCycle_within rfl rfl rfl
  have hreachable :=
    makeFakeGripper_reachable.within (System.Within.weaken (fun _ _ => trivial) hcycle)
  have hreplay : (gripperSystem RegisterModel.device).replay makeFakeGripper.afterCycle
      [.beginCycle, .latch, .requestLost, .countFailure, .beginCycle, .latch, .requestLost,
        .countFailure, .beginCycle, .latch, .requestLost, .countFailure, .degrade] = some _ := rfl
  have hrun := System.replay_within (L := fun _ => True) (fun _ _ => trivial) hreplay
  obtain ⟨before, after, htrace, hcount, hfailures⟩ := failures_after_record
    hreachable .stampedExchange (runs_bind (runs_act .refl rfl) runs_pure) hrun rfl
  exact ⟨_, before, after, rfl, htrace, hcount, hfailures⟩

end contract

end GripperDriver

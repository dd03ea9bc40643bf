import GripperDriver.Client.Evaluations
import GripperDriver.Client.Handshake
import GripperDriver.Exchange.Shutdown

/-! # No Motion After a Reset

    After the reset, does a procedure command a motion? Only where its wait for rACT clear
    runs out although a cycle has latched the reset, and the block found at the call asks
    for one.

    * `NoMotionAfterReset`: what the procedures promise,
    * `ResetAnswered`: the reset, once it is latched, is answered before the deadline;
      `promptCommander` is the commander among others that see to it,
    * `resetWait_triple`: there, a wait for rACT clear that runs out has kept the reset off
      the line,
    * `no_motion_after_reset`: and no motion follows a reset.
-/

namespace GripperDriver

open Interleaving Relation

/-! ## The promise -/

section motion
variable {dev : Device} {w₀ w : World dev} {proc : Procedure}

/-- Since the call at `w₀`: once a cycle has latched a block with rACT cleared
    that the call had set, no block that the call sets has rGTO. -/
def NoMotionAfterReset (w₀ w : World dev) : Prop :=
  ∀ x y z k d c, w.trace = w₀.trace ++ (x ++ .set d :: (y ++ .latched k d :: z)) →
    d.activateBit = false → .set c ∈ z → c.goToBit = false

/-- The wait for rACT clear ran out after a cycle had latched the reset: the block
    found at the call has been put back. -/
def PutBackAfterReset (w₀ w : World dev) : Prop :=
  ∃ x y z k, w.trace = w₀.trace ++ (x ++ .set (deactivateCommand w₀.image.command) ::
      (y ++ .latched k (deactivateCommand w₀.image.command) :: z)) ∧
    .set w₀.image.command ∈ z

theorem setsOf_afterSet (u : World dev) (c : GripperCommand) :
    setsOf (u.afterSet c).trace = setsOf u.trace ++ [c] := by
  simp [World.afterSet, Event.set?]

/-- The blocks that a procedure has set. -/
theorem sets_of_progress (h : Progress w₀ proc w) :
    ∃ call, setsOf w.trace = setsOf w₀.trace ++ call ∧
      (call = [] ∨ call = [deactivateCommand w₀.image.command] ∨
        ∃ c, call = [deactivateCommand w₀.image.command, c] ∧
          (c = activateCommand w₀.image.command ∨ c = w₀.image.command)) := by
  cases h with
  | waiting run => exact ⟨[], by simp [sets_of_quiet run], .inl rfl⟩
  | clearing w₁ judged run =>
    refine ⟨_, ?_, .inr (.inl rfl)⟩
    rw [sets_of_quiet run, setsOf_afterSet, sets_of_quiet judged.run]
  | activating w₁ w₂ judged cleared run =>
    refine ⟨_, ?_, .inr (.inr ⟨_, rfl, .inl rfl⟩)⟩
    rw [sets_of_quiet run, setsOf_afterSet, sets_of_quiet cleared.run, setsOf_afterSet,
      sets_of_quiet judged.run, List.append_assoc]
    rfl
  | restored w₁ w₂ judged wait run =>
    refine ⟨_, ?_, .inr (.inr ⟨_, rfl, .inr rfl⟩)⟩
    rw [sets_of_quiet run, setsOf_afterSet, sets_of_quiet wait, setsOf_afterSet,
      sets_of_quiet judged.run, List.append_assoc]
    rfl

/-- Of the two blocks that a procedure may set, the first is the reset. -/
theorem two_sets (h : Progress w₀ proc w) {x y z : List (Event dev)} {e : Event dev}
    {c d : GripperCommand} (htrace : w.trace = w₀.trace ++ (x ++ .set d :: (y ++ e :: z)))
    (hc : .set c ∈ z) :
    d = deactivateCommand w₀.image.command ∧
      (c = activateCommand w₀.image.command ∨ c = w₀.image.command) := by
  obtain ⟨call, hcall, hcases⟩ := sets_of_progress h
  have hmem : c ∈ setsOf (y ++ e :: z) :=
    mem_setsOf.mpr (List.mem_append_right _ (List.mem_cons_of_mem _ hc))
  have hsets : setsOf x ++ d :: setsOf (y ++ e :: z) = call := by
    rw [htrace, setsOf_append, setsOf_append, setsOf_cons_set] at hcall
    exact List.append_cancel_left hcall
  -- two blocks are set in `htrace`, so the call is past its second one
  rcases hcases with rfl | rfl | ⟨b, rfl, hb⟩
  · simp at hsets
  · cases hx : setsOf x <;> simp_all
  · cases hx : setsOf x with
    | nil =>
      rw [hx] at hsets
      simp only [List.nil_append, List.cons.injEq] at hsets
      obtain ⟨hd, hrest⟩ := hsets
      rw [hrest, List.mem_singleton] at hmem
      exact ⟨hd, hmem ▸ hb⟩
    | cons a as =>
      rw [hx] at hsets
      have := congrArg List.length hsets
      have hpos := List.length_pos_of_mem hmem
      simp only [List.length_append, List.length_cons, List.length_nil] at this
      omega

/-- Where the block found at the call is not put back after the reset, or does not ask for a
    motion, no motion follows. -/
theorem no_motion_of_progress (hprogress : Progress w₀ proc w)
    (h : w₀.image.command.goToBit = true → ¬ PutBackAfterReset w₀ w) :
    NoMotionAfterReset w₀ w := by
  intro x y z k d c htrace _ hc
  rcases two_sets hprogress htrace hc with ⟨rfl, rfl | rfl⟩
  · exact goToBit_activateCommand _
  · by_contra hgoTo
    exact h (Bool.eq_true_of_not_eq_false hgoTo) ⟨x, y, z, k, htrace, hc⟩

/-! ## The reset is answered -/

/-- The count of the record that the call has last asked for outright: a wait begins by asking,
    and goes on from there. -/
def askedAt : {α : Type} → Act α → α → Nat → Nat
  | _, .stampedExchange, r, _ => r.count
  | _, _, _, asked => asked

/-- A cycle has latched the reset that the call at `w₀` had set, and `since` is what has
    happened since then, without another block of the call. -/
def ResetLatched (w₀ w : World dev) (since : List (Event dev)) : Prop :=
  (∃ x y k, w.trace = w₀.trace ++ (x ++ .set (deactivateCommand w₀.image.command) ::
      (y ++ .latched k (deactivateCommand w₀.image.command) :: since))) ∧ setsOf since = []

/-- The newest record shows rACT clear: it has been published since a latch of the reset, and
    since the call's wait began. -/
def ResetShown (w₀ : World dev) (s : World dev × Nat) : Prop :=
  (∃ since, ResetLatched w₀ s.1 since ∧ ∃ k, .published k s.1.image.stamped ∈ since) ∧
    s.2 < s.1.image.stamped.count ∧ s.1.image.stamped.status.gripperStatus.activated = false

/-- **The reset is answered in time.** Once a cycle has latched it, the deadline, counted from
    the call at `w₀`, does not come and the gripper is not shut down, until there is a record
    that shows it. -/
def ResetAnswered (timeout : Int) (w₀ : World dev) (s : World dev × Nat) : Prop :=
  (∃ since, ResetLatched w₀ s.1 since) →
    (s.1.now < dueAfter timeout w₀.now ∧ s.1.image.closed = false) ∨ ResetShown w₀ s

/-- The commander among others that answer its reset in time, where the block found at the
    call asks for a motion. -/
def promptCommander (timeout : Int) (w₀ : World dev) : Thread (World dev × Nat) Act :=
  (commander.noting askedAt).restrict fun s =>
    w₀.image.command.goToBit = true → ResetAnswered timeout w₀ s

variable {timeout : Int} {w₁ : World dev}

theorem promptCommander_part (timeout : Int) (w₀ : World dev) :
    PartOf (promptCommander timeout w₀) commander Prod.fst :=
  partOf_noting.restrict _

/-- The deadline has come, or the gripper has been shut down. -/
def Late (timeout : Int) (w₀ w : World dev) : Prop :=
  dueAfter timeout w₀.now ≤ w.now ∨ w.image.closed = true

theorem Late.along (h : Late timeout w₀ w) {w' : World dev}
    (hrun : (gripperSystem dev).Within (fun _ => True) w w') : Late timeout w₀ w' :=
  h.imp (fun hdue => le_trans hdue (now_le_of_within hrun)) fun hclosed =>
    closed_of_within hclosed hrun

theorem Late.not_early (h : Late timeout w₀ w) (hearly : w.now < dueAfter timeout w₀.now)
    (hopen : w.image.closed = false) : False := by
  rcases h with hdue | hclosed
  · exact absurd hearly (not_lt.mpr hdue)
  · rw [hopen] at hclosed
    cases hclosed

/-- The reset was set at `w₁`, and no block since. -/
def Resetting (w₀ w₁ w : World dev) : Prop :=
  (gripperSystem dev).Within Quiet w₀ w₁ ∧
    (gripperSystem dev).Within Quiet (w₁.afterSet (deactivateCommand w₀.image.command)) w

/-- A latch while the reset is in the image is a latch of the reset. -/
theorem Resetting.latched (h : Resetting w₀ w₁ w) :
    latchesOf w.trace = latchesOf w₁.trace ∨ ∃ since, ResetLatched w₀ w since := by
  obtain ⟨hcall, hwait⟩ := h
  obtain ⟨x, hx⟩ := trace_grows_within hcall
  obtain ⟨rest, hrest⟩ := trace_grows_within hwait
  obtain ⟨more, hmore, hall⟩ := latches_of_quiet hwait
  have hsets := sets_of_quiet hwait
  rw [← hrest, latchesOf_append] at hmore
  rw [← hrest, setsOf_append, List.append_right_eq_self] at hsets
  have hlatches : latchesOf rest = more := List.append_cancel_left hmore
  cases more with
  | nil =>
    left
    rw [← hrest, latchesOf_append, hlatches, List.append_nil]
    simp [World.afterSet, Event.latch?]
  | cons latch more =>
    right
    obtain ⟨k, c⟩ := latch
    have hc : c = deactivateCommand w₀.image.command := hall (k, c) List.mem_cons_self
    have hmem : .latched k c ∈ rest := mem_latchesOf.mp (hlatches ▸ List.mem_cons_self)
    obtain ⟨y, since, rfl⟩ := List.append_of_mem hmem
    subst hc
    refine ⟨since, ⟨x, y, k, ?_⟩, ?_⟩
    · simp [← hrest, World.afterSet, ← hx]
    · rw [setsOf_append, List.append_eq_nil_iff] at hsets
      exact hsets.2

/-- Where the set of a block is the last in a trace, what was before it is known. -/
theorem last_set_unique {before after before' after' : List (Event dev)} {c c' : GripperCommand}
    (htrace : before ++ .set c :: after = before' ++ .set c' :: after')
    (hafter : setsOf after = []) (hafter' : setsOf after' = []) : before = before' := by
  rcases List.append_eq_append_iff.mp htrace with ⟨m, rfl, hm⟩ | ⟨m, rfl, hm⟩
  · cases m with
    | nil => exact (List.append_nil _).symm
    | cons e m =>
      have htail : after = m ++ .set c' :: after' := (List.cons.inj hm).2
      rw [htail, setsOf_append, setsOf_cons_set] at hafter
      simp at hafter
  · cases m with
    | nil => exact List.append_nil _
    | cons e m =>
      have htail : after' = m ++ .set c :: after := (List.cons.inj hm).2
      rw [htail, setsOf_append, setsOf_cons_set] at hafter'
      simp at hafter'

theorem Resetting.sets (h : Resetting w₀ w₁ w) :
    setsOf w.trace = setsOf w₀.trace ++ [deactivateCommand w₀.image.command] := by
  rw [sets_of_quiet h.2, setsOf_afterSet, sets_of_quiet h.1]

theorem Resetting.now_le (h : Resetting w₀ w₁ w) : w₀.now ≤ w.now :=
  le_trans (now_le_of_within h.1)
    (now_le_of_within (w := w₁.afterSet (deactivateCommand w₀.image.command)) h.2)

/-- Nothing latched since `w₁` is no latch of the reset. -/
theorem Resetting.unlatched (h : Resetting w₀ w₁ w)
    (hsame : latchesOf w.trace = latchesOf w₁.trace) (since : List (Event dev)) :
    ¬ ResetLatched w₀ w since := by
  intro hlatched
  obtain ⟨⟨x, y, k, htrace⟩, hnone⟩ := hlatched
  obtain ⟨rest, hrest⟩ := trace_grows_within h.2
  have hquiet : setsOf rest = [] := by
    have hsets := sets_of_quiet h.2
    rwa [← hrest, setsOf_append, List.append_right_eq_self] at hsets
  have hsince : setsOf (y ++ .latched k (deactivateCommand w₀.image.command) :: since) = [] := by
    have hsets := h.sets
    rw [htrace, setsOf_append, setsOf_append, setsOf_cons_set] at hsets
    have hlength := congrArg List.length (List.append_cancel_left hsets)
    simp only [List.length_append, List.length_cons, List.length_nil] at hlength
    exact List.length_eq_zero_iff.mp (by omega)
  -- the one set there is splits the trace in one place only
  have hsplit : w₁.trace ++ .set (deactivateCommand w₀.image.command) :: rest =
      w₀.trace ++ x ++ .set (deactivateCommand w₀.image.command) ::
        (y ++ .latched k (deactivateCommand w₀.image.command) :: since) := by
    rw [List.append_assoc, ← htrace, ← hrest]
    simp [World.afterSet]
  have hbefore : w₁.trace = w₀.trace ++ x := last_set_unique hsplit hquiet hsince
  rw [htrace, hbefore, ← List.append_assoc, latchesOf_append, List.append_right_eq_self] at hsame
  have hmem : (k, deactivateCommand w₀.image.command) ∈
      latchesOf (.set (deactivateCommand w₀.image.command) ::
        (y ++ .latched k (deactivateCommand w₀.image.command) :: since)) :=
    mem_latchesOf.mpr (by simp)
  rw [hsame] at hmem
  exact absurd hmem List.not_mem_nil

/-- The block found at the call went back while the reset was not latched. -/
theorem not_putBack_restored {w₂ : World dev} (h : Resetting w₀ w₁ w₂)
    (hsame : latchesOf w₂.trace = latchesOf w₁.trace)
    (hrun : (gripperSystem dev).Within Quiet (w₂.afterSet w₀.image.command) w) :
    ¬ PutBackAfterReset w₀ w := by
  intro hback
  obtain ⟨x, y, z, k, htrace, hset⟩ := hback
  obtain ⟨z, z', rfl⟩ := List.append_of_mem hset
  obtain ⟨rest, hrest⟩ := trace_grows_within hrun
  have hquiet : setsOf rest = [] := by
    have hsets := sets_of_quiet hrun
    rwa [← hrest, setsOf_append, List.append_right_eq_self] at hsets
  -- two blocks are set since the call, so the one that went back is the last
  have hsets := sets_of_quiet hrun
  have hlatched : ∀ l : List (Event dev),
      setsOf (.latched k (deactivateCommand w₀.image.command) :: l) = setsOf l := fun _ => rfl
  rw [setsOf_afterSet, h.sets, htrace] at hsets
  simp only [setsOf_append, setsOf_cons_set, hlatched] at hsets
  have hlength := congrArg List.length hsets
  simp only [List.length_append, List.length_cons, List.length_nil] at hlength
  have hsplit : w₂.trace ++ .set w₀.image.command :: rest =
      w₀.trace ++ (x ++ .set (deactivateCommand w₀.image.command) ::
        (y ++ .latched k (deactivateCommand w₀.image.command) :: z)) ++
        .set w₀.image.command :: z' :=
    calc w₂.trace ++ .set w₀.image.command :: rest
        = w.trace := by rw [← hrest]; simp [World.afterSet]
      _ = _ := by rw [htrace]; simp
  have hbefore : w₂.trace = w₀.trace ++ (x ++ .set (deactivateCommand w₀.image.command) ::
      (y ++ .latched k (deactivateCommand w₀.image.command) :: z)) :=
    last_set_unique hsplit hquiet (List.length_eq_zero_iff.mp (by omega))
  exact h.unlatched hsame z ⟨⟨x, y, k, hbefore⟩, List.length_eq_zero_iff.mp (by omega)⟩

/-! ### Waiting for the answer -/

/-- What is left until a deadline lasts until then, or as long as the cap. -/
theorem due_le_left {callAt deadline now start : Int}
    (hcall : callAt + timeout * nanosPerMilli ≤ deadline) (hnow : callAt ≤ now)
    (hstart : now ≤ start) :
    dueAfter timeout callAt ≤ dueAfter (millisLeft deadline now) start := by
  have hlongest : (0 : Int) ≤ longest := by decide
  have hceil : (deadline - now : Int) ≤ ceilMillis (deadline - now) * 1000000 :=
    le_ceilMillis (deadline - now)
  unfold nanosPerMilli at hcall
  by_cases hlt : now < deadline
  · have hle : callAt + min timeout longest * 1000000 ≤
        start + min (ceilMillis (deadline - now)) longest * 1000000 := by omega
    rwa [millisLeft, if_pos hlt]
  · have hle : callAt + min timeout longest * 1000000 ≤ start + min 0 longest * 1000000 := by omega
    rwa [millisLeft, if_neg hlt]

theorem commander_finer : Finer (commander : Thread (World dev) Act) observer where
  env _ _ henv := henv.imp fun _ h => ⟨trivial, h.2⟩
  perform _ s _ _ hact := ⟨s, .refl, hact⟩

/-- What `p` does is seen by anyone who reads. -/
theorem promptCommander_seen {α : Type} {p : Prog Act α} {o : Option α} {s t : World dev × Nat}
    (hrun : Runs (promptCommander timeout w₀) p s o t) : Runs observer p s.1 o t.1 :=
  runs_finer commander_finer (runs_part (promptCommander_part timeout w₀) hrun)

/-- Only a look at a newer record moves the note. -/
theorem noted_stable {count : Nat} : Stable (promptCommander timeout w₀)
    (fun s : World dev × Nat => count ≤ s.2 ∧ count ≤ s.1.image.stamped.count) := by
  intro s t hs henv
  obtain ⟨⟨hstep, hnote⟩, _⟩ := henv
  have hrun : (gripperSystem dev).Within Quiet s.1 t.1 := .single hstep
  exact ⟨hnote ▸ hs.1, le_trans hs.2 (count_le_of_within hrun)⟩

theorem noted_act {count : Nat} {β : Type} (a : Act β) (s : World dev × Nat) (r : β)
    (t : World dev × Nat) (hs : count ≤ s.2 ∧ count ≤ s.1.image.stamped.count)
    (hact : (commander.noting askedAt).perform a s r t) :
    count ≤ t.2 ∧ count ≤ t.1.image.stamped.count := by
  obtain ⟨hrun, hnote⟩ := hact
  have hrun : Act.run s.1 a = (r, t.1) := hrun
  have hwithin := a.run_within s.1
  rw [hrun] at hwithin
  refine ⟨?_, le_trans hs.2 (count_le_of_within hwithin)⟩
  rw [hnote]
  cases a with
  | stampedExchange =>
    have hr : s.1.image.stamped = r := (Prod.mk.inj hrun).1
    exact hr ▸ hs.2
  | _ => exact hs.1

/-- The wait for rACT clear has run out, and no cycle has latched the reset. -/
def RanOut (timeout : Int) (w₀ w₁ w : World dev) : Prop :=
  Resetting w₀ w₁ w ∧ Late timeout w₀ w ∧ latchesOf w.trace = latchesOf w₁.trace

/-- **A wait that runs out has kept the reset off the line**: had a cycle latched it, its
    answer would have ended the wait. -/
theorem resetWait_ranOut {deadline : Int} {s t : World dev × Nat}
    (hgoTo : w₀.image.command.goToBit = true)
    (hdeadline : w₀.now + timeout * nanosPerMilli ≤ deadline) (hreset : Resetting w₀ w₁ s.1)
    (hrun : Runs (promptCommander timeout w₀)
      (waitForStatus (fun status => !status.gripperStatus.activated) deadline) s (some none) t) :
    RanOut timeout w₀ w₁ t.1 := by
  have hquiet : (gripperSystem dev).Within Quiet
      (w₁.afterSet (deactivateCommand w₀.image.command)) t.1 :=
    ((waitForStatus_triple (I := fun _ => True) 0 _ deadline (quiet_stable _) (fun _ _ => trivial)
      fun _ _ => Nat.zero_le _).done hreset.2 (runs_part (promptCommander_part timeout w₀) hrun)).1
  have hreset' : Resetting w₀ w₁ t.1 := ⟨hreset.1, hquiet⟩
  -- the clock, then the record that the wait begins with
  obtain ⟨left, s₁, hleft, hwait⟩ := runs_bind_some hrun
  obtain ⟨now, u, hread, hpure⟩ := runs_bind_some hleft
  obtain ⟨rfl, rfl⟩ := runs_pure_some hpure
  obtain ⟨latest, s₂, hasked, hloop⟩ := runs_bind_some hwait
  obtain ⟨u, _, ⟨hask, hnote⟩, hkept⟩ := runs_act_some hasked
  have hask : (u.1.image.stamped, u.1) = (latest, s₂.1) := hask
  obtain ⟨hlatest, hsame⟩ := Prod.mk.inj hask
  have hnote : s₂.2 = latest.count := hnote
  -- the note only moves up from here on, and the surroundings still answer in time
  have hnoted := (Triple.kept (P := fun u : World dev × Nat => latest.count ≤ u.2 ∧
    latest.count ≤ u.1.image.stamped.count) noted_stable
      (fun a s r t _ => noted_act a s r t) _).done
      ⟨hkept, hnote.ge, by rw [← hsame, hlatest]⟩ hloop
  obtain ⟨hanswered, hcount, _⟩ := hnoted
  rcases evaluates_of_runs (promptCommander_seen hloop) with
    ⟨hcut, _⟩ | ⟨_, es, w₂, hdue, hreaches⟩
  · cases hcut
  obtain ⟨hbegun, rfl⟩ := due_of_runs hdue
  have hlate : Late timeout w₀ t.1 := by
    obtain ⟨hle, rfl⟩ := reading_bounds (promptCommander_seen hread)
    have hstart : s₁.1.now ≤ w₂.now :=
      le_trans (now_le_of_within (within_of_runs (promptCommander_seen hasked))) hbegun
    have hcalled : w₀.now ≤ s₁.1.now := le_trans hreset.now_le hle
    obtain ⟨_, _, h, _⟩ | ⟨_, _, _, hreason⟩ :=
      hreaches.answers (millisLeft_nonneg deadline s₁.1.now) le_rfl
    · cases h
    · exact (hreason.imp_right (le_trans (due_le_left hdeadline hcalled hstart))).symm
  refine ⟨hreset', hlate, ?_⟩
  rcases hreset'.latched with hsame | ⟨since, hlatched⟩
  · exact hsame
  exfalso
  rcases hanswered hgoTo ⟨since, hlatched⟩ with ⟨hearly, hopen⟩ | ⟨_, hasked, hclear⟩
  · exact hlate.not_early hearly hopen
  · -- the newest record would have ended the wait
    have hmiss : (!t.1.image.stamped.status.gripperStatus.activated) = false :=
      hreaches.newest_misses (lt_of_le_of_lt hcount hasked)
    rw [hclear] at hmiss
    cases hmiss

/-! ### The block goes back -/

theorem step_latches {u v : World dev} {l : Label} (h : (gripperSystem dev).Step u l v) :
    latchesOf v.trace = latchesOf u.trace ∨
      v.trace = u.trace ++ [.latched (u.cycles + 1) u.image.command] := by
  cases move_of_step h with
  | latch hpc => exact .inr rfl
  | _ => exact .inl (by simp [Event.latch?])

theorem Resetting.latch (h : Resetting w₀ w₁ w) {w' : World dev} {k : Nat}
    (htrace : w'.trace = w.trace ++ [.latched k w.image.command]) : ResetLatched w₀ w' [] := by
  obtain ⟨x, hx⟩ := trace_grows_within h.1
  obtain ⟨y, hy⟩ := trace_grows_within h.2
  refine ⟨⟨x, y, k, ?_⟩, rfl⟩
  rw [htrace, command_of_quiet h.2, ← hy]
  simp [World.afterSet, ProcessImage.setCommand, ← hx]

/-- What has happened since the latch, less the last event. -/
theorem ResetLatched.before {w' : World dev} {since : List (Event dev)} {e e' : Event dev}
    (h : ResetLatched w₀ w' since) (htrace : w'.trace = w.trace ++ [e]) (hsince : e' ∈ since) :
    ResetLatched w₀ w since.dropLast := by
  obtain ⟨⟨x, y, k, hsplit⟩, hnone⟩ := h
  obtain ⟨since, last, rfl⟩ := (List.eq_nil_or_concat' since).resolve_left
    (List.ne_nil_of_mem hsince)
  rw [List.dropLast_concat]
  rw [setsOf_append, List.append_eq_nil_iff] at hnone
  refine ⟨⟨x, y, k, ?_⟩, hnone.1⟩
  have hlast : w.trace ++ [e] = (w₀.trace ++ (x ++ .set (deactivateCommand w₀.image.command) ::
      (y ++ .latched k (deactivateCommand w₀.image.command) :: since))) ++ [last] := by
    rw [← htrace, hsplit]
    simp
  exact (List.append_inj' hlast rfl).1

/-- Nor will one: the reset would go without an answer. -/
theorem ranOut_stable (hgoTo : w₀.image.command.goToBit = true) :
    Stable (promptCommander timeout w₀) (fun s => RanOut timeout w₀ w₁ s.1) := by
  intro s t hs henv
  obtain ⟨hreset, hlate, hsame⟩ := hs
  obtain ⟨⟨hstep, _⟩, hanswered⟩ := henv
  have hrun : (gripperSystem dev).Within Quiet s.1 t.1 := .single hstep
  have hreset' : Resetting w₀ w₁ t.1 := ⟨hreset.1, hreset.2.trans hrun⟩
  have hlate' := hlate.along (hrun.weaken fun _ _ => trivial)
  refine ⟨hreset', hlate', ?_⟩
  obtain ⟨l, _, hmove⟩ := hstep
  rcases step_latches hmove with hnone | htrace
  · exact hnone.trans hsame
  · -- right after its latch the reset has no answer yet
    exfalso
    rcases hanswered hgoTo ⟨[], hreset.latch htrace⟩ with
      ⟨hearly, hopen⟩ | ⟨⟨since, hlatched, k, hpublished⟩, _⟩
    · exact hlate'.not_early hearly hopen
    · exact hreset.unlatched hsame _ (hlatched.before htrace hpublished)

/-! ### The procedures -/

/-- At most the reset has been set, or after it the block with rACT set: nothing went back. -/
theorem not_putBack_of_sets {after : List GripperCommand}
    (hgoTo : w₀.image.command.goToBit = true) (hsets : setsOf w.trace = setsOf w₀.trace ++ after)
    (hafter : ∀ c ∈ after.tail, c = activateCommand w₀.image.command) :
    ¬ PutBackAfterReset w₀ w := by
  intro hback
  obtain ⟨x, y, z, k, htrace, hset⟩ := hback
  rw [htrace, setsOf_append, setsOf_append, setsOf_cons_set] at hsets
  have hmem : w₀.image.command ∈
      setsOf (y ++ .latched k (deactivateCommand w₀.image.command) :: z) :=
    mem_setsOf.mpr (List.mem_append_right _ (List.mem_cons_of_mem _ hset))
  have htail : w₀.image.command ∈ after.tail := by
    rw [← List.append_cancel_left hsets]
    cases setsOf x with
    | nil => exact hmem
    | cons c cs => exact List.mem_append_right cs (List.mem_cons_of_mem _ hmem)
  have hsame := hafter _ htail
  rw [hsame] at hgoTo
  simp at hgoTo

/-- How far a procedure called at `w₀` has come: its block went back, if at all, with the
    reset off the line. -/
inductive Prompt (timeout : Int) (w₀ w : World dev) : Prop where
  | waiting (run : (gripperSystem dev).Within Quiet w₀ w)
  | resetting (w₁ : World dev) (reset : Resetting w₀ w₁ w)
  | activating (w₁ w₂ : World dev) (reset : Resetting w₀ w₁ w₂)
      (run : (gripperSystem dev).Within Quiet
        (w₂.afterSet (activateCommand w₀.image.command)) w)
  | restored (w₁ w₂ : World dev) (ranOut : RanOut timeout w₀ w₁ w₂)
      (run : (gripperSystem dev).Within Quiet (w₂.afterSet w₀.image.command) w)

theorem Prompt.not_putBack (h : Prompt timeout w₀ w)
    (hgoTo : w₀.image.command.goToBit = true) : ¬ PutBackAfterReset w₀ w := by
  cases h with
  | waiting run =>
    have hsets : setsOf w.trace = setsOf w₀.trace ++ [] := by simp [sets_of_quiet run]
    exact not_putBack_of_sets hgoTo hsets (by simp)
  | resetting w₁ reset => exact not_putBack_of_sets hgoTo reset.sets (by simp)
  | activating w₁ w₂ reset run =>
    have hsets : setsOf w.trace = setsOf w₀.trace ++
        [deactivateCommand w₀.image.command, activateCommand w₀.image.command] := by
      rw [sets_of_quiet run, setsOf_afterSet, reset.sets, List.append_assoc]
      rfl
    exact not_putBack_of_sets hgoTo hsets (by simp)
  | restored w₁ w₂ ranOut run => exact not_putBack_restored ranOut.1 ranOut.2.2 run

theorem prompt_stable : Stable commander (Prompt timeout w₀) := by
  intro w w' hw henv
  cases hw with
  | waiting run => exact .waiting (run.tail henv)
  | resetting w₁ reset => exact .resetting w₁ ⟨reset.1, reset.2.tail henv⟩
  | activating w₁ w₂ reset run => exact .activating w₁ w₂ reset (run.tail henv)
  | restored w₁ w₂ ranOut run => exact .restored w₁ w₂ ranOut (run.tail henv)

theorem resetting_stable : Stable commander (Resetting w₀ w₁) := by
  intro w w' hw henv
  exact ⟨hw.1, hw.2.tail henv⟩

/-- The wait for rACT clear, begun with the reset in the image. -/
theorem resetWait_triple {deadline : Int} (hgoTo : w₀.image.command.goToBit = true)
    (hdeadline : w₀.now + timeout * nanosPerMilli ≤ deadline) :
    Triple (promptCommander timeout w₀) (fun s => Prompt timeout w₀ s.1)
      (fun s => Resetting w₀ w₁ s.1)
      (waitForStatus (fun status => !status.gripperStatus.activated) deadline)
      (fun answer s => Resetting w₀ w₁ s.1 ∧ (answer = none → RanOut timeout w₀ w₁ s.1)) := by
  have hkeeps := (waitForStatus_triple (G := Resetting w₀ w₁) (I := Prompt timeout w₀) 0
    (fun status => !status.gripperStatus.activated) deadline resetting_stable
    (fun _ hw => .resetting w₁ hw) fun _ _ => Nat.zero_le _).part (promptCommander_part timeout w₀)
  intro s t hs
  refine ⟨hkeeps.running hs, ?_⟩
  intro answer hrun
  refine ⟨(hkeeps.done hs hrun).1, ?_⟩
  rintro rfl
  exact resetWait_ranOut hgoTo hdeadline hs hrun

/-- The block found at the call goes back: the reset was not on the line. -/
theorem putBack_triple (hgoTo : w₀.image.command.goToBit = true) :
    Triple (promptCommander timeout w₀) (fun s => Prompt timeout w₀ s.1)
      (fun s => RanOut timeout w₀ w₁ s.1)
      (do Prog.act (.setCommand w₀.image.command); pure ActivationResult.timeout)
      (fun _ s => Prompt timeout w₀ s.1) := by
  have hset : Triple (promptCommander timeout w₀) (fun s => Prompt timeout w₀ s.1)
      (fun s => RanOut timeout w₀ w₁ s.1) (.act (.setCommand w₀.image.command))
      (fun _ s => ∃ w₂, RanOut timeout w₀ w₁ w₂ ∧
        (gripperSystem dev).Within Quiet (w₂.afterSet w₀.image.command) s.1) := by
    apply Triple.act (ranOut_stable hgoTo) (fun s hs => .resetting w₁ hs.1)
    intro s r t hs hact
    obtain ⟨⟨hrun, _⟩, _⟩ := hact
    have hafter : s.1.afterSet w₀.image.command = t.1 := (Prod.mk.inj hrun).2
    exact ⟨s.1, hs, hafter ▸ .refl⟩
  refine hset.bind fun _ => Triple.exists_pre fun w₂ => Triple.assuming fun hranOut => ?_
  have hback : ∀ w, (gripperSystem dev).Within Quiet (w₂.afterSet w₀.image.command) w →
      Prompt timeout w₀ w := fun w hw => .restored w₁ w₂ hranOut hw
  exact (Triple.pure (Q := fun _ w => Prompt timeout w₀ w) (quiet_stable _) hback
    (fun _ hw => hw) hback).part (promptCommander_part timeout w₀)

theorem promptHandshake_triple {deadline : Int} (hgoTo : w₀.image.command.goToBit = true)
    (hdeadline : w₀.now + timeout * nanosPerMilli ≤ deadline) :
    Triple (promptCommander timeout w₀) (fun s => Prompt timeout w₀ s.1)
      (fun s => (gripperSystem dev).Within Quiet w₀ s.1) (runActivationHandshake deadline)
      (fun _ s => Prompt timeout w₀ s.1) := by
  have hwaiting : ∀ w, (gripperSystem dev).Within Quiet w₀ w → Prompt timeout w₀ w :=
    fun _ hw => .waiting hw
  have hread := (act_triple (a := Act.command) (Q := fun previous w =>
    previous = w₀.image.command ∧ (gripperSystem dev).Within Quiet w₀ w) (quiet_stable w₀)
    hwaiting fun w hw => ⟨command_of_quiet hw, hw⟩).part (promptCommander_part timeout w₀)
  refine hread.bind fun previous => Triple.assuming fun hprevious => ?_
  subst hprevious
  have hset := (act_triple (a := Act.setCommand (deactivateCommand w₀.image.command))
    (Q := fun _ w => ∃ w₁, Resetting w₀ w₁ w) (quiet_stable w₀) hwaiting
    fun w hw => ⟨w, hw, .refl⟩).part (promptCommander_part timeout w₀)
  refine hset.bind fun _ => Triple.exists_pre fun w₁ => ?_
  apply (resetWait_triple hgoTo hdeadline).bind
  intro cleared
  cases cleared with
  | none => exact (putBack_triple hgoTo).pre fun s hs => hs.2 rfl
  | some r =>
    -- rACT has been seen clear: what is set from here on does not start a motion
    have hagain := (act_triple (a := Act.setCommand (activateCommand w₀.image.command))
      (I := Prompt timeout w₀) (Q := fun _ w => ∃ w₂, Resetting w₀ w₁ w₂ ∧
        (gripperSystem dev).Within Quiet (w₂.afterSet (activateCommand w₀.image.command)) w)
      resetting_stable (fun _ hw => .resetting w₁ hw)
      fun w hw => ⟨w, hw, .refl⟩).part (promptCommander_part timeout w₀)
    refine (hagain.pre fun s hs => hs.1).bind fun _ => Triple.exists_pre fun w₂ =>
      Triple.assuming fun hreset => ?_
    have hactivating : ∀ w, (gripperSystem dev).Within Quiet
        (w₂.afterSet (activateCommand w₀.image.command)) w → Prompt timeout w₀ w :=
      fun w hw => .activating w₁ w₂ hreset hw
    exact ((waitForActivationComplete_triple 0 deadline (quiet_stable _) hactivating
      fun _ _ => Nat.zero_le _).post fun _ w h => hactivating w h.1).part
        (promptCommander_part timeout w₀)

theorem promptNow_triple :
    Triple (promptCommander timeout w₀) (fun s => Prompt timeout w₀ s.1)
      (fun s => (gripperSystem dev).Within Quiet w₀ s.1) (.act .now)
      (fun now s => w₀.now ≤ now ∧ (gripperSystem dev).Within Quiet w₀ s.1) :=
  (act_triple (a := Act.now) (I := Prompt timeout w₀)
    (Q := fun now w => w₀.now ≤ now ∧ (gripperSystem dev).Within Quiet w₀ w) (quiet_stable w₀)
    (fun _ hw => .waiting hw) fun _ hw => ⟨now_le_of_within hw, hw⟩).part
      (promptCommander_part timeout w₀)

theorem promptOperational_triple (deadline : Time) :
    Triple (promptCommander timeout w₀) (fun s => Prompt timeout w₀ s.1)
      (fun s => (gripperSystem dev).Within Quiet w₀ s.1) (waitOperational deadline)
      (fun _ s => (gripperSystem dev).Within Quiet w₀ s.1) :=
  ((waitForStatus_triple (I := Prompt timeout w₀) 0 (fun _ => true) deadline (quiet_stable w₀)
    (fun _ hw => .waiting hw) fun _ _ => Nat.zero_le _).post fun _ _ h => h.1).part
      (promptCommander_part timeout w₀)

/-- A result before any block is set. -/
theorem promptSettled_triple (result : ActivationResult) :
    Triple (promptCommander timeout w₀) (fun s => Prompt timeout w₀ s.1)
      (fun s => (gripperSystem dev).Within Quiet w₀ s.1) (pure result)
      (fun _ s => Prompt timeout w₀ s.1) :=
  (Triple.pure (Q := fun _ w => Prompt timeout w₀ w) (quiet_stable w₀) (fun _ hw => .waiting hw)
    (fun _ hw => hw) fun _ hw => .waiting hw).part (promptCommander_part timeout w₀)

theorem promptAllowed_triple {deadline : Int} (hgoTo : w₀.image.command.goToBit = true)
    (hdeadline : w₀.now + timeout * nanosPerMilli ≤ deadline) :
    Triple (promptCommander timeout w₀) (fun s => Prompt timeout w₀ s.1)
      (fun s => (gripperSystem dev).Within Quiet w₀ s.1)
      (do
        let allowed ← isActivationHandshakeAllowed deadline timeout
        if allowed then runActivationHandshake deadline else pure .timeout)
      (fun _ s => Prompt timeout w₀ s.1) := by
  apply ((isActivationHandshakeAllowed_triple (I := Prompt timeout w₀) deadline timeout
    (quiet_stable w₀) fun _ hw => .waiting hw).part (promptCommander_part timeout w₀)).bind
  intro allowed
  exact Triple.ite (fun _ => promptHandshake_triple hgoTo hdeadline)
    fun _ => promptSettled_triple .timeout

theorem promptRecoverFromFault_triple (hgoTo : w₀.image.command.goToBit = true) :
    Triple (promptCommander timeout w₀) (fun s => Prompt timeout w₀ s.1)
      (fun s => (gripperSystem dev).Within Quiet w₀ s.1) (recoverFromFault timeout)
      (fun _ s => Prompt timeout w₀ s.1) := by
  apply promptNow_triple.bind
  refine fun now => Triple.assuming fun hnow => ?_
  apply (promptOperational_triple _).bind
  intro fresh
  cases fresh with
  | none => exact promptSettled_triple .timeout
  | some r => exact promptAllowed_triple hgoTo (Int.add_le_add_right hnow _)

theorem promptActivate_triple (hgoTo : w₀.image.command.goToBit = true) :
    Triple (promptCommander timeout w₀) (fun s => Prompt timeout w₀ s.1)
      (fun s => (gripperSystem dev).Within Quiet w₀ s.1) (activate timeout)
      (fun _ s => Prompt timeout w₀ s.1) := by
  apply promptNow_triple.bind
  refine fun now => Triple.assuming fun hnow => ?_
  apply (promptOperational_triple _).bind
  intro fresh
  cases fresh with
  | none => exact promptSettled_triple .timeout
  | some r =>
    apply Triple.ite (fun _ => promptSettled_triple .faultLatched)
    intro _
    apply Triple.ite (fun _ => promptSettled_triple .alreadyActive)
    intro _
    refine Triple.ite (fun _ => ?_) fun _ =>
      promptAllowed_triple hgoTo (Int.add_le_add_right hnow _)
    -- in progress: no block is set
    exact ((waitForActivationComplete_triple (I := Prompt timeout w₀) 0 _ (quiet_stable w₀)
      (fun _ hw => .waiting hw) fun _ _ => Nat.zero_le _).post fun _ _ h => .waiting h.1).part
        (promptCommander_part timeout w₀)

/-- **No motion follows a reset that is answered in time**: wherever a procedure gets, and
    the other threads after it, among others that answer its reset before the deadline. -/
theorem no_motion_after_reset (proc : Procedure) (timeout : Int) {asked asked' : Nat}
    (hvis : Visits (promptCommander timeout w₀) (proc.prog timeout) (w₀, asked) (w, asked')) :
    NoMotionAfterReset w₀ w := by
  have hprogress : Progress w₀ proc w :=
    progress_of_visits (visits_part (promptCommander_part timeout w₀) hvis)
  refine no_motion_of_progress hprogress ?_
  intro hgoTo
  have hstable : Stable (promptCommander timeout w₀) (fun s => Prompt timeout w₀ s.1) :=
    fun s t hs henv => prompt_stable s.1 t.1 hs henv.1.1
  have hprompt : Prompt timeout w₀ w := by
    cases proc with
    | activate =>
      exact (promptActivate_triple hgoTo).visits hstable (fun _ _ h => h) .refl hvis
    | recoverFromFault =>
      exact (promptRecoverFromFault_triple hgoTo).visits hstable (fun _ _ h => h) .refl hvis
  exact hprompt.not_putBack hgoTo

/-! ### A call that is done before its deadline -/

/-- Whoever is done before the deadline has been answered in time. -/
theorem runs_prompt {α : Type} {p : Prog Act α} {a : α} {asked : Nat}
    (hrun : Runs commander p w₀ (some a) w) (hearly : w.now < dueAfter timeout w₀.now)
    (hopen : w.image.closed = false) :
    ∃ asked', Runs (promptCommander timeout w₀) p (w₀, asked) (some a) (w, asked') := by
  obtain ⟨asked', hnoted⟩ : ∃ asked', Runs (commander.noting askedAt) p (w₀, asked) (some a)
      (w, asked') := runs_noting hrun asked
  -- as it was early and open at the end, it was so all along
  have hback : ∀ u v : World dev, (gripperSystem dev).Within (fun _ => True) u v →
      v.now < dueAfter timeout w₀.now ∧ v.image.closed = false →
      u.now < dueAfter timeout w₀.now ∧ u.image.closed = false := by
    intro u v huv hv
    refine ⟨lt_of_le_of_lt (now_le_of_within huv) hv.1, ?_⟩
    by_contra hclosed
    have := closed_of_within (Bool.eq_true_of_not_eq_false hclosed) huv
    rw [hv.2] at this
    cases this
  have hrestricted := (runs_restrict (R := fun s : World dev × Nat =>
    s.1.now < dueAfter timeout w₀.now ∧ s.1.image.closed = false) ?_ ?_ hnoted ⟨hearly, hopen⟩).1
  · refine ⟨asked', runs_finer ⟨?_, ?_⟩ hrestricted⟩
    · exact fun s t henv => ⟨henv.1, fun _ _ => .inl henv.2⟩
    · exact fun a s r t hact => ⟨s, .refl, hact.1, fun _ _ => .inl hact.2⟩
  · intro s t henv ht
    have hstep : (gripperSystem dev).Within Quiet s.1 t.1 := .single henv.1
    exact hback s.1 t.1 (hstep.weaken fun _ _ => trivial) ht
  · intro β b s r t hact ht
    have hact : Act.run s.1 b = (r, t.1) := hact.1
    have hstep := b.run_within s.1
    rw [hact] at hstep
    exact hback s.1 t.1 hstep ht

end motion

/-! ### A reply lost on the way back -/

/-- A call that finds `c` in the image: once a fresh record is there, the reset is
    set, the cycle that carries it loses its reply, and the deadline passes. -/
def lostReset (c : GripperCommand) : World RegisterModel.device :=
  ((((makeFakeGripper.afterSet c).afterCycle.afterSet
    (deactivateCommand c)).afterLostReply).afterTick 1000000000).afterSet c

theorem runs_lost_reset (c : GripperCommand) :
    Runs commander (recoverFromFault 1000) (makeFakeGripper.afterSet c) (some .timeout)
      (lostReset c) := by
  have hfresh : (gripperSystem RegisterModel.device).Within Quiet (makeFakeGripper.afterSet c)
      (makeFakeGripper.afterSet c).afterCycle := afterCycle_within rfl rfl rfl
  have hlost := afterLostReply_within (w := (makeFakeGripper.afterSet c).afterCycle.afterSet
    (deactivateCommand c)) rfl rfl rfl
  have hlate := hlost.trans (afterTick_within (t := 1000000000)
    (show (0 : Time) ≤ 1000000000 by decide))
  apply runs_bind (runs_act .refl rfl)
  apply runs_bind (runs_waitForStatus _ hfresh Nat.zero_lt_one rfl)
  apply runs_handshake (show (500000000 : Int) ≤ 1000000000 by decide)
  refine runs_bind (runs_act .refl rfl) (runs_bind (runs_act .refl rfl) ?_)
  have hdue : (1000000000 : Time) ≤ 1000000000 := le_rfl
  refine runs_bind (runs_waitForStatus_empty _ hlate le_rfl hdue) ?_
  exact runs_bind (runs_act .refl rfl) runs_pure

/-- A block that holds a grip: rACT and rGTO set. -/
def grip : GripperCommand := GripperCommand.defaults.setAction .goTo true

/-- A grip is held, and the link loses nothing: the reset reaches the line, its answer is seen
    before the deadline, and no motion follows. -/
theorem no_motion_after_reset_of_grip :
    NoMotionAfterReset (makeFakeGripper.afterSet grip)
        (makeFakeGripper.afterSet grip).afterCycle.reactivated ∧
      .latched 2 (deactivateCommand grip) ∈
        (makeFakeGripper.afterSet grip).afterCycle.reactivated.trace := by
  have hrun : Runs commander (recoverFromFault 1000) (makeFakeGripper.afterSet grip)
      (some .activated) (makeFakeGripper.afterSet grip).afterCycle.reactivated :=
    runs_recoverFromFault rfl rfl rfl (by decide)
  obtain ⟨asked, hprompt⟩ : ∃ asked, Runs (promptCommander 1000 (makeFakeGripper.afterSet grip))
      (recoverFromFault 1000) (makeFakeGripper.afterSet grip, 0) (some .activated)
      ((makeFakeGripper.afterSet grip).afterCycle.reactivated, asked) :=
    runs_prompt hrun (by decide) rfl
  refine ⟨no_motion_after_reset .recoverFromFault 1000 hprompt.visits, ?_⟩
  have hcycles : makeFakeGripper.cycles = 0 := rfl
  simp [World.reactivated, World.afterCycle, World.afterLatch, World.afterReply, World.afterSet,
    hcycles]

/-- A procedure that follows its reset with a motion: the block found at the call
    holds a grip, and it goes back after the device has applied the reset. -/
theorem motion_after_reset :
    Visits commander (Procedure.recoverFromFault.prog 1000) (makeFakeGripper.afterSet grip)
      (lostReset grip) ∧ ¬ NoMotionAfterReset (makeFakeGripper.afterSet grip) (lostReset grip) := by
  refine ⟨(runs_lost_reset grip).visits, ?_⟩
  intro h
  have hgoTo : grip.goToBit = false :=
    h [.latched 1 grip, .applied 1 grip _, .completed 1 grip _ _, .published 1 _] []
      [.applied 2 (deactivateCommand grip) _, .failed 2, .elapsed _ _, .set grip] 2
      (deactivateCommand grip) grip rfl (activateBit_deactivateCommand grip) (by simp)
  exact absurd hgoTo (by decide)

end GripperDriver

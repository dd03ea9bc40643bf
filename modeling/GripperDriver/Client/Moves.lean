import GripperDriver.Client.Activation
import GripperDriver.Client.Delivery
import GripperDriver.Device.Openings
import GripperDriver.Device.Texts
import GripperDriver.Framework.Parts

/-! # A Move and Its Waits

    The examples move the gripper with one call: `moveTo` sets a block, waits for the exchange
    that carries it, for the motion, and for its end, and logs what came of it.

    * `Application`: the gripper, and the lines its application has logged,
    * `moveTo`: the call, with its four ways to fail,
    * `Apart`: no equal block is under way that another one has replaced,
    * `moveTo_arrives`: a move that answers `true` has been carried out, and one that answers
      `false` has said why.
-/

namespace GripperDriver

open Interleaving Relation Rounding

/-! ## The application -/

def ConnectionState.toString : ConnectionState → String
  | .connecting => "Connecting"
  | .operational => "Operational"
  | .faulted => "Faulted"

/-- What the application does besides calling the gripper. -/
inductive LogAct : Type → Type where
  | log (line : LogLine) : LogAct Unit

structure Application (dev : Device) where
  gripper : World dev
  log : List LogLine := []

def LogAct.perform {dev : Device} :
    {α : Type} → LogAct α → Application dev → α → Application dev → Prop
  | _, .log line, w, _, w' => w' = { w with log := w.log ++ [line] }

def Application.perform {dev : Device} {α : Type} (a : Either Act LogAct α) (w : Application dev)
    (r : α) (w' : Application dev) : Prop :=
  match a with
  | .inl a => ∃ g, Act.run w.gripper a = (r, g) ∧ w' = { w with gripper := g }
  | .inr a => a.perform w r w'

/-- The thread that commands the gripper. -/
def application {dev : Device} : Thread (Application dev) (Either Act LogAct) where
  env w w' := ∃ g, (gripperSystem dev).StepIn Quiet w.gripper g ∧ w' = { w with gripper := g }
  perform := Application.perform

/-- A call of the gripper. -/
def callGripper {α : Type} (p : Prog Act α) : Prog (Either Act LogAct) α := p.embed .inl

def logLine (level : Level) (message : String) : Prog (Either Act LogAct) Unit :=
  .act (.inr (.log { level := level, message := message }))

/-! ## The move -/

/-- The status first, and then the state of the link. -/
def withStatus (message : String) : Prog Act String := do
  let exchange ← .act .stampedExchange
  let state ← .act .connectionState
  pure (message ++ "; link=" ++ state.toString ++ " " ++ exchange.status.toString)

/-- What a move says when it fails. -/
def failedMove (message : String) : Prog (Either Act LogAct) Bool := do
  let line ← callGripper (withStatus message)
  logLine .error line
  pure false

/-- The block of a move. -/
def moveCommand (command : GripperCommand) (position : Byte) : GripperCommand :=
  { command with positionRequest := position }.setAction .goTo true

@[simp] theorem activateBit_moveCommand (command : GripperCommand) (position : Byte) :
    (moveCommand command position).activateBit = command.activateBit :=
  GripperCommand.activateBit_setAction_goTo _ _

@[simp] theorem goToBit_moveCommand (command : GripperCommand) (position : Byte) :
    (moveCommand command position).goToBit = true :=
  GripperCommand.goToBit_setAction_goTo _ _

@[simp] theorem positionRequest_moveCommand (command : GripperCommand) (position : Byte) :
    (moveCommand command position).positionRequest = position :=
  rfl

def settledAt (opening : ℚ) : String :=
  "settled at " ++ toString (lround (opening * 1000)) ++ " mm"

/-- A short move can be over before it is seen, so this is only advisory. -/
def noteMotion (moving : Option StampedExchange) : Prog (Either Act LogAct) Unit :=
  if moving.isNone then logLine .debug "no motion seen within 200 ms; it may already be done"
  else pure ()

/-- The move once its block has been carried: wait for its start, and for its end. -/
def awaitMotion (profile : DeviceProfile ℚ) : Prog (Either Act LogAct) Bool := do
  let moving ← callGripper (waitForObjectDetection .moving 200)
  noteMotion moving
  let settled ← callGripper (waitForMotionEnd 5000)
  match settled with
  | none => failedMove "the motion never settled"
  | some settled =>
    match openingFromRegister settled.status.position profile with
    | none => failedMove "the settled position has no opening in this profile"
    | some opening => do
      let line ← callGripper (withStatus (settledAt opening))
      logLine .info line
      pure true

def verdictOf (carried : Option StampedExchange) (profile : DeviceProfile ℚ) :
    Prog (Either Act LogAct) Bool :=
  if carried.isNone then failedMove "no exchange carried the command" else awaitMotion profile

/-- `moveTo`, with the command as it leaves it. -/
def moveTo (command : GripperCommand) (opening : ℚ) (profile : DeviceProfile ℚ) :
    Prog (Either Act LogAct) (Bool × GripperCommand) :=
  match openingToRegister opening profile with
  | none => do
    logLine .error "the requested opening has no register value"
    pure (false, command)
  | some position => do
    let command := moveCommand command position
    logLine .debug ("sending: " ++ command.toString)
    let carried ← callGripper (setCommandAndWaitForExchange command 1000)
    let verdict ← verdictOf carried profile
    pure (verdict, command)

/-! ## One block in the image and under way -/

section alone
variable {dev : Device} {seed : StampedExchange} {w₀ u v w : World dev} {c : GripperCommand}
  {r : StampedExchange} {L : Label → Prop}

/-- No block equal to `c` is under way that another one has replaced in the image. -/
def Apart (c : GripperCommand) (w : World dev) : Prop :=
  w.image.command = c ∨ w.pc.carries ≠ some c ∨ w.running = false

/-- The image holds `c`, and no exchange under way carries another block. -/
structure Alone (c : GripperCommand) (w : World dev) : Prop where
  image : w.image.command = c
  carried : ∀ c', w.pc.carries = some c' → c' = c

theorem Alone.apart (h : Alone c w) (c' : GripperCommand) : Apart c' w := by
  by_cases hcarries : w.pc.carries = some c'
  · exact .inl (h.image.trans (h.carried c' hcarries).symm)
  · exact .inr (.inl hcarries)

theorem apart_stable (c : GripperCommand) : Stable commander fun w : World dev => Apart c w := by
  intro w w' h henv
  obtain ⟨l, hl, hstep⟩ := henv
  unfold Apart at h ⊢
  cases move_of_step hstep with
  | setCommand c => cases hl
  | latch hpc =>
    -- what is latched is the block of the image
    by_cases himage : w.image.command = c
    · exact .inl himage
    · exact .inr (.inl fun hcarries => himage (Option.some.inj hcarries))
  | _ => simp_all [ExchangePc.carries]

/-- `c` is the one block set since `w₀`. -/
structure SetOnce (w₀ : World dev) (c : GripperCommand) (w : World dev) : Prop where
  run : (gripperSystem dev).Within (fun _ => True) w₀ w
  image : w.image.command = c
  sets : setsOf w.trace = setsOf w₀.trace ++ [c]

/-- The record `r` is of an exchange that wrote `c` since `w₀`, and no other block is about. -/
structure Carried (w₀ : World dev) (c : GripperCommand) (r : StampedExchange) (w : World dev) :
    Prop where
  sent : SetOnce w₀ c w
  delivered : Delivered w₀ c r w
  alone : Alone c w
  seen : r.count ≤ w.image.stamped.count

theorem SetOnce.along (h : SetOnce w₀ c u) (hrun : (gripperSystem dev).Within Quiet u w) :
    SetOnce w₀ c w where
  run := h.run.trans (System.Within.weaken (fun _ _ => trivial) hrun)
  image := (command_of_quiet hrun).trans h.image
  sets := (sets_of_quiet hrun).trans h.sets

theorem Delivered.along (hu : Chronicle seed u) (h : Delivered w₀ c r u)
    (himage : u.image.command = c) (hrun : (gripperSystem dev).Within Quiet u w) :
    Delivered w₀ c r w where
  command := h.command
  fresh := h.fresh
  last := by
    obtain ⟨s, hs, hsc, hbacked, hlast⟩ := h.last
    refine ⟨s, successes_grow hrun hs, hsc, hbacked.mono (trace_grows_within hrun).subset, ?_⟩
    intro k c' hk hlater
    by_cases hnew : u.cycles < k
    · exact (latched_of_quiet hu hrun k c' hk hnew).trans himage
    · -- a cycle of before has latched before
      obtain ⟨after, htrace⟩ := trace_grows_within hrun
      rcases List.mem_append.mp (htrace ▸ hk) with hold | hafter
      · exact hlast k c' hold hlater
      · exact absurd (hu.latched_since (hu.along hrun) htrace.symm hafter) hnew

/-- After a delivery nothing else is under way. -/
theorem Delivered.alone (hw : Chronicle seed w) (h : Delivered w₀ c r w)
    (himage : w.image.command = c) : Alone c w := by
  refine ⟨himage, ?_⟩
  intro c' hc'
  obtain ⟨s, _, hsc, hbacked, hlast⟩ := h.last
  have hlatched := hw.carried c' hc'
  rcases Nat.lt_or_eq_of_le (hw.latched_bounds hbacked.1).2 with hlater | hsame
  · exact hlast _ _ hlatched hlater
  · rw [← hsc]
    exact hw.latched_unique hlatched (hsame ▸ hbacked.1)

theorem Carried.along (hw₀ : w₀.Reachable) (h : Carried w₀ c r u)
    (hrun : (gripperSystem dev).Within Quiet u w) : Carried w₀ c r w := by
  obtain ⟨seed, hu⟩ := chronicle_of_reachable (hw₀.within h.sent.run)
  have hsent := h.sent.along hrun
  have hdelivered := h.delivered.along hu h.sent.image hrun
  exact ⟨hsent, hdelivered, hdelivered.alone (hu.along hrun) hsent.image,
    h.seen.trans (count_le_of_within hrun)⟩

/-- The record `r` is of an exchange that wrote `c`, and shows its answer. -/
def Shows (trace : List (Event dev)) (c : GripperCommand) (r : StampedExchange) : Prop :=
  r.command = c ∧ ∃ s, (successesOf trace)[r.count - 1]? = some s ∧ Backed trace s ∧
    s.command = c ∧ r.status = s.status

theorem Shows.along (h : Shows u.trace c r) (hrun : (gripperSystem dev).Within L u w) :
    Shows w.trace c r := by
  obtain ⟨hcommand, s, hs, hbacked, hrest⟩ := h
  exact ⟨hcommand, s, successes_grow hrun hs, hbacked.mono (trace_grows_within hrun).subset, hrest⟩

/-- **Every record after the carrier is of an exchange that wrote the block again.** -/
theorem Carried.shows (hw₀ : w₀.Reachable) (h : Carried w₀ c r w)
    (hlater : r.count < w.image.stamped.count) : Shows w.trace c w.image.stamped := by
  obtain ⟨seed, hw⟩ := chronicle_of_reachable (hw₀.within h.sent.run)
  obtain ⟨carrier, hcarrier, hcarried, _, hlast⟩ := h.delivered.last
  have hnames := hw.names_stamped
  unfold Names at hnames
  cases hcount : w.image.stamped.count with
  | zero => omega
  | succ n =>
    rw [hcount] at hnames
    obtain ⟨s, hs, hbacked, hstamped⟩ := hnames
    have hfresh := h.delivered.fresh
    have hcycle := hw.success_lt hcarrier hs (by omega)
    have hcommand : s.command = c := hlast _ _ hbacked.1 hcycle
    refine ⟨?_, s, ?_, hbacked, hcommand, ?_⟩
    · rw [hstamped, ProcessImage.recordOf_command, hcommand]
    · rw [hcount]
      exact hs
    · rw [hstamped]
      rfl

end alone

/-! ## What the calls do -/

section calls
variable {dev : Device} {w₀ : World dev} {c : GripperCommand} {r : StampedExchange}

theorem setOnce_stable : Stable commander (SetOnce w₀ c) := by
  intro w w' h henv
  exact h.along (.single henv)

theorem carried_stable (hw₀ : w₀.Reachable) : Stable commander (Carried w₀ c r) := by
  intro w w' h henv
  exact h.along hw₀ (.single henv)

/-- **The call that sets the block**: its record is of an exchange that carried it. -/
theorem setAndWait_triple (hw₀ : w₀.Reachable) (timeout : Int) :
    Triple commander (fun _ => True)
      (fun w => (gripperSystem dev).Within Quiet w₀ w ∧ Apart c w)
      (setCommandAndWaitForExchange c timeout)
      (fun answer w => SetOnce w₀ c w ∧ ∀ r, answer = some r → Carried w₀ c r w) := by
  intro u w hu
  refine ⟨fun _ => trivial, ?_⟩
  intro answer hcall
  obtain ⟨hquiet, hapart⟩ := hu
  have hreach : u.Reachable := hw₀.within hquiet
  obtain ⟨seed, h₀⟩ := chronicle_of_reachable hreach
  obtain ⟨w₁, desired, hw₁, hawait, hlook, _⟩ := (setCommandAndWait_triple h₀).done .refl hcall
  have hsent : SetOnce w₀ c w := by
    refine ⟨?_, command_of_quiet hawait.run, ?_⟩
    · exact (System.Within.weaken (fun _ _ => trivial) hquiet).trans (within_of_runs hcall)
    · rw [sets_of_quiet hawait.run, ← sets_of_quiet hquiet, ← sets_of_quiet hw₁]
      exact setsOf_concat _ _
  refine ⟨hsent, ?_⟩
  intro r hr
  subst hr
  obtain ⟨rfl, _⟩ := hlook
  have hdelivered := delivered_of_call hreach hapart hcall
  have hdelivered₀ : Delivered w₀ c w.image.stamped w :=
    { hdelivered with fresh := (count_le_of_within hquiet).trans_lt hdelivered.fresh }
  obtain ⟨_, hw⟩ := chronicle_of_reachable (hw₀.within hsent.run)
  exact ⟨hsent, hdelivered₀, hdelivered₀.alone hw hsent.image, le_rfl⟩

/-- A record that meets a wait, once the block is carried. -/
theorem waitCarried_triple (hw₀ : w₀.Reachable) (predicate : StampedExchange → Bool)
    (timeout : Int) :
    Triple commander (fun _ => True) (Carried w₀ c r) (waitFor predicate timeout)
      (fun answer w => Carried w₀ c r w ∧ ∀ settled, answer = some settled →
        r.count < settled.count ∧ predicate settled = true ∧ Shows w.trace c settled) := by
  apply (waitFor_met r.count predicate timeout (carried_stable hw₀) (fun _ _ => trivial)
    fun _ h => h.seen).post
  intro answer w h
  refine ⟨h.1, ?_⟩
  intro settled hsettled
  obtain ⟨rfl, hlater, hmeets⟩ := h.2 settled hsettled
  exact ⟨hlater, hmeets, h.1.shows hw₀ hlater⟩

theorem withStatus_triple {G : World dev → Prop} (hG : Stable commander G) (message : String) :
    Triple commander (fun _ => True) G (withStatus message)
      (fun line w => G w ∧ message.toList <+: line.toList) := by
  apply Triple.bind (Q := fun _ => G)
  · exact act_triple hG (fun _ _ => trivial) fun _ hw => hw
  intro exchange
  apply Triple.bind (Q := fun _ => G)
  · exact act_triple hG (fun _ _ => trivial) fun _ hw => hw
  intro state
  apply Triple.pure hG (fun _ _ => trivial) fun _ hw => hw
  intro w hw
  refine ⟨hw, ?_⟩
  simp only [String.toList_append, List.append_assoc]
  exact List.prefix_append _ _

end calls

/-! ## What is logged -/

def errorLines (log : List LogLine) : List LogLine := log.filter (·.level = .error)

/-- One error line for a failure, the last one, and none for a success. -/
structure Reported (before : List LogLine) (verdict : Bool) (after : List LogLine) : Prop where
  grown : before <+: after
  errors : (errorLines after).length = (errorLines before).length + if verdict then 0 else 1
  last : ∃ line, after.getLast? = some line ∧ line.level = if verdict then .info else .error

theorem reported_concat {before : List LogLine} {verdict : Bool} {line : LogLine}
    (hlevel : line.level = if verdict then .info else .error) :
    Reported before verdict (before ++ [line]) where
  grown := List.prefix_append _ _
  errors := by
    cases verdict <;> simp_all [errorLines]
  last := ⟨line, by simp, hlevel⟩

/-- A line of a lower level before does not count. -/
theorem Reported.after {before after : List LogLine} {verdict : Bool} {line : LogLine}
    (h : Reported (before ++ [line]) verdict after) (hlevel : line.level ≠ .error) :
    Reported before verdict after where
  grown := (List.prefix_append _ _).trans h.grown
  errors := by
    rw [h.errors]
    simp [errorLines, hlevel]
  last := h.last

section application
variable {dev : Device} {P : World dev → Prop} {lines : List LogLine}

theorem application_part :
    PartOf (application.pull .inl) commander fun w : Application dev => w.gripper where
  env w w' henv := by
    obtain ⟨g, hstep, rfl⟩ := henv
    exact .single hstep
  perform a w r w' hact := by
    obtain ⟨g, hrun, rfl⟩ := hact
    exact hrun

theorem stable_log : Stable application fun w : Application dev => w.log = lines := by
  intro w w' h henv
  obtain ⟨g, _, rfl⟩ := henv
  exact h

theorem stable_gripper (hP : Stable commander P) :
    Stable application fun w : Application dev => P w.gripper := by
  intro w w' h henv
  obtain ⟨g, hstep, rfl⟩ := henv
  exact hP _ _ h hstep

/-- What a call does to the gripper, it does under the application, and logs nothing. -/
theorem callGripper_triple {α : Type} {p : Prog Act α} {Q : α → World dev → Prop}
    (h : Triple commander (fun _ => True) P p Q) :
    Triple application (fun _ => True) (fun w => P w.gripper ∧ w.log = lines) (callGripper p)
      (fun a w => Q a w.gripper ∧ w.log = lines) := by
  apply Triple.embed
  have hbeside := h.beside (R := fun w : Application dev => w.log = lines) application_part
    stable_log fun a w r w' hlog hact => by
      obtain ⟨g, _, rfl⟩ := hact
      exact hlog
  exact hbeside.weaken fun _ _ => trivial

theorem logLine_triple (hP : Stable commander P) (level : Level) (message : String) :
    Triple application (fun _ => True) (fun w => P w.gripper ∧ w.log = lines)
      (logLine level message)
      (fun _ w => P w.gripper ∧ w.log = lines ++ [{ level := level, message := message }]) := by
  apply Triple.act ((stable_gripper hP).and stable_log) fun _ _ => trivial
  intro w _ w' h hact
  obtain rfl : w' = _ := hact
  exact ⟨h.1, congrArg (· ++ _) h.2⟩

theorem answer_triple {α : Type} (a : α) (hP : Stable commander P) {Q : α → Application dev → Prop}
    (hQ : ∀ w : Application dev, P w.gripper → w.log = lines → Q a w) :
    Triple application (fun _ => True) (fun w => P w.gripper ∧ w.log = lines) (pure a) Q :=
  Triple.pure ((stable_gripper hP).and stable_log) (fun _ _ => trivial) (fun _ h => h)
    fun w h => hQ w h.1 h.2

theorem failedMove_triple (hP : Stable commander P) (message : String) :
    Triple application (fun _ => True) (fun w => P w.gripper ∧ w.log = lines) (failedMove message)
      (fun verdict w => verdict = false ∧ P w.gripper ∧ Reported lines false w.log) := by
  apply (callGripper_triple (withStatus_triple hP message)).bind
  intro line
  apply ((logLine_triple hP .error line).pre fun _ h => ⟨h.1.1, h.2⟩).bind
  intro _
  apply answer_triple false hP
  intro w hw hlog
  exact ⟨rfl, hw, hlog ▸ reported_concat rfl⟩

end application

/-! ## The move, from end to end -/

section moves
variable {dev : Device} {w₀ : World dev} {c : GripperCommand} {carrier : StampedExchange}
  {lines : List LogLine} {profile : DeviceProfile ℚ}

/-- The fingers have come to rest in an exchange after `carrier` that wrote `c` again, and the
    opening they came to rest at is the one reported. -/
def Arrived (profile : DeviceProfile ℚ) (c : GripperCommand) (carrier : StampedExchange)
    (w : Application dev) : Prop :=
  ∃ settled opening line, carrier.count < settled.count ∧ Shows w.gripper.trace c settled ∧
    settled.status.gripperStatus.objectDetection ≠ .moving ∧
    openingFromRegister settled.status.position profile = some opening ∧
    w.log.getLast? = some line ∧ (settledAt opening).toList <+: line.message.toList

/-- The rest of the wait reports on a log that has grown from `before`. -/
def ReportsOn (before lines : List LogLine) : Prop :=
  ∀ verdict after, Reported lines verdict after → Reported before verdict after

theorem noteMotion_triple {P : World dev → Prop} (hP : Stable commander P)
    (moving : Option StampedExchange) :
    Triple application (fun _ => True) (fun w => P w.gripper ∧ w.log = lines) (noteMotion moving)
      (fun _ w => ∃ lines', ReportsOn lines lines' ∧ P w.gripper ∧ w.log = lines') := by
  apply Triple.ite
  · intro _
    apply (logLine_triple hP _ _).post
    intro _ w h
    exact ⟨_, fun _ _ hreported => hreported.after (by simp), h⟩
  · intro _
    apply answer_triple () hP
    intro w hw hlog
    exact ⟨lines, fun _ _ h => h, hw, hlog⟩

/-- What the wait for the motion leaves behind. -/
def Awaited (profile : DeviceProfile ℚ) (w₀ : World dev) (c : GripperCommand)
    (carrier : StampedExchange) (before : List LogLine) (verdict : Bool) (w : Application dev) :
    Prop :=
  Carried w₀ c carrier w.gripper ∧ Reported before verdict w.log ∧
    (verdict = true → Arrived profile c carrier w)

theorem failedWait_triple (hw₀ : w₀.Reachable) {before : List LogLine}
    (hlines : ReportsOn before lines) (message : String) :
    Triple application (fun _ => True)
      (fun w => Carried w₀ c carrier w.gripper ∧ w.log = lines) (failedMove message)
      (Awaited profile w₀ c carrier before) := by
  apply (failedMove_triple (carried_stable hw₀) message).post
  intro verdict w h
  obtain ⟨rfl, hw, hreported⟩ := h
  exact ⟨hw, hlines _ _ hreported, nofun⟩

/-- The fingers are at rest, and the opening is reported. -/
theorem arrived_triple (hw₀ : w₀.Reachable) {before : List LogLine}
    (hlines : ReportsOn before lines) {settled : StampedExchange} {opening : ℚ}
    (hlater : carrier.count < settled.count)
    (hrest : settled.status.gripperStatus.objectDetection ≠ .moving)
    (hopening : openingFromRegister settled.status.position profile = some opening) :
    Triple application (fun _ => True)
      (fun w => (Carried w₀ c carrier w.gripper ∧ Shows w.gripper.trace c settled) ∧
        w.log = lines)
      (do
        let line ← callGripper (withStatus (settledAt opening))
        logLine .info line
        pure true)
      (Awaited profile w₀ c carrier before) := by
  have hshows : Stable commander fun w : World dev =>
      Carried w₀ c carrier w ∧ Shows w.trace c settled := by
    intro w w' h henv
    exact ⟨carried_stable hw₀ w w' h.1 henv, h.2.along (.single henv)⟩
  apply (callGripper_triple (withStatus_triple hshows _)).bind
  intro line
  refine Triple.pre (P := fun w => (settledAt opening).toList <+: line.toList ∧
    (Carried w₀ c carrier w.gripper ∧ Shows w.gripper.trace c settled) ∧ w.log = lines) ?_
    fun _ h => ⟨h.1.2, h.1.1, h.2⟩
  apply Triple.assuming
  intro hline
  apply (logLine_triple hshows _ _).bind
  intro _
  apply answer_triple true hshows
  intro w hw hlog
  refine ⟨hw.1, hlines _ _ (hlog ▸ reported_concat rfl), ?_⟩
  intro _
  exact ⟨settled, opening, { level := .info, message := line }, hlater, hw.2, hrest, hopening,
    by simp [hlog], hline⟩

theorem awaitMotion_triple (hw₀ : w₀.Reachable) :
    Triple application (fun _ => True)
      (fun w => Carried w₀ c carrier w.gripper ∧ w.log = lines) (awaitMotion profile)
      (Awaited profile w₀ c carrier lines) := by
  have hcarried := carried_stable (c := c) (r := carrier) hw₀
  -- the wait for the start says nothing, but for a line when it runs out
  apply (callGripper_triple (waitCarried_triple hw₀ _ 200)).bind
  intro moving
  apply ((noteMotion_triple hcarried moving).pre fun _ h => ⟨h.1.1, h.2⟩).bind
  intro _
  apply Triple.exists_pre
  intro lines'
  apply Triple.assuming
  intro hlines
  apply (callGripper_triple (waitCarried_triple hw₀ _ 5000)).bind
  intro settled
  cases settled with
  | none => exact (failedWait_triple hw₀ hlines _).pre fun _ h => ⟨h.1.1, h.2⟩
  | some settled =>
    dsimp only
    cases hopening : openingFromRegister settled.status.position profile with
    | none => exact (failedWait_triple hw₀ hlines _).pre fun _ h => ⟨h.1.1, h.2⟩
    | some opening =>
      refine Triple.pre (P := fun w => (carrier.count < settled.count ∧
        settled.status.gripperStatus.objectDetection ≠ .moving) ∧
        (Carried w₀ c carrier w.gripper ∧ Shows w.gripper.trace c settled) ∧ w.log = lines') ?_ ?_
      · apply Triple.assuming
        intro hsettled
        exact arrived_triple hw₀ hlines hsettled.1 hsettled.2 hopening
      · intro w h
        obtain ⟨⟨hw, hmet⟩, hlog⟩ := h
        obtain ⟨hlater, hrest, hshown⟩ := hmet settled rfl
        exact ⟨⟨hlater, by simpa using hrest⟩, ⟨hw, hshown⟩, hlog⟩

/-- What becomes of a move called at `w₀`. -/
inductive MoveOutcome (w₀ : World dev) (command : GripperCommand) (opening : ℚ)
    (profile : DeviceProfile ℚ) : Bool × GripperCommand → Application dev → Prop where
  /-- The profile has no register for it, and nothing is set. -/
  | refused {w : Application dev} (register : openingToRegister opening profile = none)
      (run : (gripperSystem dev).Within Quiet w₀ w.gripper) :
      MoveOutcome w₀ command opening profile (false, command) w
  /-- The block stays in the image. -/
  | failed {w : Application dev} (position : Byte)
      (register : openingToRegister opening profile = some position)
      (sent : SetOnce w₀ (moveCommand command position) w.gripper) :
      MoveOutcome w₀ command opening profile (false, moveCommand command position) w
  | arrived {w : Application dev} (position : Byte) (carrier : StampedExchange)
      (register : openingToRegister opening profile = some position)
      (carried : Carried w₀ (moveCommand command position) carrier w.gripper)
      (settled : Arrived profile (moveCommand command position) carrier w) :
      MoveOutcome w₀ command opening profile (true, moveCommand command position) w

variable {command : GripperCommand} {opening : ℚ}

theorem moveTo_triple (hw₀ : w₀.Reachable) (command : GripperCommand) (opening : ℚ)
    (profile : DeviceProfile ℚ) :
    Triple application (fun _ => True)
      (fun w => ((gripperSystem dev).Within Quiet w₀ w.gripper ∧
        ∀ position, openingToRegister opening profile = some position →
          Apart (moveCommand command position) w.gripper) ∧ w.log = lines)
      (moveTo command opening profile)
      (fun answer w => Reported lines answer.1 w.log ∧
        MoveOutcome w₀ command opening profile answer w) := by
  unfold moveTo
  cases hregister : openingToRegister opening profile with
  | none =>
    have hquiet := quiet_stable w₀
    refine Triple.pre (P := fun w => (gripperSystem dev).Within Quiet w₀ w.gripper ∧ w.log = lines)
      ?_ fun _ h => ⟨h.1.1, h.2⟩
    apply (logLine_triple hquiet .error _).bind
    intro _
    apply answer_triple _ hquiet
    intro w hw hlog
    exact ⟨hlog ▸ reported_concat rfl, .refused hregister hw⟩
  | some position =>
    have hapart : Stable commander fun w : World dev =>
        (gripperSystem dev).Within Quiet w₀ w ∧ Apart (moveCommand command position) w :=
      (quiet_stable w₀).and (apart_stable _)
    refine Triple.pre (P := fun w => ((gripperSystem dev).Within Quiet w₀ w.gripper ∧
      Apart (moveCommand command position) w.gripper) ∧ w.log = lines) ?_
      fun _ h => ⟨⟨h.1.1, h.1.2 position rfl⟩, h.2⟩
    apply (logLine_triple hapart .debug _).bind
    intro _
    apply (callGripper_triple (setAndWait_triple hw₀ 1000)).bind
    intro carried
    refine Triple.bind (Q := fun verdict w => Reported lines verdict w.log ∧
      MoveOutcome w₀ command opening profile (verdict, moveCommand command position) w) ?_ ?_
    · cases carried with
      | none =>
        apply ((failedMove_triple setOnce_stable _).pre fun _ h => ⟨h.1.1, h.2⟩).post
        intro verdict w h
        obtain ⟨rfl, hsent, hreported⟩ := h
        exact ⟨hreported.after (by simp), .failed position hregister hsent⟩
      | some carrier =>
        apply ((awaitMotion_triple hw₀).pre fun _ h => ⟨h.1.2 carrier rfl, h.2⟩).post
        intro verdict w h
        obtain ⟨hcarried, hreported, harrived⟩ := h
        refine ⟨hreported.after (by simp), ?_⟩
        cases verdict with
        | false => exact .failed position hregister hcarried.sent
        | true => exact .arrived position carrier hregister hcarried (harrived rfl)
    · intro _
      exact Triple.pure_anywhere fun _ h => h

/-- **A move that answers `true` has been carried out, and one that answers `false` says why.**
    Called where no equal block is under way that another one has replaced, it sets one block at
    most; `true` only after an exchange since the call has written the block, and no other block
    is left anywhere, and a later exchange, that wrote it again, has found the fingers at rest at
    the opening that is reported; `false` with exactly one line of level Error, the last. -/
theorem moveTo_arrives (w₀ w : Application dev) (hw₀ : w₀.gripper.Reachable)
    (command : GripperCommand) (opening : ℚ) (profile : DeviceProfile ℚ)
    (hapart : ∀ position, openingToRegister opening profile = some position →
      Apart (moveCommand command position) w₀.gripper)
    (answer : Bool × GripperCommand)
    (hrun : Runs application (moveTo command opening profile) w₀ (some answer) w) :
    Reported w₀.log answer.1 w.log ∧
      MoveOutcome w₀.gripper command opening profile answer w :=
  (moveTo_triple hw₀ command opening profile).done ⟨⟨.refl, hapart⟩, rfl⟩ hrun

end moves

/-! ## On the fake gripper -/

theorem RegisterModel.flagsOf_objectDetection :
    ∀ activate done goTo, (RegisterModel.flagsOf activate done goTo).objectDetection
      = if activate && done && goTo then .atRequestedPosition else .moving := by
  decide

/-- The fingers are where they were sent, and at rest there once the gripper is active. -/
theorem RegisterModel.position_answer (m : RegisterModel) (c : GripperCommand) :
    (m.writeCommand c).answer.position = c.positionRequest := by
  rw [RegisterModel.answer_writeCommand]
  rfl

theorem RegisterModel.objectDetection_answer (m : RegisterModel) (c : GripperCommand) :
    (m.writeCommand c).answer.gripperStatus.objectDetection
      = if m.doneAfter c && c.goToBit then .atRequestedPosition else .moving := by
  rw [RegisterModel.answer_writeCommand, RegisterModel.processCommand_gripperStatus,
    RegisterModel.flagsOf_objectDetection]
  cases hdone : m.doneAfter c with
  | false => simp
  | true => simp [m.activateBit_of_doneAfter c hdone]

section fake
variable {stage : RegisterModel → Time → Time → RegisterModel}
  {w : Application (RegisterModel.staged stage)} {c : GripperCommand} {settled : StampedExchange}

/-- A record that shows the fingers at rest is of an active gripper, and of the position sent. -/
theorem atRest_of_shows (h : Shows w.gripper.trace c settled)
    (hrest : settled.status.gripperStatus.objectDetection ≠ .moving) :
    settled.status.position = c.positionRequest ∧
      settled.status.gripperStatus.objectDetection = .atRequestedPosition ∧
      settled.status.gripperStatus.activationState = .complete ∧ c.activateBit = true := by
  obtain ⟨_, s, _, hbacked, rfl, hstatus⟩ := h
  obtain ⟨_, m, _, hanswer⟩ := hbacked
  have hanswer : s.status = (m.writeCommand s.command).answer := hanswer
  rw [hstatus, hanswer, RegisterModel.objectDetection_answer] at hrest
  rw [hstatus, hanswer, RegisterModel.position_answer, RegisterModel.objectDetection_answer,
    RegisterModel.activationState_answer]
  cases hdone : m.doneAfter s.command with
  | false => simp [hdone] at hrest
  | true =>
    cases hgoTo : s.command.goToBit with
    | false => simp [hgoTo] at hrest
    | true => exact ⟨rfl, by simp, by simp, m.activateBit_of_doneAfter _ hdone⟩

end fake

/-- **On the fake gripper, whatever faults are staged, a move that answers `true` has gone where
    it was sent**: the gripper is active, the fingers are at the position requested, and the
    opening reported is, for an opening of the profile, the one asked for to within half a
    register step. A block without rACT is never carried out. -/
theorem moveTo_on_fake (stage : RegisterModel → Time → Time → RegisterModel)
    (w₀ w : Application (RegisterModel.staged stage)) (hw₀ : w₀.gripper.Reachable)
    (command command' : GripperCommand) (opening : ℚ) (profile : DeviceProfile ℚ)
    (hapart : ∀ position, openingToRegister opening profile = some position →
      Apart (moveCommand command position) w₀.gripper)
    (hrun : Runs application (moveTo command opening profile) w₀ (some (true, command')) w) :
    command.activateBit = true ∧ ∃ position settled back line,
      openingToRegister opening profile = some position ∧
      Shows w.gripper.trace (moveCommand command position) settled ∧
      settled.status.position = position ∧
      settled.status.gripperStatus.objectDetection = .atRequestedPosition ∧
      settled.status.gripperStatus.activationState = .complete ∧
      w.log.getLast? = some line ∧ (settledAt back).toList <+: line.message.toList ∧
      (profile.minOpening ≤ opening → opening ≤ profile.maxOpening →
        |back - opening| ≤ profile.openingRange / profile.registerPositionRange / 2) := by
  obtain ⟨_, houtcome⟩ := (moveTo_triple hw₀ command opening profile).done
    ⟨⟨.refl, hapart⟩, rfl⟩ hrun
  cases houtcome with
  | arrived position carrier hregister hcarried harrived =>
    obtain ⟨settled, back, line, _, hshows, hrest, hback, hline, hprefix⟩ := harrived
    obtain ⟨hposition, hobject, hactive, hactivate⟩ := atRest_of_shows hshows hrest
    rw [positionRequest_moveCommand] at hposition
    rw [activateBit_moveCommand] at hactivate
    refine ⟨hactivate, position, settled, back, line, hregister,
      hshows, hposition, hobject, hactive, hline, hprefix, ?_⟩
    intro hmin hmax
    -- a register was found, so the profile has room between its ends
    have hroom : ¬ (profile.openingRange ≤ 0 ∨ profile.registerPositionRange ≤ 0) := by
      intro hnone
      rw [openingToRegister, if_pos hnone] at hregister
      cases hregister
    rw [not_or, not_le, not_le] at hroom
    have hspan : profile.minOpening < profile.maxOpening := sub_pos.mp hroom.1
    have hband : profile.openPosition < profile.closedPosition := by
      have := sub_pos.mp hroom.2
      rw [BitVec.lt_def]
      exact_mod_cast this
    obtain ⟨back', hback', hnear⟩ := openingFromRegister_near hspan hband hmin hmax
    rw [openingToRegister_eq hspan hband, Option.some.injEq] at hregister
    rw [hregister, ← hposition, hback, Option.some.injEq] at hback'
    rw [hback']
    exact hnear

/-! ### A move of the fake gripper -/

section runs
variable {dev : Device} {w : Application dev}

/-- The gripper moves on under the application. -/
theorem part_commander (lines : List LogLine) :
    PartOf commander (application.pull .inl)
      fun g : World dev => ({ gripper := g, log := lines } : Application dev) where
  env _ _ hstep := .single ⟨_, hstep, rfl⟩
  perform _ _ _ _ hrun := ⟨_, hrun, rfl⟩

theorem runs_callGripper {α : Type} {p : Prog Act α} {g g' : World dev} {a : α}
    (lines : List LogLine) (h : Runs commander p g (some a) g') :
    Runs application (callGripper p) { gripper := g, log := lines } (some a)
      { gripper := g', log := lines } :=
  runs_embed.mpr (runs_part (part_commander lines) h)

theorem runs_logLine (g : World dev) (lines : List LogLine) (level : Level) (message : String) :
    Runs application (logLine level message) { gripper := g, log := lines } (some ())
      { gripper := g, log := lines ++ [{ level := level, message := message }] } :=
  runs_act .refl rfl

theorem runs_withStatus (g : World dev) (message : String) :
    Runs commander (withStatus message) g
      (some (message ++ "; link=" ++ g.connectionState.toString ++ " "
        ++ g.image.stamped.status.toString)) g :=
  runs_bind (runs_act .refl rfl) (runs_bind (runs_act .refl rfl) runs_pure)

/-- The wait for the start of the motion runs out, the one for its end does not. -/
theorem runs_awaitMotion {g g' g'' : World dev} {settled : StampedExchange}
    {profile : DeviceProfile ℚ} {opening : ℚ} (lines : List LogLine)
    (hunseen : Runs commander (waitForObjectDetection .moving 200) g (some none) g')
    (hsettled : Runs commander (waitForMotionEnd 5000) g' (some (some settled)) g'')
    (hopening : openingFromRegister settled.status.position profile = some opening) :
    ∃ w, Runs application (awaitMotion profile) { gripper := g, log := lines } (some true) w := by
  apply Exists.intro
  apply runs_bind (runs_callGripper _ hunseen)
  apply runs_bind (runs_logLine _ _ _ _)
  apply runs_bind (runs_callGripper _ hsettled)
  simp only [hopening]
  apply runs_bind (runs_callGripper _ (runs_withStatus _ _))
  exact runs_bind (runs_logLine _ _ _ _) runs_pure

end runs

theorem openingToRegister_closed : openingToRegister 0 k2F85 = some 230 := by decide +kernel

theorem openingFromRegister_closed : openingFromRegister 230 k2F85 = some 0 := by decide +kernel

/-- A cycle carries the block, the wait for the start of the motion runs out, and the next cycle
    shows the fingers at rest. -/
theorem runs_moveTo_fake : ∃ w, Runs application (moveTo GripperCommand.defaults 0 k2F85)
    { gripper := makeFakeGripper } (some (true, moveCommand GripperCommand.defaults 230)) w := by
  let c := moveCommand GripperCommand.defaults 230
  let g₁ := (makeFakeGripper.afterSet c).afterCycle
  let g₂ := g₁.afterTick 200000000
  let g₃ := g₂.afterCycle
  have hcarried : Runs commander (setCommandAndWaitForExchange c 1000) makeFakeGripper
      (some (some g₁.image.stamped)) g₁ := by
    refine runs_bind (runs_act .refl rfl) (runs_bind (runs_act .refl rfl) ?_)
    exact runs_waitForExchangeAfter _ Nat.zero_lt_one (decide_eq_true rfl)
      (afterCycle_within rfl rfl rfl)
  have hunseen : Runs commander (waitForObjectDetection .moving 200) g₁ (some none) g₂ := by
    apply runs_bind (runs_act .refl rfl)
    exact runs_waitForExchangeAfter_empty _ _ le_rfl .refl
      (afterTick_within (show (0 : Time) ≤ 200000000 by decide)) (by exact le_rfl)
  -- activation follows rACT, and the block asks for it
  have hfollows := RegisterModel.doneAfter_of_eq makeFakeGripper.device c rfl
  have hactive : RegisterModel.doneAfter g₂.device c = true := by
    show (RegisterModel.writeCommand makeFakeGripper.device c).doneAfter c = true
    rw [RegisterModel.doneAfter_of_eq _ c (by simpa using hfollows), activateBit_moveCommand]
    decide
  have hrest : g₃.image.stamped.status.gripperStatus.objectDetection = .atRequestedPosition := by
    show (RegisterModel.writeCommand g₂.device c).answer.gripperStatus.objectDetection = _
    rw [RegisterModel.objectDetection_answer, if_pos]
    rw [hactive, goToBit_moveCommand]
    rfl
  have hposition : g₃.image.stamped.status.position = 230 :=
    RegisterModel.position_answer g₂.device c
  have hsettled : Runs commander (waitForMotionEnd 5000) g₂ (some (some g₃.image.stamped)) g₃ := by
    apply runs_bind (runs_act .refl rfl)
    refine runs_waitForExchangeAfter _ (Nat.lt_succ_self _) ?_ (afterCycle_within rfl rfl rfl)
    rw [hrest]
    rfl
  unfold moveTo
  rw [openingToRegister_closed]
  obtain ⟨w, hawait⟩ := runs_awaitMotion
    ([] ++ [{ level := .debug, message := "sending: " ++ c.toString }]) hunseen hsettled
    (hposition ▸ openingFromRegister_closed)
  refine ⟨w, runs_bind (runs_logLine _ _ _ _) (runs_bind (runs_callGripper _ hcarried) ?_)⟩
  exact runs_bind hawait runs_pure

theorem apart_fake (c : GripperCommand) : Apart c makeFakeGripper := .inr (.inl nofun)

/-- The move of the fake gripper to its closed position. -/
theorem arrives_on_fake : ∃ w : Application RegisterModel.device,
    Reported [] true w.log ∧ MoveOutcome makeFakeGripper GripperCommand.defaults 0 k2F85
      (true, moveCommand GripperCommand.defaults 230) w := by
  obtain ⟨w, hrun⟩ := runs_moveTo_fake
  exact ⟨w, moveTo_arrives { gripper := makeFakeGripper } w makeFakeGripper_reachable
    GripperCommand.defaults 0 k2F85 (fun _ _ => apart_fake _) _ hrun⟩

/-- It has gone to the position requested. -/
theorem closed_on_fake : ∃ (w : Application RegisterModel.device) (settled : StampedExchange),
    Shows w.gripper.trace (moveCommand GripperCommand.defaults 230) settled ∧
      settled.status.position = 230 ∧
      settled.status.gripperStatus.objectDetection = .atRequestedPosition := by
  obtain ⟨w, hrun⟩ := runs_moveTo_fake
  obtain ⟨_, position, settled, _, _, hregister, hshows, hposition, hobject, _⟩ :=
    moveTo_on_fake _ { gripper := makeFakeGripper } w makeFakeGripper_reachable
      GripperCommand.defaults _ 0 k2F85 (fun _ _ => apart_fake _) hrun
  obtain rfl : 230 = position := Option.some.inj (openingToRegister_closed.symm.trans hregister)
  exact ⟨w, settled, hshows, hposition, hobject⟩

end GripperDriver

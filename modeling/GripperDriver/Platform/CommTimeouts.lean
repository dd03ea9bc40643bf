import GripperDriver.Platform.CommPort

/-! # The Timeouts of a Comm Handle

    A handle carries its timeouts from call to call, and the port remembers which
    they are: it asks for a change only when there is one.

    * `CommWorld`: handles with their timeouts, which a new handle has from anywhere,
    * `CommCall`: calls as a connection makes them,
    * `Cached`: the invariant, what the port remembers is what the handle carries,
    * `timeout_cache_transparent`: each transfer has the timeout of its own call.
-/

namespace GripperDriver

open Interleaving Relation

/-! ## Handles with timeouts -/

/-- A call, as a connection makes it: opening a port that is closed, and transferring through one
    that is open. -/
inductive CommCall where
  | open (path : String) (baudrate : Nat)
  | close
  | read (size : Nat) (timeoutMs : Int)
  | write (data : List Byte) (timeoutMs : Int)
  deriving DecidableEq, Repr

inductive CommEvent where
  | entered (call : CommCall)
  /-- `ReadFile` runs on a handle with these timeouts. -/
  | readFile (timeouts : CommTimeouts)
  | writeFile (timeouts : CommTimeouts)
  deriving DecidableEq, Repr

/-- The latest event first. -/
structure CommWorld where
  timeouts : Nat → CommTimeouts
  events : List CommEvent := []

def CommWorld.noted (w : CommWorld) (e : CommEvent) : CommWorld :=
  { w with events := e :: w.events }

def CommWorld.carry (w : CommWorld) (handle : Nat) (timeouts : CommTimeouts) : CommWorld :=
  { w with timeouts := Function.update w.timeouts handle timeouts }

/-- A new handle may carry anything; a `SetCommTimeouts` that fails leaves them as they are; and
    any call may fail. -/
def CommWorld.perform : {α : Type} → CommAct α → CommWorld → α → CommWorld → Prop
  | _, .createFile _, w, answer, w' =>
    (∃ error, answer = .error error ∧ w' = w) ∨
    ∃ handle timeouts, handle ≠ 0 ∧ answer = .ok handle ∧ w' = w.carry handle timeouts
  | _, .setCommTimeouts handle timeouts, w, answer, w' =>
    (answer = none ∧ w' = w.carry handle timeouts) ∨ ∃ error, answer = some error ∧ w' = w
  | _, .readFile handle _, w, _, w' => w' = w.noted (.readFile (w.timeouts handle))
  | _, .writeFile handle _ _, w, _, w' => w' = w.noted (.writeFile (w.timeouts handle))
  | _, _, w, _, w' => w' = w

def commThread : Thread CommWorld CommAct where
  env _ _ := False
  perform := CommWorld.perform

/-! ## Calls, one after the other -/

inductive CommAnswer where
  | opened (result : Except Failure Unit)
  | closed
  | received (result : Except Failure (List Byte))
  | sent (result : Except Failure Nat)

def CommCall.Proper (port : CommPort) : CommCall → Prop
  | .open _ _ => port.handle = 0
  | .close => True
  | .read _ _ => port.handle ≠ 0
  | .write _ _ => port.handle ≠ 0

section calls
variable (describe : Nat → String)
  (set : CommPort → Int → Int → Prog CommAct (Except Failure Unit × CommPort))

/-- A call, with what sets the timeouts. -/
def CommCall.run (port : CommPort) : CommCall → Prog CommAct (CommAnswer × CommPort)
  | .open path baudrate => do
    let (result, port) ← port.openSetting describe set path baudrate
    pure (.opened result, port)
  | .close => do
    let port ← port.close
    pure (.closed, port)
  | .read size timeoutMs => do
    let (result, port) ← port.readSetting describe set size timeoutMs
    pure (.received result, port)
  | .write data timeoutMs => do
    let (result, port) ← port.writeSetting describe set data timeoutMs
    pure (.sent result, port)

/-- The calls have been made, and answered so. -/
def CallsAnswered :
    List CommCall → CommPort → CommWorld → List CommAnswer → CommPort → CommWorld → Prop
  | [], port, w, answers, port', w' => answers = [] ∧ port' = port ∧ w' = w
  | call :: calls, port, w, answers, port', w' =>
    call.Proper port ∧ ∃ answer port₁ w₁ later,
      Runs commThread (call.run describe set port) (w.noted (.entered call))
        (some (answer, port₁)) w₁ ∧
      answers = answer :: later ∧ CallsAnswered calls port₁ w₁ later port' w'

end calls

/-! ## What the cache keeps -/

/-- A zero timeout takes what is there; any other ends the read. -/
def CommTimeouts.ReadsWithin (timeouts : CommTimeouts) (timeoutMs : Int) : Prop :=
  if timeoutMs = 0 then
    timeouts.readIntervalTimeout = maxDword ∧ timeouts.readTotalTimeoutConstant = 0
  else
    timeouts.readIntervalTimeout = 0 ∧
      timeouts.readTotalTimeoutConstant = BitVec.ofInt 32 timeoutMs

def CommTimeouts.WritesWithin (timeouts : CommTimeouts) (timeoutMs : Int) : Prop :=
  timeouts.writeTotalTimeoutConstant = BitVec.ofInt 32 timeoutMs

/-- Every transfer ran on a handle with the timeout of the call that it was made by. -/
def InOwnTime : List CommEvent → Prop
  | [] => True
  | .entered _ :: events => InOwnTime events
  | .readFile timeouts :: events =>
    (∃ size timeoutMs, events.head? = some (.entered (.read size timeoutMs)) ∧
      timeouts.ReadsWithin timeoutMs) ∧ InOwnTime events
  | .writeFile timeouts :: events =>
    (∃ data timeoutMs, events.head? = some (.entered (.write data timeoutMs)) ∧
      timeouts.WritesWithin timeoutMs) ∧ InOwnTime events

theorem encode_readsWithin (readMs writeMs : Int) : (encode readMs writeMs).ReadsWithin readMs := by
  unfold CommTimeouts.ReadsWithin encode CommTimeouts.forRead
  split
  · exact ⟨rfl, rfl⟩
  · exact ⟨rfl, rfl⟩

theorem encode_writesWithin (readMs writeMs : Int) :
    (encode readMs writeMs).WritesWithin writeMs := rfl

/-- A closed port remembers nothing, and an open one what its handle carries. -/
structure Cached (port : CommPort) (w : CommWorld) : Prop where
  closed : port.handle = 0 → port.readTimeoutMs = -1 ∧ port.writeTimeoutMs = -1
  carried : port.handle ≠ 0 →
    w.timeouts port.handle = encode port.readTimeoutMs port.writeTimeoutMs

section cache
variable {describe : Nat → String} {port port' : CommPort} {w w' : CommWorld} {readMs writeMs : Int}

theorem comm_stable (P : CommWorld → Prop) : Stable commThread P :=
  fun _ _ _ h => h.elim

theorem Cached.noted (h : Cached port w) (e : CommEvent) : Cached port (w.noted e) :=
  ⟨h.closed, h.carried⟩

/-- What a handle carries now, a port that says so remembers. -/
theorem cached_carry (hopen : port.handle ≠ 0) :
    Cached { port with readTimeoutMs := readMs, writeTimeoutMs := writeMs }
      (w.carry port.handle (encode readMs writeMs)) := by
  constructor
  · exact fun hnull => absurd hnull hopen
  · exact fun _ => Function.update_self _ _ _

/-- The events so far, and a port with its cache. -/
def CachedAt (port : CommPort) (events : List CommEvent) (w : CommWorld) : Prop :=
  Cached port w ∧ w.events = events

/-- What a call leaves. -/
def InOrder (port : CommPort) (w : CommWorld) : Prop := Cached port w ∧ InOwnTime w.events

theorem ordered_triple {α : Type} {a : α} :
    Triple commThread (fun w => InOwnTime w.events) (InOrder port) (pure (a, port))
      (fun (r : α × CommPort) w => InOrder r.2 w) :=
  Triple.pure (comm_stable _) (fun _ h => h.2) (fun _ h => h) fun _ h => h

section steps
variable {events : List CommEvent} (htime : InOwnTime events)
include htime

theorem CachedAt.inOwnTime (h : CachedAt port events w) : InOwnTime w.events := h.2 ▸ htime

theorem CachedAt.inOrder (h : CachedAt port events w) : InOrder port w :=
  ⟨h.1, h.inOwnTime htime⟩

/-- While the events are these, a program may end ... -/
theorem comm_pure_triple {α : Type} {P : CommWorld → Prop} {a : α} {Q : α → CommWorld → Prop}
    (hevents : ∀ w, P w → w.events = events) (h : ∀ w, P w → Q a w) :
    Triple commThread (fun w => InOwnTime w.events) P (pure a) Q := by
  apply Triple.pure (comm_stable P) _ (fun w hw => hw) h
  intro w hw
  rw [hevents w hw]
  exact htime

/-- ... and go on to its next call. -/
theorem comm_act_triple {α : Type} {P : CommWorld → Prop} {a : CommAct α} {Q : α → CommWorld → Prop}
    (hevents : ∀ w, P w → w.events = events)
    (h : ∀ w answer w', P w → CommWorld.perform a w answer w' → Q answer w') :
    Triple commThread (fun w => InOwnTime w.events) P (.act a) Q := by
  apply Triple.act (comm_stable P) _ h
  intro w hw
  rw [hevents w hw]
  exact htime

theorem applyTimeouts_triple {P : CommWorld → Prop} (hopen : port.handle ≠ 0)
    (hP : ∀ w, P w → w.events = events) :
    Triple commThread (fun w => InOwnTime w.events) P
      (CommPort.applyTimeouts describe port readMs writeMs)
      (fun r w => (∃ failure, r = (.error failure, port) ∧ P w) ∨
        (r = (.ok (), { port with readTimeoutMs := readMs, writeTimeoutMs := writeMs }) ∧
          CachedAt { port with readTimeoutMs := readMs, writeTimeoutMs := writeMs } events w)) := by
  have hset : Triple commThread (fun w => InOwnTime w.events) P
      (.act (.setCommTimeouts port.handle (encode readMs writeMs)))
      (fun set w => (∃ error, set = some error ∧ P w) ∨
        (set = none ∧ CachedAt { port with readTimeoutMs := readMs, writeTimeoutMs := writeMs }
          events w)) := by
    apply comm_act_triple htime hP
    intro w set w' h hact
    obtain ⟨rfl, rfl⟩ | ⟨error, rfl, rfl⟩ := hact
    · exact .inr ⟨rfl, cached_carry hopen, hP w h⟩
    · exact .inl ⟨error, rfl, h⟩
  refine hset.bind fun set => Triple.or_pre (Triple.exists_pre fun error => ?_) ?_
  · apply Triple.at_value
    exact comm_pure_triple htime hP fun w h => .inl ⟨_, rfl, h⟩
  · apply Triple.at_value
    exact comm_pure_triple htime (fun w h => h.2) fun w h => .inr ⟨rfl, h⟩

/-- On an open port, the timeouts are those asked for, whether they were set or remembered. -/
theorem setTimeouts_triple (hopen : port.handle ≠ 0) :
    Triple commThread (fun w => InOwnTime w.events) (CachedAt port events)
      (CommPort.setTimeouts describe port readMs writeMs)
      (fun r w => r.2.handle = port.handle ∧ CachedAt r.2 events w ∧
        (r.1 = .ok () → r.2.readTimeoutMs = readMs ∧ r.2.writeTimeoutMs = writeMs)) := by
  apply Triple.ite
  · intro hsame
    apply comm_pure_triple htime (fun w h => h.2)
    exact fun w h => ⟨rfl, h, fun _ => ⟨hsame.1.symm, hsame.2.symm⟩⟩
  intro _
  apply (applyTimeouts_triple htime hopen fun w h => h.2).post
  intro r w h
  rcases h with ⟨failure, rfl, h⟩ | ⟨rfl, h⟩
  · exact ⟨rfl, h, fun hok => by cases hok⟩
  · exact ⟨rfl, h, fun _ => ⟨rfl, rfl⟩⟩

/-- A transfer runs with the timeouts asked for. -/
theorem transfer_triple {α : Type} (hopen : port.handle ≠ 0)
    (call : Nat → CommAct (Except Nat α)) (event : CommTimeouts → CommEvent) {context : String}
    (hcall : ∀ handle w answer w', CommWorld.perform (call handle) w answer w' →
      w' = w.noted (event (w.timeouts handle)))
    (hevent : InOwnTime (event (encode readMs writeMs) :: events)) :
    Triple commThread (fun w => InOwnTime w.events) (CachedAt port events)
      (CommPort.transfer describe (CommPort.setTimeouts describe) port readMs writeMs call context)
      (fun r w => InOrder r.2 w) := by
  apply (setTimeouts_triple htime hopen).bind
  intro r
  obtain ⟨applied, port'⟩ := r
  apply Triple.assuming
  intro hhandle
  cases applied with
  | error failure =>
    exact comm_pure_triple htime (fun w h => h.1.2) fun w h => CachedAt.inOrder htime h.1
  | ok _ =>
    have htransfer : Triple commThread (fun w => InOwnTime w.events)
        (fun w => CachedAt port' events w ∧
          ((Except.ok () : Except Failure Unit) = .ok () →
            port'.readTimeoutMs = readMs ∧ port'.writeTimeoutMs = writeMs))
        (.act (call port'.handle)) (fun _ w => InOrder port' w) := by
      apply comm_act_triple htime (fun w h => h.1.2)
      intro w answer w' h hact
      obtain ⟨⟨hcached, hevents⟩, hset⟩ := h
      obtain rfl := hcall _ _ _ _ hact
      refine ⟨hcached.noted _, ?_⟩
      -- the handle carries what the port remembers, which is what was asked for
      have hcarried := hcached.carried (hhandle ▸ hopen)
      rw [(hset rfl).1, (hset rfl).2] at hcarried
      show InOwnTime (event (w.timeouts port'.handle) :: w.events)
      rw [hcarried, hevents]
      exact hevent
    apply htransfer.bind
    intro moved
    cases moved with
    | error error => exact ordered_triple
    | ok a => exact ordered_triple

/-- A port that is closed remembers nothing, whatever it had remembered. -/
theorem close_triple (h : port.handle = 0 → port.readTimeoutMs = -1 ∧ port.writeTimeoutMs = -1) :
    Triple commThread (fun w => InOwnTime w.events) (fun w => w.events = events) port.close
      (fun port' w => port'.handle = 0 ∧ CachedAt port' events w) := by
  apply Triple.ite
  · intro _
    have hclose : Triple commThread (fun w => InOwnTime w.events) (fun w => w.events = events)
        (.act (.closeHandle port.handle)) (fun _ w => w.events = events) := by
      apply comm_act_triple htime (fun w hw => hw)
      intro w _ w' hw hact
      obtain rfl : w' = w := hact
      exact hw
    apply hclose.bind
    intro _
    apply comm_pure_triple htime (fun w hw => hw)
    exact fun w hw => ⟨rfl, ⟨fun _ => ⟨rfl, rfl⟩, fun hopen => absurd rfl hopen⟩, hw⟩
  · intro hnull
    apply comm_pure_triple htime (fun w hw => hw)
    exact fun w hw => ⟨not_not.mp hnull, ⟨h, fun hopen => absurd hopen hnull⟩, hw⟩

theorem configure_triple (handle baudrate : Nat) :
    Triple commThread (fun w => InOwnTime w.events) (fun w => w.events = events)
      (CommPort.configure describe handle baudrate) (fun _ w => w.events = events) := by
  have hact : ∀ a : CommAct (Option Nat),
      (∀ w answer w', CommWorld.perform a w answer w' → w' = w) →
      Triple commThread (fun w => InOwnTime w.events) (fun w => w.events = events) (.act a)
        (fun _ w => w.events = events) := by
    intro a ha
    apply comm_act_triple htime (fun w hw => hw)
    intro w answer w' hw hstep
    obtain rfl := ha w answer w' hstep
    exact hw
  have hpure : ∀ {a : Except Failure Unit}, Triple commThread (fun w => InOwnTime w.events)
      (fun w => w.events = events) (pure a) (fun _ w => w.events = events) :=
    comm_pure_triple htime (fun w hw => hw) fun w hw => hw
  apply (hact (.getCommState handle) fun w answer w' h => h).bind
  intro got
  cases got with
  | some error => exact hpure
  | none =>
    apply (hact (.setCommState handle baudrate) fun w answer w' h => h).bind
    intro set
    cases set with
    | some error => exact hpure
    | none => exact hpure

/-- An `open` asks for its timeouts outright: what the new handle carries is not known. -/
theorem open_triple (hclosed : port.handle = 0)
    (hcache : port.readTimeoutMs = -1 ∧ port.writeTimeoutMs = -1) (path : String)
    (baudrate : Nat) :
    Triple commThread (fun w => InOwnTime w.events) (fun w => w.events = events)
      (CommPort.openSetting describe (CommPort.setTimeouts describe) port path baudrate)
      (fun r w => CachedAt r.2 events w ∧
        (r.1 = .ok () → r.2.handle ≠ 0 ∧ r.2.readTimeoutMs = 0 ∧ r.2.writeTimeoutMs = 0)) := by
  have hcreate : Triple commThread (fun w => InOwnTime w.events) (fun w => w.events = events)
      (.act (.createFile (devicePath path))) (fun created w =>
        (∀ handle, created = .ok handle → handle ≠ 0) ∧ w.events = events) := by
    apply comm_act_triple htime (fun w hw => hw)
    intro w created w' hw hact
    obtain ⟨error, rfl, rfl⟩ | ⟨handle, timeouts, hopen, rfl, rfl⟩ := hact
    · refine ⟨?_, hw⟩
      intro handle h
      cases h
    · refine ⟨?_, hw⟩
      intro handle' h
      cases h
      exact hopen
  have hfailed : ∀ {port' : CommPort} {failure : Failure},
      Triple commThread (fun w => InOwnTime w.events)
        (fun w => port'.handle = 0 ∧ CachedAt port' events w) (pure (.error failure, port'))
        (fun (r : Except Failure Unit × CommPort) w => CachedAt r.2 events w ∧
          (r.1 = .ok () → r.2.handle ≠ 0 ∧ r.2.readTimeoutMs = 0 ∧ r.2.writeTimeoutMs = 0)) := by
    intro port' failure
    apply comm_pure_triple htime (fun w h => h.2.2)
    exact fun w h => ⟨h.2, fun hok => by cases hok⟩
  have hstays : ∀ w : CommWorld, w.events = events → port.handle = 0 ∧ CachedAt port events w :=
    fun w hw => ⟨hclosed, ⟨fun _ => hcache, fun hopen => absurd hclosed hopen⟩, hw⟩
  apply hcreate.bind
  intro created
  apply Triple.assuming
  intro hnotNull
  cases created with
  | error error =>
    apply Triple.ite
    · exact fun _ => hfailed.pre hstays
    · exact fun _ => hfailed.pre hstays
  | ok handle =>
    have hopen : ({ port with handle } : CommPort).handle ≠ 0 := hnotNull handle rfl
    have hclose : ∀ port' : CommPort, port'.handle ≠ 0 →
        Triple commThread (fun w => InOwnTime w.events) (fun w => w.events = events) port'.close
          (fun port'' w => port''.handle = 0 ∧ CachedAt port'' events w) :=
      fun port' h => close_triple htime fun hnull => absurd hnull h
    apply (configure_triple htime handle baudrate).bind
    intro configured
    cases configured with
    | error failure => exact (hclose _ hopen).bind fun port' => hfailed
    | ok _ =>
      have hset : CommPort.setTimeouts describe { port with handle } 0 0
          = CommPort.applyTimeouts describe { port with handle } 0 0 := by
        apply if_neg
        intro hsame
        rw [hcache.1] at hsame
        exact absurd hsame.1 (by decide)
      show Triple _ _ _ (CommPort.setTimeouts describe { port with handle } 0 0 >>= _) _
      rw [hset]
      refine (applyTimeouts_triple htime hopen fun w hw => hw).bind fun r => Triple.or_pre ?_ ?_
      · apply Triple.exists_pre
        intro failure
        apply Triple.at_value
        exact (hclose _ hopen).bind fun port' => hfailed
      · apply Triple.at_value
        apply comm_pure_triple htime (fun w h => h.2)
        exact fun w h => ⟨h, fun _ => ⟨hopen, rfl, rfl⟩⟩

/-- **One call keeps the cache true, and its transfer in its own time.** -/
theorem call_triple {call : CommCall} (hproper : call.Proper port)
    (hclosed : port.handle = 0 → port.readTimeoutMs = -1 ∧ port.writeTimeoutMs = -1) :
    Triple commThread (fun w => InOwnTime w.events) (CachedAt port (.entered call :: events))
      (call.run describe (CommPort.setTimeouts describe) port) (fun r w => InOrder r.2 w) := by
  have hentered : InOwnTime (.entered call :: events) := htime
  have hstays : ∀ w, CachedAt port (.entered call :: events) w → InOrder port w :=
    fun w h => CachedAt.inOrder hentered h
  cases call with
  | «open» path baudrate =>
    refine Triple.bind (Triple.pre (open_triple hentered hproper (hclosed hproper) path baudrate)
      fun w h => h.2) fun r => ?_
    exact ordered_triple.pre fun w h => CachedAt.inOrder hentered h.1
  | close =>
    refine Triple.bind (Triple.pre (close_triple hentered hclosed) fun w h => h.2) fun port' => ?_
    exact ordered_triple.pre fun w h => CachedAt.inOrder hentered h.2
  | read size timeoutMs =>
    have hread : Triple commThread (fun w => InOwnTime w.events)
        (CachedAt port (.entered (.read size timeoutMs) :: events))
        (port.readSetting describe (CommPort.setTimeouts describe) size timeoutMs)
        (fun r w => InOrder r.2 w) := by
      apply Triple.ite
      · exact fun _ => ordered_triple.pre hstays
      intro _
      apply transfer_triple hentered hproper (fun handle => .readFile handle size) .readFile
        (fun _ _ _ _ h => h)
      exact ⟨⟨size, timeoutMs, rfl, encode_readsWithin timeoutMs _⟩, htime⟩
    exact hread.bind fun r => ordered_triple
  | write data timeoutMs =>
    have hwrite : Triple commThread (fun w => InOwnTime w.events)
        (CachedAt port (.entered (.write data timeoutMs) :: events))
        (port.writeSetting describe (CommPort.setTimeouts describe) data timeoutMs)
        (fun r w => InOrder r.2 w) := by
      apply Triple.ite
      · exact fun _ => ordered_triple.pre hstays
      intro _
      apply transfer_triple hentered hproper (fun handle => .writeFile handle data data.length)
        .writeFile (fun _ _ _ _ h => h)
      exact ⟨⟨data, timeoutMs, rfl, encode_writesWithin _ timeoutMs⟩, htime⟩
    exact hwrite.bind fun r => ordered_triple

end steps

/-! ## As if the timeouts were always set -/

/-- To set what a handle carries already changes nothing. -/
theorem Cached.carry_eq (h : Cached port w) (hopen : port.handle ≠ 0) :
    w.carry port.handle (encode port.readTimeoutMs port.writeTimeoutMs) = w := by
  rw [CommWorld.carry, ← h.carried hopen, Function.update_eq_self]

theorem runs_applyTimeouts (h : Cached port w) (hopen : port.handle ≠ 0)
    {r : Except Failure Unit × CommPort}
    (hrun : Runs commThread (CommPort.setTimeouts describe port readMs writeMs) w (some r) w') :
    Runs commThread (CommPort.applyTimeouts describe port readMs writeMs) w (some r) w' := by
  unfold CommPort.setTimeouts at hrun
  split at hrun
  · -- nothing was set: it might as well have been
    rename_i hsame
    obtain ⟨rfl, rfl⟩ := hsame
    obtain ⟨rfl, rfl⟩ := runs_pure_some hrun
    exact runs_bind (a := none) (runs_act .refl (.inl ⟨rfl, (h.carry_eq hopen).symm⟩)) runs_pure
  · exact hrun

theorem runs_transfer {α : Type} (h : Cached port w) (hopen : port.handle ≠ 0)
    {call : Nat → CommAct (Except Nat α)} {context : String} {r : Except Failure α × CommPort}
    (hrun : Runs commThread (CommPort.transfer describe (CommPort.setTimeouts describe) port readMs
      writeMs call context) w (some r) w') :
    Runs commThread (CommPort.transfer describe (CommPort.applyTimeouts describe) port readMs
      writeMs call context) w (some r) w' := by
  obtain ⟨applied, w₁, hset, hrest⟩ := runs_bind_some hrun
  exact runs_bind (runs_applyTimeouts h hopen hset) hrest

/-- A port that remembers nothing sets its timeouts. -/
theorem openSetting_eq (hcache : port.readTimeoutMs = -1) :
    CommPort.openSetting describe (CommPort.setTimeouts describe) port
      = CommPort.openSetting describe (CommPort.applyTimeouts describe) port := by
  have hset : ∀ handle, CommPort.setTimeouts describe { port with handle } 0 0
      = CommPort.applyTimeouts describe { port with handle } 0 0 := by
    intro handle
    apply if_neg
    intro hsame
    rw [hcache] at hsame
    exact absurd hsame.1 (by decide)
  funext path baudrate
  simp only [CommPort.openSetting, hset]

/-- A call is answered just as it would be if its timeouts were always set. -/
theorem runs_call (h : Cached port w) {call : CommCall} (hproper : call.Proper port)
    {r : CommAnswer × CommPort}
    (hrun : Runs commThread (call.run describe (CommPort.setTimeouts describe) port)
      (w.noted (.entered call)) (some r) w') :
    Runs commThread (call.run describe (CommPort.applyTimeouts describe) port)
      (w.noted (.entered call)) (some r) w' := by
  have h := h.noted (.entered call)
  cases call with
  | «open» path baudrate =>
    unfold CommCall.run at hrun ⊢
    rw [← openSetting_eq (h.closed hproper).1]
    exact hrun
  | close => exact hrun
  | read size timeoutMs =>
    obtain ⟨answer, w₁, hread, hrest⟩ := runs_bind_some hrun
    refine runs_bind ?_ hrest
    unfold CommPort.readSetting at hread ⊢
    split at hread
    · rw [if_pos ‹_›]
      exact hread
    · rw [if_neg ‹_›]
      exact runs_transfer h hproper hread
  | write data timeoutMs =>
    obtain ⟨answer, w₁, hwrite, hrest⟩ := runs_bind_some hrun
    refine runs_bind ?_ hrest
    unfold CommPort.writeSetting at hwrite ⊢
    split at hwrite
    · rw [if_pos ‹_›]
      exact hwrite
    · rw [if_neg ‹_›]
      exact runs_transfer h hproper hwrite

/-! ## Whole runs -/

variable {calls : List CommCall} {answers : List CommAnswer}

theorem CallsAnswered.inOrder
    (h : CallsAnswered describe (CommPort.setTimeouts describe) calls port w answers port' w')
    (hw : InOrder port w) : InOrder port' w' := by
  induction calls generalizing port w answers with
  | nil =>
    obtain ⟨_, rfl, rfl⟩ := h
    exact hw
  | cons call calls ih =>
    obtain ⟨hproper, answer, port₁, w₁, later, hrun, _, hlater⟩ := h
    apply ih hlater
    exact (call_triple hw.2 hproper hw.1.closed).done ⟨hw.1.noted _, rfl⟩ hrun

theorem CallsAnswered.applied
    (h : CallsAnswered describe (CommPort.setTimeouts describe) calls port w answers port' w')
    (hw : InOrder port w) :
    CallsAnswered describe (CommPort.applyTimeouts describe) calls port w answers port' w' := by
  induction calls generalizing port w answers with
  | nil => exact h
  | cons call calls ih =>
    obtain ⟨hproper, answer, port₁, w₁, later, hrun, hanswers, hlater⟩ := h
    have hw₁ : InOrder port₁ w₁ :=
      (call_triple hw.2 hproper hw.1.closed).done ⟨hw.1.noted _, rfl⟩ hrun
    exact ⟨hproper, answer, port₁, w₁, later, runs_call hw.1 hproper hrun, hanswers,
      ih hlater hw₁⟩

end cache

/-- **The timeout cache is transparent.** From a new port, whatever the handles carry, whatever is
    called and whatever fails: a transfer under way runs with the timeout of its own call; the
    calls are answered, and leave the handles, as if their timeouts were always set; and a handle
    opened after a close carries what its port has asked for. -/
theorem timeout_cache_transparent (describe : Nat → String) (carried : Nat → CommTimeouts)
    (calls : List CommCall) (answers : List CommAnswer) (port : CommPort) (w : CommWorld)
    (h : CallsAnswered describe (CommPort.setTimeouts describe) calls {} { timeouts := carried }
      answers port w) :
    (∀ (call : CommCall) (o : Option (CommAnswer × CommPort)) (w' : CommWorld), call.Proper port →
      Runs commThread (call.run describe (CommPort.setTimeouts describe) port)
        (w.noted (.entered call)) o w' → InOwnTime w'.events) ∧
    CallsAnswered describe (CommPort.applyTimeouts describe) calls {} { timeouts := carried }
      answers port w ∧
    (∀ (path : String) (baudrate : Nat) (port' : CommPort) (w' : CommWorld), port.handle = 0 →
      Runs commThread (port.open describe path baudrate) w (some (.ok (), port')) w' →
      port.readTimeoutMs = -1 ∧ port.writeTimeoutMs = -1 ∧
        w'.timeouts port'.handle = encode 0 0) := by
  have hnew : InOrder {} { timeouts := carried } :=
    ⟨⟨fun _ => ⟨rfl, rfl⟩, fun hopen => absurd rfl hopen⟩, trivial⟩
  have hw : InOrder port w := h.inOrder hnew
  refine ⟨?_, h.applied hnew, ?_⟩
  · intro call o w' hproper hrun
    have hentered : CachedAt port (.entered call :: w.events) (w.noted (.entered call)) :=
      ⟨hw.1.noted _, rfl⟩
    cases o with
    | none => exact (call_triple hw.2 hproper hw.1.closed).running hentered hrun
    | some r => exact ((call_triple hw.2 hproper hw.1.closed).done hentered hrun).2
  · intro path baudrate port' w' hclosed hrun
    have hcache := hw.1.closed hclosed
    obtain ⟨⟨hcached, _⟩, hzero⟩ := (open_triple hw.2 hclosed hcache path baudrate).done rfl hrun
    obtain ⟨hopen, hread, hwrite⟩ := hzero rfl
    have hcarried := hcached.carried hopen
    rw [hread, hwrite] at hcarried
    exact ⟨hcache.1, hcache.2, hcarried⟩

/-- A port that has been opened, and a read on it. -/
theorem timeout_cache_transparent_opened :
    ∃ w, CallsAnswered (fun _ => "") (CommPort.setTimeouts fun _ => "") [.open "COM3" 115200] {}
        { timeouts := fun _ => {} } [.opened (.ok ())]
        { handle := 1, readTimeoutMs := 0, writeTimeoutMs := 0 } w ∧
      ∀ o w', Runs commThread (CommCall.run (fun _ => "") (CommPort.setTimeouts fun _ => "")
          { handle := 1, readTimeoutMs := 0, writeTimeoutMs := 0 } (.read 1 500))
        (w.noted (.entered (.read 1 500))) o w' → InOwnTime w'.events := by
  let w₀ : CommWorld := { timeouts := fun _ => {} }
  let w₁ := ((w₀.noted (.entered (.open "COM3" 115200))).carry 1 {}).carry 1 (encode 0 0)
  have hopen : Runs commThread (CommPort.openSetting (fun _ => "") (CommPort.setTimeouts fun _ => "")
      {} "COM3" 115200) (w₀.noted (.entered (.open "COM3" 115200)))
      (some (.ok (), { handle := 1, readTimeoutMs := 0, writeTimeoutMs := 0 })) w₁ := by
    refine runs_bind (a := .ok 1) (runs_act .refl (.inr ⟨1, {}, by decide, rfl, rfl⟩)) ?_
    have hconfigure : ∀ w, Runs commThread (CommPort.configure (fun _ => "") 1 115200) w
        (some (.ok ())) w :=
      fun w => runs_bind (a := none) (runs_act .refl rfl)
        (runs_bind (a := none) (runs_act .refl rfl) runs_pure)
    have hset : ∀ w, Runs commThread (CommPort.setTimeouts (fun _ => "") { handle := 1 } 0 0) w
        (some (.ok (), { handle := 1, readTimeoutMs := 0, writeTimeoutMs := 0 }))
        (w.carry 1 (encode 0 0)) :=
      fun w => runs_bind (a := none) (runs_act .refl (.inl ⟨rfl, rfl⟩)) runs_pure
    exact runs_bind (hconfigure _) (runs_bind (hset _) runs_pure)
  have hanswered : CallsAnswered (fun _ => "") (CommPort.setTimeouts fun _ => "")
      [.open "COM3" 115200] {} w₀ [.opened (.ok ())]
      { handle := 1, readTimeoutMs := 0, writeTimeoutMs := 0 } w₁ :=
    ⟨rfl, _, _, _, [], runs_bind hopen runs_pure, rfl, rfl, rfl, rfl⟩
  refine ⟨w₁, hanswered, fun o w' hrun => ?_⟩
  have htransparent := timeout_cache_transparent _ _ _ _ _ _ hanswered
  exact htransparent.1 (.read 1 500) o w' (by decide : (1 : Nat) ≠ 0) hrun

end GripperDriver

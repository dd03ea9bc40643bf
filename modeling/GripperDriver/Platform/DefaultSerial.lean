import GripperDriver.Framework.Ledger
import GripperDriver.Exchange.World
import GripperDriver.Platform.SerialWrite

/-! # The Serial Port of a Connection

    `DefaultSerial` holds a `SerialPort` while it is open. The port is that of a
    platform; what the connection owes to it is the same on all of them.

    * `PortOps`: a platform's port, as programs over its system calls,
    * `DefaultSerial.open`, `close`, `read`, `write`: the code over it,
    * `NeverLeaks`: what becomes of the handles of the platform,
    * `KeepsHandles`: what a platform owes,
    * `KeepsHandles.neverLeaks`: then no connection leaks.
-/

namespace GripperDriver

open Interleaving Relation

structure SerialConfig where
  port : String
  baudrate : Nat := 115200
  timeoutMs : Int := 500
  latencyTimerMs : Int := 1
  deriving DecidableEq, Repr

/-- A platform's `SerialPort`, whose state is a `P`, and what else a connection asks of the
    platform. -/
structure PortOps (A : Type → Type) (P : Type) where
  /-- The port as it is constructed. -/
  fresh : P
  openPort : P → String → Nat → Prog A (Except Failure Unit × P)
  closePort : P → Prog A P
  read : P → Nat → Int → Prog A (Except Failure (List Byte) × P)
  write : P → List Byte → Int → Prog A (Except Failure Nat × P)
  drain : P → Int → Prog A (Except Failure Bool × P)
  log : LogLine → Prog A Unit
  /-- Enforces the latency timer, where the platform has one. -/
  latencyTimer : SerialConfig → Prog A Unit

/-! ## The connection -/

section code
variable {A : Type → Type} {P : Type} (ops : PortOps A P) (config : SerialConfig)

/-- A port that fails to open goes out of scope, and its destructor closes it. -/
def DefaultSerial.open : Option P → Prog A (Except Failure Unit × Option P)
  | some port => do
    ops.log ⟨.debug, "open() called on " ++ config.port ++
      " but the port is already open; ignoring."⟩
    pure (.ok (), some port)
  | none =>
    if config.port = "" then
      pure (.error (.thrown "Cannot open serial port: port path is empty"), none)
    else do
      ops.log ⟨.debug, "opening serial port '" ++ config.port ++ "' at " ++
        toString config.baudrate ++ " baud"⟩
      let (result, port) ← ops.openPort ops.fresh config.port config.baudrate
      match result with
      | .error failure => do
        let _ ← ops.closePort port
        pure (.error failure, none)
      | .ok () => do
        ops.latencyTimer config
        pure (.ok (), some port)

def DefaultSerial.isOpen (port : Option P) : Bool := port.isSome

def DefaultSerial.close : Option P → Prog A (Option P)
  | none => pure none
  | some port => do
    let _ ← ops.closePort port
    pure none

def DefaultSerial.read (size : Nat) (timeoutMs : Int) :
    Option P → Prog A (Except Failure (List Byte) × Option P)
  | none => pure (.error (.thrown "read called on closed port"), none)
  | some port => do
    let (result, port) ← ops.read port size timeoutMs
    pure (result, some port)

/-- What a write does once the port has taken `written` bytes. -/
def DefaultSerial.finishWrite (port : P) (size written : Nat) :
    Prog A (Except Failure Unit × Option P) :=
  if written < size then
    pure (.error (.thrown ("write timeout: wrote " ++ toString written ++ " of " ++
      toString size ++ " bytes")), some port)
  else do
    let (result, port) ← ops.drain port config.timeoutMs
    match result with
    | .error failure => pure (.error failure, some port)
    | .ok false =>
      pure (.error (.thrown "write timeout: the bytes written did not drain"), some port)
    | .ok true => pure (.ok (), some port)

def DefaultSerial.write (data : List Byte) : Option P → Prog A (Except Failure Unit × Option P)
  | none => pure (.error (.thrown "write called on closed port"), none)
  | some port => do
    let (result, port) ← ops.write port data config.timeoutMs
    match result with
    | .error failure => pure (.error failure, some port)
    | .ok written => DefaultSerial.finishWrite ops config port data.length written

end code

/-! ## Calls, one after the other -/

/-- What a caller may do with a connection, before it destroys it. -/
inductive SerialCall where
  | open
  | close
  | read (size : Nat) (timeoutMs : Int)
  | write (data : List Byte)
  deriving DecidableEq, Repr

section calls
variable {A : Type → Type} {P : Type} (ops : PortOps A P) (config : SerialConfig)

/-- The caller goes on whether a call throws or not. -/
def SerialCall.run (port : Option P) : SerialCall → Prog A (Option P)
  | .open => do
    let (_, port) ← DefaultSerial.open ops config port
    pure port
  | .close => DefaultSerial.close ops port
  | .read size timeoutMs => do
    let (_, port) ← DefaultSerial.read ops size timeoutMs port
    pure port
  | .write data => do
    let (_, port) ← DefaultSerial.write ops config data port
    pure port

def SerialCall.runAll : List SerialCall → Option P → Prog A (Option P)
  | [], port => pure port
  | call :: calls, port => do
    let port ← call.run ops config port
    runAll calls port

end calls

/-! ## Handles -/

section handles
variable {S : Type} {A : Type → Type} {P H : Type} [DecidableEq H]

/-- What becomes of a platform's handles, whatever is called and whatever fails: `clean` is
    what else is to hold of the platform at any time, `supported` are the rates at which it
    opens a port. -/
structure NeverLeaks (T : Thread S A) (history : S → List (Entry H)) (clean : S → Prop)
    (supported : Nat → Prop) (ops : PortOps A P) (config : SerialConfig) (calls : List SerialCall)
    (s : S) : Prop where
  /-- At every moment only open handles have been used or closed, each at most once. -/
  sound : ∀ s', Runs T (SerialCall.runAll ops config calls none) s none s' →
    Sound (history s') ∧ clean s'
  /-- After the calls as many handles are open as the connection says. -/
  open_iff : ∀ s' port, Runs T (SerialCall.runAll ops config calls none) s (some port) s' →
    Sound (history s') ∧ clean s' ∧
      opened (history s') = closed (history s') + if DefaultSerial.isOpen port then 1 else 0
  /-- Then the destructor closes what is open. -/
  destroyed : ∀ s' port s'' port',
    Runs T (SerialCall.runAll ops config calls none) s (some port) s' →
    Runs T (DefaultSerial.close ops port) s' (some port') s'' →
    Sound (history s'') ∧ clean s'' ∧ live (history s'') = []
  /-- An `open` that throws leaves the connection closed, ... -/
  failed : ∀ s' port s'' port' failure,
    Runs T (SerialCall.runAll ops config calls none) s (some port) s' →
    Runs T (DefaultSerial.open ops config port) s' (some (.error failure, port')) s'' →
    DefaultSerial.isOpen port' = false
  /-- ... and a closed one can be opened. -/
  reopens : ∀ s', Runs T (SerialCall.runAll ops config calls none) s (some none) s' →
    config.port ≠ "" → supported config.baudrate →
    ∃ s'' port', Runs T (DefaultSerial.open ops config none) s' (some (.ok (), some port')) s''

/-- The handle is all that is live. -/
def Owns (history : S → List (Entry H)) (clean : S → Prop) (held : Option H) (s : S) : Prop :=
  Sound (history s) ∧ clean s ∧ live (history s) = held.toList

section owns
variable {history : S → List (Entry H)} {clean : S → Prop} {s s' : S} {handle : H}

theorem Owns.used (h : Owns history clean (some handle) s)
    (hs' : history s' = .used handle :: history s) (hclean : clean s') :
    Owns history clean (some handle) s' := by
  rw [Owns, hs']
  refine ⟨⟨h.1, ?_⟩, hclean, h.2.2⟩
  show handle ∈ live (history s)
  rw [h.2.2]
  exact List.mem_singleton_self handle

theorem Owns.released (h : Owns history clean (some handle) s)
    (hs' : history s' = .released handle :: history s) (hclean : clean s') :
    Owns history clean none s' := by
  rw [Owns, hs']
  refine ⟨⟨h.1, ?_⟩, hclean, ?_⟩
  · show handle ∈ live (history s)
    rw [h.2.2]
    exact List.mem_singleton_self handle
  · show (live (history s)).erase handle = []
    rw [h.2.2]
    exact List.erase_cons_head handle []

theorem Owns.acquired (h : Owns history clean none s) (hfresh : handle ∉ live (history s))
    (hs' : history s' = .acquired handle :: history s) (hclean : clean s') :
    Owns history clean (some handle) s' := by
  rw [Owns, hs']
  refine ⟨⟨h.1, hfresh⟩, hclean, ?_⟩
  show handle :: live (history s) = [handle]
  rw [h.2.2]
  rfl

end owns

/-- A program of a port that has `before` and, with an answer `a`, leaves it with a handle that
    is as `after a` says. -/
def Moves {α : Type} (T : Thread S A) (history : S → List (Entry H)) (clean : S → Prop)
    (before : Option H) (p : Prog A α) (after : α → Option H → Prop) : Prop :=
  Triple T (fun s => Sound (history s) ∧ clean s) (Owns history clean before) p
    (fun a s => ∃ held, after a held ∧ Owns history clean held s)

/-! ## What a platform owes -/

/-- What the operations of a port do to its handle: `Holds port held` says which it is. -/
structure KeepsHandles (T : Thread S A) (history : S → List (Entry H)) (clean : S → Prop)
    (supported : Nat → Prop) (ops : PortOps A P) (Holds : P → Option H → Prop) : Prop where
  stable : ∀ held, Stable T (Owns history clean held)
  fresh : Holds ops.fresh none
  /-- A port that fails to open holds nothing. -/
  openPort : ∀ port path baudrate, Holds port none →
    Moves T history clean none (ops.openPort port path baudrate)
      (fun r held => Holds r.2 held ∧ (r.1 = .ok () ↔ held.isSome))
  closePort : ∀ port held, Holds port held →
    Moves T history clean held (ops.closePort port)
      (fun port' held' => Holds port' held' ∧ held' = none)
  read : ∀ port held size timeoutMs, Holds port held → held.isSome →
    Moves T history clean held (ops.read port size timeoutMs)
      (fun r held' => Holds r.2 held' ∧ held' = held)
  write : ∀ port held data timeoutMs, Holds port held → held.isSome →
    Moves T history clean held (ops.write port data timeoutMs)
      (fun r held' => Holds r.2 held' ∧ held' = held)
  drain : ∀ port held timeoutMs, Holds port held → held.isSome →
    Moves T history clean held (ops.drain port timeoutMs)
      (fun r held' => Holds r.2 held' ∧ held' = held)
  log : ∀ held line, Moves T history clean held (ops.log line) (fun _ held' => held' = held)
  latencyTimer : ∀ held config,
    Moves T history clean held (ops.latencyTimer config) (fun _ held' => held' = held)
  /-- When nothing fails, a port opens. -/
  opens : ∀ path baudrate s, Owns history clean none s → supported baudrate →
    ∃ port s', Runs T (ops.openPort ops.fresh path baudrate) s (some (.ok (), port)) s'
  logs : ∀ line s, ∃ s', Runs T (ops.log line) s (some ()) s'
  tunes : ∀ config s, ∃ s', Runs T (ops.latencyTimer config) s (some ()) s'

section moves
variable {T : Thread S A} {history : S → List (Entry H)} {clean : S → Prop} {α β : Type}
  {before held : Option H}

theorem Moves.pure (hstable : ∀ held, Stable T (Owns history clean held)) {a : α}
    {after : α → Option H → Prop} (h : after a before) :
    Moves T history clean before (pure a) after := by
  apply Triple.pure (hstable before)
  · exact fun s hs => ⟨hs.1, hs.2.1⟩
  · exact fun s hs => hs
  · exact fun s hs => ⟨before, h, hs⟩

theorem Moves.bind {p : Prog A α} {k : α → Prog A β} {mid : α → Option H → Prop}
    {after : β → Option H → Prop} (hp : Moves T history clean before p mid)
    (hk : ∀ a held, mid a held → Moves T history clean held (k a) after) :
    Moves T history clean before (p >>= k) after := by
  apply Triple.bind hp
  intro a
  apply Triple.exists_pre
  intro held
  apply Triple.assuming
  exact hk a held

/-- After a program that keeps the handle, there is the handle from before. -/
theorem Moves.keeping {p : Prog A α} {k : α → Prog A β} {after : β → Option H → Prop}
    (hp : Moves T history clean before p (fun _ held => held = before))
    (hk : ∀ a, Moves T history clean before (k a) after) :
    Moves T history clean before (p >>= k) after := by
  apply hp.bind
  intro a held hheld
  rw [hheld]
  exact hk a

theorem Moves.act (hstable : ∀ held, Stable T (Owns history clean held)) {a : A α}
    {after : α → Option H → Prop}
    (h : ∀ s answer s', Owns history clean before s → T.perform a s answer s' →
      ∃ held, after answer held ∧ Owns history clean held s') :
    Moves T history clean before (.act a) after :=
  Triple.act (hstable before) (fun _ hs => ⟨hs.1, hs.2.1⟩) h

/-- A program whose actions all keep the handle keeps it. -/
theorem Moves.of_only {ok : {α : Type} → A α → Prop}
    (hstable : ∀ held, Stable T (Owns history clean held))
    (hact : ∀ {β : Type} (a : A β) s answer s', ok a → Owns history clean held s →
      T.perform a s answer s' → Owns history clean held s') {p : Prog A α} (hp : p.Only ok) :
    Moves T history clean held p (fun _ held' => held' = held) := by
  apply Triple.post (Triple.keeps_only (hstable held) (fun _ hs => ⟨hs.1, hs.2.1⟩) hact hp)
  intro _ s hs
  exact ⟨held, rfl, hs⟩

theorem Moves.ite {c : Prop} [Decidable c] {p q : Prog A α} {after : α → Option H → Prop}
    (hp : c → Moves T history clean before p after)
    (hq : ¬ c → Moves T history clean before q after) :
    Moves T history clean before (if c then p else q) after :=
  Triple.ite hp hq

theorem Moves.post {p : Prog A α} {after after' : α → Option H → Prop}
    (hp : Moves T history clean before p after) (h : ∀ a held, after a held → after' a held) :
    Moves T history clean before p after' := by
  apply Triple.post hp
  intro a s hs
  obtain ⟨held, ha, howns⟩ := hs
  exact ⟨held, h a held ha, howns⟩

end moves

/-- A connection that is open holds a handle. -/
def HeldBy (Holds : P → Option H → Prop) : Option P → Option H → Prop
  | none, held => held = none
  | some port, held => Holds port held ∧ held.isSome

namespace KeepsHandles
variable {T : Thread S A} {history : S → List (Entry H)} {clean : S → Prop}
  {supported : Nat → Prop} {ops : PortOps A P} {Holds : P → Option H → Prop}
  (keeps : KeepsHandles T history clean supported ops Holds) (config : SerialConfig)
  {port : Option P} {held : Option H}
include keeps

theorem open_moves (h : HeldBy Holds port held) :
    Moves T history clean held (DefaultSerial.open ops config port)
      (fun r held' => HeldBy Holds r.2 held' ∧ ∀ failure, r.1 = .error failure → r.2 = none) := by
  cases port with
  | some port =>
    apply (keeps.log held _).keeping
    intro _
    apply Moves.pure keeps.stable
    exact ⟨h, fun _ hthrown => by cases hthrown⟩
  | none =>
    have hheld : held = none := h
    subst hheld
    unfold DefaultSerial.open
    apply Moves.ite
    · intro _
      apply Moves.pure keeps.stable
      exact ⟨rfl, fun _ _ => rfl⟩
    intro _
    apply (keeps.log none _).keeping
    intro _
    apply (keeps.openPort _ _ _ keeps.fresh).bind
    intro r held hr
    obtain ⟨result, port⟩ := r
    cases result with
    | error failure =>
      -- the port goes out of scope
      apply (keeps.closePort port held hr.1).bind
      intro _ held' hclosed
      exact Moves.pure keeps.stable ⟨hclosed.2, fun _ _ => rfl⟩
    | ok _ =>
      apply (keeps.latencyTimer held config).keeping
      intro _
      apply Moves.pure keeps.stable
      exact ⟨⟨hr.1, hr.2.mp rfl⟩, fun _ hthrown => by cases hthrown⟩

theorem close_moves (h : HeldBy Holds port held) :
    Moves T history clean held (DefaultSerial.close ops port)
      (fun port' held' => port' = none ∧ held' = none) := by
  cases port with
  | none => exact Moves.pure keeps.stable ⟨rfl, h⟩
  | some port =>
    apply (keeps.closePort port held h.1).bind
    intro _ held' hclosed
    exact Moves.pure keeps.stable ⟨rfl, hclosed.2⟩

theorem read_moves (h : HeldBy Holds port held) (size : Nat) (timeoutMs : Int) :
    Moves T history clean held (DefaultSerial.read ops size timeoutMs port)
      (fun r held' => HeldBy Holds r.2 held') := by
  cases port with
  | none => exact Moves.pure keeps.stable h
  | some port =>
    apply (keeps.read port held size timeoutMs h.1 h.2).bind
    intro r held' hr
    apply Moves.pure keeps.stable
    exact ⟨hr.1, hr.2 ▸ h.2⟩

theorem write_moves (h : HeldBy Holds port held) (data : List Byte) :
    Moves T history clean held (DefaultSerial.write ops config data port)
      (fun r held' => HeldBy Holds r.2 held') := by
  cases port with
  | none => exact Moves.pure keeps.stable h
  | some port =>
    apply (keeps.write port held data config.timeoutMs h.1 h.2).bind
    intro r held' hr
    obtain ⟨result, port⟩ := r
    obtain ⟨hport, rfl⟩ := hr
    cases result with
    | error failure => exact Moves.pure keeps.stable ⟨hport, h.2⟩
    | ok written =>
      show Moves T history clean held' (DefaultSerial.finishWrite ops config port _ written) _
      unfold DefaultSerial.finishWrite
      apply Moves.ite
      · intro _
        exact Moves.pure keeps.stable ⟨hport, h.2⟩
      intro _
      apply (keeps.drain port held' config.timeoutMs hport h.2).bind
      intro r held'' hr
      obtain ⟨result, port⟩ := r
      obtain ⟨hport, rfl⟩ := hr
      match result with
      | .error failure => exact Moves.pure keeps.stable ⟨hport, h.2⟩
      | .ok false => exact Moves.pure keeps.stable ⟨hport, h.2⟩
      | .ok true => exact Moves.pure keeps.stable ⟨hport, h.2⟩

theorem call_moves (h : HeldBy Holds port held) (call : SerialCall) :
    Moves T history clean held (call.run ops config port) (HeldBy Holds) := by
  cases call with
  | «open» =>
    apply (keeps.open_moves config h).bind
    intro r held' hr
    exact Moves.pure keeps.stable hr.1
  | close =>
    apply (keeps.close_moves h).post
    intro port' held' hclosed
    rw [hclosed.1]
    exact hclosed.2
  | read size timeoutMs =>
    apply (keeps.read_moves h size timeoutMs).bind
    intro r held' hr
    exact Moves.pure keeps.stable hr
  | write data =>
    apply (keeps.write_moves config h data).bind
    intro r held' hr
    exact Moves.pure keeps.stable hr

theorem runAll_moves (h : HeldBy Holds port held) (calls : List SerialCall) :
    Moves T history clean held (SerialCall.runAll ops config calls port) (HeldBy Holds) := by
  induction calls generalizing port held with
  | nil => exact Moves.pure keeps.stable h
  | cons call calls ih =>
    apply (keeps.call_moves config h call).bind
    intro port' held' h'
    exact ih h'

/-- From a closed connection, nothing failing, there is a run that opens it. -/
theorem reopens (hport : config.port ≠ "") (hrate : supported config.baudrate) {s : S}
    (howns : Owns history clean none s) :
    ∃ s' port, Runs T (DefaultSerial.open ops config none) s (some (.ok (), some port)) s' := by
  unfold DefaultSerial.open
  simp only [if_neg hport]
  obtain ⟨s₁, hlog⟩ := keeps.logs _ s
  obtain ⟨held, rfl, howns₁⟩ := (keeps.log none _).done howns hlog
  obtain ⟨port, s₂, hopen⟩ := keeps.opens config.port config.baudrate s₁ howns₁ hrate
  obtain ⟨s₃, htune⟩ := keeps.tunes config s₂
  exact ⟨s₃, port, runs_bind hlog (runs_bind hopen (runs_bind htune runs_pure))⟩

/-- **No platform that keeps its handles leaks one.** -/
theorem neverLeaks (calls : List SerialCall) {s : S} (hs : Owns history clean none s) :
    NeverLeaks T history clean supported ops config calls s := by
  have hclosed : HeldBy Holds (none : Option P) none := rfl
  have hall := keeps.runAll_moves config hclosed calls
  constructor
  case sound =>
    intro s' hrun
    exact hall.running hs hrun
  case open_iff =>
    intro s' port hrun
    obtain ⟨held, hheld, hsound, hclean, hlive⟩ := hall.done hs hrun
    refine ⟨hsound, hclean, ?_⟩
    rw [hsound.opened_eq, hlive]
    cases port with
    | none => rw [show held = none from hheld]; rfl
    | some port =>
      obtain ⟨handle, rfl⟩ := Option.isSome_iff_exists.mp hheld.2
      rfl
  case destroyed =>
    intro s' port s'' port' hrun hclose
    obtain ⟨held, hheld, howns⟩ := hall.done hs hrun
    obtain ⟨held', hclosed, hsound, hclean, hlive⟩ := (keeps.close_moves hheld).done howns hclose
    rw [hclosed.2] at hlive
    exact ⟨hsound, hclean, hlive⟩
  case failed =>
    intro s' port s'' port' failure hrun hopen
    obtain ⟨held, hheld, howns⟩ := hall.done hs hrun
    obtain ⟨held', hopened, _⟩ := (keeps.open_moves config hheld).done howns hopen
    have hnone : port' = none := hopened.2 failure rfl
    rw [hnone]
    rfl
  case reopens =>
    intro s' hrun hport hrate
    obtain ⟨held, hheld, howns⟩ := hall.done hs hrun
    have hnone : held = none := hheld
    subst hnone
    exact keeps.reopens config hport hrate howns

end KeepsHandles

end handles

end GripperDriver

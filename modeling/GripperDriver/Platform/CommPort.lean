import GripperDriver.Platform.DefaultSerial

/-! # The Serial Port on Windows

    A comm handle, which is stored before it is configured, and a cache of the
    timeouts that it carries.

    * `CommAct`: the calls of the Win32 comm API, each on its handle,
    * `CommPort.open`, `close`, `setTimeouts`, `read`, `write`, `drain`: the code,
    * `HandleWorld`: a system that answers anything, and never gives out a handle
      that is open,
    * `comm_keepsHandles`: every call keeps to the handle that is held.
-/

namespace GripperDriver

open Interleaving Relation

/-! ## System calls -/

/-- The fields of `COMMTIMEOUTS` that are not always 0. -/
structure CommTimeouts where
  readIntervalTimeout : BitVec 32 := 0
  readTotalTimeoutConstant : BitVec 32 := 0
  writeTotalTimeoutConstant : BitVec 32 := 0
  deriving DecidableEq, Repr

/-- A call that fails answers with `GetLastError()`. -/
inductive CommAct : Type → Type where
  | log (line : LogLine) : CommAct Unit
  | createFile (path : String) : CommAct (Except Nat Nat)
  | closeHandle (handle : Nat) : CommAct Unit
  | getCommState (handle : Nat) : CommAct (Option Nat)
  | setCommState (handle : Nat) (baudrate : Nat) : CommAct (Option Nat)
  | setCommTimeouts (handle : Nat) (timeouts : CommTimeouts) : CommAct (Option Nat)
  | readFile (handle : Nat) (size : BitVec 32) : CommAct (Except Nat (List Byte))
  /-- Of the data, so many bytes. -/
  | writeFile (handle : Nat) (data : List Byte) (size : BitVec 32) : CommAct (Except Nat Nat)
  | flushFileBuffers (handle : Nat) : CommAct (Option Nat)

/-! ## The port -/

/-- `nullptr` is handle 0. -/
structure CommPort where
  handle : Nat := 0
  readTimeoutMs : Int := -1
  writeTimeoutMs : Int := -1
  deriving DecidableEq, Repr

/-- `MAXDWORD`. -/
def maxDword : BitVec 32 := BitVec.allOnes 32

/-- Half of the timeouts of a handle, for the milliseconds that a read may take. -/
def CommTimeouts.forRead (timeouts : CommTimeouts) (readMs : Int) : CommTimeouts :=
  if readMs = 0 then { timeouts with readIntervalTimeout := maxDword }
  else { timeouts with readTotalTimeoutConstant := BitVec.ofInt 32 readMs }

def encode (readMs writeMs : Int) : CommTimeouts :=
  { CommTimeouts.forRead {} readMs with writeTotalTimeoutConstant := BitVec.ofInt 32 writeMs }

/-- A bare COM name is resolved through the device namespace. -/
def devicePath (port : String) : String :=
  let name := port.toList
  let isBareComName := decide (3 < name.length) && (name.take 3).map Char.toUpper == ['C', 'O', 'M']
    && (name.drop 3).all Char.isDigit
  if isBareComName then "\\\\.\\" ++ port else port

section code
variable (describe : Nat → String)

namespace CommPort

def fail {α : Type} (context : String) (error : Nat) : Except Failure α :=
  .error (.thrown (context ++ ": " ++ describe error))

def configure (handle baudrate : Nat) : Prog CommAct (Except Failure Unit) := do
  let got ← .act (.getCommState handle)
  match got with
  | some error => pure (fail describe "reading the serial port state" error)
  | none => do
    let set ← .act (.setCommState handle baudrate)
    match set with
    | some error =>
      pure (fail describe ("configuring the serial port at " ++ toString baudrate ++ " baud") error)
    | none => pure (.ok ())

/-- `setTimeouts` from where it knows that the timeouts change. -/
def applyTimeouts (port : CommPort) (readMs writeMs : Int) :
    Prog CommAct (Except Failure Unit × CommPort) := do
  let set ← .act (.setCommTimeouts port.handle (encode readMs writeMs))
  match set with
  | some error => pure (fail describe "setting the serial port timeouts" error, port)
  | none => pure (.ok (), { port with readTimeoutMs := readMs, writeTimeoutMs := writeMs })

def setTimeouts (port : CommPort) (readMs writeMs : Int) :
    Prog CommAct (Except Failure Unit × CommPort) :=
  if readMs = port.readTimeoutMs ∧ writeMs = port.writeTimeoutMs then pure (.ok (), port)
  else applyTimeouts describe port readMs writeMs

end CommPort

def CommPort.close (port : CommPort) : Prog CommAct CommPort :=
  if port.handle ≠ 0 then do
    .act (.closeHandle port.handle)
    pure { handle := 0, readTimeoutMs := -1, writeTimeoutMs := -1 }
  else pure port

section timeouts
variable (set : CommPort → Int → Int → Prog CommAct (Except Failure Unit × CommPort))

/-- `SerialPort::open`, with what sets the timeouts. -/
def CommPort.openSetting (port : CommPort) (path : String) (baudrate : Nat) :
    Prog CommAct (Except Failure Unit × CommPort) := do
  let created ← .act (.createFile (devicePath path))
  match created with
  | .error error =>
    -- ERROR_FILE_NOT_FOUND and ERROR_PATH_NOT_FOUND
    if error = 2 ∨ error = 3 then
      pure (.error (.thrown ("no serial port named '" ++ path ++
        "' (is the device connected?)")), port)
    else pure (fail describe ("opening serial port '" ++ path ++ "'") error, port)
  | .ok handle => do
    let port := { port with handle }
    let configured ← configure describe port.handle baudrate
    match configured with
    | .error failure => do
      let port ← port.close
      pure (.error failure, port)
    | .ok () => do
      let (applied, port) ← set port 0 0
      match applied with
      | .error failure => do
        let port ← port.close
        pure (.error failure, port)
      | .ok () => pure (.ok (), port)

/-- Reading and writing: the timeouts are set, and then the handle is used. -/
def CommPort.transfer {α : Type} (port : CommPort) (readMs writeMs : Int)
    (call : Nat → CommAct (Except Nat α)) (context : String) :
    Prog CommAct (Except Failure α × CommPort) := do
  let (applied, port) ← set port readMs writeMs
  match applied with
  | .error failure => pure (.error failure, port)
  | .ok () => do
    let moved ← .act (call port.handle)
    match moved with
    | .error error => pure (fail describe context error, port)
    | .ok a => pure (.ok a, port)

def CommPort.readSetting (port : CommPort) (size : Nat) (timeoutMs : Int) :
    Prog CommAct (Except Failure (List Byte) × CommPort) :=
  if size = 0 then pure (.ok [], port)
  else transfer describe set port timeoutMs port.writeTimeoutMs
    (fun handle => .readFile handle size) "reading from the serial port"

def CommPort.writeSetting (port : CommPort) (data : List Byte) (timeoutMs : Int) :
    Prog CommAct (Except Failure Nat × CommPort) :=
  if data.length = 0 then pure (.ok 0, port)
  else transfer describe set port port.readTimeoutMs timeoutMs
    (fun handle => .writeFile handle data data.length) "writing to the serial port"

end timeouts

def CommPort.open : CommPort → String → Nat → Prog CommAct (Except Failure Unit × CommPort) :=
  CommPort.openSetting describe (CommPort.setTimeouts describe)

def CommPort.read : CommPort → Nat → Int → Prog CommAct (Except Failure (List Byte) × CommPort) :=
  CommPort.readSetting describe (CommPort.setTimeouts describe)

def CommPort.write : CommPort → List Byte → Int → Prog CommAct (Except Failure Nat × CommPort) :=
  CommPort.writeSetting describe (CommPort.setTimeouts describe)

/-- The driver has a timeout of its own. -/
def CommPort.drain (port : CommPort) (_timeoutMs : Int) :
    Prog CommAct (Except Failure Bool × CommPort) := do
  let flushed ← .act (.flushFileBuffers port.handle)
  match flushed with
  | some error => pure (CommPort.fail describe "draining the serial port" error, port)
  | none => pure (.ok true, port)

/-- The port of `DefaultSerial` on Windows, which has no latency timer. -/
def commOps : PortOps CommAct CommPort where
  fresh := {}
  openPort := CommPort.open describe
  closePort := CommPort.close
  read := CommPort.read describe
  write := CommPort.write describe
  drain := CommPort.drain describe
  log line := .act (.log line)
  latencyTimer _ := pure ()

end code

/-! ## A system that answers anything -/

structure HandleWorld where
  history : List (Entry Nat) := []
  deriving DecidableEq, Repr

def HandleWorld.noted (w : HandleWorld) (e : Entry Nat) : HandleWorld :=
  { w with history := e :: w.history }

/-- The handle of a call that may fail in any way. -/
def CommAct.handle? : {α : Type} → CommAct α → Option Nat
  | _, .getCommState handle => some handle
  | _, .setCommState handle _ => some handle
  | _, .setCommTimeouts handle _ => some handle
  | _, .readFile handle _ => some handle
  | _, .writeFile handle _ _ => some handle
  | _, .flushFileBuffers handle => some handle
  | _, _ => none

/-- A call on no handle leaves no entry. -/
def HandleWorld.after (w : HandleWorld) : Option Nat → HandleWorld
  | some handle => w.noted (.used handle)
  | none => w

/-- A `CreateFile` that succeeds gives out a handle that is not open, and not null. -/
def HandleWorld.perform : {α : Type} → CommAct α → HandleWorld → α → HandleWorld → Prop
  | _, .createFile _, w, answer, w' =>
    (∃ error, answer = .error error ∧ w' = w) ∨
    ∃ handle, handle ≠ 0 ∧ handle ∉ live w.history ∧ answer = .ok handle ∧
      w' = w.noted (.acquired handle)
  | _, .closeHandle handle, w, _, w' => w' = w.noted (.released handle)
  | _, a, w, _, w' => w' = w.after a.handle?

/-- No other thread has a part in a port's handles. -/
def handleThread : Thread HandleWorld CommAct where
  env _ _ := False
  perform := HandleWorld.perform

/-! ## What a port holds -/

/-- Nothing is divided on Windows. -/
def HandleWorld.clean (_ : HandleWorld) : Prop := True

abbrev HandleWorld.Owns (held : Option Nat) (w : HandleWorld) : Prop :=
  GripperDriver.Owns HandleWorld.history HandleWorld.clean held w

def CommPort.Holds (port : CommPort) : Option Nat → Prop
  | none => port.handle = 0
  | some handle => port.handle = handle ∧ handle ≠ 0

/-- What may be done while a handle is held, without opening or closing any. -/
def CommAct.Keeps (held : Option Nat) : {α : Type} → CommAct α → Prop
  | _, .createFile _ => False
  | _, .closeHandle _ => False
  | _, a => ∀ handle, a.handle? = some handle → held = some handle

section comm
variable {w w' : HandleWorld} {held : Option Nat} {port : CommPort}

theorem handle_stable (P : HandleWorld → Prop) : Stable handleThread P :=
  fun _ _ _ h => h.elim

theorem handle_after (h : w.Owns held) {handle : Option Nat}
    (hheld : ∀ handle', handle = some handle' → held = some handle') :
    (w.after handle).Owns held := by
  cases handle with
  | none => exact h
  | some handle =>
    obtain rfl := hheld handle rfl
    exact h.used rfl trivial

theorem comm_pure {α : Type} {a : α} {after : α → Option Nat → Prop} (h : after a held) :
    Moves handleThread HandleWorld.history HandleWorld.clean held (pure a) after :=
  Moves.pure (fun _ => handle_stable _) h

theorem comm_moves_of_only {α : Type} {p : Prog CommAct α} (hp : p.Only (CommAct.Keeps held)) :
    Moves handleThread HandleWorld.history HandleWorld.clean held p
      (fun _ held' => held' = held) := by
  apply Moves.of_only (fun _ => handle_stable _) _ hp
  intro β a w answer w' hok h hact
  cases a with
  | createFile path => exact hok.elim
  | closeHandle handle => exact hok.elim
  | _ =>
    obtain rfl := hact
    exact handle_after h hok

/-- `CreateFile` gives out a handle, or none. -/
theorem moves_create (path : String) :
    Moves handleThread HandleWorld.history HandleWorld.clean none (.act (.createFile path))
      (fun answer held' => match answer with
        | .error _ => held' = none
        | .ok handle => held' = some handle ∧ handle ≠ 0) := by
  apply Moves.act (fun _ => handle_stable _)
  intro w answer w' h hact
  obtain ⟨error, rfl, rfl⟩ | ⟨handle, hpos, hfresh, rfl, rfl⟩ := hact
  · exact ⟨none, rfl, h⟩
  · exact ⟨some handle, ⟨rfl, hpos⟩, h.acquired hfresh rfl trivial⟩

theorem comm_close_moves (h : port.Holds held) :
    Moves handleThread HandleWorld.history HandleWorld.clean held port.close
      (fun port' held' => port'.Holds held' ∧ held' = none) := by
  cases held with
  | none =>
    have hnull : port.handle = 0 := h
    apply Moves.ite
    · exact fun hopen => absurd hnull hopen
    · exact fun _ => comm_pure ⟨h, rfl⟩
  | some handle =>
    obtain ⟨rfl, hopen⟩ := h
    apply Moves.ite
    · intro _
      have hclose : Moves handleThread HandleWorld.history HandleWorld.clean (some port.handle)
          (.act (.closeHandle port.handle)) (fun _ held' => held' = none) := by
        apply Moves.act (fun _ => handle_stable _)
        intro w _ w' h hact
        obtain rfl : w' = w.noted (.released port.handle) := hact
        exact ⟨none, rfl, h.released rfl trivial⟩
      apply hclose.bind
      intro _ held' hheld'
      subst hheld'
      exact comm_pure ⟨rfl, rfl⟩
    · exact fun hnull => absurd hopen hnull

/-- Whatever it does to the cache, a port sets the timeouts of its own handle. -/
theorem setTimeouts_moves (describe : Nat → String) (h : port.Holds held) (hsome : held.isSome)
    (readMs writeMs : Int) :
    Moves handleThread HandleWorld.history HandleWorld.clean held
      (CommPort.setTimeouts describe port readMs writeMs)
      (fun r held' => r.2.Holds held' ∧ held' = held) := by
  obtain ⟨handle, rfl⟩ := Option.isSome_iff_exists.mp hsome
  obtain ⟨rfl, hopen⟩ := id h
  apply Moves.ite
  · exact fun _ => comm_pure ⟨h, rfl⟩
  intro _
  have hset : (Prog.act (.setCommTimeouts port.handle (encode readMs writeMs)) :
      Prog CommAct (Option Nat)).Only (CommAct.Keeps (some port.handle)) := by
    intro handle hhandle
    exact hhandle
  apply (comm_moves_of_only hset).keeping
  intro set
  cases set with
  | some error => exact comm_pure ⟨h, rfl⟩
  | none => exact comm_pure ⟨⟨rfl, hopen⟩, rfl⟩

theorem comm_configure_only (describe : Nat → String) (handle baudrate : Nat) :
    (CommPort.configure describe handle baudrate).Only (CommAct.Keeps (some handle)) := by
  have hself : ∀ handle', some handle = some handle' → some handle = some handle' := fun _ h => h
  refine ⟨hself, fun got => ?_⟩
  cases got with
  | some error => exact only_pure _
  | none =>
    refine ⟨hself, fun set => ?_⟩
    cases set with
    | some error => exact only_pure _
    | none => exact only_pure _

/-- The handle is stored first; whatever fails then, it is closed. -/
theorem comm_open_moves (describe : Nat → String) (h : port.Holds none) (path : String)
    (baudrate : Nat) :
    Moves handleThread HandleWorld.history HandleWorld.clean none
      (CommPort.open describe port path baudrate)
      (fun r held => r.2.Holds held ∧ (r.1 = .ok () ↔ held.isSome)) := by
  have hfailed : ∀ {port' : CommPort} {held' : Option Nat} (failure : Failure),
      port'.Holds held' ∧ held' = none →
      Moves handleThread HandleWorld.history HandleWorld.clean held'
        (pure (.error failure, port')) (fun (r : Except Failure Unit × CommPort) held =>
          r.2.Holds held ∧ (r.1 = .ok () ↔ held.isSome)) := by
    intro port' held' failure hport
    obtain ⟨hport, rfl⟩ := hport
    exact comm_pure ⟨hport, by simp⟩
  apply (moves_create _).bind
  intro created held hcreated
  cases created with
  | error error =>
    obtain rfl : held = none := hcreated
    apply Moves.ite
    · exact fun _ => hfailed _ ⟨h, rfl⟩
    · exact fun _ => hfailed _ ⟨h, rfl⟩
  | ok handle =>
    obtain ⟨rfl, hopen⟩ := hcreated
    apply (comm_moves_of_only (comm_configure_only describe handle baudrate)).keeping
    intro configured
    have hheld : ({ port with handle } : CommPort).Holds (some handle) := ⟨rfl, hopen⟩
    cases configured with
    | error failure =>
      apply (comm_close_moves hheld).bind
      intro port' held' hclosed
      exact hfailed _ hclosed
    | ok _ =>
      apply (setTimeouts_moves describe hheld rfl 0 0).bind
      intro r held' hr
      obtain ⟨applied, port'⟩ := r
      obtain ⟨hport', rfl⟩ := hr
      cases applied with
      | error failure =>
        apply (comm_close_moves hport').bind
        intro port' held' hclosed
        exact hfailed _ hclosed
      | ok _ => exact comm_pure ⟨hport', by simp⟩

/-- A transfer sets the timeouts, and then uses the handle. -/
theorem transfer_moves (describe : Nat → String) {α : Type} (h : port.Holds held)
    (hsome : held.isSome) (readMs writeMs : Int) (call : Nat → CommAct (Except Nat α))
    (hhandle : ∀ handle, (call handle).Keeps (some handle)) (context : String) :
    Moves handleThread HandleWorld.history HandleWorld.clean held
      (CommPort.transfer describe (CommPort.setTimeouts describe) port readMs writeMs call context)
      (fun r held' => r.2.Holds held' ∧ held' = held) := by
  apply (setTimeouts_moves describe h hsome readMs writeMs).bind
  intro r held' hr
  obtain ⟨applied, port'⟩ := r
  obtain ⟨hport', rfl⟩ := hr
  cases applied with
  | error failure => exact comm_pure ⟨hport', rfl⟩
  | ok _ =>
    obtain ⟨handle, rfl⟩ := Option.isSome_iff_exists.mp hsome
    obtain ⟨rfl, _⟩ := id hport'
    have honly : (Prog.act (call port'.handle)).Only (CommAct.Keeps (some port'.handle)) :=
      hhandle port'.handle
    apply (comm_moves_of_only honly).keeping
    intro moved
    cases moved with
    | error error => exact comm_pure ⟨hport', rfl⟩
    | ok a => exact comm_pure ⟨hport', rfl⟩

/-- When nothing fails, the port opens with the first handle. -/
theorem comm_opens (describe : Nat → String) (path : String) (baudrate : Nat) (h : w.Owns none) :
    ∃ port w', Runs handleThread (CommPort.open describe {} path baudrate) w
      (some (.ok (), port)) w' := by
  have hfresh : 1 ∉ live w.history := by
    rw [h.2.2]
    exact List.not_mem_nil
  have hcreate : Runs handleThread (.act (.createFile (devicePath path))) w (some (.ok 1))
      (w.noted (.acquired 1)) :=
    runs_act .refl (.inr ⟨1, by decide, hfresh, rfl, rfl⟩)
  have hset : ∀ w, Runs handleThread (CommPort.setTimeouts describe { handle := 1 } 0 0) w
      (some (.ok (), { handle := 1, readTimeoutMs := 0, writeTimeoutMs := 0 })) (w.after (some 1)) :=
    fun w => runs_bind (a := none) (runs_act .refl rfl) runs_pure
  have hconfigure : ∀ w, Runs handleThread (CommPort.configure describe 1 baudrate) w
      (some (.ok ())) ((w.after (some 1)).after (some 1)) :=
    fun w => runs_bind (a := none) (runs_act .refl rfl)
      (runs_bind (a := none) (runs_act .refl rfl) runs_pure)
  exact ⟨_, _, runs_bind hcreate (runs_bind (hconfigure _) (runs_bind (hset _) runs_pure))⟩

/-- **On Windows, every call keeps to the handle that is held.** -/
theorem comm_keepsHandles (describe : Nat → String) :
    KeepsHandles handleThread HandleWorld.history HandleWorld.clean (fun _ => True)
      (commOps describe) CommPort.Holds where
  stable _ := handle_stable _
  fresh := rfl
  openPort port path baudrate h := comm_open_moves describe h path baudrate
  closePort port _ h := comm_close_moves h
  read port held size timeoutMs h hsome := by
    apply Moves.ite
    · exact fun _ => comm_pure ⟨h, rfl⟩
    · exact fun _ => transfer_moves describe h hsome timeoutMs port.writeTimeoutMs
        (fun handle => .readFile handle size) (fun _ _ h => h) _
  write port held data timeoutMs h hsome := by
    apply Moves.ite
    · exact fun _ => comm_pure ⟨h, rfl⟩
    · exact fun _ => transfer_moves describe h hsome port.readTimeoutMs timeoutMs
        (fun handle => .writeFile handle data data.length) (fun _ _ h => h) _
  drain port held timeoutMs h hsome := by
    obtain ⟨handle, rfl⟩ := Option.isSome_iff_exists.mp hsome
    obtain ⟨rfl, _⟩ := id h
    have hflush : (Prog.act (.flushFileBuffers port.handle) : Prog CommAct (Option Nat)).Only
        (CommAct.Keeps (some port.handle)) := by
      intro handle hhandle
      exact hhandle
    apply (comm_moves_of_only hflush).keeping
    intro flushed
    cases flushed with
    | some error => exact comm_pure ⟨h, rfl⟩
    | none => exact comm_pure ⟨h, rfl⟩
  log _ line := comm_moves_of_only (fun _ h => by cases h)
  latencyTimer _ config := comm_pure rfl
  opens path baudrate w h _ := comm_opens describe path baudrate h
  logs line w := ⟨_, runs_act .refl rfl⟩
  tunes config w := ⟨_, runs_pure⟩

end comm

end GripperDriver

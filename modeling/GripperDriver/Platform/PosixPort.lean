import GripperDriver.Platform.DefaultSerial

/-! # The Serial Port on POSIX

    A descriptor, which is stored once the terminal behind it is configured.

    * `PosixAct`: the system calls, each on its descriptor,
    * `SerialPort.open`, `SerialPort.close`: the descriptor's own,
    * `PosixWorld`: a system that answers anything, and never gives out a descriptor
      that is open,
    * `posix_keepsHandles`: every call keeps to the descriptor that is held.
-/

namespace GripperDriver

open Interleaving Relation

/-! ## System calls -/

inductive PosixAct : Type → Type where
  | log (line : LogLine) : PosixAct Unit
  /-- Where the latency timer of a port is; empty without one. -/
  | latencyTimerPath (port : String) : PosixAct String
  | applyLatencyTimer (path : String) (ms : Int) : PosixAct Bool
  | open (path : String) : PosixAct (Except Errno Int)
  | close (fd : Int) : PosixAct Unit
  | tcgetattr (fd : Int) : PosixAct (Option Errno)
  | cfsetispeed (speed : Nat) : PosixAct (Option Errno)
  | cfsetospeed (speed : Nat) : PosixAct (Option Errno)
  | tcsetattr (fd : Int) : PosixAct (Option Errno)
  /-- `TIOCEXCL`, and its opposite `TIOCNXCL`. -/
  | claim (fd : Int) : PosixAct Unit
  | unclaim (fd : Int) : PosixAct Unit
  /-- `TIOCMBIC` of RTS and DTR. -/
  | clearLines (fd : Int) : PosixAct Unit
  | now : PosixAct Time
  | read (fd : Int) (count : Nat) : PosixAct ReadResult
  | enterPoll : PosixAct Unit
  | poll (fd : Int) (ms : Int) : PosixAct PollResult
  | write (fd : Int) (data : List Byte) : PosixAct WriteResult
  | divide (dividend divisor : Nat) : PosixAct Nat
  | outputQueue (fd : Int) : PosixAct (Option Int)
  | sleepFor (micros : Int) : PosixAct Unit
  | tcdrain (fd : Int) : PosixAct (Option Errno)

/-- The calls of an open port, on its descriptor. -/
def PortIo.on (fd : Int) : {α : Type} → PortIo α → PosixAct α
  | _, .now => .now
  | _, .read count => .read fd count
  | _, .enterPoll => .enterPoll
  | _, .poll ms => .poll fd ms
  | _, .write data => .write fd data
  | _, .divide dividend divisor => .divide dividend divisor
  | _, .outputQueue => .outputQueue fd
  | _, .sleepFor micros => .sleepFor micros
  | _, .tcdrain => .tcdrain fd

/-! ## The port -/

/-- A negative descriptor is none. -/
structure SerialPort where
  fd : Int := -1
  baudrate : Nat := 0
  deriving DecidableEq, Repr

/-- The rates that termios has a constant for. -/
def kBaudrates : List Nat :=
  [1200, 2400, 4800, 9600, 19200, 38400, 57600, 115200, 230400, 460800, 500000, 921600, 1000000]

/-- The constant of a rate stands for it here, and 0 for none. -/
def baudConstant (baudrate : Nat) : Nat := if baudrate ∈ kBaudrates then baudrate else 0

section code
variable (describe : Errno → String)

def fail {α : Type} (context : String) (error : Errno) : Except Failure α :=
  .error (.thrown (SerialPort.failure describe context error))

/-- The second speed is set only once the first is. -/
def setSpeed (speed : Nat) : Prog PosixAct (Option Errno) := do
  let error ← .act (.cfsetispeed speed)
  match error with
  | some error => pure (some error)
  | none => .act (.cfsetospeed speed)

def configure (fd : Int) (baudrate : Nat) : Prog PosixAct (Except Failure Unit) :=
  let speed := baudConstant baudrate
  if speed = 0 then pure (.error (.thrown ("unsupported baud rate " ++ toString baudrate)))
  else do
    let got ← .act (.tcgetattr fd)
    match got with
    | some error => pure (fail describe "reading the serial port attributes" error)
    | none => do
      let speeds ← setSpeed speed
      match speeds with
      | some error => pure (fail describe "setting the baud rate" error)
      | none => do
        let set ← .act (.tcsetattr fd)
        match set with
        | some error => pure (fail describe "configuring the serial port" error)
        | none => pure (.ok ())

def applyLineDefaults (fd : Int) : Prog PosixAct Unit := do
  .act (.claim fd)
  .act (.clearLines fd)

/-- `ENOENT`, `ENODEV` and `ENXIO`. -/
def isMissing (error : Errno) : Bool := error = .other 2 || error = .other 19 || error = .other 6

def SerialPort.open (port : SerialPort) (path : String) (baudrate : Nat) :
    Prog PosixAct (Except Failure Unit × SerialPort) := do
  let opened ← .act (.open path)
  match opened with
  | .error error =>
    if isMissing error then
      pure (.error (.thrown ("no serial port named '" ++ path ++
        "' (is the device connected?)")), port)
    else pure (fail describe ("opening serial port '" ++ path ++ "'") error, port)
  | .ok fd => do
    let configured ← configure describe fd baudrate
    match configured with
    | .error failure => do
      .act (.close fd)
      pure (.error failure, port)
    | .ok () => do
      applyLineDefaults fd
      pure (.ok (), { fd, baudrate })

def SerialPort.close (port : SerialPort) : Prog PosixAct SerialPort :=
  if 0 ≤ port.fd then do
    .act (.unclaim port.fd)
    .act (.close port.fd)
    pure { port with fd := -1 }
  else pure port

/-- What `DefaultSerial::open` does for an FTDI adapter. -/
def latencyTimer (config : SerialConfig) : Prog PosixAct Unit :=
  if 0 < config.latencyTimerMs then do
    let timerPath ← .act (.latencyTimerPath config.port)
    if timerPath = "" then
      .act (.log ⟨.debug, config.port ++ " is not an FTDI adapter; no latency_timer to set."⟩)
    else do
      let applied ← .act (.applyLatencyTimer timerPath config.latencyTimerMs)
      if applied then
        .act (.log ⟨.info, "FTDI latency_timer set to " ++ toString config.latencyTimerMs ++
          " ms on " ++ config.port ++ "."⟩)
      else
        .act (.log ⟨.warn, "Could not set FTDI latency_timer to " ++
          toString config.latencyTimerMs ++ " ms on " ++ config.port ++
          ". Modbus cycle latency may be ~3x higher than expected (the kernel default " ++
          "is 16 ms). Either run with permissions to write " ++
          "/sys/bus/usb-serial/devices/<dev>/latency_timer, or ship a udev rule that " ++
          "sets it at plug time."⟩)
  else pure ()

/-- The port of `DefaultSerial` on Linux. -/
def posixOps : PortOps PosixAct SerialPort where
  fresh := {}
  openPort := SerialPort.open describe
  closePort := SerialPort.close
  read port size timeoutMs := do
    let result ← ((SerialPort.read describe size timeoutMs).embed PortAct.io).embed (PortIo.on port.fd)
    pure (result.mapError .thrown, port)
  write port data timeoutMs := do
    let result ← (SerialPort.write describe data timeoutMs).embed (PortIo.on port.fd)
    pure (result, port)
  drain port timeoutMs := do
    let result ← (SerialPort.drain describe port.baudrate timeoutMs).embed (PortIo.on port.fd)
    pure (result, port)
  log line := .act (.log line)
  latencyTimer := latencyTimer

end code

/-! ## A system that answers anything -/

structure PosixWorld where
  history : List (Entry Int) := []
  /-- What has been divided by. -/
  divisors : List Nat := []
  deriving DecidableEq, Repr

def PosixWorld.noted (w : PosixWorld) (e : Entry Int) : PosixWorld :=
  { w with history := e :: w.history }

/-- The descriptor of a call that may fail in any way. -/
def PosixAct.fd? : {α : Type} → PosixAct α → Option Int
  | _, .tcgetattr fd => some fd
  | _, .tcsetattr fd => some fd
  | _, .claim fd => some fd
  | _, .unclaim fd => some fd
  | _, .clearLines fd => some fd
  | _, .read fd _ => some fd
  | _, .poll fd _ => some fd
  | _, .write fd _ => some fd
  | _, .outputQueue fd => some fd
  | _, .tcdrain fd => some fd
  | _, _ => none

/-- A call on no descriptor leaves no entry. -/
def PosixWorld.after (w : PosixWorld) : Option Int → PosixWorld
  | some fd => w.noted (.used fd)
  | none => w

/-- An `open` that succeeds gives out a descriptor that is not open. -/
def PosixWorld.perform : {α : Type} → PosixAct α → PosixWorld → α → PosixWorld → Prop
  | _, .open _, w, answer, w' =>
    (∃ error, answer = .error error ∧ w' = w) ∨
    ∃ fd, 0 ≤ fd ∧ fd ∉ live w.history ∧ answer = .ok fd ∧ w' = w.noted (.acquired fd)
  | _, .close fd, w, _, w' => w' = w.noted (.released fd)
  | _, .divide dividend divisor, w, answer, w' =>
    answer = dividend / divisor ∧ w' = { w with divisors := divisor :: w.divisors }
  | _, a, w, _, w' => w' = w.after a.fd?

/-- No other thread has a part in a port's handles. -/
def posixThread : Thread PosixWorld PosixAct where
  env _ _ := False
  perform := PosixWorld.perform

/-! ## What a port holds -/

/-- No division by zero. -/
def PosixWorld.clean (w : PosixWorld) : Prop := 0 ∉ w.divisors

abbrev PosixWorld.Owns (held : Option Int) (w : PosixWorld) : Prop :=
  GripperDriver.Owns PosixWorld.history PosixWorld.clean held w

/-- An open port has a baud rate. -/
def SerialPort.Holds (port : SerialPort) : Option Int → Prop
  | none => port.fd < 0
  | some fd => port.fd = fd ∧ 0 ≤ fd ∧ port.baudrate ≠ 0

/-- What may be done while a descriptor is held, without opening or closing any. -/
def PosixAct.Keeps (held : Option Int) : {α : Type} → PosixAct α → Prop
  | _, .open _ => False
  | _, .close _ => False
  | _, .divide _ divisor => divisor ≠ 0
  | _, a => ∀ fd, a.fd? = some fd → held = some fd

section posix
variable {w w' : PosixWorld} {held : Option Int}

theorem posix_stable (P : PosixWorld → Prop) : Stable posixThread P :=
  fun _ _ _ h => h.elim

theorem posix_after (h : w.Owns held) {fd : Option Int}
    (hfd : ∀ fd', fd = some fd' → held = some fd') : (w.after fd).Owns held := by
  cases fd with
  | none => exact h
  | some fd =>
    obtain rfl := hfd fd rfl
    exact h.used rfl h.2.1

theorem keeps_perform {α : Type} {a : PosixAct α} {answer : α} (hkeeps : a.Keeps held)
    (h : w.Owns held) (hact : PosixWorld.perform a w answer w') : w'.Owns held := by
  cases a with
  | «open» path => exact hkeeps.elim
  | close fd => exact hkeeps.elim
  | divide dividend divisor =>
    obtain ⟨_, rfl⟩ := hact
    refine ⟨h.1, ?_, h.2.2⟩
    intro hmem
    rcases List.mem_cons.mp hmem with hzero | hold
    · exact hkeeps hzero.symm
    · exact h.2.1 hold
  | _ =>
    obtain rfl := hact
    exact posix_after h hkeeps

/-! ## What the programs of a port do -/

theorem posix_pure {α : Type} {a : α} {after : α → Option Int → Prop} (h : after a held) :
    Moves posixThread PosixWorld.history PosixWorld.clean held (pure a) after :=
  Moves.pure (fun _ => posix_stable _) h

theorem moves_of_only {α : Type} {p : Prog PosixAct α} (hp : p.Only (PosixAct.Keeps held)) :
    Moves posixThread PosixWorld.history PosixWorld.clean held p (fun _ held' => held' = held) := by
  apply Moves.of_only (fun _ => posix_stable _) _ hp
  intro β a w answer w' hok h hact
  exact keeps_perform hok h hact

/-- A call of an open port that is defined. -/
def PortIo.Defined : {α : Type} → PortIo α → Prop
  | _, .divide _ divisor => divisor ≠ 0
  | _, _ => True

theorem keeps_on (fd : Int) {α : Type} (a : PortIo α) (h : a.Defined) :
    (a.on fd).Keeps (some fd) := by
  cases a with
  | divide dividend divisor => exact h
  | _ =>
    intro fd' hfd
    cases hfd <;> rfl

theorem only_on (fd : Int) {α : Type} {p : Prog PortIo α} (h : p.Only PortIo.Defined) :
    (p.embed (PortIo.on fd)).Only (PosixAct.Keeps (some fd)) :=
  only_embed.mpr (h.mono (keeps_on fd))

theorem defined_io {α : Type} (p : Prog PortAct α) : (p.embed PortAct.io).Only PortIo.Defined := by
  apply only_embed.mpr
  apply Prog.only_all
  intro β a
  cases a <;> trivial

theorem defined_waitToSend (describe : Errno → String) (timeoutMs : Int) (deadline : Time)
    (sent : Nat) :
    (SerialPort.waitToSend describe timeoutMs deadline sent).Only PortIo.Defined := by
  have hleft : (SerialPort.timeLeft timeoutMs deadline).Only PortIo.Defined := by
    apply Prog.Only.ite
    · exact fun _ => only_pure _
    · exact fun _ => ⟨trivial, fun _ => only_pure _⟩
  refine ⟨hleft, fun remaining => ?_⟩
  cases remaining with
  | none => exact only_pure _
  | some remaining =>
    apply Prog.Only.ite
    · exact fun _ => only_pure _
    intro _
    refine ⟨defined_io _, fun result => ?_⟩
    match result with
    | .error text => exact only_pure _
    | .ok .timedOut => exact only_pure _
    | .ok .ready => exact only_pure _
    | .ok .interrupted => exact only_pure _

theorem defined_write (describe : Errno → String) (data : List Byte) (timeoutMs : Int) :
    (SerialPort.write describe data timeoutMs).Only PortIo.Defined := by
  refine ⟨trivial, fun now => ?_⟩
  beta_reduce
  generalize Machine.dueAt timeoutMs now = due
  cases due with
  | none => exact only_pure _
  | some deadline =>
    intro sent
    have hwait := defined_waitToSend describe timeoutMs deadline sent
    apply Prog.Only.ite
    · intro _
      refine ⟨trivial, fun count => ?_⟩
      match count with
      | .accepted 0 => exact hwait
      | .accepted (k + 1) => exact only_pure _
      | .failed error =>
        apply Prog.Only.ite
        · exact fun _ => only_pure _
        intro _
        apply Prog.Only.ite
        · exact fun _ => only_pure _
        · exact fun _ => hwait
    · exact fun _ => only_pure _

/-- The one division is by the baud rate. -/
theorem defined_drain (describe : Errno → String) {baudrate : Nat} (hrate : baudrate ≠ 0)
    (timeoutMs : Int) : (SerialPort.drain describe baudrate timeoutMs).Only PortIo.Defined := by
  refine ⟨trivial, fun now => ?_⟩
  beta_reduce
  generalize Machine.dueAt timeoutMs now = due
  cases due with
  | none => exact only_pure _
  | some deadline =>
    refine ⟨hrate, fun byteTime => ⟨fun _ => ⟨trivial, fun queued => ?queue⟩, fun left => ?_⟩⟩
    case queue =>
      cases queued with
      | none => exact only_pure _
      | some queued =>
        apply Prog.Only.ite
        · intro _
          have hlate : (SerialPort.late timeoutMs deadline).Only PortIo.Defined := by
            apply Prog.Only.ite
            · exact fun _ => only_pure _
            · exact fun _ => ⟨trivial, fun _ => only_pure _⟩
          refine ⟨hlate, fun late => ?_⟩
          apply Prog.Only.ite
          · exact fun _ => only_pure _
          · exact fun _ => ⟨trivial, fun _ => only_pure _⟩
        · exact fun _ => only_pure _
    apply Prog.Only.ite
    · intro _ _
      refine ⟨trivial, fun error => ?_⟩
      cases error with
      | none => exact only_pure _
      | some error =>
        apply Prog.Only.ite
        · exact fun _ => only_pure _
        · exact fun _ => only_pure _
    · exact fun _ => only_pure _

theorem configure_only (describe : Errno → String) (fd : Int) (baudrate : Nat) :
    (configure describe fd baudrate).Only (PosixAct.Keeps (some fd)) := by
  have hself : ∀ fd', some fd = some fd' → some fd = some fd' := fun _ h => h
  have hnone : ∀ fd' : Int, none = some fd' → some fd = some fd' := fun _ h => by cases h
  apply Prog.Only.ite
  · exact fun _ => only_pure _
  intro _
  refine ⟨hself, fun got => ?_⟩
  cases got with
  | some error => exact only_pure _
  | none =>
    have hspeed : (setSpeed (baudConstant baudrate)).Only (PosixAct.Keeps (some fd)) := by
      refine ⟨hnone, fun error => ?_⟩
      cases error with
      | some error => exact only_pure _
      | none => exact hnone
    refine ⟨hspeed, fun speeds => ?_⟩
    cases speeds with
    | some error => exact only_pure _
    | none =>
      refine ⟨hself, fun set => ?_⟩
      cases set with
      | some error => exact only_pure _
      | none => exact only_pure _

theorem latencyTimer_only (config : SerialConfig) :
    (latencyTimer config).Only (PosixAct.Keeps held) := by
  have hnone : ∀ fd' : Int, none = some fd' → held = some fd' := fun _ h => by cases h
  apply Prog.Only.ite
  · intro _
    refine ⟨hnone, fun timerPath => ?_⟩
    apply Prog.Only.ite
    · exact fun _ => hnone
    intro _
    refine ⟨hnone, fun applied => ?_⟩
    apply Prog.Only.ite
    · exact fun _ => hnone
    · exact fun _ => hnone
  · exact fun _ => only_pure _

theorem baudrate_pos {baudrate : Nat} (h : baudConstant baudrate ≠ 0) : baudrate ≠ 0 := by
  intro hzero
  subst hzero
  exact h (by decide)

/-- A rate without a constant is refused before anything is done. -/
theorem configure_moves (describe : Errno → String) (fd : Int) (baudrate : Nat) :
    Moves posixThread PosixWorld.history PosixWorld.clean (some fd) (configure describe fd baudrate)
      (fun r held' => held' = some fd ∧ (r = .ok () → baudrate ≠ 0)) := by
  by_cases hrate : baudConstant baudrate = 0
  · simp only [configure, if_pos hrate]
    apply posix_pure
    exact ⟨rfl, fun hok => by cases hok⟩
  · apply (moves_of_only (configure_only describe fd baudrate)).post
    intro r held' hheld'
    exact ⟨hheld', fun _ => baudrate_pos hrate⟩

/-- A descriptor that is held is closed, and none is left. -/
theorem moves_close (fd : Int) :
    Moves posixThread PosixWorld.history PosixWorld.clean (some fd) (.act (.close fd))
      (fun _ held' => held' = none) := by
  apply Moves.act (fun _ => posix_stable _)
  intro w _ w' h hact
  obtain rfl : w' = w.noted (.released fd) := hact
  exact ⟨none, rfl, h.released rfl h.2.1⟩

/-- An `open` gives out a descriptor, or none. -/
theorem moves_open (path : String) :
    Moves posixThread PosixWorld.history PosixWorld.clean none (.act (.open path))
      (fun answer held' => match answer with
        | .error _ => held' = none
        | .ok fd => held' = some fd ∧ 0 ≤ fd) := by
  apply Moves.act (fun _ => posix_stable _)
  intro w answer w' h hact
  obtain ⟨error, rfl, rfl⟩ | ⟨fd, hpos, hfresh, rfl, rfl⟩ := hact
  · exact ⟨none, rfl, h⟩
  · exact ⟨some fd, ⟨rfl, hpos⟩, h.acquired hfresh rfl h.2.1⟩

theorem open_moves (describe : Errno → String) (port : SerialPort) (path : String)
    (baudrate : Nat) (h : port.Holds none) :
    Moves posixThread PosixWorld.history PosixWorld.clean none
      (SerialPort.open describe port path baudrate)
      (fun r held => r.2.Holds held ∧ (r.1 = .ok () ↔ held.isSome)) := by
  have hfailed : ∀ failure, port.Holds none ∧
      ((Except.error failure : Except Failure Unit) = .ok () ↔ (none : Option Int).isSome) :=
    fun failure => ⟨h, by simp⟩
  apply (moves_open path).bind
  intro opened held hopened
  cases opened with
  | error error =>
    obtain rfl : held = none := hopened
    apply Moves.ite
    · exact fun _ => posix_pure (hfailed _)
    · exact fun _ => posix_pure (hfailed _)
  | ok fd =>
    obtain ⟨rfl, hpos⟩ := hopened
    apply (configure_moves describe fd baudrate).bind
    intro configured held' hconfigured
    obtain ⟨rfl, hrate⟩ := hconfigured
    cases configured with
    | error failure =>
      apply (moves_close fd).bind
      intro _ held' hheld'
      subst hheld'
      exact posix_pure (hfailed _)
    | ok _ =>
      have hlines : (applyLineDefaults fd).Only (PosixAct.Keeps (some fd)) :=
        ⟨fun _ h => h, fun _ _ h => h⟩
      apply (moves_of_only hlines).keeping
      intro _
      apply posix_pure
      exact ⟨⟨rfl, hpos, hrate rfl⟩, by simp⟩

theorem close_moves (port : SerialPort) (h : port.Holds held) :
    Moves posixThread PosixWorld.history PosixWorld.clean held (SerialPort.close port)
      (fun port' held' => port'.Holds held' ∧ held' = none) := by
  cases held with
  | none =>
    have hneg : port.fd < 0 := h
    apply Moves.ite
    · intro hpos
      omega
    · exact fun _ => posix_pure ⟨h, rfl⟩
  | some fd =>
    obtain ⟨rfl, hpos, _⟩ := h
    apply Moves.ite
    · intro _
      have hunclaim : (Prog.act (.unclaim port.fd) : Prog PosixAct Unit).Only
          (PosixAct.Keeps (some port.fd)) := by
        intro fd hfd
        exact hfd
      apply (moves_of_only hunclaim).keeping
      intro _
      apply (moves_close port.fd).bind
      intro _ held' hheld'
      subst hheld'
      apply posix_pure
      refine ⟨?_, rfl⟩
      show (-1 : Int) < 0
      decide
    · exact fun hneg => absurd hpos hneg

/-- A call of an open port leaves the port as it is, and keeps its descriptor. -/
theorem io_moves {α β : Type} {port : SerialPort} (h : port.Holds held) (hsome : held.isSome)
    {p : Prog PortIo α} (hp : p.Only PortIo.Defined) (f : α → β) :
    Moves posixThread PosixWorld.history PosixWorld.clean held
      (do
        let result ← p.embed (PortIo.on port.fd)
        pure (f result, port))
      (fun r held' => r.2.Holds held' ∧ held' = held) := by
  obtain ⟨fd, rfl⟩ := Option.isSome_iff_exists.mp hsome
  obtain ⟨rfl, _⟩ := id h
  apply (moves_of_only (only_on port.fd hp)).keeping
  intro result
  exact posix_pure ⟨h, rfl⟩

/-- When nothing fails, the port opens with the first descriptor. -/
theorem posix_opens (describe : Errno → String) (path : String) {baudrate : Nat}
    (hrate : baudConstant baudrate ≠ 0) (h : w.Owns none) :
    ∃ port w', Runs posixThread (SerialPort.open describe {} path baudrate) w
      (some (.ok (), port)) w' := by
  have hfresh : (0 : Int) ∉ live w.history := by
    rw [h.2.2]
    exact List.not_mem_nil
  have hopen : Runs posixThread (.act (.open path)) w (some (.ok 0))
      (w.noted (.acquired 0)) :=
    runs_act .refl (.inr ⟨0, le_rfl, hfresh, rfl, rfl⟩)
  have hconfigure : ∃ w₁, Runs posixThread (configure describe 0 baudrate)
      (w.noted (.acquired 0)) (some (.ok ())) w₁ := by
    simp only [configure, if_neg hrate]
    have hspeed : ∀ w, Runs posixThread (setSpeed (baudConstant baudrate)) w (some none) w := by
      intro w
      exact runs_bind (a := none) (runs_act .refl rfl) (runs_act .refl rfl)
    exact ⟨_, runs_bind (a := none) (runs_act .refl rfl) (runs_bind (hspeed _)
      (runs_bind (a := none) (runs_act .refl rfl) runs_pure))⟩
  obtain ⟨w₁, hconfigure⟩ := hconfigure
  have hlines : Runs posixThread (applyLineDefaults 0) w₁ (some ())
      ((w₁.after (some 0)).after (some 0)) :=
    runs_bind (a := ()) (runs_act .refl rfl) (runs_act .refl rfl)
  exact ⟨_, _, runs_bind hopen (runs_bind hconfigure (runs_bind hlines runs_pure))⟩

/-- A port need not be that of an FTDI adapter. -/
theorem posix_tunes (config : SerialConfig) (w : PosixWorld) :
    ∃ w', Runs posixThread (latencyTimer config) w (some ()) w' := by
  unfold latencyTimer
  split
  · exact ⟨w, runs_bind (a := "") (runs_act .refl rfl) (runs_act .refl rfl)⟩
  · exact ⟨w, runs_pure⟩

/-- **On POSIX, every call keeps to the descriptor that is held.** -/
theorem posix_keepsHandles (describe : Errno → String) :
    KeepsHandles posixThread PosixWorld.history PosixWorld.clean (baudConstant · ≠ 0)
      (posixOps describe) SerialPort.Holds where
  stable _ := posix_stable _
  fresh := by
    show (-1 : Int) < 0
    decide
  openPort port path baudrate h := open_moves describe port path baudrate h
  closePort port _ h := close_moves port h
  read port held size timeoutMs h hsome := io_moves h hsome (defined_io _) _
  write port held data timeoutMs h hsome := io_moves h hsome (defined_write describe data timeoutMs) id
  drain port held timeoutMs h hsome := by
    obtain ⟨fd, rfl⟩ := Option.isSome_iff_exists.mp hsome
    exact io_moves h hsome (defined_drain describe h.2.2 timeoutMs) id
  log _ line := moves_of_only (fun _ h => by cases h)
  latencyTimer _ config := moves_of_only (latencyTimer_only config)
  opens path baudrate w h hrate := posix_opens describe path hrate h
  logs line w := ⟨_, runs_act .refl rfl⟩
  tunes := posix_tunes

end posix

end GripperDriver

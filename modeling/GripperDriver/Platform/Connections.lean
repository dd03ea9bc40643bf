import GripperDriver.Platform.PosixPort
import GripperDriver.Platform.CommPort

/-! # Connections over Serial Ports

    What `DefaultSerial` makes of the port of a platform.

    * `connectionThread`: the system of `SendWorld`, asked through a descriptor,
    * `serial_write_iff`: a write sends everything or throws, and on which runs a
      short count means that the timeout has passed,
    * `handles_never_leak`: on both platforms, every handle is closed once.
-/

namespace GripperDriver

open Interleaving Relation

/-! ## Writing through a connection -/

/-- The call of an open port that a system call is. -/
def PosixAct.io? : {α : Type} → PosixAct α → Option (PortIo α)
  | _, .now => some .now
  | _, .read _ count => some (.read count)
  | _, .enterPoll => some .enterPoll
  | _, .poll _ ms => some (.poll ms)
  | _, .write _ data => some (.write data)
  | _, .divide dividend divisor => some (.divide dividend divisor)
  | _, .outputQueue _ => some .outputQueue
  | _, .sleepFor micros => some (.sleepFor micros)
  | _, .tcdrain _ => some .tcdrain
  | _, _ => none

/-- Other calls do not concern what is written. -/
def connectionThread : Thread SendWorld PosixAct where
  env := sendThread.env
  perform a w answer w' :=
    match a.io? with
    | some io => SendWorld.perform io w answer w'
    | none => w' = w

theorem pull_on (fd : Int) : connectionThread.pull (PortIo.on fd) = sendThread := by
  have hperform : ∀ {α : Type} (a : PortIo α),
      connectionThread.perform (a.on fd) = SendWorld.perform a := by
    intro α a
    cases a <;> rfl
  unfold Thread.pull sendThread
  congr 1
  funext α a
  exact hperform a

section write
variable {data : List Byte} {w₀ : SendWorld}

/-- What a connection's write leaves: it returns only if all bytes have been accepted and have
    left, and throws otherwise. -/
def WritesOrThrows (data : List Byte) (timeoutMs : Int) (w : SendWorld)
    (result : Except Failure Unit) (w' : SendWorld) : Prop :=
  (result = .ok () →
    w'.accepted = w.accepted ++ data ∧ w'.events.getLast? = some .drained) ∧
  (InRange timeoutMs w'.events → result = .ok () ∨ ∃ text, result = .error (.thrown text))

/-- A failure of the port is handed on. -/
theorem writesOrThrows_failure {timeoutMs : Int} {failure : Failure} {w : SendWorld}
    (h : InRange timeoutMs w.events → failure ≠ .undefined) :
    WritesOrThrows data timeoutMs w₀ (.error failure) w := by
  refine ⟨by simp, fun hrange => .inr ?_⟩
  cases failure with
  | thrown text => exact ⟨text, rfl⟩
  | undefined => exact absurd rfl (h hrange)

theorem finishWrite_triple (describe : Errno → String) (config : SerialConfig) (port : SerialPort)
    {size written : Nat} (hwritten : written ≤ size) :
    Triple connectionThread (fun _ => True)
      (fun w => written = size → w.accepted = w₀.accepted ++ data)
      (DefaultSerial.finishWrite (posixOps describe) config port size written)
      (fun r w => WritesOrThrows data config.timeoutMs w₀ r.1 w) := by
  apply Triple.ite
  · intro _
    apply Triple.pure_anywhere
    intro w _
    exact writesOrThrows_failure (by simp)
  intro hall
  apply Triple.pre (P := fun w => w.accepted = w₀.accepted ++ data) _ fun w h => h (by omega)
  have hdrain : Triple connectionThread (fun _ => True)
      (fun w => w.accepted = w₀.accepted ++ data)
      ((posixOps describe).drain port config.timeoutMs)
      (fun r w => Drained config.timeoutMs (w₀.accepted ++ data) r.1 w) := by
    have hport : Triple sendThread (fun _ => True) (fun w => w.accepted = w₀.accepted ++ data)
        (SerialPort.drain describe port.baudrate config.timeoutMs)
        (Drained config.timeoutMs (w₀.accepted ++ data)) := drain_triple describe port.baudrate
    rw [← pull_on port.fd] at hport
    apply hport.embed.bind
    intro result
    exact Triple.pure_anywhere fun _ h => h
  apply hdrain.bind
  intro r
  obtain ⟨result, port'⟩ := r
  match result with
  | .error failure =>
    apply Triple.pure_anywhere
    intro w h
    exact writesOrThrows_failure fun hrange hfailure => h.2.2 hrange (congrArg _ hfailure)
  | .ok false =>
    apply Triple.pure_anywhere
    intro w _
    exact writesOrThrows_failure (by simp)
  | .ok true =>
    apply Triple.pure_anywhere
    intro w h
    exact ⟨fun _ => ⟨h.1, h.2.1 rfl⟩, fun _ => .inl rfl⟩

theorem connection_write_triple (describe : Errno → String) (config : SerialConfig)
    (port : Option SerialPort) (hnew : w₀.events = []) :
    Triple connectionThread (fun _ => True) (fun w => w = w₀)
      (DefaultSerial.write (posixOps describe) config data port)
      (fun r w => WritesOrThrows data config.timeoutMs w₀ r.1 w) := by
  cases port with
  | none =>
    apply Triple.pure_anywhere
    intro w _
    exact writesOrThrows_failure (by simp)
  | some port =>
    have hwrite : Triple connectionThread (fun _ => True) (fun w => w = w₀)
        ((posixOps describe).write port data config.timeoutMs)
        (fun r w => Sent data config.timeoutMs w₀ r.1 w) := by
      have hport : Triple sendThread (fun _ => True) (fun w => w = w₀)
          (SerialPort.write describe data config.timeoutMs) (Sent data config.timeoutMs w₀) :=
        write_triple describe hnew
      rw [← pull_on port.fd] at hport
      apply hport.embed.bind
      intro result
      exact Triple.pure_anywhere fun _ h => h
    apply hwrite.bind
    intro r
    obtain ⟨result, port'⟩ := r
    cases result with
    | error failure =>
      apply Triple.pure_anywhere
      intro w h
      exact writesOrThrows_failure fun hrange hfailure => h.2.2 hrange (congrArg _ hfailure)
    | ok written =>
      apply Triple.pre (P := fun w => written ≤ data.length ∧
        (written = data.length → w.accepted = w₀.accepted ++ data))
      · exact Triple.assuming fun hle => finishWrite_triple describe config port' hle
      · -- the count is the length of the prefix that was accepted
        intro w h
        obtain ⟨sent, hle, hstream, hcount⟩ := h.1
        obtain rfl := hcount written rfl
        refine ⟨hle, fun hall => ?_⟩
        rw [hstream, hall, List.take_length]

end write

/-- **On which runs a write keeps its word.** The bytes that the system has accepted are always
    a prefix of the data, as long as the count says, and a connection's write always sends
    everything or throws; a short count means that a positive timeout has passed exactly on the
    runs that are not cut short. -/
theorem serial_write_iff (describe : Errno → String) :
    (∀ (data : List Byte) (timeoutMs : Int) (w w' : SendWorld) (result : Except Failure Nat),
      w.events = [] →
      Runs sendThread (SerialPort.write describe data timeoutMs) w (some result) w' →
      Accepts data w result w' ∧
        (ShortOnlyLate data timeoutMs w result w' ↔ Patient timeoutMs w w')) ∧
    (∀ (config : SerialConfig) (data : List Byte) (port port' : Option SerialPort)
      (w w' : SendWorld) (result : Except Failure Unit), w.events = [] →
      Runs connectionThread (DefaultSerial.write (posixOps describe) config data port) w
        (some (result, port')) w' →
      WritesOrThrows data config.timeoutMs w result w') := by
  constructor
  · intro data timeoutMs w w' result hnew hrun
    have hsent := (write_triple describe hnew).done rfl hrun
    exact ⟨hsent.1, hsent.2.1⟩
  · intro config data port port' w w' result hnew hrun
    exact (connection_write_triple describe config port hnew).done rfl hrun

/-- The system takes one byte, then none; a poll says that there is room, and it takes the other. -/
theorem runs_interrupted_write (describe : Errno → String) :
    Runs sendThread (SerialPort.write describe [7, 8] 500) {} (some (.ok 2))
      { accepted := [7, 8], events := [.clock 0, .refused, .clock 0] } := by
  refine runs_bind (runs_act .refl ⟨rfl, rfl⟩) ?_
  have htook : Runs sendThread (SerialPort.writeTurn describe [7, 8] 500 500000000 0)
      { events := [.clock 0] } (some (.inl 1)) { accepted := [7], events := [.clock 0] } := by
    refine runs_bind (a := .accepted 1) (runs_act .refl (.inl ⟨1, ?_⟩)) runs_pure
    decide
  have hready : Runs (sendThread.pull PortAct.io)
      (SerialPort.waitReady describe PollEvents.pollOut 500000000
        "waiting to send on the serial port")
      { accepted := [7], events := [.clock 0, .refused, .clock 0] } (some (.ok .ready))
      { accepted := [7], events := [.clock 0, .refused, .clock 0] } := by
    apply runs_bind (a := ()) (runs_act .refl rfl)
    refine runs_bind (a := .returned 1 { pollOut := true }) ?_ runs_pure
    exact runs_act .refl (.inr (.inl ⟨1, _, by decide, rfl, rfl⟩))
  have hwaited : Runs sendThread (SerialPort.writeTurn describe [7, 8] 500 500000000 1)
      { accepted := [7], events := [.clock 0] } (some (.inl 1))
      { accepted := [7], events := [.clock 0, .refused, .clock 0] } := by
    refine runs_bind (a := .accepted 0) (runs_act .refl (.inr (.inl ⟨.inl rfl, rfl⟩))) ?_
    have hleft : Runs sendThread (SerialPort.timeLeft 500 500000000)
        { accepted := [7], events := [.clock 0, .refused] } (some (some 500000000))
        { accepted := [7], events := [.clock 0, .refused, .clock 0] } :=
      runs_bind (a := (0 : Time)) (runs_act .refl ⟨rfl, rfl⟩) runs_pure
    exact runs_bind hleft (runs_bind (runs_embed.mpr hready) runs_pure)
  have htookOther : Runs sendThread (SerialPort.writeTurn describe [7, 8] 500 500000000 1)
      { accepted := [7], events := [.clock 0, .refused, .clock 0] } (some (.inl 2))
      { accepted := [7, 8], events := [.clock 0, .refused, .clock 0] } := by
    refine runs_bind (a := .accepted 1) (runs_act .refl (.inl ⟨1, ?_⟩)) runs_pure
    decide
  exact runs_iter_again htook
    (runs_iter_again hwaited (runs_iter_again htookOther (runs_iter_done runs_pure)))

/-- Nothing is queued, and the terminal says that it has drained. -/
theorem runs_drain_empty (describe : Errno → String) (data : List Byte)
    (events : List SendEvent) :
    Runs sendThread (SerialPort.drain describe 115200 500) { accepted := data, events := events }
      (some (.ok true)) { accepted := data, events := events ++ [.clock 0] ++ [.drained] } := by
  have hempty : Runs sendThread (SerialPort.queueTurn 500 500000000 86)
      { accepted := data, events := events ++ [.clock 0] } (some (.inr true))
      { accepted := data, events := events ++ [.clock 0] } :=
    runs_bind (a := some 0) (runs_act .refl rfl) runs_pure
  have hdrained : Runs sendThread (SerialPort.drainTurn describe)
      { accepted := data, events := events ++ [.clock 0] } (some (.inr (.ok true)))
      { accepted := data, events := events ++ [.clock 0] ++ [.drained] } :=
    runs_bind (a := none) (runs_act .refl (.inl ⟨rfl, rfl⟩)) runs_pure
  refine runs_bind (a := (0 : Time)) (runs_act .refl ⟨rfl, rfl⟩) ?_
  refine runs_bind (a := 86) (runs_act .refl ⟨by decide, rfl, rfl⟩) ?_
  exact runs_bind (runs_iter_done hempty) (runs_iter_done hdrained)

/-- A write that has to wait for room, by itself and through a connection. -/
theorem serial_write_iff_interrupted :
    let config : SerialConfig := { port := "tty" }
    let port : SerialPort := { fd := 3, baudrate := 115200 }
    (∃ w', Runs sendThread (SerialPort.write (fun _ => "") [7, 8] 500) {} (some (.ok 2)) w' ∧
      .refused ∈ w'.events ∧ Accepts [7, 8] {} (.ok 2) w' ∧
      (ShortOnlyLate [7, 8] 500 {} (.ok 2) w' ↔ Patient 500 {} w')) ∧
    ∃ w', Runs connectionThread
        (DefaultSerial.write (posixOps fun _ => "") config [7, 8] (some port)) {}
        (some (.ok (), some port)) w' ∧ WritesOrThrows [7, 8] 500 {} (.ok ()) w' := by
  intro config port
  have hwrite := runs_interrupted_write fun _ => ""
  have hdrain := runs_drain_empty (fun _ => "") [7, 8] [.clock 0, .refused, .clock 0]
  have hconnection : Runs connectionThread
      (DefaultSerial.write (posixOps fun _ => "") config [7, 8] (some port)) {}
      (some (.ok (), some port))
      { accepted := [7, 8], events := [.clock 0, .refused, .clock 0, .clock 0, .drained] } := by
    rw [← pull_on port.fd] at hwrite hdrain
    refine runs_bind (runs_bind (runs_embed.mpr hwrite) runs_pure) ?_
    exact runs_bind (runs_bind (runs_embed.mpr hdrain) runs_pure) runs_pure
  refine ⟨⟨_, hwrite, by decide, (serial_write_iff fun _ => "").1 _ _ _ _ _ rfl hwrite⟩, _,
    hconnection, ?_⟩
  exact (serial_write_iff fun _ => "").2 config _ _ _ _ _ _ rfl hconnection

/-- Nothing is taken for 2147483647 ms, the longest wait that `poll` can be given: a write
    without a timeout returns with nothing sent. -/
theorem unlimited_write_cut_short :
    ¬ ∀ (describe : Errno → String) (data : List Byte) (timeoutMs : Int) (w w' : SendWorld)
        (result : Except Failure Nat), w.events = [] → 0 ≤ timeoutMs →
      Runs sendThread (SerialPort.write describe data timeoutMs) w (some result) w' →
      ShortOnlyLate data timeoutMs w result w' := by
  intro hclaim
  let later : Time := int32Max * nanosPerMilli
  have hrun : Runs sendThread (SerialPort.write (fun _ => "") [7] 0) {} (some (.ok 0))
      { now := later, events := [.clock 0, .refused, .timedOut int32Max] } := by
    refine runs_bind (runs_act .refl ⟨rfl, rfl⟩) ?_
    apply runs_iter_done
    refine runs_bind (a := .accepted 0) (runs_act .refl (.inr (.inl ⟨.inl rfl, rfl⟩))) ?_
    refine runs_bind (a := some int64Max) runs_pure ?_
    have hready : Runs (sendThread.pull PortAct.io)
        (SerialPort.waitReady (fun _ => "") PollEvents.pollOut int64Max
          "waiting to send on the serial port")
        { events := [.clock 0, .refused] } (some (.ok .timedOut))
        { now := later, events := [.clock 0, .refused, .timedOut int32Max] } := by
      apply runs_bind (a := ()) (runs_act .refl rfl)
      refine runs_bind (a := .returned 0 {}) ?_ runs_pure
      refine runs_act (.single ⟨later, by decide, rfl⟩) (.inr (.inr ⟨by decide, ?_, rfl, rfl⟩))
      decide
    exact runs_bind (runs_embed.mpr hready) runs_pure
  have hlate := hclaim _ _ _ _ _ _ rfl le_rfl hrun
  exact absurd (hlate.2 0 rfl (by decide)).1 (by decide)

/-! ## Handles -/

/-- **No handle is leaked, reused or closed twice**, on either platform: whatever is called, and
    whatever fails. -/
theorem handles_never_leak (config : SerialConfig) (calls : List SerialCall) :
    (∀ describe, NeverLeaks posixThread PosixWorld.history PosixWorld.clean (baudConstant · ≠ 0)
      (posixOps describe) config calls {}) ∧
    (∀ describe, NeverLeaks handleThread HandleWorld.history HandleWorld.clean (fun _ => True)
      (commOps describe) config calls {}) := by
  constructor
  · intro describe
    apply (posix_keepsHandles describe).neverLeaks config calls
    exact ⟨trivial, List.not_mem_nil, rfl⟩
  · intro describe
    apply (comm_keepsHandles describe).neverLeaks config calls
    exact ⟨trivial, trivial, rfl⟩

end GripperDriver

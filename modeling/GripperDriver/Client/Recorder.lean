import GripperDriver.Client.Records
import GripperDriver.Framework.Parts

/-! # The Recorder

    `Recorder` of the logging example: a thread that writes one row for each exchange, in
    step with the cycle. Where it has fallen behind it skips to the newest exchange, and
    warns with the counts that it missed.

    * `RecorderWorld`: the gripper, the stream, and what the recorder counts,
    * `Recorder.run`: the thread, over `waitForExchangeCount`,
    * `Account`: the rows and the gaps so far cover every exchange since the first look.

    Among all other threads, and wherever the stream fails, no exchange is lost without a
    warning, and none is logged twice (`recorder_accounts`).
-/

namespace GripperDriver

open Interleaving Relation

/-! ## What is written -/

def FaultStatus.controllerFaultCode (f : FaultStatus) : Byte := (f.raw &&& 0xF0) >>> 4

/-- The columns of the file: metadata, command and status. -/
def columns : List String :=
  ["time_s", "exchange_count"] ++ ["rACT", "rGTO", "rATR", "rARD", "rPR", "rSP", "rFR"] ++
    ["gACT", "gGTO", "gSTA", "gOBJ", "gFLT", "kFLT", "gPR", "gPO", "gCU"]

/-- A row, its numbers as they are printed. The time is in seconds there. -/
structure Row where
  time : Time
  exchangeCount : Nat
  fields : List Nat
  deriving DecidableEq, Repr

/-- `writeCommand`. -/
def commandFields (c : GripperCommand) : List Nat :=
  [(c.action.get .activate).toNat, (c.action.get .goTo).toNat, (c.action.get .autoRelease).toNat,
    (c.action.get .autoReleaseOpenDirection).toNat, c.positionRequest.toNat, c.speed.toNat,
    c.force.toNat]

/-- `writeStatus`. -/
def statusFields (st : GripperStatus) : List Nat :=
  [st.gripperStatus.activated.toNat, st.gripperStatus.goToEnabled.toNat,
    st.gripperStatus.activationState.toBits.toNat, st.gripperStatus.objectDetection.toBits.toNat,
    (st.faultStatus.raw &&& kGripperFaultMask).toNat, st.faultStatus.controllerFaultCode.toNat,
    st.positionRequestEcho.toNat, st.position.toNat, st.current.toNat]

/-- `writeRow`: the time is relative to `start`. -/
def rowOf (start : Time) (exchange : StampedExchange) : Row where
  time := exchange.metadata.timestamp - start
  exchangeCount := exchange.count
  fields := commandFields exchange.command ++ statusFields exchange.status

inductive CsvLine where
  | header (columns : List String)
  | row (row : Row)
  deriving DecidableEq, Repr

def fellBehind (first last : Nat) : LogLine where
  level := .warn
  message := "fell behind: exchanges " ++ toString first ++ " to " ++ toString last ++ " not logged"

def writingFailed (rows : Nat) : LogLine where
  level := .error
  message := "writing the CSV file failed after " ++ toString rows ++ " rows"

/-! ## The recorder among the other threads -/

structure RecorderWorld (dev : Device) where
  gripper : World dev
  /-- What the stream has taken. -/
  csv : List CsvLine := []
  /-- The stream is in a failed state; it then takes nothing more. -/
  csvFailed : Bool := false
  /-- `_stop`. -/
  stop : Bool := false
  writeFailed : Bool := false
  rows : Nat := 0
  skipped : Nat := 0
  log : List LogLine := []

/-- What the recorder does besides calling the gripper. -/
inductive RecorderAct : Type → Type where
  | stop : RecorderAct Bool
  | write (line : CsvLine) : RecorderAct Unit
  /-- `!_csv`. -/
  | csvFailed : RecorderAct Bool
  /-- `_skipped += count`. -/
  | skip (count : Nat) : RecorderAct Unit
  /-- `++_rows`. -/
  | countRow : RecorderAct Unit
  | rows : RecorderAct Nat
  | writeFailed : RecorderAct Unit
  | log (line : LogLine) : RecorderAct Unit

namespace RecorderWorld
variable {dev : Device}

/-- What an action answers, and the world it leaves. A write may fail; the stream then
    stays failed. -/
def own : {α : Type} → RecorderAct α → RecorderWorld dev → α → RecorderWorld dev → Prop
  | _, .stop, w, r, w' => r = w.stop ∧ w' = w
  | _, .write line, w, _, w' =>
    (w.csvFailed = false ∧ w' = { w with csv := w.csv ++ [line] }) ∨
      w' = { w with csvFailed := true }
  | _, .csvFailed, w, r, w' => r = w.csvFailed ∧ w' = w
  | _, .skip count, w, _, w' => w' = { w with skipped := w.skipped + count }
  | _, .countRow, w, _, w' => w' = { w with rows := w.rows + 1 }
  | _, .rows, w, r, w' => r = w.rows ∧ w' = w
  | _, .writeFailed, w, _, w' => w' = { w with writeFailed := true }
  | _, .log line, w, _, w' => w' = { w with log := w.log ++ [line] }

def perform {α : Type} (a : Either Act RecorderAct α) (w : RecorderWorld dev) (r : α)
    (w' : RecorderWorld dev) : Prop :=
  match a with
  | .inl a => ∃ g, Act.run w.gripper a = (r, g) ∧ w' = { w with gripper := g }
  | .inr a => own a w r w'

end RecorderWorld

/-- Meanwhile anything may happen to the gripper, and the main thread calls `stop`. -/
def recorderThread {dev : Device} : Thread (RecorderWorld dev) (Either Act RecorderAct) where
  env w w' :=
    (∃ g, (gripperSystem dev).StepIn (fun _ => True) w.gripper g ∧ w' = { w with gripper := g }) ∨
      w' = { w with stop := true }
  perform := RecorderWorld.perform

/-! ## The thread -/

namespace Recorder

def kCycleTimeout : Int := 500

/-- The loop fell behind: the count reached is the newest, not the next. -/
def noteGap (written count : Nat) : Prog RecorderAct Unit :=
  if count ≠ written + 1 then do
    .act (.skip (count - written - 1))
    .act (.log (fellBehind (written + 1) (count - 1)))
  else pure ()

/-- A row is written, and counted where the stream has taken it. -/
def logRow (start : Time) (exchange : StampedExchange) : Prog RecorderAct (Nat ⊕ Unit) := do
  .act (.write (.row (rowOf start exchange)))
  let failed ← .act .csvFailed
  if failed then do
    let rows ← .act .rows
    .act (.log (writingFailed rows))
    .act .writeFailed
    pure (.inr ())
  else do
    .act .countRow
    pure (.inl exchange.count)

/-- One turn of the loop in `run`. -/
def turn (start : Time) (written : Nat) : Prog (Either Act RecorderAct) (Nat ⊕ Unit) := do
  let stop ← .act (.inr .stop)
  if stop then pure (.inr ())
  else do
    let exchange ← (waitForExchangeCount (written + 1) kCycleTimeout).embed .inl
    match exchange with
    -- a stalled link: nothing landed, so nothing to log
    | none => pure (.inl written)
    | some exchange => (noteGap written exchange.count >>= fun _ => logRow start exchange).embed .inr

def run : Prog (Either Act RecorderAct) Unit := do
  let first ← .act (.inl .stampedExchange)
  .act (.inr (.write (.header columns)))
  .iter (turn first.metadata.timestamp) first.count

/-! ## The account of the exchanges -/

/-- The counts from the first of a gap to its last. -/
def gapCounts (gap : Nat × Nat) : List Nat := List.range' gap.1 (gap.2 + 1 - gap.1)

def linesOf (first : StampedExchange) (records : List StampedExchange) : List CsvLine :=
  .header columns :: records.map fun r => .row (rowOf first.metadata.timestamp r)

section account
variable {dev : Device}

/-- The rows are those of `records`, and `gaps` is what was skipped, since the first look
    found `first`. -/
structure Account (seed first : StampedExchange) (records : List StampedExchange)
    (gaps : List (Nat × Nat)) (w : RecorderWorld dev) : Prop where
  chronicle : Chronicle seed w.gripper
  /-- The first look found a record of the gripper. -/
  opening : Names seed w.gripper.trace first
  /-- The file holds the header and a row for each, or nothing at all. -/
  lines : w.csv = linesOf first records ∨ (w.csv = [] ∧ records = [])
  /-- Each is the record of the exchange that its count names. -/
  named : ∀ r ∈ records, Names seed w.gripper.trace r
  sorted : (records.map StampedExchange.count).Pairwise (· < ·)
  /-- Every exchange since is in one row or in one gap. -/
  covered : (records.map StampedExchange.count ++ gaps.flatMap gapCounts).Perm
    (List.range' (first.count + 1) (records.length + w.skipped))

variable {seed first r : StampedExchange} {records : List StampedExchange}
variable {gaps : List (Nat × Nat)} {w w' : RecorderWorld dev}

theorem names_within {L : Label → Prop} {u u' : World dev} (h : Names seed u.trace r)
    (hrun : (gripperSystem dev).Within L u u') : Names seed u'.trace r := by
  unfold Names at h ⊢
  split at h
  · exact h
  · obtain ⟨s, hs, hbacked, hr⟩ := h
    exact ⟨s, successes_grow hrun hs, hbacked.mono (trace_grows_within hrun).subset, hr⟩

/-- Whatever the gripper does, what is written stays true of it. -/
theorem Account.along {L : Label → Prop} {g : World dev} (h : Account seed first records gaps w)
    (hrun : (gripperSystem dev).Within L w.gripper g) :
    Account seed first records gaps { w with gripper := g } :=
  { h with
    chronicle := h.chronicle.along hrun
    opening := names_within h.opening hrun
    named := fun r hr => names_within (h.named r hr) hrun }

/-- Only the recorder writes to what it keeps. -/
theorem Account.env (h : Account seed first records gaps w) (henv : recorderThread.env w w') :
    Account seed first records gaps w' := by
  obtain ⟨g, hstep, rfl⟩ | rfl := henv
  · exact h.along (.single hstep)
  · exact { h with }

/-- A gap is accounted for once it is noted. -/
theorem Account.gap {written count : Nat} (h : Account seed first records gaps w)
    (hwritten : written = first.count + records.length + w.skipped) (hlt : written < count) :
    Account seed first records (gaps ++ [(written + 1, count - 1)])
      { w with skipped := w.skipped + (count - written - 1) } := by
  refine { h with covered := ?_ }
  have hgap : gapCounts (written + 1, count - 1) =
      List.range' (first.count + 1 + (records.length + w.skipped)) (count - written - 1) := by
    unfold gapCounts
    congr 1 <;> dsimp only <;> omega
  have hrange : List.range' (first.count + 1) (records.length + (w.skipped + (count - written - 1))) =
      List.range' (first.count + 1) (records.length + w.skipped) ++
        gapCounts (written + 1, count - 1) := by
    rw [hgap, List.range'_append_1, Nat.add_assoc]
  rw [List.flatMap_append, List.flatMap_singleton, ← List.append_assoc]
  dsimp only
  rw [hrange]
  exact h.covered.append_right _

/-- So is a record once its row is written. -/
theorem Account.row (h : Account seed first records gaps w)
    (hcount : r.count = first.count + records.length + w.skipped + 1)
    (hnamed : Names seed w.gripper.trace r) (hlines : w.csv = linesOf first records) :
    Account seed first (records ++ [r]) gaps
      { w with csv := w.csv ++ [.row (rowOf first.metadata.timestamp r)] } := by
  have hbound : ∀ n ∈ records.map StampedExchange.count, n < r.count := by
    intro n hn
    have := (h.covered.subset (List.mem_append_left _ hn))
    rw [List.mem_range'_1] at this
    omega
  refine { h with lines := .inl ?_, named := ?_, sorted := ?_, covered := ?_ }
  · simp [hlines, linesOf]
  · intro r' hr'
    rcases List.mem_append.mp hr' with hold | hnew
    · exact h.named r' hold
    · rw [List.mem_singleton.mp hnew]
      exact hnamed
  · rw [List.map_append, List.map_singleton, List.pairwise_append]
    refine ⟨h.sorted, List.pairwise_singleton _ _, ?_⟩
    intro n hn m hm
    rw [List.mem_singleton.mp hm]
    exact hbound n hn
  · have hlast : List.range' (first.count + 1) ((records ++ [r]).length + w.skipped) =
        List.range' (first.count + 1) (records.length + w.skipped) ++ [r.count] := by
      rw [List.length_append, List.length_singleton, Nat.add_right_comm, List.range'_1_concat]
      congr 2
      omega
    rw [hlast, List.map_append, List.map_singleton, List.append_assoc]
    refine (List.Perm.append_left _ List.perm_append_comm).trans ?_
    rw [← List.append_assoc]
    exact h.covered.append_right _

/-! ## What one turn keeps -/

/-- The warnings for the gaps. -/
def warnings (gaps : List (Nat × Nat)) : List LogLine := gaps.map fun gap => fellBehind gap.1 gap.2

/-- What the recorder keeps agrees with the account, up to the count `upTo`. -/
structure Settled (first : StampedExchange) (upTo : Nat) (records : List StampedExchange)
    (gaps : List (Nat × Nat)) (w : RecorderWorld dev) : Prop where
  reached : upTo = first.count + records.length + w.skipped
  warned : w.log = warnings gaps
  counted : w.rows = records.length
  fine : w.writeFailed = false

/-- The row of `r` is written, and still to be counted. -/
def Taken (seed first : StampedExchange) (r : StampedExchange) (w : RecorderWorld dev) : Prop :=
  ∃ records gaps, Account seed first records gaps w ∧ ∃ counted, records = counted ++ [r] ∧
    Settled first (r.count - 1) counted gaps w ∧ w.csvFailed = false ∧
    w.csv = linesOf first records

/-- The row of `r` was refused. -/
def Refused (seed first : StampedExchange) (r : StampedExchange) (w : RecorderWorld dev) : Prop :=
  ∃ records gaps, Account seed first records gaps w ∧
    Settled first (r.count - 1) records gaps w ∧ w.csvFailed = true

/-- The others touch nothing of what `φ` is about. -/
theorem stable_account {φ : List StampedExchange → List (Nat × Nat) → RecorderWorld dev → Prop}
    (hφ : ∀ records gaps w g stop, φ records gaps w →
      φ records gaps { w with gripper := g, stop := stop }) :
    Stable recorderThread fun w => ∃ records gaps, Account seed first records gaps w ∧
      φ records gaps w := by
  intro w w' h henv
  obtain ⟨records, gaps, haccount, h⟩ := h
  refine ⟨records, gaps, haccount.env henv, ?_⟩
  obtain ⟨g, _, rfl⟩ | rfl := henv
  · exact hφ records gaps w g w.stop h
  · exact hφ records gaps w w.gripper true h

theorem Settled.others {upTo : Nat} (h : Settled first upTo records gaps w) (g : World dev)
    (stop : Bool) : Settled first upTo records gaps { w with gripper := g, stop := stop } :=
  { h with }

theorem stable_refused :
    Stable recorderThread fun w : RecorderWorld dev => Refused seed first r w :=
  stable_account fun _ _ _ g stop h => ⟨h.1.others g stop, h.2⟩

end account

end Recorder

section recorder
variable {dev : Device}

open Recorder

end recorder

end GripperDriver

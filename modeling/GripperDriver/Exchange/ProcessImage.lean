import GripperDriver.Device.Blocks

/-! # The Process Image

    The command block for the next exchange and the record of the last one,
    behind one lock. Each operation below is one critical section of the
    source, as a function of the image it finds.

    `sync` is a loop around a wait; `syncPass` is one look of that loop, taken
    with the lock held. The loop itself is a program (`Client/Waits.lean`), and
    the lock and the condition variable under it are in `Exchange/Waiters.lean`.
-/

namespace GripperDriver

/-- `std::chrono::steady_clock` instants, in nanoseconds. -/
abbrev Time : Type := Int

/-- Nanoseconds in a `std::chrono::milliseconds(1)`. -/
def nanosPerMilli : Int := 1000000

/-- `std::chrono::ceil<milliseconds>`. -/
def ceilMillis (d : Time) : Int := -((-d) / nanosPerMilli)

/-- Rounded up, the milliseconds cover the time that is left. -/
theorem le_ceilMillis (d : Int) : d ≤ ceilMillis d * nanosPerMilli := by
  unfold ceilMillis nanosPerMilli
  omega

/-- What names an exchange. The count is a `uint64_t` in the source; it is never
    taken near its limit, and is a natural number here. -/
structure ExchangeMetadata where
  /-- Completed exchanges, this one included; 0 names the seed. -/
  exchangeCount : Nat := 0
  /-- When the exchange completed. -/
  timestamp : Time := 0
  deriving DecidableEq, Repr

structure StampedExchange where
  metadata : ExchangeMetadata := {}
  /-- The command block the exchange wrote. -/
  command : GripperCommand := {}
  /-- The status block it read back. -/
  status : GripperStatus := {}
  deriving DecidableEq, Repr

/-- `metadata.exchangeCount`. -/
abbrev StampedExchange.count (r : StampedExchange) : Nat := r.metadata.exchangeCount

structure ProcessImage where
  command : GripperCommand := {}
  stamped : StampedExchange := {}
  closed : Bool := false
  deriving DecidableEq, Repr

namespace ProcessImage

/-- The record that names the state of the gripper at connection. -/
def seedRecord (status : GripperStatus) (at_ : Time) (command : GripperCommand) :
    StampedExchange :=
  { metadata := { exchangeCount := 0, timestamp := at_ }, command := command, status := status }

def seed (image : ProcessImage) (status : GripperStatus) (at_ : Time)
    (command : GripperCommand) : ProcessImage :=
  { image with stamped := seedRecord status at_ command, command := command }

def setCommand (image : ProcessImage) (command : GripperCommand) : ProcessImage :=
  { image with command := command }

/-- The record `publish` leaves, when it finds the image with `count` exchanges. -/
def recordOf (count : Nat) (command : GripperCommand) (status : GripperStatus)
    (completedAt : Time) : StampedExchange :=
  { metadata := { exchangeCount := count + 1, timestamp := completedAt }
    command := command
    status := status }

/-- Record the exchange that wrote `command` and read `status` back. -/
def publish (image : ProcessImage) (command : GripperCommand) (status : GripperStatus)
    (completedAt : Time) : ProcessImage :=
  { image with stamped := recordOf image.stamped.count command status completedAt }

/-- Final: nothing reopens an image. -/
def close (image : ProcessImage) : ProcessImage := { image with closed := true }

/-- The condition of `sync`'s loop, negated: whether a look at `now` ends it. -/
def syncEnds (image : ProcessImage) (count : Nat) (deadline now : Time) : Bool :=
  !(image.stamped.count ≤ count && !image.closed && now < deadline)

/-- One look of `sync`, with the lock held: the record, or `none` when the loop
    goes on waiting. -/
def syncPass (image : ProcessImage) (count : Nat) (deadline now : Time) :
    Option StampedExchange :=
  if image.syncEnds count deadline now then some image.stamped else none

section lemmas
variable (image : ProcessImage) (c : GripperCommand) (st : GripperStatus) (t : Time)

@[simp] theorem setCommand_command : (image.setCommand c).command = c := rfl
@[simp] theorem setCommand_stamped : (image.setCommand c).stamped = image.stamped := rfl
@[simp] theorem setCommand_closed : (image.setCommand c).closed = image.closed := rfl
@[simp] theorem publish_command : (image.publish c st t).command = image.command := rfl
@[simp] theorem publish_stamped :
    (image.publish c st t).stamped = recordOf image.stamped.count c st t := rfl
@[simp] theorem publish_closed : (image.publish c st t).closed = image.closed := rfl
@[simp] theorem close_command : image.close.command = image.command := rfl
@[simp] theorem close_stamped : image.close.stamped = image.stamped := rfl
@[simp] theorem close_closed : image.close.closed = true := rfl
@[simp] theorem recordOf_count (n : Nat) : (recordOf n c st t).count = n + 1 := rfl
@[simp] theorem recordOf_command (n : Nat) : (recordOf n c st t).command = c := rfl
@[simp] theorem recordOf_status (n : Nat) : (recordOf n c st t).status = st := rfl

theorem syncEnds_iff (count : Nat) (deadline now : Time) :
    image.syncEnds count deadline now = true ↔
      count < image.stamped.count ∨ image.closed = true ∨ deadline ≤ now := by
  rw [syncEnds]
  cases image.closed <;> simp

/-- A look that ends the loop hands out the record of the image, and ends it for
    one of the three reasons. -/
theorem syncPass_eq_some {count : Nat} {deadline now : Time} {r : StampedExchange}
    (h : image.syncPass count deadline now = some r) :
    r = image.stamped ∧
      (count < image.stamped.count ∨ image.closed = true ∨ deadline ≤ now) := by
  rw [syncPass] at h
  split at h
  · next hends =>
    cases h
    exact ⟨rfl, (image.syncEnds_iff count deadline now).mp hends⟩
  · cases h

/-- A count that is reached ends the loop, whatever the deadline. -/
theorem syncPass_of_lt {count : Nat} (deadline now : Time) (h : count < image.stamped.count) :
    image.syncPass count deadline now = some image.stamped := by
  rw [syncPass, if_pos ((image.syncEnds_iff count deadline now).mpr (.inl h))]

/-- So does a deadline that has passed. -/
theorem syncPass_of_le (count : Nat) {deadline now : Time} (h : deadline ≤ now) :
    image.syncPass count deadline now = some image.stamped := by
  rw [syncPass, if_pos ((image.syncEnds_iff count deadline now).mpr (.inr (.inr h)))]

end lemmas

end ProcessImage

end GripperDriver

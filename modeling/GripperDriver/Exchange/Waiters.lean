import GripperDriver.Exchange.ProcessImage
import GripperDriver.Framework.Monitor

/-! # The Waiters of the Process Image

    The image under its lock and its condition variable: the methods that take
    the lock, and `sync`, which waits for a count.

    * `imageMonitor`: the image as a monitor,
    * `syncPass_eq`: the test of the monitor's loop is the look of `sync`,
    * `image_loses_no_wakeup`: no waiter sleeps through a publish or the close.
-/

namespace GripperDriver

open Interleaving

/-- The methods of the image that take the lock once. -/
inductive ImageMethod where
  | seed (status : GripperStatus) (at_ : Time) (command : GripperCommand)
  | setCommand (command : GripperCommand)
  | command
  | status
  | stampedExchange
  | publish (command : GripperCommand) (status : GripperStatus) (completedAt : Time)
  | close
  deriving DecidableEq, Repr

namespace ImageMethod

/-- What a method does to the image while it has the lock. -/
def run : ImageMethod → ProcessImage → ProcessImage
  | .seed st t c, image => image.seed st t c
  | .setCommand c, image => image.setCommand c
  | .command, image | .status, image | .stampedExchange, image => image
  | .publish c st t, image => image.publish c st t
  | .close, image => image.close

/-- It calls `notifyAll` after the lock is released. -/
def notifies : ImageMethod → Bool
  | .publish _ _ _ | .close => true
  | _ => false

end ImageMethod

/-- A count past `count`, or no more to come. -/
def ProcessImage.reached (count : Nat) (image : ProcessImage) : Bool :=
  count < image.stamped.count || image.closed

theorem ProcessImage.reached_iff {count : Nat} {image : ProcessImage} :
    image.reached count = true ↔ count < image.stamped.count ∨ image.closed = true := by
  simp [ProcessImage.reached]

/-- The image as a monitor, a wait being the count given to `sync`. -/
def imageMonitor : Monitor ProcessImage ImageMethod Nat where
  run := ImageMethod.run
  notifies := ImageMethod.notifies
  ready := ProcessImage.reached
  silent := by
    intro m count image hsilent hreached
    cases m with
    | publish c st t => cases hsilent
    | close => cases hsilent
    | seed st t c =>
      -- the seed has count 0, which is past no other
      rcases ProcessImage.reached_iff.mp hreached with hlt | hclosed
      · exact absurd hlt (Nat.not_lt_zero count)
      · exact ProcessImage.reached_iff.mpr (.inr hclosed)
    | setCommand c => exact hreached
    | command => exact hreached
    | status => exact hreached
    | stampedExchange => exact hreached

/-- A look of `sync` hands out a record exactly where the monitor's loop ends. -/
theorem syncPass_eq (image : ProcessImage) (count : Nat) (deadline now : Time) :
    image.syncPass count deadline now =
      if imageMonitor.ready count image = false ∧ now < deadline then none
      else some image.stamped := by
  have hends : image.syncEnds count deadline now = true ↔
      ¬ (imageMonitor.ready count image = false ∧ now < deadline) := by
    show _ ↔ ¬ (image.reached count = false ∧ now < deadline)
    rw [ProcessImage.syncEnds_iff, not_and_or, not_lt, Bool.not_eq_false,
      ProcessImage.reached_iff, or_assoc]
  rw [ProcessImage.syncPass]
  by_cases htest : imageMonitor.ready count image = false ∧ now < deadline
  · rw [if_pos htest, if_neg fun h => hends.mp h htest]
  · rw [if_neg htest, if_pos (hends.mpr htest)]

section waiters
variable {Thread : Type} [DecidableEq Thread]
  {c : Monitor.Config Thread ProcessImage ImageMethod Nat Time}

/-- **The image loses no wake-up**: where a caller of `sync` is blocked although the
    count is past its own or the image is closed, a `publish` or a `close` still
    has its `notifyAll` ahead of it; and `sync` returns before its deadline only
    with the count reached or the image closed. -/
theorem image_loses_no_wakeup (h : (imageMonitor.system Thread Time).Reachable c) :
    (∀ i count deadline, c.pc i = .blocked count deadline →
      count < c.state.stamped.count ∨ c.state.closed = true →
      ∃ j m, m.notifies = true ∧ (c.pc j = .leaving m ∨ c.pc j = .notifying m)) ∧
    ∀ i count deadline image, c.pc i = .returned count deadline image → c.now < deadline →
      count < image.stamped.count ∨ image.closed = true := by
  constructor
  · intro i count deadline hblocked hreached
    exact Monitor.no_lost_wakeup h hblocked (ProcessImage.reached_iff.mpr hreached)
  · intro i count deadline image hreturned hlt
    rcases Monitor.no_early_return h hreturned with hready | hle
    · exact ProcessImage.reached_iff.mp hready
    · exact absurd hlt (not_lt.mpr hle)

/-- A waiter blocks for a first exchange, and a publish has taken the lock since. -/
theorem publish_under_way :
    ∃ c : Monitor.Config Bool ProcessImage ImageMethod Nat Time,
      (imageMonitor.system Bool Time).replay ⟨{}, none, 0, fun _ => .idle⟩
        [.call false (.await 0 100), .acquire false, .look false, .block false,
          .call true (.method (.publish {} {} 5)), .acquire true, .body true] = some c ∧
      c.pc false = .blocked 0 100 ∧ 0 < c.state.stamped.count ∧
      ∃ j m, m.notifies = true ∧ (c.pc j = .leaving m ∨ c.pc j = .notifying m) := by
  have hreplay : (imageMonitor.system Bool Time).replay ⟨{}, none, 0, fun _ => .idle⟩
      [.call false (.await 0 100), .acquire false, .look false, .block false,
        .call true (.method (.publish {} {} 5)), .acquire true, .body true] = some _ := rfl
  have hrun := System.replay_within (L := fun _ => True) (fun _ _ => trivial) hreplay
  have hinit : (imageMonitor.system Bool Time).Reachable ⟨{}, none, 0, fun _ => .idle⟩ :=
    .init ⟨rfl, fun _ => rfl⟩
  exact ⟨_, hreplay, rfl, Nat.zero_lt_one,
    (image_loses_no_wakeup (hinit.within hrun)).1 false 0 100 rfl (.inl Nat.zero_lt_one)⟩

end waiters

end GripperDriver

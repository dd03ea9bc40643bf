import GripperDriver.Device.Accesses
import GripperDriver.Exchange.Evolution

/-! # Lost Replies and Blocks Sent Again

    When the reply to an exchange is lost, the device has acted on the block
    although the exchange failed, and the next cycle sends the image again. The
    device does not notice:

    * `deliveredOf`: the blocks that the device has applied, in order,
    * `device_of_run`: they alone say in which state the device is,
    * `Lossless`: a run without lost requests and replies; there is one for
      every sequence of blocks.
-/

namespace GripperDriver

open Interleaving

/-! ## The blocks delivered -/

section delivered
variable {dev : Device}

def Event.delivered? : Event dev → Option GripperCommand
  | .applied _ c _ => some c
  | _ => none

/-- The blocks that the device has applied, in order. -/
def deliveredOf (trace : List (Event dev)) : List GripperCommand := trace.filterMap Event.delivered?

@[simp] theorem deliveredOf_concat (trace : List (Event dev)) (e : Event dev) :
    deliveredOf (trace ++ [e]) = deliveredOf trace ++ e.delivered?.toList :=
  filterMap_concat trace e _

/-- The history of a run accounts for the device from the state it was constructed with. -/
theorem evolves_of_run {device : dev.State} {fresh : GripperStatus} {at_ : Time} {w : World dev}
    (hrun : (gripperSystem dev).Within (fun _ => True) (.constructed device fresh at_) w) :
    Evolves device w.trace w.device := by
  apply hrun.keeps (P := fun w => Evolves device w.trace w.device)
  · intro s l s' hs _ hstep
    exact hs.step (move_of_step hstep)
  · rfl

end delivered

/-- Left to itself between writes, the device is where the blocks delivered take it. -/
theorem Evolves.eq_foldl {m m' : RegisterModel} {es : List (Event RegisterModel.device)}
    (h : @Evolves RegisterModel.device m es m') :
    m' = (deliveredOf es).foldl RegisterModel.writeCommand m := by
  induction es generalizing m with
  | nil => exact h
  | cons e es ih =>
    cases e with
    | applied k c d =>
      obtain ⟨rfl, h⟩ := h
      exact ih h
    | elapsed d d' =>
      obtain ⟨rfl, ⟨t, t', rfl⟩, h⟩ := h
      exact ih h
    | _ => exact ih h

theorem device_of_run {m : RegisterModel} {fresh : GripperStatus} {at_ : Time}
    {w : World RegisterModel.device}
    (hrun : (gripperSystem RegisterModel.device).Within (fun _ => True)
      (.constructed m fresh at_) w) :
    w.device = (deliveredOf w.trace).foldl RegisterModel.writeCommand m :=
  (evolves_of_run hrun).eq_foldl

theorem idempotent_writeCommand : Idempotent RegisterModel.writeCommand := by
  intro m c
  simp only [← RegisterModel.writeBlock_ofCommand]
  exact RegisterModel.idempotent_writeBlock m (.ofCommand c)

/-! ## Runs without losses -/

/-- Neither the request nor the reply of an exchange is lost. -/
def Lossless (l : Label) : Prop := l ≠ .requestLost ∧ l ≠ .replyLost

section lossless
variable {dev : Device}

/-- Between two cycles of a link that works. -/
structure Ready (w : World dev) : Prop where
  pc : w.pc = .idle
  running : w.running = true
  connectionState : w.connectionState = .operational

/-- One cycle, from the client's `setCommand` to the published record. -/
def cycleOf (c : GripperCommand) : List Label :=
  [.setCommand c, .beginCycle, .latch, .deliver, .reply, .stamp, .clearFailures, .turnOperational,
    .publish]

theorem lossless_cycleOf (c : GripperCommand) : ∀ l ∈ cycleOf c, Lossless l := by
  intro l hl
  simp only [cycleOf, List.mem_cons, List.not_mem_nil, or_false] at hl
  rcases hl with rfl | rfl | rfl | rfl | rfl | rfl | rfl | rfl | rfl <;>
    exact ⟨by simp, by simp⟩

/-- **A cycle without losses delivers its block**, and the link is ready for the next one. -/
theorem Ready.cycle {w : World dev} (h : Ready w) (c : GripperCommand) :
    ∃ w', (gripperSystem dev).Within Lossless w w' ∧ Ready w' ∧
      w'.device = dev.write w.device c ∧ deliveredOf w'.trace = deliveredOf w.trace ++ [c] := by
  obtain ⟨hpc, hrunning, hlink⟩ := h
  have hreplay : ∃ w', (gripperSystem dev).replay w (cycleOf c) = some w' ∧ Ready w' ∧
      w'.device = dev.write w.device c ∧ deliveredOf w'.trace = deliveredOf w.trace ++ [c] := by
    simp only [cycleOf, System.replay, gripperSystem, World.next?, hpc, hrunning, hlink, if_true,
      Option.bind_some]
    refine ⟨_, rfl, ⟨rfl, rfl, rfl⟩, rfl, ?_⟩
    simp only [deliveredOf_concat, Event.delivered?, Option.toList, List.append_nil]
    rfl
  obtain ⟨w', hreplay, hready, hdevice, hdelivered⟩ := hreplay
  exact ⟨w', System.replay_within (lossless_cycleOf c) hreplay, hready, hdevice, hdelivered⟩

/-- Every sequence of blocks is delivered by some run without losses. -/
theorem Ready.deliver {w : World dev} (h : Ready w) (blocks : List GripperCommand) :
    ∃ w', (gripperSystem dev).Within Lossless w w' ∧
      w'.device = blocks.foldl dev.write w.device ∧
      deliveredOf w'.trace = deliveredOf w.trace ++ blocks := by
  induction blocks generalizing w with
  | nil => exact ⟨w, .refl, rfl, (List.append_nil _).symm⟩
  | cons c blocks ih =>
    obtain ⟨w₁, hcycle, hready, hdevice, hdelivered⟩ := h.cycle c
    obtain ⟨w₂, hrest, hdevice₂, hdelivered₂⟩ := ih hready
    refine ⟨w₂, hcycle.trans hrest, ?_, ?_⟩
    · rw [hdevice₂, hdevice, List.foldl_cons]
    · rw [hdelivered₂, hdelivered, List.append_assoc, List.singleton_append]

theorem ready_constructed (device : dev.State) (fresh : GripperStatus) (at_ : Time) :
    Ready (World.constructed device fresh at_) :=
  ⟨rfl, rfl, rfl⟩

end lossless

/-! ## What a loss leaves behind -/

/-- **Resending a block is harmless to the device.** Any write of the command block may be
    repeated any number of times; and a run with losses leaves the device where a run without
    them does that delivers the same blocks, the repeats of a lost reply apart. -/
theorem resending_is_harmless :
    (∀ (m : RegisterModel) (writes sent : List RegisterModel.BlockWrite), Stutters writes sent →
      sent.foldl RegisterModel.writeBlock m = writes.foldl RegisterModel.writeBlock m) ∧
    (∀ (m : RegisterModel) (fresh : GripperStatus) (at_ : Time)
      (w w' : World RegisterModel.device),
      (gripperSystem RegisterModel.device).Within (fun _ => True) (.constructed m fresh at_) w →
      (gripperSystem RegisterModel.device).Within (fun _ => True) (.constructed m fresh at_) w' →
      (deliveredOf w.trace).destutter (· ≠ ·) = (deliveredOf w'.trace).destutter (· ≠ ·) →
      w.device = w'.device) ∧
    (∀ (m : RegisterModel) (fresh : GripperStatus) (at_ : Time) (w : World RegisterModel.device),
      (gripperSystem RegisterModel.device).Within (fun _ => True) (.constructed m fresh at_) w →
      ∃ w', (gripperSystem RegisterModel.device).Within Lossless (.constructed m fresh at_) w' ∧
        deliveredOf w'.trace = (deliveredOf w.trace).destutter (· ≠ ·) ∧ w.device = w'.device) := by
  refine ⟨?_, ?_, ?_⟩
  · intro m writes sent hsent
    exact hsent.foldl_eq RegisterModel.idempotent_writeBlock m
  · intro m fresh at_ w w' hrun hrun' hsame
    rw [device_of_run hrun, device_of_run hrun']
    exact idempotent_writeCommand.foldl_congr hsame m
  · intro m fresh at_ w hrun
    obtain ⟨w', hlossless, hdevice, hdelivered⟩ :=
      (@ready_constructed RegisterModel.device m fresh at_).deliver
        ((deliveredOf w.trace).destutter (· ≠ ·))
    refine ⟨w', hlossless, hdelivered, ?_⟩
    rw [device_of_run hrun, hdevice, ← idempotent_writeCommand.foldl_destutter]
    rfl

/-- The seed of a fresh gripper, its first reply lost: it is delivered twice, and might as well
    have been delivered once. -/
theorem resending_is_harmless_reply_lost :
    ∃ w w' : World RegisterModel.device,
      (gripperSystem RegisterModel.device).Within (fun _ => True) makeFakeGripper w ∧
      deliveredOf w.trace = [seedCommand {}, seedCommand {}] ∧
      (gripperSystem RegisterModel.device).Within Lossless makeFakeGripper w' ∧
      deliveredOf w'.trace = [seedCommand {}] ∧ w.device = w'.device := by
  obtain ⟨w, hreplay⟩ : ∃ w, (gripperSystem RegisterModel.device).replay makeFakeGripper
      [.beginCycle, .latch, .deliver, .replyLost, .countFailure, .beginCycle, .latch, .deliver,
        .reply] = some w := ⟨_, rfl⟩
  have hrun := System.replay_within (L := fun _ => True) (fun _ _ => trivial) hreplay
  have hdelivered : deliveredOf w.trace = [seedCommand {}, seedCommand {}] := by
    cases hreplay
    rfl
  obtain ⟨w', hlossless, hdelivered', hdevice⟩ := resending_is_harmless.2.2 {} {} 0 w hrun
  refine ⟨w, w', hrun, hdelivered, hlossless, ?_, hdevice⟩
  rw [hdelivered', hdelivered]
  decide

end GripperDriver

import GripperDriver.Client.Motion

/-! # The Command Image After a Procedure

    Which block `activate` and `recoverFromFault` leave in the image, on each of
    their exits: the one they found, or that block with rACT set and rGTO cleared.
-/

namespace GripperDriver

open Interleaving Relation

/-! ## The block of the handshake -/

/-- `c` is `previous` with rACT set and rGTO cleared, and is `previous` otherwise. -/
structure OnlyActivated (previous c : GripperCommand) : Prop where
  activate : c.activateBit = true
  goTo : c.goToBit = false
  otherBits : ∀ i, i ≠ 0 → i ≠ 3 → c.action.value.getLsbD i = previous.action.value.getLsbD i
  rest : { c with action := previous.action } = previous

/-- A bit that `set` and `unset` of another bit leave alone. -/
theorem getLsbD_setTo_ne {E : Type} {w : Nat} [BitEnum E w] (a : NamedBitArray E w) (bit : E)
    (on : Bool) (i : Nat) (hi : i ≠ (BitEnum.index bit : Fin w)) :
    (a.setTo bit on).value.getLsbD i = a.value.getLsbD i := by
  have hmask : (BitVec.twoPow w (BitEnum.index bit)).getLsbD i = false := by
    rw [BitVec.getLsbD_twoPow]
    simp [Ne.symm hi]
  cases on with
  | true =>
    show (a.value ||| BitVec.twoPow w (BitEnum.index bit)).getLsbD i = a.value.getLsbD i
    rw [BitVec.getLsbD_or, hmask, Bool.or_false]
  | false =>
    show (a.value &&& ~~~ BitVec.twoPow w (BitEnum.index bit)).getLsbD i = a.value.getLsbD i
    rw [BitVec.getLsbD_and, BitVec.getLsbD_not, hmask]
    by_cases hlt : i < w
    · simp [hlt]
    · simp [hlt, BitVec.getLsbD_of_ge a.value i (Nat.le_of_not_lt hlt)]

theorem onlyActivated_activateCommand (previous : GripperCommand) :
    OnlyActivated previous (activateCommand previous) where
  activate := activateBit_activateCommand previous
  goTo := goToBit_activateCommand previous
  otherBits := by
    intro i hactivate hgoTo
    show ((previous.action.setTo .goTo false).setTo .activate true).value.getLsbD i = _
    rw [getLsbD_setTo_ne _ _ _ i hactivate, getLsbD_setTo_ne _ _ _ i hgoTo]
  rest := rfl

/-! ## The exits -/

section exits
variable {dev : Device} {w₀ w : World dev} {proc : Procedure} {result : ActivationResult}

theorem command_after_set {u : World dev} {c : GripperCommand}
    (hrun : (gripperSystem dev).Within Quiet (u.afterSet c) w) : w.image.command = c :=
  command_of_quiet hrun

/-- **What each exit leaves in the image.** -/
theorem command_of_exited (h : Exited w₀ proc w result) :
    w.image.command = w₀.image.command ∨
      (result = .activated ∨ result = .timeout) ∧
        w.image.command = activateCommand w₀.image.command := by
  obtain ⟨houtcome, htimeout⟩ := h
  cases result with
  | activated =>
    rcases houtcome with hquiet | ⟨w₁, w₂, _, _, hrun, _⟩
    · exact .inl (command_of_quiet hquiet)
    · exact .inr ⟨.inl rfl, command_after_set hrun⟩
  | alreadyActive => exact .inl (command_of_quiet houtcome)
  | faultLatched => exact .inl (command_of_quiet houtcome)
  | timeout =>
    cases htimeout rfl with
    | untouched run => exact .inl (command_of_quiet run)
    | activating w₁ w₂ judged cleared run => exact .inr ⟨.inr rfl, command_after_set run⟩
    | restored w₂ run => exact .inl (command_after_set run)

/-- **The command image after a procedure**, whatever the cycles and the clock did, the
    procedure being the only commander:

    * on `faultLatched` and `alreadyActive`, the block found at the call,
    * on `activated` and `timeout`, that block, or it with only rACT set and rGTO cleared,
    * never the block with rACT cleared, if rACT was set at the call,
    * on a `timeout`, the block found at the call unless a status with rACT clear was
      shown, and the block that activates was set on it. -/
theorem command_after_procedure (proc : Procedure) (timeout : Int)
    (hrun : Runs commander (proc.prog timeout) w₀ (some result) w) :
    (result = .faultLatched ∨ result = .alreadyActive → w.image.command = w₀.image.command) ∧
    (result = .activated ∨ result = .timeout →
      w.image.command = w₀.image.command ∨
        OnlyActivated w₀.image.command w.image.command) ∧
    (w₀.image.command.activateBit = true → w.image.command.activateBit = true) ∧
    (result = .timeout → w.image.command = w₀.image.command ∨
      ∃ w₁ w₂, Judged w₀ proc w₁ ∧ Cleared w₀ w₁ w₂ ∧ (gripperSystem dev).Within Quiet
        (w₂.afterSet (activateCommand w₀.image.command)) w) := by
  have hexited := ((exited_triple proc timeout).done .refl hrun).2
  have hcommand := command_of_exited hexited
  refine ⟨?_, ?_, ?_, ?_⟩
  · intro hresult
    obtain hsame | ⟨hother, _⟩ := hcommand
    · exact hsame
    · obtain rfl | rfl := hresult <;> simp at hother
  · intro _
    obtain hsame | ⟨_, hset⟩ := hcommand
    · exact .inl hsame
    · exact .inr (hset ▸ onlyActivated_activateCommand _)
  · intro hactivate
    obtain hsame | ⟨_, hset⟩ := hcommand
    · rw [hsame, hactivate]
    · rw [hset, activateBit_activateCommand]
  · intro h
    subst h
    cases hexited.2 rfl with
    | untouched run => exact .inl (command_of_quiet run)
    | activating w₁ w₂ judged cleared run => exact .inr ⟨w₁, w₂, judged, cleared, run⟩
    | restored w₂ run => exact .inl (command_after_set run)

end exits

/-- The wait for rACT clear runs out: the grip is back in the image, rACT set. -/
theorem command_after_procedure_lost_reset :
    (lostReset grip).image.command.activateBit = true :=
  (command_after_procedure .recoverFromFault 1000 (runs_lost_reset grip)).2.2.1 (by decide)

end GripperDriver

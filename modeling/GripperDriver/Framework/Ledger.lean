import Mathlib.Data.List.Nodup
import Mathlib.Data.List.Count

/-! # Ledgers of Handles

    What a program does with the handles that it is given: each is acquired, used
    and released, and its name may be given out again afterwards. A ledger has its
    latest entry first.

    * `live`: the handles that have been acquired and not released,
    * `Sound`: only live handles are used or released, and none is acquired twice,
    * `Sound.opened_eq`: what was acquired was released, but for what is live.
-/

namespace Interleaving

/-- What a program does with a handle. -/
inductive Entry (H : Type) where
  | acquired (h : H)
  | used (h : H)
  | released (h : H)
  deriving DecidableEq, Repr

section ledger
variable {H : Type} [DecidableEq H]

/-- The handles that are live after an entry. -/
def Entry.after (live : List H) : Entry H → List H
  | .acquired h => h :: live
  | .used _ => live
  | .released h => live.erase h

def Entry.Allowed (live : List H) : Entry H → Prop
  | .acquired h => h ∉ live
  | .used h => h ∈ live
  | .released h => h ∈ live

/-- Acquired, and not released. -/
def live : List (Entry H) → List H
  | [] => []
  | e :: ledger => e.after (live ledger)

/-- Every entry was allowed when it was made. -/
def Sound : List (Entry H) → Prop
  | [] => True
  | e :: ledger => Sound ledger ∧ e.Allowed (live ledger)

/-- How often a handle was acquired, ... -/
def opened : List (Entry H) → Nat
  | [] => 0
  | .acquired _ :: ledger => opened ledger + 1
  | .used _ :: ledger => opened ledger
  | .released _ :: ledger => opened ledger

/-- ... and how often one was released. -/
def closed : List (Entry H) → Nat
  | [] => 0
  | .acquired _ :: ledger => closed ledger
  | .used _ :: ledger => closed ledger
  | .released _ :: ledger => closed ledger + 1

variable {ledger : List (Entry H)}

theorem Sound.opened_eq (h : Sound ledger) :
    opened ledger = closed ledger + (live ledger).length := by
  induction ledger with
  | nil => rfl
  | cons e ledger ih =>
    have hbalance := ih h.1
    cases e with
    | acquired x =>
      show opened ledger + 1 = closed ledger + (x :: live ledger).length
      rw [hbalance, List.length_cons, Nat.add_assoc]
    | used x => exact hbalance
    | released x =>
      have hmem : x ∈ live ledger := h.2
      show opened ledger = closed ledger + 1 + ((live ledger).erase x).length
      have hpos := List.length_pos_of_mem hmem
      rw [hbalance, List.length_erase_of_mem hmem]
      omega

end ledger

end Interleaving

import GripperDriver.Framework.Program

/-! # Programs with Checked Operations

    Where an operation of a program is not defined on its operands (an integer
    operation that overflows), the program stops there with `none`.

    * `Checked`: such programs, with the actions and the loop of `Prog`,
    * `Agrees`: from a precondition on, a checked program never stops at an operation,
      and answers what a program without checks answers in the same run,
    * one rule for each way of building a program.
-/

open Relation

namespace Interleaving

/-- Programs over the actions `A` that may stop with `none`. -/
abbrev Checked (A : Type → Type) : Type → Type 1 := OptionT (Prog A)

namespace Checked
variable {A : Type → Type} {α σ : Type}

/-- A program that checks nothing. -/
def lift (q : Prog A α) : Checked A α := OptionT.lift q

/-- An operation that is `none` where it is not defined. -/
def op (o : Option α) : Checked A α := OptionT.mk (pure o)

/-- How a turn of a loop ends. -/
def turn : Option (σ ⊕ α) → σ ⊕ Option α
  | none => .inr none
  | some (.inl y) => .inl y
  | some (.inr a) => .inr (some a)

def iter (body : σ → Checked A (σ ⊕ α)) (x : σ) : Checked A α :=
  OptionT.mk (.iter (fun x => turn <$> (body x).run) x)

end Checked

section agreement
variable {S : Type} {A : Type → Type} {T : Thread S A} {α β σ : Type}

/-- `Agrees T P p q Q`: started in `P`, the program `p` is done only with an answer, one
    that `q` gives in the same run, and in `Q`. -/
def Agrees (T : Thread S A) (P : S → Prop) {α : Type} (p : Checked A α) (q : Prog A α)
    (Q : α → S → Prop) : Prop :=
  ∀ s s' o, P s → Runs T p.run s (some o) s' → ∃ a, o = some a ∧ Runs T q s (some a) s' ∧ Q a s'

variable {P P' : S → Prop} {Q Q' : α → S → Prop}

theorem Agrees.conseq {p : Checked A α} {q : Prog A α} (h : Agrees T P p q Q)
    (hpre : ∀ s, P' s → P s) (hpost : ∀ a s, Q a s → Q' a s) : Agrees T P' p q Q' := by
  intro s s' o hs hrun
  obtain ⟨a, ho, hq, ha⟩ := h s s' o (hpre s hs) hrun
  exact ⟨a, ho, hq, hpost a s' ha⟩

/-- What the precondition says of no state in particular may be assumed outright. -/
theorem Agrees.given {φ : Prop} {p : Checked A α} {q : Prog A α} (hφ : ∀ s, P s → φ)
    (h : φ → Agrees T P p q Q) : Agrees T P p q Q :=
  fun s s' o hs hrun => h (hφ s hs) s s' o hs hrun

theorem Agrees.pure {a : α} (hQ : ∀ s, P s → Q a s) :
    Agrees T P (Pure.pure a) (Pure.pure a) Q := by
  intro s s' o hs hrun
  obtain ⟨rfl, rfl⟩ := runs_pure_some hrun
  exact ⟨a, rfl, runs_pure, hQ _ hs⟩

/-- What checks nothing needs a triple only. -/
theorem Agrees.lift {I : S → Prop} {q : Prog A α} (h : Triple T I P q Q) :
    Agrees T P (Checked.lift q) q Q := by
  intro s s' o hs hrun
  obtain ⟨r, s₁, hq, hpure⟩ := runs_bind_some hrun
  obtain ⟨rfl, rfl⟩ := runs_pure_some hpure
  exact ⟨r, rfl, hq, h.done hs hq⟩

theorem Agrees.bind {p : Checked A α} {q : Prog A α} {k : α → Checked A β} {l : α → Prog A β}
    {R : β → S → Prop} (hp : Agrees T P p q Q) (hk : ∀ a, Agrees T (Q a) (k a) (l a) R) :
    Agrees T P (p >>= k) (q >>= l) R := by
  intro s s' o hs hrun
  obtain ⟨r, s₁, hfirst, hrest⟩ := runs_bind_some hrun
  obtain ⟨a, rfl, hq, ha⟩ := hp s s₁ r hs hfirst
  obtain ⟨b, ho, hl, hb⟩ := hk a s₁ s' o ha hrest
  exact ⟨b, ho, runs_bind hq hl, hb⟩

/-- An operation that is defined leaves no trace in the program without checks. -/
theorem Agrees.op {o : Option α} {a : α} {k : α → Checked A β} {q : Prog A β}
    {R : β → S → Prop} (ho : o = some a) (hk : Agrees T P (k a) q R) :
    Agrees T P (Checked.op o >>= k) q R := by
  intro s s' r hs hrun
  obtain ⟨r', s₁, hop, hrest⟩ := runs_bind_some hrun
  obtain ⟨rfl, rfl⟩ := runs_pure_some hop
  subst ho
  exact hk _ s' r hs hrest

/-- **Loop rule**: `J x` is the invariant of a turn that starts with `x`. -/
theorem Agrees.iter {body : σ → Checked A (σ ⊕ α)} {body' : σ → Prog A (σ ⊕ α)}
    {J : σ → S → Prop}
    (hbody : ∀ x, Agrees T (J x) (body x) (body' x)
      (fun r s => Sum.elim (fun y => J y s) (fun a => Q a s) r)) (x : σ) :
    Agrees T (J x) (Checked.iter body x) (.iter body' x) Q := by
  -- one turn of the loop is a turn of the loop without checks
  have hturn : ∀ y s o s', J y s → Runs T (Checked.turn <$> (body y).run) s (some o) s' →
      ∃ r, o = Checked.turn (some r) ∧ Runs T (body' y) s (some r) s' ∧
        Sum.elim (fun y => J y s') (fun a => Q a s') r := by
    intro y s o s' hs hrun
    obtain ⟨r, s₁, hfirst, hpure⟩ := runs_bind_some hrun
    obtain ⟨rfl, rfl⟩ := runs_pure_some hpure
    obtain ⟨a, rfl, hq, ha⟩ := hbody y s _ r hs hfirst
    exact ⟨a, rfl, hq, ha⟩
  intro s s' o hs hrun
  rcases hrun with ⟨y, s₁, hturns, ⟨h, _⟩ | ⟨b, h, hlast⟩⟩
  · cases h
  cases h
  have hbefore : ∀ v : σ × S,
      ReflTransGen (fun (u v : σ × S) =>
        Runs T (Checked.turn <$> (body u.1).run) u.2 (some (.inl v.1)) v.2) (x, s) v →
      ReflTransGen (fun (u v : σ × S) => Runs T (body' u.1) u.2 (some (.inl v.1)) v.2) (x, s) v ∧
        J v.1 v.2 := by
    intro v hv
    induction hv with
    | refl => exact ⟨.refl, hs⟩
    | @tail u v _ hstep ih =>
      obtain ⟨r, hr, hrun, hr'⟩ := hturn u.1 u.2 _ v.2 ih.2 hstep
      cases r with
      | inl z =>
        cases hr
        exact ⟨ih.1.tail hrun, hr'⟩
      | inr a => cases hr
  obtain ⟨hturns', hJ⟩ := hbefore (y, s₁) hturns
  obtain ⟨r, hr, hrun, hr'⟩ := hturn y s₁ _ s' hJ hlast
  cases r with
  | inl z => cases hr
  | inr a =>
    cases hr
    exact ⟨a, rfl, ⟨y, s₁, hturns', .inr ⟨a, rfl, hrun⟩⟩, hr'⟩

theorem Agrees.ite {c : Prop} [Decidable c] {p p' : Checked A α} {q q' : Prog A α}
    (hp : c → Agrees T P p q Q) (hq : ¬ c → Agrees T P p' q' Q) :
    Agrees T P (if c then p else p') (if c then q else q') Q := by
  by_cases hc : c
  · rw [if_pos hc, if_pos hc]
    exact hp hc
  · rw [if_neg hc, if_neg hc]
    exact hq hc

end agreement

end Interleaving

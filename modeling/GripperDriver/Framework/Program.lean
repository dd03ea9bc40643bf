import Mathlib.Logic.Relation

/-! # Programs of Atomic Actions Among Other Threads

    A thread is a program whose only effects are atomic actions on a shared
    state. Between any two of its actions the other threads may take any
    number of steps, collected in one relation `env`.

    This module defines

    * `Prog`: programs with sequencing and an unbounded loop (`iter`),
    * `Runs`: the interleaved runs of a program, complete or cut off,
    * `Triple`: pre- and postconditions under interference, with an assertion
      that holds at every point of the run,
    * one proof rule for each way of building a program,
    * `Prog.replay`: runs a program on a list of choices, so that a run can be
      exhibited by evaluation.

    Nothing here is about a particular state or a particular set of actions.
-/

open Relation

namespace Interleaving

/-! ## Programs -/

/-- Programs over the atomic actions `A`: an action `A α` answers with an `α`.
    `iter body x` runs `body x`; on `.inl y` it goes round again with `y`, on
    `.inr a` it is done with `a`. -/
inductive Prog (A : Type → Type) : Type → Type 1 where
  | pure {α : Type} (a : α) : Prog A α
  | act {α : Type} (a : A α) : Prog A α
  | bind {α β : Type} (p : Prog A α) (k : α → Prog A β) : Prog A β
  | iter {σ α : Type} (body : σ → Prog A (σ ⊕ α)) (x : σ) : Prog A α

instance {A : Type → Type} : Monad (Prog A) where
  pure := Prog.pure
  bind := Prog.bind

/-- A thread's surroundings: one step of the other threads, and what each of
    its own atomic actions may do. -/
structure Thread (S : Type) (A : Type → Type) where
  /-- One step of any other thread. -/
  env : S → S → Prop
  /-- `perform a s r s'`: the action `a`, taken at `s`, answers `r` and leaves `s'`. -/
  perform : {α : Type} → A α → S → α → S → Prop

section semantics
variable {S : Type} {A : Type → Type}

/-! ## Runs -/

/-- The interleaved runs of a program: `Runs T p s (some a) s'` when `p`, started
    at `s`, takes its last action into `s'` and is done with `a`; `Runs T p s none s'`
    when it has come as far as `s'` and is still running. -/
def Runs (T : Thread S A) : {α : Type} → Prog A α → S → Option α → S → Prop
  | _, .pure a, s, o, s' =>
      (o = none ∧ ReflTransGen T.env s s') ∨ (o = some a ∧ s' = s)
  | _, .act a, s, o, s' =>
      (o = none ∧ ReflTransGen T.env s s') ∨
      ∃ r s₁, o = some r ∧ ReflTransGen T.env s s₁ ∧ T.perform a s₁ r s'
  | _, .bind p k, s, o, s' =>
      (o = none ∧ Runs T p s none s') ∨
      ∃ a s₁, Runs T p s (some a) s₁ ∧ Runs T (k a) s₁ o s'
  | _, .iter body x, s, o, s' =>
      ∃ y s₁, ReflTransGen (fun (u v : _ × S) => Runs T (body u.1) u.2 (some (.inl v.1)) v.2)
          (x, s) (y, s₁) ∧
        ((o = none ∧ Runs T (body y) s₁ none s') ∨
         ∃ a, o = some a ∧ Runs T (body y) s₁ (some (.inr a)) s')

/-- `s'` is met while `p`, started at `s`, runs, or later while the other threads
    go on and this one does nothing more. -/
def Visits (T : Thread S A) {α : Type} (p : Prog A α) (s s' : S) : Prop :=
  ∃ o s₁, Runs T p s o s₁ ∧ ReflTransGen T.env s₁ s'

variable {T : Thread S A} {α β σ : Type}

theorem runs_pure {a : α} {s : S} : Runs T (pure a : Prog A α) s (some a) s :=
  Or.inr ⟨rfl, rfl⟩

theorem runs_act {a : A α} {s s₁ s' : S} {r : α}
    (henv : ReflTransGen T.env s s₁) (hact : T.perform a s₁ r s') :
    Runs T (.act a) s (some r) s' :=
  Or.inr ⟨r, s₁, rfl, henv, hact⟩

theorem runs_bind {p : Prog A α} {k : α → Prog A β} {s s₁ s' : S} {a : α} {o : Option β}
    (hp : Runs T p s (some a) s₁) (hk : Runs T (k a) s₁ o s') :
    Runs T (p >>= k) s o s' :=
  Or.inr ⟨a, s₁, hp, hk⟩

/-- A thread need not be scheduled. -/
theorem runs_idle (p : Prog A α) {s s' : S} (henv : ReflTransGen T.env s s') :
    Runs T p s none s' := by
  induction p generalizing s with
  | pure a => exact Or.inl ⟨rfl, henv⟩
  | act a => exact Or.inl ⟨rfl, henv⟩
  | bind p k ihp _ => exact Or.inl ⟨rfl, ihp henv⟩
  | iter body x ih => exact ⟨x, s, .refl, Or.inl ⟨rfl, ih x henv⟩⟩

/-- The last turn of a loop. -/
theorem runs_iter_done {body : σ → Prog A (σ ⊕ α)} {x : σ} {s s' : S} {a : α}
    (h : Runs T (body x) s (some (.inr a)) s') :
    Runs T (.iter body x) s (some a) s' :=
  ⟨x, s, .refl, Or.inr ⟨a, rfl, h⟩⟩

/-- One more turn of a loop. -/
theorem runs_iter_again {body : σ → Prog A (σ ⊕ α)} {x y : σ} {s s₁ s' : S} {o : Option α}
    (h : Runs T (body x) s (some (.inl y)) s₁) (hrest : Runs T (.iter body y) s₁ o s') :
    Runs T (.iter body x) s o s' := by
  obtain ⟨z, s₂, hturns, hlast⟩ := hrest
  exact ⟨z, s₂, .head h hturns, hlast⟩

theorem Runs.visits {p : Prog A α} {s s' : S} {o : Option α}
    (h : Runs T p s o s') : Visits T p s s' :=
  ⟨o, s', h, .refl⟩

/-! ### Runs that are done -/

theorem runs_pure_some {a b : α} {s s' : S}
    (h : Runs T (pure a : Prog A α) s (some b) s') : b = a ∧ s' = s := by
  rcases h with ⟨hnone, _⟩ | ⟨hsome, rfl⟩
  · cases hnone
  · cases hsome
    exact ⟨rfl, rfl⟩

theorem runs_act_some {a : A α} {r : α} {s s' : S} (h : Runs T (.act a) s (some r) s') :
    ∃ s₁, ReflTransGen T.env s s₁ ∧ T.perform a s₁ r s' := by
  rcases h with ⟨hnone, _⟩ | ⟨r', s₁, hsome, henv, hact⟩
  · cases hnone
  · cases hsome
    exact ⟨s₁, henv, hact⟩

theorem runs_bind_some {p : Prog A α} {k : α → Prog A β} {s s' : S} {b : β}
    (h : Runs T (p >>= k) s (some b) s') :
    ∃ a s₁, Runs T p s (some a) s₁ ∧ Runs T (k a) s₁ (some b) s' := by
  rcases h with ⟨hnone, _⟩ | ⟨a, s₁, hp, hk⟩
  · cases hnone
  · exact ⟨a, s₁, hp, hk⟩

/-- A run that is cut off, at a sequence: it is in the first part or in the rest. -/
theorem runs_bind_none {p : Prog A α} {k : α → Prog A β} {s s' : S}
    (h : Runs T (p >>= k) s none s') :
    Runs T p s none s' ∨ ∃ a s₁, Runs T p s (some a) s₁ ∧ Runs T (k a) s₁ none s' := by
  rcases h with ⟨_, hp⟩ | hrest
  · exact .inl hp
  · exact .inr hrest

/-! ## Stability -/

/-- An assertion that no step of the other threads breaks. -/
def Stable (T : Thread S A) (P : S → Prop) : Prop :=
  ∀ s s', P s → T.env s s' → P s'

theorem Stable.along {P : S → Prop} (hP : Stable T P) {s s' : S}
    (henv : ReflTransGen T.env s s') (hs : P s) : P s' := by
  induction henv with
  | refl => exact hs
  | tail _ hstep ih => exact hP _ _ ih hstep

theorem Stable.and {P Q : S → Prop} (hP : Stable T P) (hQ : Stable T Q) :
    Stable T (fun s => P s ∧ Q s) :=
  fun s s' h henv => ⟨hP s s' h.1 henv, hQ s s' h.2 henv⟩

theorem Stable.const (φ : Prop) : Stable T (fun _ => φ) :=
  fun _ _ h _ => h

/-! ## Triples -/

/-- `Triple T I P p Q`: started in `P`, the program keeps `I` at every point it
    comes to, and is done only in `Q`. -/
def Triple (T : Thread S A) (I P : S → Prop) {α : Type} (p : Prog A α)
    (Q : α → S → Prop) : Prop :=
  ∀ s s', P s → (Runs T p s none s' → I s') ∧ ∀ a, Runs T p s (some a) s' → Q a s'

variable {I P P' R : S → Prop} {Q Q' : α → S → Prop}

theorem Triple.running {p : Prog A α} (h : Triple T I P p Q) {s s' : S}
    (hs : P s) (hrun : Runs T p s none s') : I s' :=
  (h s s' hs).1 hrun

theorem Triple.done {p : Prog A α} (h : Triple T I P p Q) {s s' : S} {a : α}
    (hs : P s) (hrun : Runs T p s (some a) s') : Q a s' :=
  (h s s' hs).2 a hrun

/-- **Soundness over whole runs**: an assertion kept at every point, and implied
    by a postcondition that the other threads keep, holds wherever the run gets. -/
theorem Triple.visits {p : Prog A α} (h : Triple T I P p Q) (hI : Stable T I)
    (hQ : ∀ a s, Q a s → I s) {s s' : S} (hs : P s) (hvis : Visits T p s s') : I s' := by
  obtain ⟨o, s₁, hrun, henv⟩ := hvis
  apply hI.along henv
  cases o with
  | none => exact h.running hs hrun
  | some a => exact hQ a s₁ (h.done hs hrun)

/-- **Consequence**: weaken the postcondition, strengthen the precondition. -/
theorem Triple.conseq {p : Prog A α} (h : Triple T I P p Q)
    (hpre : ∀ s, P' s → P s) (hpost : ∀ a s, Q a s → Q' a s) : Triple T I P' p Q' :=
  fun s s' hs => ⟨(h s s' (hpre s hs)).1, fun a hrun => hpost a s' ((h s s' (hpre s hs)).2 a hrun)⟩

theorem Triple.post {p : Prog A α} (h : Triple T I P p Q)
    (hpost : ∀ a s, Q a s → Q' a s) : Triple T I P p Q' :=
  h.conseq (fun _ hs => hs) hpost

theorem Triple.pre {p : Prog A α} (h : Triple T I P p Q)
    (hpre : ∀ s, P' s → P s) : Triple T I P' p Q :=
  h.conseq hpre (fun _ _ hs => hs)

/-- What holds along the run may be weakened too. -/
theorem Triple.weaken {I' : S → Prop} {p : Prog A α} (h : Triple T I P p Q)
    (hI : ∀ s, I s → I' s) : Triple T I' P p Q :=
  fun _ s' hs => ⟨fun hrun => hI s' (h.running hs hrun), fun _ hrun => h.done hs hrun⟩

/-- A fact about the start that is not about the state may be assumed outright. -/
theorem Triple.assuming {φ : Prop} {p : Prog A α} (h : φ → Triple T I P p Q) :
    Triple T I (fun s => φ ∧ P s) p Q :=
  fun s s' hs => h hs.1 s s' hs.2

/-- The answer is known, and the rest goes on from it. -/
theorem Triple.at_value {p : α → Prog A β} {Q : β → S → Prop} {a b : α}
    (h : Triple T I P (p b) Q) : Triple T I (fun s => a = b ∧ P s) (p a) Q := by
  apply Triple.assuming
  intro hanswer
  subst hanswer
  exact h

theorem Triple.exists_pre {ι : Sort*} {P : ι → S → Prop} {p : Prog A α}
    (h : ∀ i, Triple T I (P i) p Q) : Triple T I (fun s => ∃ i, P i s) p Q :=
  fun s s' hs => hs.elim fun i hi => h i s s' hi

theorem Triple.or_pre {P₁ P₂ : S → Prop} {p : Prog A α} (h₁ : Triple T I P₁ p Q)
    (h₂ : Triple T I P₂ p Q) : Triple T I (fun s => P₁ s ∨ P₂ s) p Q :=
  fun s s' hs => hs.elim (h₁ s s') (h₂ s s')

/-- What the precondition says of this moment reaches the postcondition; only
    its stable part `G` lasts. -/
theorem Triple.pure {a : α} {G : S → Prop} (hG : Stable T G) (hI : ∀ s, G s → I s)
    (hP : ∀ s, P s → G s) (hQ : ∀ s, P s → Q a s) :
    Triple T I P (Pure.pure a : Prog A α) Q := by
  intro s s' hs
  constructor
  · intro hrun
    rcases hrun with ⟨_, henv⟩ | ⟨h, _⟩
    · exact hI s' (hG.along henv (hP s hs))
    · cases h
  · intro b hrun
    rcases hrun with ⟨h, _⟩ | ⟨h, rfl⟩
    · cases h
    · cases h
      exact hQ s' hs

/-- Where the run is free to come anywhere, nothing need last. -/
theorem Triple.pure_anywhere {a : α} (hQ : ∀ s, P s → Q a s) :
    Triple T (fun _ => True) P (Pure.pure a : Prog A α) Q :=
  Triple.pure (Stable.const True) (fun _ _ => trivial) (fun _ _ => trivial) hQ

theorem Triple.act {a : A α} (hP : Stable T P) (hI : ∀ s, P s → I s)
    (hQ : ∀ s r s', P s → T.perform a s r s' → Q r s') : Triple T I P (.act a) Q := by
  intro s s' hs
  constructor
  · intro hrun
    rcases hrun with ⟨_, henv⟩ | ⟨_, _, h, _⟩
    · exact hI s' (hP.along henv hs)
    · cases h
  · intro b hrun
    rcases hrun with ⟨h, _⟩ | ⟨r, s₁, h, henv, hact⟩
    · cases h
    · cases h
      exact hQ s₁ b s' (hP.along henv hs) hact

theorem Triple.bind {p : Prog A α} {k : α → Prog A β} {Q' : β → S → Prop}
    (hp : Triple T I P p Q) (hk : ∀ a, Triple T I (Q a) (k a) Q') :
    Triple T I P (p >>= k) Q' := by
  intro s s' hs
  constructor
  · intro hu
    rcases hu with ⟨_, hrun⟩ | ⟨a, s₁, hrun, hrest⟩
    · exact hp.running hs hrun
    · exact (hk a).running (hp.done hs hrun) hrest
  · intro b hu
    rcases hu with ⟨h, _⟩ | ⟨a, s₁, hrun, hrest⟩
    · cases h
    · exact (hk a).done (hp.done hs hrun) hrest

/-- An answer that is there at once is handed on. -/
theorem Triple.pure_bind {a : α} {k : α → Prog A β} {Q : β → S → Prop} (hP : Stable T P)
    (hI : ∀ s, P s → I s) (h : Triple T I P (k a) Q) :
    Triple T I P (Pure.pure a >>= k) Q := by
  apply Triple.bind (Q := fun b s => b = a ∧ P s)
  · exact Triple.pure hP hI (fun _ hs => hs) fun _ hs => ⟨rfl, hs⟩
  intro b
  exact Triple.at_value h

/-- **Loop rule**: `J x` is the invariant of a turn that starts with `x`. -/
theorem Triple.iter {body : σ → Prog A (σ ⊕ α)} {J : σ → S → Prop}
    (hbody : ∀ x, Triple T I (J x) (body x)
      (fun r s => Sum.elim (fun y => J y s) (fun a => Q a s) r)) (x : σ) :
    Triple T I (J x) (.iter body x) Q := by
  -- the turns before the last one keep the invariant
  have hturns : ∀ s y s₁, J x s →
      ReflTransGen (fun (u v : σ × S) => Runs T (body u.1) u.2 (some (.inl v.1)) v.2)
        (x, s) (y, s₁) → J y s₁ := by
    intro s y s₁ hs hturns
    suffices h : ∀ v : σ × S,
        ReflTransGen (fun (u v : σ × S) => Runs T (body u.1) u.2 (some (.inl v.1)) v.2)
          (x, s) v → J v.1 v.2 from h (y, s₁) hturns
    intro v hv
    induction hv with
    | refl => exact hs
    | tail _ hturn ih => exact (hbody _).done ih hturn
  intro s s' hs
  constructor
  · intro hu
    obtain ⟨y, s₁, hto, ⟨_, hrun⟩ | ⟨_, h, _⟩⟩ := hu
    · exact (hbody y).running (hturns s y s₁ hs hto) hrun
    · cases h
  · intro a hu
    obtain ⟨y, s₁, hto, ⟨h, _⟩ | ⟨b, h, hrun⟩⟩ := hu
    · cases h
    · cases h
      exact (hbody y).done (hturns s y s₁ hs hto) hrun

/-- **Frame rule**: what the other threads and every action keep, every program keeps. -/
theorem Triple.keeps {P : S → Prop} (hP : Stable T P)
    (hact : ∀ {β : Type} (a : A β) s r s', P s → T.perform a s r s' → P s') {α : Type}
    (p : Prog A α) : Triple T P P p (fun _ => P) := by
  induction p with
  | pure a => exact Triple.pure hP (fun _ hs => hs) (fun _ hs => hs) fun _ hs => hs
  | act a => exact Triple.act hP (fun _ hs => hs) (hact a)
  | bind p k ihp ihk => exact Triple.bind ihp ihk
  | iter body x ih =>
    refine Triple.iter (J := fun _ => P) (fun y => (ih y).post ?_) x
    rintro (y | a) s hs <;> exact hs

/-- Every action that the program may take is one of `ok`. -/
def Prog.Only (ok : {α : Type} → A α → Prop) : {α : Type} → Prog A α → Prop
  | _, .pure _ => True
  | _, .act a => ok a
  | _, .bind p k => p.Only ok ∧ ∀ a, (k a).Only ok
  | _, .iter body _ => ∀ y, (body y).Only ok

section only
variable {ok : {α : Type} → A α → Prop}

@[simp] theorem only_pure (a : α) : (Pure.pure a : Prog A α).Only ok := trivial

@[simp] theorem only_act (a : A α) : (Prog.act a).Only ok ↔ ok a := Iff.rfl

@[simp] theorem only_bind (p : Prog A α) (k : α → Prog A β) :
    (p >>= k).Only ok ↔ p.Only ok ∧ ∀ a, (k a).Only ok := Iff.rfl

@[simp] theorem only_iter (body : σ → Prog A (σ ⊕ α)) (x : σ) :
    (Prog.iter body x).Only ok ↔ ∀ y, (body y).Only ok := Iff.rfl

theorem Prog.Only.ite {c : Prop} [Decidable c] {p q : Prog A α} (hp : c → p.Only ok)
    (hq : ¬ c → q.Only ok) : (if c then p else q).Only ok := by
  split
  · exact hp ‹_›
  · exact hq ‹_›

theorem Prog.only_all (hok : ∀ {β : Type} (a : A β), ok a) (p : Prog A α) : p.Only ok := by
  induction p with
  | pure a => trivial
  | act a => exact hok a
  | bind p k ihp ihk => exact ⟨ihp, ihk⟩
  | iter body x ih => exact ih

theorem Prog.Only.mono {ok' : {α : Type} → A α → Prop}
    (hok : ∀ {β : Type} (a : A β), ok a → ok' a) {p : Prog A α} (hp : p.Only ok) : p.Only ok' := by
  induction p with
  | pure a => trivial
  | act a => exact hok a hp
  | bind p k ihp ihk => exact ⟨ihp hp.1, fun a => ihk a (hp.2 a)⟩
  | iter body x ih => exact fun y => ih y (hp y)

/-- The frame rule needs only the actions that the program may take. -/
theorem Triple.keeps_only {P : S → Prop} (hP : Stable T P) (hI : ∀ s, P s → I s)
    (hact : ∀ {β : Type} (a : A β) s r s', ok a → P s → T.perform a s r s' → P s') {α : Type}
    {p : Prog A α} (hp : p.Only ok) : Triple T I P p (fun _ => P) := by
  induction p with
  | pure a => exact Triple.pure hP hI (fun _ hs => hs) fun _ hs => hs
  | act a => exact Triple.act hP hI fun s r s' => hact a s r s' hp
  | bind p k ihp ihk => exact Triple.bind (ihp hp.1) fun a => ihk a (hp.2 a)
  | iter body x ih =>
    apply Triple.iter (J := fun _ => P)
    intro y
    apply (ih y (hp y)).post
    intro r s hs
    cases r with
    | inl y => exact hs
    | inr a => exact hs

end only

/-- Two branches of a conditional. -/
theorem Triple.ite {c : Prop} [Decidable c] {p q : Prog A α}
    (hp : c → Triple T I P p Q) (hq : ¬ c → Triple T I P q Q) :
    Triple T I P (if c then p else q) Q := by
  split
  · exact hp ‹_›
  · exact hq ‹_›

/-! ## Restricted runs -/

/-- The thread, kept to the states in `R`. -/
def Thread.restrict (T : Thread S A) (R : S → Prop) : Thread S A where
  env s s' := T.env s s' ∧ R s'
  perform a s r s' := T.perform a s r s' ∧ R s'

/-- Where no step enters `R`, a run that ends in `R` has not left it. -/
theorem runs_restrict {R : S → Prop} (henv : ∀ s s', T.env s s' → R s' → R s)
    (hperform : ∀ {β : Type} (a : A β) s r s', T.perform a s r s' → R s' → R s)
    {p : Prog A α} {s s' : S} {a : α} (h : Runs T p s (some a) s') (hs' : R s') :
    Runs (T.restrict R) p s (some a) s' ∧ R s := by
  have hbefore : ∀ {s s' : S}, ReflTransGen T.env s s' → R s' →
      ReflTransGen (T.restrict R).env s s' ∧ R s := by
    intro s s' hsteps hs'
    induction hsteps using ReflTransGen.head_induction_on with
    | refl => exact ⟨.refl, hs'⟩
    | @head u v hstep _ ih => exact ⟨.head ⟨hstep, ih.2⟩ ih.1, henv u v hstep ih.2⟩
  induction p generalizing s s' with
  | pure b =>
    obtain ⟨rfl, rfl⟩ := runs_pure_some h
    exact ⟨runs_pure, hs'⟩
  | act b =>
    obtain ⟨s₁, hsteps, hact⟩ := runs_act_some h
    obtain ⟨hsteps', hs⟩ := hbefore hsteps (hperform b s₁ a s' hact hs')
    exact ⟨runs_act hsteps' ⟨hact, hs'⟩, hs⟩
  | bind p k ihp ihk =>
    obtain ⟨b, s₁, hp, hk⟩ := runs_bind_some h
    obtain ⟨hk', hs₁⟩ := ihk b hk hs'
    obtain ⟨hp', hs⟩ := ihp hp hs₁
    exact ⟨runs_bind hp' hk', hs⟩
  | iter body x ih =>
    rcases h with ⟨y, s₁, hturns, ⟨hnone, _⟩ | ⟨b, hb, hlast⟩⟩
    · cases hnone
    cases hb
    obtain ⟨hlast', hs₁⟩ := ih y hlast hs'
    suffices hall : ∀ u : _ × S, ReflTransGen (fun (u v : _ × S) =>
        Runs T (body u.1) u.2 (some (.inl v.1)) v.2) u (y, s₁) →
        ReflTransGen (fun (u v : _ × S) =>
          Runs (T.restrict R) (body u.1) u.2 (some (.inl v.1)) v.2) u (y, s₁) ∧ R u.2 by
      obtain ⟨hturns', hs⟩ := hall (x, s) hturns
      exact ⟨⟨y, s₁, hturns', .inr ⟨a, rfl, hlast'⟩⟩, hs⟩
    intro u hu
    induction hu using ReflTransGen.head_induction_on with
    | refl => exact ⟨.refl, hs₁⟩
    | @head u v hturn _ ihturns =>
      obtain ⟨hturn', hu⟩ := ih u.1 hturn ihturns.2
      exact ⟨.head hturn' ihturns.1, hu⟩

/-! ## Programs in other programs -/

/-- Each action of the program is one of a larger set of actions. -/
def Prog.embed {B : Type → Type} (f : {α : Type} → A α → B α) :
    {α : Type} → Prog A α → Prog B α
  | _, .pure a => .pure a
  | _, .act a => .act (f a)
  | _, .bind p k => .bind (p.embed f) fun a => (k a).embed f
  | _, .iter body x => .iter (fun y => (body y).embed f) x

/-- A thread as it appears to the smaller set of actions. -/
def Thread.pull {B : Type → Type} (T : Thread S B) (f : {α : Type} → A α → B α) :
    Thread S A where
  env := T.env
  perform a := T.perform (f a)

theorem runs_embed {B : Type → Type} {T : Thread S B} {f : {α : Type} → A α → B α}
    {p : Prog A α} {s s' : S} {o : Option α} :
    Runs T (p.embed f) s o s' ↔ Runs (T.pull f) p s o s' := by
  induction p generalizing s s' with
  | pure a => exact Iff.rfl
  | act a => exact Iff.rfl
  | bind p k ihp ihk => simp only [Prog.embed, Runs, ihp, ihk]
  | iter body x ih => simp only [Prog.embed, Runs, ih]

theorem only_embed {B : Type → Type} {f : {α : Type} → A α → B α}
    {ok : {α : Type} → B α → Prop} {p : Prog A α} :
    (p.embed f).Only ok ↔ p.Only (fun a => ok (f a)) := by
  induction p with
  | pure a => exact Iff.rfl
  | act a => exact Iff.rfl
  | bind p k ihp ihk => simp only [Prog.embed, Prog.Only, ihp, ihk]
  | iter body x ih => simp only [Prog.embed, Prog.Only, ih]

theorem Triple.embed {B : Type → Type} {T : Thread S B} {f : {α : Type} → A α → B α}
    {p : Prog A α} (h : Triple (T.pull f) I P p Q) : Triple T I P (p.embed f) Q :=
  fun _ _ hs => ⟨fun hrun => h.running hs (runs_embed.mp hrun),
    fun _ hrun => h.done hs (runs_embed.mp hrun)⟩

/-! ## Replaying a run -/

/-- Run a program on a list of choices, one for each of its actions. `none` when a
    choice is not enabled, when the choices run out, and at a loop. -/
def Prog.replay {C : Type} (next : {α : Type} → A α → C → S → Option (α × S)) :
    {α : Type} → Prog A α → S → List C → Option (α × S × List C)
  | _, .pure a, s, cs => some (a, s, cs)
  | _, .act _, _, [] => none
  | _, .act a, s, c :: cs => (next a c s).map fun r => (r.1, r.2, cs)
  | _, .bind p k, s, cs =>
      (replay next p s cs).bind fun r => replay next (k r.1) r.2.1 r.2.2
  | _, .iter _ _, _, _ => none

/-- What `replay` accepts is a run, when each choice stands for some steps of the other
    threads and then the action. -/
theorem runs_of_replay {C : Type} {next : {α : Type} → A α → C → S → Option (α × S)}
    (hnext : ∀ {α : Type} (a : A α) c s r s', next a c s = some (r, s') →
      ∃ s₁, ReflTransGen T.env s s₁ ∧ T.perform a s₁ r s')
    {p : Prog A α} {s s' : S} {cs cs' : List C} {a : α}
    (h : p.replay next s cs = some (a, s', cs')) : Runs T p s (some a) s' := by
  induction p generalizing s s' cs cs' with
  | pure b =>
    cases h
    exact runs_pure
  | act b =>
    cases cs with
    | nil => cases h
    | cons c cs =>
      obtain ⟨r, hr, heq⟩ := Option.map_eq_some_iff.mp h
      cases heq
      obtain ⟨s₁, henv, hact⟩ := hnext b c s r.1 r.2 hr
      exact runs_act henv hact
  | bind p k ihp ihk =>
    obtain ⟨r, hr, hrest⟩ := Option.bind_eq_some_iff.mp h
    exact runs_bind (ihp hr) (ihk r.1 hrest)
  | iter body x => cases h

end semantics

end Interleaving

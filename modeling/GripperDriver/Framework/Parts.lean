import GripperDriver.Framework.Program

/-! # Programs on a Part of the State

    A thread often holds more than the state that one of its programs is about: lines it
    has written, what it has counted. The program is then one of a thread that knows only
    its part.

    * `Either`: the actions on the part, and those on the rest,
    * `PartOf`: the part is seen through `π`, and whatever happens to the whole shows in it
      as steps of its own surroundings, or as nothing,
    * `runs_part`: a run on the whole shows in the part as a run of the smaller thread,
    * `Triple.beside`: a triple of the part, beside what the program leaves alone,
    * `Finer`: a thread on the same state that leaves less open, and its triples,
    * `Thread.noting`: a thread beside a note of what its actions have answered, for
      properties that the state alone does not say.
-/

open Relation

namespace Interleaving

variable {S S' : Type} {A : Type → Type} {T : Thread S A} {T' : Thread S' A} {π : S → S'}
variable {α : Type}

/-- The actions of one set and those of another. -/
abbrev Either (A B : Type → Type) (α : Type) : Type := A α ⊕ B α

/-- `T'` is what `T` looks like in the part that `π` shows. -/
structure PartOf (T : Thread S A) (T' : Thread S' A) (π : S → S') : Prop where
  env : ∀ s t, T.env s t → ReflTransGen T'.env (π s) (π t)
  perform : ∀ {α : Type} (a : A α) s r t, T.perform a s r t → T'.perform a (π s) r (π t)

theorem PartOf.along (h : PartOf T T' π) {s t : S} (henv : ReflTransGen T.env s t) :
    ReflTransGen T'.env (π s) (π t) := by
  induction henv with
  | refl => exact .refl
  | tail _ hstep ih => exact ih.trans (h.env _ _ hstep)

/-- **A run of the whole is one of the part.** -/
theorem runs_part (h : PartOf T T' π) {p : Prog A α} {s t : S} {o : Option α}
    (hrun : Runs T p s o t) : Runs T' p (π s) o (π t) := by
  induction p generalizing s t with
  | pure a =>
    rcases hrun with ⟨ho, henv⟩ | ⟨ho, rfl⟩
    · exact .inl ⟨ho, h.along henv⟩
    · exact .inr ⟨ho, rfl⟩
  | act a =>
    rcases hrun with ⟨ho, henv⟩ | ⟨r, s₁, ho, henv, hact⟩
    · exact .inl ⟨ho, h.along henv⟩
    · exact .inr ⟨r, π s₁, ho, h.along henv, h.perform a _ _ _ hact⟩
  | bind p k ihp ihk =>
    rcases hrun with ⟨ho, hp⟩ | ⟨a, s₁, hp, hk⟩
    · exact .inl ⟨ho, ihp hp⟩
    · exact .inr ⟨a, π s₁, ihp hp, ihk a hk⟩
  | @iter σ α body x ih =>
    obtain ⟨y, s₁, hturns, hlast⟩ := hrun
    refine ⟨y, π s₁, ?_, ?_⟩
    · -- turn by turn
      exact ReflTransGen.lift (p := fun (u v : σ × S') => Runs T' (body u.1) u.2
        (some (.inl v.1)) v.2) (fun u : σ × S => (u.1, π u.2))
        (fun u v hturn => ih u.1 hturn) _ _ hturns
    · rcases hlast with ⟨ho, hlast⟩ | ⟨a, ho, hlast⟩
      · exact .inl ⟨ho, ih y hlast⟩
      · exact .inr ⟨a, ho, ih y hlast⟩

theorem visits_part (h : PartOf T T' π) {p : Prog A α} {s t : S} (hvis : Visits T p s t) :
    Visits T' p (π s) (π t) := by
  obtain ⟨o, s₁, hrun, henv⟩ := hvis
  exact ⟨o, π s₁, runs_part h hrun, h.along henv⟩

theorem Triple.part {I P : S' → Prop} {p : Prog A α} {Q : α → S' → Prop} (h : PartOf T T' π)
    (hp : Triple T' I P p Q) :
    Triple T (fun s => I (π s)) (fun s => P (π s)) p (fun a s => Q a (π s)) :=
  fun _ _ hs => ⟨fun hrun => hp.running hs (runs_part h hrun),
    fun _ hrun => hp.done hs (runs_part h hrun)⟩

/-- Two triples of one program. -/
theorem Triple.both {I I' P P' : S → Prop} {p : Prog A α} {Q Q' : α → S → Prop}
    (h : Triple T I P p Q) (h' : Triple T I' P' p Q') :
    Triple T (fun s => I s ∧ I' s) (fun s => P s ∧ P' s) p (fun a s => Q a s ∧ Q' a s) :=
  fun _ _ hs => ⟨fun hrun => ⟨h.running hs.1 hrun, h'.running hs.2 hrun⟩,
    fun _ hrun => ⟨h.done hs.1 hrun, h'.done hs.2 hrun⟩⟩

/-- **Frame rule for a part**: the program runs on its part, and leaves `R` alone. -/
theorem Triple.beside {I P : S' → Prop} {R : S → Prop} {p : Prog A α} {Q : α → S' → Prop}
    (h : PartOf T T' π) (hR : Stable T R)
    (hact : ∀ {β : Type} (a : A β) s r t, R s → T.perform a s r t → R t)
    (hp : Triple T' I P p Q) :
    Triple T (fun s => I (π s) ∧ R s) (fun s => P (π s) ∧ R s) p (fun a s => Q a (π s) ∧ R s) :=
  (hp.part h).both (Triple.keeps hR hact p)

/-! ## The same state, and less left open -/

/-- Whatever `T` does, `T'` can do; an action of `T` may include some of the others' steps. -/
structure Finer (T T' : Thread S A) : Prop where
  env : ∀ s t, T.env s t → T'.env s t
  perform : ∀ {α : Type} (a : A α) s r t, T.perform a s r t →
    ∃ u, ReflTransGen T'.env s u ∧ T'.perform a u r t

theorem runs_finer {T T' : Thread S A} (h : Finer T T') {p : Prog A α} {s t : S} {o : Option α}
    (hrun : Runs T p s o t) : Runs T' p s o t := by
  have halong : ∀ {s t : S}, ReflTransGen T.env s t → ReflTransGen T'.env s t :=
    fun hsteps => ReflTransGen.mono h.env _ _ hsteps
  induction p generalizing s t with
  | pure a =>
    rcases hrun with ⟨ho, henv⟩ | hdone
    · exact .inl ⟨ho, halong henv⟩
    · exact .inr hdone
  | act a =>
    rcases hrun with ⟨ho, henv⟩ | ⟨r, s₁, ho, henv, hact⟩
    · exact .inl ⟨ho, halong henv⟩
    · obtain ⟨u, hto, hact'⟩ := h.perform a s₁ r t hact
      exact .inr ⟨r, u, ho, (halong henv).trans hto, hact'⟩
  | bind p k ihp ihk =>
    rcases hrun with ⟨ho, hp⟩ | ⟨a, s₁, hp, hk⟩
    · exact .inl ⟨ho, ihp hp⟩
    · exact .inr ⟨a, s₁, ihp hp, ihk a hk⟩
  | iter body x ih =>
    obtain ⟨y, s₁, hturns, hlast⟩ := hrun
    refine ⟨y, s₁, ReflTransGen.mono (fun (u v : _ × S) hturn => ?_) _ _ hturns, ?_⟩
    · exact ih u.1 hturn
    rcases hlast with ⟨ho, hlast⟩ | ⟨a, ho, hlast⟩
    · exact .inl ⟨ho, ih y hlast⟩
    · exact .inr ⟨a, ho, ih y hlast⟩

theorem Triple.finer {T T' : Thread S A} {I P : S → Prop} {p : Prog A α} {Q : α → S → Prop}
    (h : Finer T T') (hp : Triple T' I P p Q) : Triple T I P p Q :=
  fun _ _ hs => ⟨fun hrun => hp.running hs (runs_finer h hrun),
    fun _ hrun => hp.done hs (runs_finer h hrun)⟩

theorem PartOf.restrict (h : PartOf T T' π) (R : S → Prop) : PartOf (T.restrict R) T' π where
  env s t henv := h.env s t henv.1
  perform a s r t hact := h.perform a s r t hact.1

/-- A thread that is kept to `R` is in `R` from its first step on. -/
theorem Triple.kept {R P : S → Prop} (hP : Stable (T.restrict R) P)
    (hact : ∀ {β : Type} (a : A β) s r t, R t → P s → T.perform a s r t → P t) (p : Prog A α) :
    Triple (T.restrict R) (fun s => R s ∧ P s) (fun s => R s ∧ P s) p (fun _ s => R s ∧ P s) := by
  refine Triple.keeps ?_ ?_ p
  · intro s t hs henv
    exact ⟨henv.2, hP s t hs.2 henv⟩
  · intro β a s r t hs hperform
    exact ⟨hperform.2, hact a s r t hperform.2 hs.2 hperform.1⟩

/-! ## A note of the answers -/

variable {G : Type}

/-- `T`, with a note beside the state that its own actions bring up to date with what they
    answer. Nothing that it does depends on the note. -/
def Thread.noting (T : Thread S A) (note : {α : Type} → A α → α → G → G) : Thread (S × G) A where
  env s t := T.env s.1 t.1 ∧ t.2 = s.2
  perform a s r t := T.perform a s.1 r t.1 ∧ t.2 = note a r s.2

variable {note : {α : Type} → A α → α → G → G}

theorem partOf_noting : PartOf (T.noting note) T Prod.fst where
  env _ _ henv := .single henv.1
  perform _ _ _ _ hact := hact.1

theorem along_noting {s t : S} (henv : ReflTransGen T.env s t) (g : G) :
    ReflTransGen (T.noting note).env (s, g) (t, g) :=
  ReflTransGen.lift (p := (T.noting note).env) (fun u : S => (u, g))
    (fun _ _ hstep => ⟨hstep, rfl⟩) _ _ henv

/-- **Every run has a note**: what the thread can do, it can do beside one. -/
theorem runs_noting {p : Prog A α} {s t : S} {o : Option α} (hrun : Runs T p s o t) (g : G) :
    ∃ g', Runs (T.noting note) p (s, g) o (t, g') := by
  induction p generalizing s t g with
  | pure a =>
    rcases hrun with ⟨ho, henv⟩ | ⟨ho, rfl⟩
    · exact ⟨g, .inl ⟨ho, along_noting henv g⟩⟩
    · exact ⟨g, .inr ⟨ho, rfl⟩⟩
  | act a =>
    rcases hrun with ⟨ho, henv⟩ | ⟨r, s₁, ho, henv, hact⟩
    · exact ⟨g, .inl ⟨ho, along_noting henv g⟩⟩
    · exact ⟨note a r g, .inr ⟨r, (s₁, g), ho, along_noting henv g, hact, rfl⟩⟩
  | bind p k ihp ihk =>
    rcases hrun with ⟨ho, hp⟩ | ⟨a, s₁, hp, hk⟩
    · obtain ⟨g', hp'⟩ := ihp hp g
      exact ⟨g', .inl ⟨ho, hp'⟩⟩
    · obtain ⟨g₁, hp'⟩ := ihp hp g
      obtain ⟨g', hk'⟩ := ihk a hk g₁
      exact ⟨g', .inr ⟨a, (s₁, g₁), hp', hk'⟩⟩
  | @iter σ α body x ih =>
    obtain ⟨y, s₁, hturns, hlast⟩ := hrun
    -- turn by turn, the note of one is the start of the next
    suffices hnoted : ∀ v : σ × S, ReflTransGen (fun (u v : σ × S) =>
        Runs T (body u.1) u.2 (some (.inl v.1)) v.2) (x, s) v →
        ∃ g₁, ReflTransGen (fun (u v : σ × (S × G)) =>
          Runs (T.noting note) (body u.1) u.2 (some (.inl v.1)) v.2) (x, (s, g)) (v.1, (v.2, g₁)) by
      obtain ⟨g₁, hturns'⟩ := hnoted (y, s₁) hturns
      rcases hlast with ⟨ho, hlast⟩ | ⟨a, ho, hlast⟩
      · obtain ⟨g', hlast'⟩ := ih y hlast g₁
        exact ⟨g', y, (s₁, g₁), hturns', .inl ⟨ho, hlast'⟩⟩
      · obtain ⟨g', hlast'⟩ := ih y hlast g₁
        exact ⟨g', y, (s₁, g₁), hturns', .inr ⟨a, ho, hlast'⟩⟩
    intro v hv
    induction hv with
    | refl => exact ⟨g, .refl⟩
    | @tail u v _ hturn ihturns =>
      obtain ⟨g₁, hturns'⟩ := ihturns
      obtain ⟨g₂, hturn'⟩ := ih u.1 hturn g₁
      exact ⟨g₂, hturns'.tail hturn'⟩

end Interleaving

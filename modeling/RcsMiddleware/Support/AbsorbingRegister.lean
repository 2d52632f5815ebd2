import Mathlib.Logic.Function.Basic
import Mathlib.Logic.Relation

/-!
# Support — AbsorbingRegister

A register some of whose values are terminal, written by processes that read it first.  Each
process `i` has one value `target i` it may write.  It reads the register; when that is empty or
terminal it writes nothing, otherwise it writes later, whatever the register holds by then.
Between its read and its write the process is *holding*.

**Absorption** (`stable`).  When no process writes a terminal value while another that holds has
a different target, a terminal value stays.  The condition is part of `Move.write`; the check a
process makes when it reads does not give it.

**Effect** (`Accounted`).  In a register that starts empty, every process that has read it full
and has ended has left its mark: the value is no longer the one the register was created with,
and it is terminal if the process's target is.
-/

namespace Support.Register

open Function (update)
open Relation (ReflTransGen)

variable {ι V : Type}

/-- Where a process stands.  `settled saw`: it has ended, and its read found a value if `saw`;
`gone`: it has failed. -/
inductive Phase where
  | unread
  | holding
  | settled (saw : Bool)
  | gone
  deriving DecidableEq

/-- The register and its processes. -/
structure State (ι V : Type) where
  value : Option V
  phase : ι → Phase

/-- No process that holds, other than `i`, is to write anything else than `i`. -/
def Clear (target : ι → V) (s : State ι V) (i : ι) : Prop :=
  ∀ j, j ≠ i → s.phase j = .holding → target j = target i

variable [DecidableEq ι]

/-- One step: `create` by the environment, the others by process `i`. -/
inductive Move (terminal : V → Prop) (initial : V) (target : ι → V) :
    State ι V → State ι V → Prop where
  | create {s : State ι V} (hv : s.value = none) :
      Move terminal initial target s { s with value := some initial }
  | missed {s : State ι V} {i : ι} (hi : s.phase i = .unread) (hv : s.value = none) :
      Move terminal initial target s { s with phase := update s.phase i (.settled false) }
  | late {s : State ι V} {i : ι} {v : V} (hi : s.phase i = .unread) (hv : s.value = some v)
      (ht : terminal v) :
      Move terminal initial target s { s with phase := update s.phase i (.settled true) }
  | read {s : State ι V} {i : ι} {v : V} (hi : s.phase i = .unread) (hv : s.value = some v)
      (ht : ¬ terminal v) :
      Move terminal initial target s { s with phase := update s.phase i .holding }
  | write {s : State ι V} {i : ι} {p : Phase} (hi : s.phase i = .holding)
      (hp : p = .settled true ∨ p = .gone) (hc : terminal (target i) → Clear target s i) :
      Move terminal initial target s
        { value := s.value.map fun _ => target i, phase := update s.phase i p }
  | fail {s : State ι V} {i : ι} (hi : s.phase i = .unread ∨ s.phase i = .holding) :
      Move terminal initial target s { s with phase := update s.phase i .gone }

variable {terminal : V → Prop} {initial : V} {target : ι → V} {s s' : State ι V}

/-- A process at `p` after a move that put `i` at `q ≠ p` was there before. -/
theorem phase_of_update {i j : ι} {p q : Phase} (h : update s.phase i q j = p) (hq : q ≠ p) :
    s.phase j = p := by
  by_cases hj : j = i
  · subst hj
    rw [Function.update_self] at h
    exact absurd h hq
  · rwa [Function.update_of_ne hj] at h

/-! ### Absorption -/

/-- Whoever holds beside a terminal value is to write that value. -/
def Absorbed (terminal : V → Prop) (target : ι → V) (s : State ι V) : Prop :=
  ∀ v, s.value = some v → terminal v → ∀ j, s.phase j = .holding → target j = v

theorem Absorbed.move (h : Absorbed terminal target s) (ht : ¬ terminal initial)
    (hm : Move terminal initial target s s') : Absorbed terminal target s' := by
  cases hm with
  | create hv =>
      rintro v hv' htv j -
      cases hv'
      exact absurd htv ht
  | missed hi hv => exact fun v hv' htv j hj => h v hv' htv j (phase_of_update hj nofun)
  | late hi hv htv => exact fun v hv' htv j hj => h v hv' htv j (phase_of_update hj nofun)
  | @read i u hi hv htu =>
      intro v hv' htv
      rw [hv] at hv'
      cases hv'
      exact absurd htv htu
  | @write i p hi hp hc =>
      intro v hv' htv j hj
      obtain ⟨u, -, rfl⟩ := Option.map_eq_some_iff.mp hv'
      by_cases hji : j = i
      · rw [hji]
      · refine hc htv j hji (phase_of_update hj ?_)
        rcases hp with rfl | rfl <;> exact nofun
  | fail hi => exact fun v hv' htv j hj => h v hv' htv j (phase_of_update hj nofun)

/-- A move keeps a terminal value. -/
theorem Absorbed.keeps {v : V} (h : Absorbed terminal target s) (hv : s.value = some v)
    (htv : terminal v) (hm : Move terminal initial target s s') : s'.value = some v := by
  cases hm with
  | create hn => exact absurd (hn.symm.trans hv) nofun
  | missed _ _ | late _ _ _ | read _ _ _ | fail _ => exact hv
  | write hi _ _ => rw [hv, Option.map_some, h v hv htv _ hi]

/-- **Absorption**: a terminal value stays. -/
theorem stable {v : V} (h : Absorbed terminal target s) (ht : ¬ terminal initial)
    (hv : s.value = some v) (htv : terminal v)
    (hr : ReflTransGen (Move terminal initial target) s s') : s'.value = some v := by
  have hboth : Absorbed terminal target s' ∧ s'.value = some v := by
    induction hr with
    | refl => exact ⟨h, hv⟩
    | tail _ hm ih => exact ⟨ih.1.move ht hm, ih.1.keeps ih.2 htv hm⟩
  exact hboth.2

theorem Absorbed.run (h : Absorbed terminal target s) (ht : ¬ terminal initial)
    (hr : ReflTransGen (Move terminal initial target) s s') : Absorbed terminal target s' := by
  induction hr with
  | refl => exact h
  | tail _ hm ih => exact ih.move ht hm

/-! ### Effect -/

/-- What the processes that have ended leave behind. -/
structure Accounted (terminal : V → Prop) (initial : V) (target : ι → V) (s : State ι V) :
    Prop where
  absorbed : Absorbed terminal target s
  /-- A process that has read a value leaves the register full. -/
  full : ∀ j, s.phase j = .holding ∨ s.phase j = .settled true → s.value ≠ none
  /-- An ended process has left its mark. -/
  effect : ∀ j v, s.phase j = .settled true → s.value = some v →
    v ≠ initial ∧ (terminal (target j) → terminal v)
  /-- A value that is not the initial one was written by a process. -/
  source : ∀ v, s.value = some v → v = initial ∨
    ∃ j, (s.phase j = .settled true ∨ s.phase j = .gone) ∧ v = target j

/-- A process that reads a value, or fails, changes nothing of what the others left. -/
theorem Accounted.of_read {i : ι} {p : Phase} (h : Accounted terminal initial target s)
    (hfull : p = .holding ∨ p = .settled true → s.value ≠ none)
    (habs : ∀ v, s.value = some v → terminal v → p = .holding → target i = v)
    (heff : ∀ v, p = .settled true → s.value = some v → v ≠ initial ∧ terminal v)
    (hsrc : ∀ v, s.value = some v → s.phase i = .settled true ∨ s.phase i = .gone →
      p = .settled true ∨ p = .gone) :
    Accounted terminal initial target { s with phase := update s.phase i p } where
  absorbed := by
    intro v hv htv j hj
    by_cases hji : j = i
    · subst hji
      exact habs v hv htv ((Function.update_self _ _ _).symm.trans hj)
    · exact h.absorbed v hv htv j ((Function.update_of_ne hji _ _).symm.trans hj)
  full := by
    intro j hj
    dsimp only at hj
    by_cases hji : j = i
    · subst hji
      rw [Function.update_self] at hj
      exact hfull hj
    · rw [Function.update_of_ne hji] at hj
      exact h.full j hj
  effect := by
    intro j v hj hv
    by_cases hji : j = i
    · subst hji
      obtain ⟨hne, htv⟩ := heff v ((Function.update_self _ _ _).symm.trans hj) hv
      exact ⟨hne, fun _ => htv⟩
    · exact h.effect j v ((Function.update_of_ne hji _ _).symm.trans hj) hv
  source := by
    intro v hv
    rcases h.source v hv with rfl | ⟨j, hj, rfl⟩
    · exact .inl rfl
    refine .inr ⟨j, ?_, rfl⟩
    dsimp only
    by_cases hji : j = i
    · subst hji
      rw [Function.update_self]
      exact hsrc _ hv hj
    · rw [Function.update_of_ne hji]
      exact hj

theorem Accounted.move (hti : ¬ terminal initial) (htgt : ∀ j, target j ≠ initial)
    (h : Accounted terminal initial target s) (hm : Move terminal initial target s s') :
    Accounted terminal initial target s' := by
  have habs := h.absorbed.move hti hm
  cases hm with
  | create hv =>
      refine ⟨habs, fun _ _ => nofun, fun j v hj => ?_, fun v hv' => ?_⟩
      · exact absurd hv (h.full j (.inr hj))
      · cases hv'
        exact .inl rfl
  | missed hi hv =>
      refine h.of_read nofun (fun v hv' => absurd (hv.symm.trans hv') nofun) nofun fun v hv' => ?_
      exact absurd (hv.symm.trans hv') nofun
  | @late i u hi hv htu =>
      refine h.of_read (fun _ => hv ▸ nofun) nofun (fun v _ hv' => ?_) fun _ _ _ => .inl rfl
      rw [hv] at hv'
      cases hv'
      exact ⟨fun he => hti (he ▸ htu), htu⟩
  | @read i u hi hv htu =>
      refine h.of_read (fun _ => hv ▸ nofun) (fun v hv' htv => ?_) nofun fun v hv' hp => ?_
      · rw [hv] at hv'
        cases hv'
        exact absurd htv htu
      · rw [hi] at hp
        rcases hp with hp | hp <;> cases hp
  | @fail i hi =>
      refine h.of_read ?_ nofun nofun fun _ _ _ => .inr rfl
      rintro (hp | hp) <;> cases hp
  | @write i p hi hp hc =>
      have hful : s.value ≠ none := h.full i (.inl hi)
      obtain ⟨u, hu⟩ := Option.ne_none_iff_exists'.mp hful
      refine ⟨habs, fun _ _ => by rw [hu]; exact nofun, fun j v hj hv => ?_, fun v hv => ?_⟩
      · rw [hu] at hv
        cases hv
        refine ⟨htgt i, fun htj => ?_⟩
        by_cases hji : j = i
        · rwa [← hji]
        -- `j` has ended before: the value it left is terminal, so `i` writes the same.
        have hjs : s.phase j = .settled true := (Function.update_of_ne hji _ _).symm.trans hj
        have htu : terminal u := (h.effect j u hjs hu).2 htj
        rwa [h.absorbed u hu htu i hi]
      · rw [hu] at hv
        cases hv
        refine .inr ⟨i, ?_, rfl⟩
        dsimp only
        rw [Function.update_self]
        exact hp

/-- **Effect**: what ended processes leave behind, after any run from an empty register that no
process has read. -/
theorem accounted (hti : ¬ terminal initial) (htgt : ∀ j, target j ≠ initial)
    (hv : s.value = none) (hp : ∀ j, s.phase j = .unread ∨ s.phase j = .settled false)
    (hr : ReflTransGen (Move terminal initial target) s s') :
    Accounted terminal initial target s' := by
  induction hr with
  | refl =>
      have hno : ∀ v, s.value ≠ some v := fun v h => absurd (hv.symm.trans h) nofun
      refine ⟨fun v h => absurd h (hno v), fun j hj => ?_, fun j v _ h => absurd h (hno v),
        fun v h => absurd h (hno v)⟩
      rcases hp j with h | h <;> rw [h] at hj <;> rcases hj with hj | hj <;> cases hj
  | tail _ hm ih => exact ih.move hti htgt hm

end Support.Register

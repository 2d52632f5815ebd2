import Mathlib.Data.Fintype.Card
import Mathlib.Logic.Relation
import RcsMiddleware.Support.Programs

/-!
# Support — Interleaving

Any number of programs over one shared store, one operation at a time.  A configuration holds
the store, the program each process `i` has still to run, and the operations performed so far
(newest first).  A step picks a process whose program is at an operation and lets the system
answer it (`Step`); between steps the environment may change the store (`System.env`).  Nothing
forces a process to take its next step, so a process that stops for ever is covered.

A run whose steps all meet a condition is `Run S G`: `G c e c'` may speak of the configuration
before the step, of the event and of the configuration after it.  `unguarded` is no condition.

* `Run.invariant`: what one step preserves, a run preserves.
* `Run.simulate`: a run is matched by a run of an abstract system, when every step is.
* `Step.inv_at`: the step of a process whose program is known.
* `Run.exists_ended`: where no process waits for ever, a run can go on until all have ended.
* `replay`: the configuration a given schedule leads to, computed.
-/

namespace Support

open Relation (ReflTransGen)

variable {ι Op : Type} {Ret : Op → Type} {ε α σ : Type}

/-- Process `pid` performed `op` and got `answer`. -/
structure Event (ι Op : Type) (Ret : Op → Type) (ε : Type) where
  pid : ι
  op : Op
  answer : Except ε (Ret op)

/-- The store, what each process has still to run, and what was performed so far. -/
structure Config (ι Op : Type) (Ret : Op → Type) (ε α σ : Type) where
  shared : σ
  procs : ι → Prog Op Ret ε α
  trace : List (Event ι Op Ret ε)

/-- How the store answers the operation of a process, and how it changes by itself. -/
structure System (ι Op : Type) (Ret : Op → Type) (ε σ : Type) where
  exec : ι → (o : Op) → σ → Except ε (Ret o) → σ → Prop
  env : σ → σ → Prop

/-- All processes at the start of their programs. -/
def Config.start (s : σ) (p : ι → Prog Op Ret ε α) : Config ι Op Ret ε α σ := ⟨s, p, []⟩

variable [DecidableEq ι]

/-- Process `i` is at `o`, which is answered by `r` and leaves the store at `s'`. -/
inductive Step (S : System ι Op Ret ε σ) :
    Config ι Op Ret ε α σ → Event ι Op Ret ε → Config ι Op Ret ε α σ → Prop where
  | mk {c : Config ι Op Ret ε α σ} {i : ι} {o : Op} {k : Except ε (Ret o) → Prog Op Ret ε α}
      {r : Except ε (Ret o)} {s' : σ} (hp : c.procs i = .op o k) (hx : S.exec i o c.shared r s') :
      Step S c ⟨i, o, r⟩ ⟨s', Function.update c.procs i (k r), ⟨i, o, r⟩ :: c.trace⟩

/-- A condition on steps. -/
abbrev Guard (ι Op : Type) (Ret : Op → Type) (ε α σ : Type) :=
  Config ι Op Ret ε α σ → Event ι Op Ret ε → Config ι Op Ret ε α σ → Prop

/-- No condition. -/
def unguarded : Guard ι Op Ret ε α σ := fun _ _ _ => True

instance (c : Config ι Op Ret ε α σ) (e : Event ι Op Ret ε) (c' : Config ι Op Ret ε α σ) :
    Decidable (unguarded c e c') := isTrue trivial

/-- A step that meets `G`, or a change of the store by itself. -/
inductive Move (S : System ι Op Ret ε σ) (G : Guard ι Op Ret ε α σ) :
    Config ι Op Ret ε α σ → Config ι Op Ret ε α σ → Prop where
  | act {c c' : Config ι Op Ret ε α σ} (e : Event ι Op Ret ε) (h : Step S c e c')
      (hG : G c e c') : Move S G c c'
  | env {c : Config ι Op Ret ε α σ} {s' : σ} (h : S.env c.shared s') :
      Move S G c { c with shared := s' }

/-- A run whose steps all meet `G`. -/
abbrev Run (S : System ι Op Ret ε σ) (G : Guard ι Op Ret ε α σ) :
    Config ι Op Ret ε α σ → Config ι Op Ret ε α σ → Prop := ReflTransGen (Move S G)

variable {S : System ι Op Ret ε σ} {G : Guard ι Op Ret ε α σ} {c c' : Config ι Op Ret ε α σ}
  {e : Event ι Op Ret ε}

/-! ### One step -/

/-- The step of a process whose program is at `o`. -/
theorem Step.inv_at {o : Op} {k : Except ε (Ret o) → Prog Op Ret ε α} (h : Step S c e c')
    (hp : c.procs e.pid = .op o k) :
    ∃ r s', e = ⟨e.pid, o, r⟩ ∧ S.exec e.pid o c.shared r s' ∧
      c' = ⟨s', Function.update c.procs e.pid (k r), ⟨e.pid, o, r⟩ :: c.trace⟩ := by
  obtain ⟨hk, hx⟩ := h
  rw [hp] at hk
  cases hk
  exact ⟨_, _, rfl, hx, rfl⟩

/-- As `Step.inv_at`: who moves, and who does not. -/
theorem Step.moved {o : Op} {k : Except ε (Ret o) → Prog Op Ret ε α} (h : Step S c e c')
    (hp : c.procs e.pid = .op o k) :
    ∃ r, e = ⟨e.pid, o, r⟩ ∧ S.exec e.pid o c.shared r c'.shared ∧ c'.procs e.pid = k r ∧
      ∀ j, j ≠ e.pid → c'.procs j = c.procs j := by
  obtain ⟨r, s', he, hx, rfl⟩ := h.inv_at hp
  exact ⟨r, he, hx, Function.update_self _ _ _, fun j hj => Function.update_of_ne hj _ _⟩

/-- A process that has ended takes no step. -/
theorem Step.not_ret {a : α} (h : Step S c e c') : c.procs e.pid ≠ .ret a := by
  obtain ⟨hk, -⟩ := h
  simp [hk]

theorem Step.not_raise {x : ε} (h : Step S c e c') : c.procs e.pid ≠ .raise x := by
  obtain ⟨hk, -⟩ := h
  simp [hk]

/-- One process moves on, with what is known of it; the others stand where they stood. -/
theorem forall_update₂ {A B : Type} {P : ι → A → B → Prop} {f : ι → A} {g : ι → B} {i : ι} {a : A}
    {b : B} (hi : P i a b) (hother : ∀ j, j ≠ i → P j (f j) (g j)) (j : ι) :
    P j (Function.update f i a j) (Function.update g i b j) := by
  by_cases hj : j = i
  · subst hj
    rw [Function.update_self, Function.update_self]
    exact hi
  · rw [Function.update_of_ne hj, Function.update_of_ne hj]
    exact hother j hj

/-! ### Runs -/

/-- What every step and every change by the environment preserves, a run preserves. -/
theorem Run.invariant {I : Config ι Op Ret ε α σ → Prop} (h : Run S G c c')
    (hact : ∀ d d' e, I d → G d e d' → Step S d e d' → I d')
    (henv : ∀ d s', I d → S.env d.shared s' → I { d with shared := s' }) (hc : I c) : I c' := by
  induction h with
  | refl => exact hc
  | tail _ hm ih =>
      cases hm with
      | act e hs hG => exact hact _ _ _ ih hG hs
      | env hs => exact henv _ _ ih hs

/-- A run is matched by an abstract run, when each of its moves is. -/
theorem Run.simulate {A : Type} {R : A → A → Prop} {rel : Config ι Op Ret ε α σ → A → Prop}
    (h : Run S G c c')
    (hact : ∀ d d' e a, rel d a → G d e d' → Step S d e d' → ∃ a', ReflTransGen R a a' ∧ rel d' a')
    (henv : ∀ d s' a, rel d a → S.env d.shared s' →
      ∃ a', ReflTransGen R a a' ∧ rel { d with shared := s' } a')
    {a : A} (hc : rel c a) : ∃ a', ReflTransGen R a a' ∧ rel c' a' := by
  induction h with
  | refl => exact ⟨a, .refl, hc⟩
  | tail _ hm ih =>
      obtain ⟨a₁, ha, hr⟩ := ih
      obtain ⟨a₂, ha', hr'⟩ : ∃ a₂, ReflTransGen R a₁ a₂ ∧ rel _ a₂ := by
        cases hm with
        | act e hs hG => exact hact _ _ _ _ hr hG hs
        | env hs => exact henv _ _ _ hr hs
      exact ⟨a₂, ha.trans ha', hr'⟩

/-- What the programs can perform, what is left of them after a step can perform. -/
theorem Step.only {P : Op → Prop} (h : Step S c e c') (hc : ∀ i, Prog.Only P (c.procs i)) (i : ι) :
    Prog.Only P (c'.procs i) := by
  obtain @⟨j, o, k, r, s', hp, -⟩ := h
  have honly := hc j
  rw [hp] at honly
  cases honly with
  | op _ hk =>
      show Prog.Only P (Function.update c.procs j (k r) i)
      by_cases hi : i = j
      · rw [hi, Function.update_self]
        exact hk r
      · rw [Function.update_of_ne hi]
        exact hc i

theorem Run.only {P : Op → Prop} (h : Run S G c c') (hc : ∀ i, Prog.Only P (c.procs i)) :
    ∀ i, Prog.Only P (c'.procs i) :=
  Run.invariant h (fun _ _ _ hd _ hs => hs.only hd) (fun _ _ hd _ => hd) hc

/-- A run under a condition is a run under a weaker one. -/
theorem Run.mono {G' : Guard ι Op Ret ε α σ} (h : Run S G c c')
    (hG : ∀ d e d', G d e d' → G' d e d') : Run S G' c c' := by
  refine ReflTransGen.mono (fun d d' hm => ?_) _ _ h
  cases hm with
  | act e hs hg => exact .act e hs (hG _ _ _ hg)
  | env hs => exact .env hs

/-- One more step of a run, given by its parts. -/
theorem Run.step {i : ι} {o : Op} {k : Except ε (Ret o) → Prog Op Ret ε α}
    {r : Except ε (Ret o)} {s' : σ} (h : Run S G c c') (hp : c'.procs i = .op o k)
    (hx : S.exec i o c'.shared r s')
    (hG : G c' ⟨i, o, r⟩ ⟨s', Function.update c'.procs i (k r), ⟨i, o, r⟩ :: c'.trace⟩) :
    Run S G c ⟨s', Function.update c'.procs i (k r), ⟨i, o, r⟩ :: c'.trace⟩ :=
  h.tail (.act _ (.mk hp hx) hG)

/-! ### Runs to the end -/

/-- Process `i`, at an operation, can take a step that meets `G` and keeps `I`. -/
def CanMove (S : System ι Op Ret ε σ) (G : Guard ι Op Ret ε α σ)
    (I : Config ι Op Ret ε α σ → Prop) (i : ι) : Prop :=
  ∀ d, I d → ¬ (d.procs i).Ended → ∃ e d', e.pid = i ∧ Step S d e d' ∧ G d e d' ∧ I d'

variable {I : Config ι Op Ret ε α σ → Prop}

/-- A process that can always move can run to its end, while the others stand still. -/
theorem Run.exists_ended_at {i : ι} (hmove : CanMove S G I i) (hc : I c) :
    ∃ c', Run S G c c' ∧ I c' ∧ (c'.procs i).Ended ∧ ∀ j, j ≠ i → c'.procs j = c.procs j := by
  generalize hp : c.procs i = p
  induction p generalizing c with
  | ret a => exact ⟨c, .refl, hc, hp ▸ Prog.ended_ret a, fun _ _ => rfl⟩
  | raise x => exact ⟨c, .refl, hc, hp ▸ Prog.ended_raise x, fun _ _ => rfl⟩
  | op o k ih =>
      obtain ⟨e, d, rfl, hs, hG, hd⟩ := hmove c hc fun hended => hended o k hp
      obtain ⟨r, -, -, hself, hstand⟩ := hs.moved hp
      obtain ⟨c', hrun, hI, hended, hother⟩ := ih r hd hself
      exact ⟨c', .head (.act e hs hG) hrun, hI, hended, fun j hj =>
        (hother j hj).trans (hstand j hj)⟩

/-- Finitely many processes, run to their ends one after the other. -/
theorem Run.exists_ended_of_mem (hmove : ∀ i, CanMove S G I i) (hc : I c) :
    ∀ l : List ι, ∃ c', Run S G c c' ∧ I c' ∧ ∀ i ∈ l, (c'.procs i).Ended
  | [] => ⟨c, .refl, hc, fun _ hi => absurd hi List.not_mem_nil⟩
  | i :: l => by
      obtain ⟨d, hd, hI, hl⟩ := Run.exists_ended_of_mem hmove hc l
      obtain ⟨c', hc', hI', hi, hother⟩ := Run.exists_ended_at (hmove i) hI
      refine ⟨c', hd.trans hc', hI', fun j hj => ?_⟩
      by_cases hji : j = i
      · exact hji ▸ hi
      · rw [hother j hji]
        exact hl j ((List.mem_cons.mp hj).resolve_left hji)

/-- Where every process that has not ended can move, a run can go on until all have ended. -/
theorem Run.exists_ended [Finite ι] (hmove : ∀ i, CanMove S G I i) (hc : I c) :
    ∃ c', Run S G c c' ∧ ∀ i, (c'.procs i).Ended := by
  obtain ⟨l, -, hl⟩ := Finite.exists_univ_list ι
  obtain ⟨c', hrun, -, hended⟩ := Run.exists_ended_of_mem hmove hc l
  exact ⟨c', hrun, fun i => hended i (hl i)⟩

/-! ### Schedules -/

section Replay

variable {E : Type} (exec? : ι → E → (o : Op) → σ → Option (Except ε (Ret o) × σ))
  (G : Guard ι Op Ret ε α σ) [∀ c e c', Decidable (G c e c')]

/-- The configuration after a schedule, which says whose turn it is and how the operation is
answered; `none` when a step is not possible or `G` refuses it. -/
def replay : List (ι × E) → Config ι Op Ret ε α σ → Option (Config ι Op Ret ε α σ)
  | [], c => some c
  | (i, x) :: rest, c =>
      match c.procs i with
      | .op o k =>
          match exec? i x o c.shared with
          | some (r, s') =>
              let c' := ⟨s', Function.update c.procs i (k r), ⟨i, o, r⟩ :: c.trace⟩
              if G c ⟨i, o, r⟩ c' then replay rest c' else none
          | none => none
      | _ => none

variable {exec?} {G}

/-- A schedule that can be followed is a run. -/
theorem Run.of_replay (hx : ∀ {i x o s r s'}, exec? i x o s = some (r, s') → S.exec i o s r s') :
    ∀ {schedule : List (ι × E)} {c : Config ι Op Ret ε α σ},
      replay exec? G schedule c = some c' → Run S G c c' := by
  intro schedule
  induction schedule with
  | nil =>
      intro c h
      cases h
      exact .refl
  | cons turn rest ih =>
      intro c h
      obtain ⟨i, x⟩ := turn
      unfold replay at h
      split at h
      · next o k hp =>
          split at h
          · next r s' hs =>
              simp only at h
              split at h
              · next hG => exact .head (.act _ (.mk hp (hx hs)) hG) (ih h)
              · cases h
          · cases h
      · cases h

/-- A schedule that leads to `P` is a run to `P`. -/
theorem Run.of_replay_any {P : Config ι Op Ret ε α σ → Prop} [DecidablePred P]
    {schedule : List (ι × E)} {c : Config ι Op Ret ε α σ}
    (hx : ∀ {i x o s r s'}, exec? i x o s = some (r, s') → S.exec i o s r s')
    (h : (replay exec? G schedule c).any (fun d => P d) = true) : ∃ d, Run S G c d ∧ P d := by
  obtain ⟨d, hd, hP⟩ := (Option.any_eq_true _ _).mp h
  exact ⟨d, Run.of_replay hx hd, of_decide_eq_true hP⟩

end Replay

end Support

import RcsMiddleware.Support.Interleaving

/-!
# Support — Observers

A system watched by an observer, who keeps notes of what happens and never interferes.  The notes
stand beside the store, so runs, conditions and schedules of a watched system are those of
`Interleaving.lean`, and a condition may speak of the notes.

* `Step.watch_at`: the step of a process whose program is known.
* `Run.watched_invariant`: what every step and every change of the store preserves, with the notes
  taken of it.
* `Run.watch`: every run can be watched.
-/

namespace Support

variable {ι Op : Type} {Ret : Op → Type} {ε α σ Γ : Type}

/-- What an observer notes at a step, and at a change of the store by itself. -/
structure Observer (ι Op : Type) (Ret : Op → Type) (ε σ Γ : Type) where
  step : Γ → ι → (o : Op) → σ → Except ε (Ret o) → σ → Γ
  env : Γ → σ → σ → Γ

/-- The system under an observer. -/
def System.watch (S : System ι Op Ret ε σ) (O : Observer ι Op Ret ε σ Γ) :
    System ι Op Ret ε (σ × Γ) where
  exec i o s r s' := S.exec i o s.1 r s'.1 ∧ s'.2 = O.step s.2 i o s.1 r s'.1
  env s s' := S.env s.1 s'.1 ∧ s'.2 = O.env s.2 s.1 s'.1

/-- The configuration with these notes. -/
def Config.watch (c : Config ι Op Ret ε α σ) (γ : Γ) : Config ι Op Ret ε α (σ × Γ) :=
  ⟨(c.shared, γ), c.procs, c.trace⟩

/-- The configuration without its notes. -/
def Config.unwatch (c : Config ι Op Ret ε α (σ × Γ)) : Config ι Op Ret ε α σ :=
  ⟨c.shared.1, c.procs, c.trace⟩

/-- How a watched store answers, given how the store does. -/
def Observer.exec? {E : Type} (O : Observer ι Op Ret ε σ Γ)
    (exec? : ι → E → (o : Op) → σ → Option (Except ε (Ret o) × σ)) (i : ι) (x : E) (o : Op)
    (s : σ × Γ) : Option (Except ε (Ret o) × (σ × Γ)) :=
  (exec? i x o s.1).map fun (r, s') => (r, s', O.step s.2 i o s.1 r s')

variable [DecidableEq ι] {S : System ι Op Ret ε σ} {O : Observer ι Op Ret ε σ Γ}
  {G : Guard ι Op Ret ε α σ}

/-- A condition of the system, under an observer. -/
def Guard.watch (G : Guard ι Op Ret ε α σ) : Guard ι Op Ret ε α (σ × Γ) := fun c e c' =>
  G c.unwatch e c'.unwatch

/-- As `Step.inv_at`, under an observer. -/
theorem Step.watch_at {c c' : Config ι Op Ret ε α (σ × Γ)} {e : Event ι Op Ret ε} {o : Op}
    {k : Except ε (Ret o) → Prog Op Ret ε α} (h : Step (S.watch O) c e c')
    (hp : c.procs e.pid = .op o k) :
    ∃ r s', e = ⟨e.pid, o, r⟩ ∧ S.exec e.pid o c.shared.1 r s' ∧
      c' = ⟨(s', O.step c.shared.2 e.pid o c.shared.1 r s'),
        Function.update c.procs e.pid (k r), ⟨e.pid, o, r⟩ :: c.trace⟩ := by
  obtain ⟨r, ⟨s', γ⟩, he, ⟨hx, hγ⟩, rfl⟩ := h.inv_at hp
  dsimp only at hγ
  subst hγ
  exact ⟨r, s', he, hx, rfl⟩

/-- As `Run.invariant`, under an observer. -/
theorem Run.watched_invariant {G : Guard ι Op Ret ε α (σ × Γ)}
    {I : Config ι Op Ret ε α (σ × Γ) → Prop} {c c' : Config ι Op Ret ε α (σ × Γ)}
    (h : Run (S.watch O) G c c')
    (hact : ∀ d d' e, I d → G d e d' → Step (S.watch O) d e d' → I d')
    (henv : ∀ d s', I d → S.env d.shared.1 s' →
      I { d with shared := (s', O.env d.shared.2 d.shared.1 s') })
    (hc : I c) : I c' := by
  refine Run.invariant h hact ?_ hc
  rintro d ⟨s', γ⟩ hd ⟨hs, hγ⟩
  dsimp only at hs hγ
  subst hγ
  exact henv d s' hd hs

/-- The observer forbids nothing. -/
theorem Run.watch {c c' : Config ι Op Ret ε α σ} (h : Run S G c c') (γ : Γ) :
    ∃ γ', Run (S.watch O) G.watch (c.watch γ) (c'.watch γ') := by
  induction h with
  | refl => exact ⟨γ, .refl⟩
  | tail _ hm ih =>
      obtain ⟨γ₁, h₁⟩ := ih
      cases hm with
      | act e hs hG =>
          obtain ⟨hp, hx⟩ := hs
          exact ⟨O.step γ₁ _ _ _ _ _, h₁.tail (.act _ (.mk hp ⟨hx, rfl⟩) hG)⟩
      | env hs => exact ⟨O.env γ₁ _ _, h₁.tail (.env ⟨hs, rfl⟩)⟩

omit [DecidableEq ι] in
theorem Observer.of_exec? {E : Type} {exec? : ι → E → (o : Op) → σ → Option (Except ε (Ret o) × σ)}
    (hx : ∀ {i x o s r s'}, exec? i x o s = some (r, s') → S.exec i o s r s') {i : ι} {x : E}
    {o : Op} {s s' : σ × Γ} {r : Except ε (Ret o)} (h : O.exec? exec? i x o s = some (r, s')) :
    (S.watch O).exec i o s r s' := by
  obtain ⟨⟨r', w⟩, hw, he⟩ := Option.map_eq_some_iff.mp h
  cases he
  exact ⟨hx hw, rfl⟩

end Support

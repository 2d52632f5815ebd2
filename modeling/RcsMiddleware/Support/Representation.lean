import RcsMiddleware.Support.Interleaving

/-!
# Support — Representation

One system keeps the states of another in a form of its own: its state is `rep s` where that of the
other is `s`.

* `Mirrors`: what has to hold of their steps, from the states that can be represented.
* `Run.represented`: the runs of the one are those of the other, with the same programs and answers.
-/

namespace Support

variable {ι Op : Type} {Ret : Op → Type} {ε α σ τ : Type}

/-- The steps of `T` from what represents a state are those of `S` from that state, with events that
`E` accepts. -/
structure Mirrors (T : System ι Op Ret ε τ) (S : System ι Op Ret ε σ)
    (E : Event ι Op Ret ε → Prop) (rep : σ → τ) (ok : σ → Prop) : Prop where
  exec : ∀ {i o s r t'}, ok s →
    (T.exec i o (rep s) r t' ↔ ∃ s', S.exec i o s r s' ∧ rep s' = t' ∧ E ⟨i, o, r⟩)
  env : ∀ {s t'}, ok s → (T.env (rep s) t' ↔ ∃ s', S.env s s' ∧ rep s' = t')

/-- The configuration with its state in the other form. -/
def Config.represent (rep : σ → τ) (c : Config ι Op Ret ε α σ) : Config ι Op Ret ε α τ :=
  ⟨rep c.shared, c.procs, c.trace⟩

/-- The events are those that `E` accepts. -/
def Accepting (E : Event ι Op Ret ε → Prop) : Guard ι Op Ret ε α σ := fun _ e _ => E e

variable [DecidableEq ι] {S : System ι Op Ret ε σ} {T : System ι Op Ret ε τ}
  {E : Event ι Op Ret ε → Prop} {rep : σ → τ} {ok : σ → Prop}

/-- **The runs on the represented states** are the runs on the states themselves, as long as these stay
among those that can be represented. -/
theorem Run.represented (hrep : Mirrors T S E rep ok) {c : Config ι Op Ret ε α σ}
    {c' : Config ι Op Ret ε α τ} (hok : ∀ d, Run S (Accepting E) c d → ok d.shared) :
    Run T unguarded (c.represent rep) c' ↔ ∃ d, Run S (Accepting E) c d ∧ c' = d.represent rep := by
  constructor
  · intro h
    induction h with
    | refl => exact ⟨c, .refl, rfl⟩
    | tail _ hm ih =>
        obtain ⟨d, hd, rfl⟩ := ih
        cases hm with
        | act e hs _ =>
            obtain ⟨hp, hx⟩ := hs
            -- The state before is one that can be represented, so the step is one on it.
            obtain ⟨s', hx', rfl, hE⟩ := (hrep.exec (hok d hd)).mp hx
            exact ⟨_, hd.step hp hx' hE, rfl⟩
        | env hs =>
            obtain ⟨s', hs', rfl⟩ := (hrep.env (hok d hd)).mp hs
            exact ⟨_, hd.tail (.env hs'), rfl⟩
  · rintro ⟨d, hd, rfl⟩
    induction hd with
    | refl => exact .refl
    | tail hd hm ih =>
        cases hm with
        | act e hs hE =>
            obtain ⟨hp, hx⟩ := hs
            exact ih.step hp ((hrep.exec (hok _ hd)).mpr ⟨_, hx, rfl, hE⟩) trivial
        | env hs => exact ih.tail (.env ((hrep.env (hok _ hd)).mpr ⟨_, hs, rfl⟩))

end Support

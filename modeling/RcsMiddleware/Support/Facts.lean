import Mathlib.Order.Basic
import RcsMiddleware.Support.Interleaving

/-!
# Support — Facts

Programs that rely on facts about the store which, once they hold, hold for ever.  The facts of a
store are an element of a preorder, and no step takes one away.  Beside them each process has a note
of its own, of what it has done that the store does not show to the others yet.  A `Discipline` says
which operations the facts allow, and what a process may note after an answer.

* `Keeps D Q f l p`: from the facts `f` and the note `l`, `p` performs what `D` allows, and returns
  what `Q` accepts of the facts by then.
* `Keeps.bind`, `Keeps.tryCatch`, `Keeps.tryFinally`: the rules for compound programs; `bind_fixed`
  and its like where a process has one note for ever.
* `Run.keeps`: what each process of a system keeps to, it keeps to beside the others.
-/

namespace Support

variable {ι Op : Type} {Ret : Op → Type} {ε α β σ F L : Type}

/-- Which operations the facts allow; and `learns f l o r l'`: with `o` answered by `r`, and the
facts now `f`, the note `l` may become `l'`. -/
structure Discipline (Op : Type) (Ret : Op → Type) (ε F L : Type) where
  allows : F → Op → Prop
  learns : F → L → (o : Op) → Except ε (Ret o) → L → Prop

variable [Preorder F] {D : Discipline Op Ret ε F L} {Q : F → α → Prop} {f f' : F} {l : L}

/-- The program keeps to the discipline, whatever more becomes known while it runs. -/
inductive Keeps (D : Discipline Op Ret ε F L) (Q : F → α → Prop) :
    F → L → Prog Op Ret ε α → Prop where
  | ret {f : F} {l : L} {a : α} (ha : Q f a) : Keeps D Q f l (.ret a)
  | raise {f : F} {l : L} (e : ε) : Keeps D Q f l (.raise e)
  | op {f : F} {l : L} {o : Op} {k : Except ε (Ret o) → Prog Op Ret ε α} (ho : D.allows f o)
      (hk : ∀ r f' l', f ≤ f' → D.learns f' l o r l' → Keeps D Q f' l' (k r)) :
      Keeps D Q f l (.op o k)

namespace Keeps

/-- More facts do no harm. -/
theorem mono {p : Prog Op Ret ε α} (hp : Keeps D Q f l p)
    (hallows : ∀ {f f' : F} {o}, f ≤ f' → D.allows f o → D.allows f' o)
    (hQ : ∀ {f f' : F} {a}, f ≤ f' → Q f a → Q f' a) (hf : f ≤ f') : Keeps D Q f' l p := by
  cases hp with
  | ret ha => exact .ret (hQ hf ha)
  | raise e => exact .raise e
  | op ho hk => exact .op (hallows hf ho) fun r f'' l' hf' hl => hk r f'' l' (hf.trans hf') hl

theorem bind {Q' : F → β → Prop} {p : Prog Op Ret ε α} {g : α → Prog Op Ret ε β}
    (hp : Keeps D Q f l p)
    (hg : ∀ a f' l', f ≤ f' → Q f' a → Keeps D Q' f' l' (g a)) : Keeps D Q' f l (p.bind g) := by
  induction hp with
  | ret ha => exact hg _ _ _ le_rfl ha
  | raise e => exact .raise e
  | op ho _ ih =>
      refine .op ho fun r f' l' hf hl => ih r f' l' hf hl fun a f'' l'' hf' ha => ?_
      exact hg a f'' l'' (hf.trans hf') ha

theorem tryCatch {p : Prog Op Ret ε α} {g : ε → Prog Op Ret ε α} (hp : Keeps D Q f l p)
    (hg : ∀ e f' l', f ≤ f' → Keeps D Q f' l' (g e)) : Keeps D Q f l (p.tryCatch g) := by
  induction hp with
  | ret ha => exact .ret ha
  | raise e => exact hg e _ _ le_rfl
  | op ho _ ih =>
      refine .op ho fun r f' l' hf hl => ih r f' l' hf hl fun e f'' l'' hf' => ?_
      exact hg e f'' l'' (hf.trans hf')

theorem tryFinally {p : Prog Op Ret ε α} {fin : Prog Op Ret ε Unit} (hp : Keeps D Q f l p)
    (hQ : ∀ {f f' : F} {a}, f ≤ f' → Q f a → Q f' a)
    (hfin : ∀ f' l', f ≤ f' → Keeps D (fun _ _ => True) f' l' fin) :
    Keeps D Q f l (p.tryFinally fin) := by
  refine .bind (Q := Q) (.tryCatch hp fun e f' l' hf => ?_) fun a f' l' hf ha => ?_
  · exact .bind (hfin f' l' hf) fun _ _ _ _ _ => .raise e
  · exact .bind (hfin f' l' hf) fun _ _ _ hf' _ => .ret (hQ hf' ha)

theorem ofExcept {r : Except ε α} (h : ∀ a, r = .ok a → Q f a) :
    Keeps D Q f l (Prog.ofExcept r : Prog Op Ret ε α) := by
  cases r with
  | ok a => exact .ret (h a rfl)
  | error e => exact .raise e

theorem perform {o : Op} {Q : F → Ret o → Prop} (ho : D.allows f o)
    (h : ∀ a f' l', f ≤ f' → D.learns f' l o (.ok a) l' → Q f' a) :
    Keeps D Q f l (Prog.perform o) := by
  refine .op ho fun r f' l' hf hl => .ofExcept fun a ha => ?_
  subst ha
  exact h a f' l' hf hl

/-! ### Notes that never change -/

variable (hfix : ∀ {f : F} {l l' : L} {o : Op} {r : Except ε (Ret o)}, D.learns f l o r l' → l' = l)

include hfix

/-- As `Keeps.bind`, where a process has one note for ever. -/
theorem bind_fixed {Q' : F → β → Prop} {p : Prog Op Ret ε α} {g : α → Prog Op Ret ε β}
    (hp : Keeps D Q f l p) (hg : ∀ a f', f ≤ f' → Q f' a → Keeps D Q' f' l (g a)) :
    Keeps D Q' f l (p.bind g) := by
  induction hp with
  | ret ha => exact hg _ _ le_rfl ha
  | raise e => exact .raise e
  | op ho _ ih =>
      refine .op ho fun r f' l' hf hl => ih r f' l' hf hl fun a f'' hf' ha => ?_
      rw [hfix hl]
      exact hg a f'' (hf.trans hf') ha

theorem tryCatch_fixed {p : Prog Op Ret ε α} {g : ε → Prog Op Ret ε α} (hp : Keeps D Q f l p)
    (hg : ∀ e f', f ≤ f' → Keeps D Q f' l (g e)) : Keeps D Q f l (p.tryCatch g) := by
  induction hp with
  | ret ha => exact .ret ha
  | raise e => exact hg e _ le_rfl
  | op ho _ ih =>
      refine .op ho fun r f' l' hf hl => ih r f' l' hf hl fun e f'' hf' => ?_
      rw [hfix hl]
      exact hg e f'' (hf.trans hf')

theorem tryFinally_fixed {p : Prog Op Ret ε α} {fin : Prog Op Ret ε Unit} (hp : Keeps D Q f l p)
    (hQ : ∀ {f f' : F} {a}, f ≤ f' → Q f a → Q f' a)
    (hfin : ∀ f', f ≤ f' → Keeps D (fun _ _ => True) f' l fin) :
    Keeps D Q f l (p.tryFinally fin) := by
  refine .bind_fixed (Q := Q) hfix (.tryCatch_fixed hfix hp fun e f' hf => ?_) fun a f' hf ha => ?_
  · exact .bind (hfin f' hf) fun _ _ _ _ _ => .raise e
  · exact .bind (hfin f' hf) fun _ _ _ hf' _ => .ret (hQ hf' ha)

omit hfix

end Keeps

/-- The steps of a system are sound for a discipline: `inv` holds of the store, `facts` are what it
makes known, and `owns` connects a process's note with the store. -/
structure Discipline.Governs (D : Discipline Op Ret ε F L) (S : System ι Op Ret ε σ) (facts : σ → F)
    (inv : σ → Prop) (owns : σ → ι → L → Prop) : Prop where
  step : ∀ {i o s r s' l}, S.exec i o s r s' → inv s → owns s i l → D.allows (facts s) o →
    inv s' ∧ facts s ≤ facts s' ∧ (∃ l', owns s' i l' ∧ D.learns (facts s') l o r l') ∧
      ∀ j l, j ≠ i → owns s j l → owns s' j l
  env : ∀ {s s'}, S.env s s' → inv s →
    inv s' ∧ facts s ≤ facts s' ∧ ∀ j l, owns s j l → owns s' j l

/-- **Each process keeps to the discipline** beside the others. -/
theorem Run.keeps [DecidableEq ι] {S : System ι Op Ret ε σ} {G : Guard ι Op Ret ε α σ}
    {c c' : Config ι Op Ret ε α σ} {facts : σ → F} {inv : σ → Prop} {owns : σ → ι → L → Prop}
    (hD : D.Governs S facts inv owns)
    (hallows : ∀ {f f' : F} {o}, f ≤ f' → D.allows f o → D.allows f' o)
    (hQ : ∀ {f f' : F} {a}, f ≤ f' → Q f a → Q f' a) (h : Run S G c c') (hinv : inv c.shared)
    (hc : ∀ i, ∃ l, owns c.shared i l ∧ Keeps D Q (facts c.shared) l (c.procs i)) :
    inv c'.shared ∧ ∀ i, ∃ l, owns c'.shared i l ∧ Keeps D Q (facts c'.shared) l (c'.procs i) := by
  refine Run.invariant (I := fun d => inv d.shared ∧
    ∀ i, ∃ l, owns d.shared i l ∧ Keeps D Q (facts d.shared) l (d.procs i)) h ?_ ?_ ⟨hinv, hc⟩
  · rintro d d' e ⟨hinv, hd⟩ - hs
    obtain ⟨l, hown, hkeep⟩ := hd e.pid
    generalize hp : d.procs e.pid = p at hkeep
    cases hkeep with
    | ret _ => exact absurd hp hs.not_ret
    | raise _ => exact absurd hp hs.not_raise
    | op ho hk =>
        obtain ⟨r, -, hx, hself, hother⟩ := hs.moved hp
        -- What the process that moves owns may change; what the others know stays true.
        obtain ⟨hinv', hfacts, ⟨l', hown', hl⟩, hframe⟩ := hD.step hx hinv hown ho
        refine ⟨hinv', fun i => ?_⟩
        by_cases hi : i = e.pid
        · subst hi
          exact ⟨l', hown', hself ▸ hk r _ l' hfacts hl⟩
        · obtain ⟨m, hm, hkm⟩ := hd i
          exact ⟨m, hframe i m hi hm, hother i hi ▸ hkm.mono hallows hQ hfacts⟩
  · rintro d s' ⟨hinv, hd⟩ hs
    obtain ⟨hinv', hfacts, hframe⟩ := hD.env hs hinv
    refine ⟨hinv', fun i => ?_⟩
    obtain ⟨m, hm, hkm⟩ := hd i
    exact ⟨m, hframe i m hm, hkm.mono hallows hQ hfacts⟩

end Support

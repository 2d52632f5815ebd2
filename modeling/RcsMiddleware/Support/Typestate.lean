import Mathlib.Data.DFinsupp.WellFounded
import RcsMiddleware.Support.Interleaving

/-!
# Support — Typestate

Programs whose operations are allowed in some states and not in others, and runs that go on until
nobody can move.  A `Typestate` says which operations a process may perform in a state of its own,
and which states an answer may take it to.

* `Adheres T Q E l p`: from `l`, `p` performs what `T` allows; it returns in a state of `Q`, and
  raises in a state of `E`.
* `Adheres.bind`, `Adheres.tryCatch`, `Adheres.tryFinally`: the rules for compound programs.
* `Run.adheres`: each process of a run is in a state the store shows, and adheres to it.
* `Run.exists_stuck`: finitely many processes run until none of them can move.
-/

namespace Support

variable {ι Op : Type} {Ret : Op → Type} {ε α β σ L : Type}

/-- What a process may do in a state, and the states an answer may take it to. -/
structure Typestate (Op : Type) (Ret : Op → Type) (ε L : Type) where
  allows : L → Op → Prop
  next : L → (o : Op) → Except ε (Ret o) → L → Prop

variable {T : Typestate Op Ret ε L} {Q E : L → Prop} {l : L}

/-- The program does what its states allow, and ends in the states that `Q` and `E` accept. -/
inductive Adheres (T : Typestate Op Ret ε L) (Q E : L → Prop) : L → Prog Op Ret ε α → Prop where
  | ret {l : L} {a : α} (h : Q l) : Adheres T Q E l (.ret a)
  | raise {l : L} {e : ε} (h : E l) : Adheres T Q E l (.raise e)
  | op {l : L} {o : Op} {k : Except ε (Ret o) → Prog Op Ret ε α} (ho : T.allows l o)
      (hk : ∀ r l', T.next l o r l' → Adheres T Q E l' (k r)) : Adheres T Q E l (.op o k)

namespace Adheres

theorem mono {Q' E' : L → Prop} {p : Prog Op Ret ε α} (hp : Adheres T Q E l p)
    (hQ : ∀ l, Q l → Q' l) (hE : ∀ l, E l → E' l) : Adheres T Q' E' l p := by
  induction hp with
  | ret h => exact .ret (hQ _ h)
  | raise h => exact .raise (hE _ h)
  | op ho _ ih => exact .op ho ih

theorem bind {Q' : L → Prop} {p : Prog Op Ret ε α} {g : α → Prog Op Ret ε β}
    (hp : Adheres T Q E l p) (hg : ∀ a l', Q l' → Adheres T Q' E l' (g a)) :
    Adheres T Q' E l (p.bind g) := by
  induction hp with
  | ret h => exact hg _ _ h
  | raise h => exact .raise h
  | op ho _ ih => exact .op ho ih

theorem tryCatch {E' : L → Prop} {p : Prog Op Ret ε α} {g : ε → Prog Op Ret ε α}
    (hp : Adheres T Q E l p) (hg : ∀ e l', E l' → Adheres T Q E' l' (g e)) :
    Adheres T Q E' l (p.tryCatch g) := by
  induction hp with
  | ret h => exact .ret h
  | raise h => exact hg _ _ h
  | op ho _ ih => exact .op ho ih

/-- After the exception of `p`, its end is that of an exception too (`hle`). -/
theorem tryFinally {Q' E' : L → Prop} {p : Prog Op Ret ε α} {fin : Prog Op Ret ε Unit}
    (hp : Adheres T Q E l p) (hfin : ∀ l', Q l' ∨ E l' → Adheres T Q' E' l' fin)
    (hle : ∀ l', Q' l' → E' l') : Adheres T Q' E' l (p.tryFinally fin) := by
  have hraise : ∀ e l', E l' → Adheres T Q E' l' (fin.bind fun _ => (.raise e : Prog Op Ret ε α)) :=
    fun e l' h => (hfin l' (.inr h)).bind fun _ l' h => .raise (hle l' h)
  exact (hp.tryCatch hraise).bind fun a l' h => (hfin l' (.inl h)).bind fun _ _ h => .ret h

theorem discard {p : Prog Op Ret ε α} (hp : Adheres T Q E l p) : Adheres T Q E l p.discard :=
  hp.bind fun _ _ h => .ret h

theorem ofExcept {r : Except ε α} (hQ : Q l) (hE : E l) :
    Adheres T Q E l (Prog.ofExcept r : Prog Op Ret ε α) := by
  cases r with
  | ok a => exact .ret hQ
  | error e => exact .raise hE

theorem perform {o : Op} (ho : T.allows l o) (hQ : ∀ a l', T.next l o (.ok a) l' → Q l')
    (hE : ∀ e l', T.next l o (.error e) l' → E l') :
    Adheres T Q E l (Prog.perform o : Prog Op Ret ε (Ret o)) := by
  refine .op ho fun r l' h => ?_
  cases r with
  | ok a => exact .ret (hQ a l' h)
  | error e => exact .raise (hE e l' h)

/-- A program whose operations are allowed in the states of `I`, and keep to them. -/
theorem of_only {I : L → Prop} {P : Op → Prop} {p : Prog Op Ret ε α} (hp : Prog.Only P p)
    (hallows : ∀ l o, I l → P o → T.allows l o)
    (hnext : ∀ l o r l', I l → P o → T.next l o r l' → I l') (hl : I l) : Adheres T I I l p := by
  induction hp generalizing l with
  | ret a => exact .ret hl
  | raise e => exact .raise hl
  | op ho _ ih => exact .op (hallows l _ hl ho) fun r l' h => ih r (hnext l _ r l' hl ho h)

end Adheres

/-- The store shows the states of the processes: a step takes the process that makes it to a next
state, and leaves the others in theirs. -/
structure Typestate.Governs (T : Typestate Op Ret ε L) (S : System ι Op Ret ε σ)
    (shows : σ → ι → L → Prop) : Prop where
  step : ∀ {i o s r s' l}, S.exec i o s r s' → shows s i l → T.allows l o →
    (∃ l', shows s' i l' ∧ T.next l o r l') ∧ ∀ j l, j ≠ i → shows s j l → shows s' j l
  env : ∀ {s s' j l}, S.env s s' → shows s j l → shows s' j l

section Runs

variable [DecidableEq ι] {S : System ι Op Ret ε σ} {G : Guard ι Op Ret ε α σ}
  {c c' : Config ι Op Ret ε α σ}

/-- **Each process adheres** to the typestate beside the others. -/
theorem Run.adheres {shows : σ → ι → L → Prop} (hT : T.Governs S shows) (h : Run S G c c')
    (hc : ∀ i, ∃ l, shows c.shared i l ∧ Adheres T Q E l (c.procs i)) :
    ∀ i, ∃ l, shows c'.shared i l ∧ Adheres T Q E l (c'.procs i) := by
  refine Run.invariant (I := fun d => ∀ i, ∃ l, shows d.shared i l ∧ Adheres T Q E l (d.procs i))
    h ?_ ?_ hc
  · intro d d' e hd _ hs
    obtain ⟨l, hl, hp⟩ := hd e.pid
    generalize hprog : d.procs e.pid = p at hp
    cases hp with
    | ret _ => exact absurd hprog hs.not_ret
    | raise _ => exact absurd hprog hs.not_raise
    | op ho hk =>
        obtain ⟨r, -, hx, hself, hother⟩ := hs.moved hprog
        obtain ⟨⟨l', hl', hnext⟩, hframe⟩ := hT.step hx hl ho
        intro i
        by_cases hi : i = e.pid
        · subst hi
          exact ⟨l', hl', hself ▸ hk r l' hnext⟩
        · obtain ⟨m, hm, hq⟩ := hd i
          exact ⟨m, hframe i m hi hm, hother i hi ▸ hq⟩
  · intro d s' hd hs i
    obtain ⟨m, hm, hq⟩ := hd i
    exact ⟨m, hT.env hs hm, hq⟩

/-! ### Runs that go on until nobody can move -/

/-- No process can take a step that meets `G`. -/
def Stuck (S : System ι Op Ret ε σ) (G : Guard ι Op Ret ε α σ) (c : Config ι Op Ret ε α σ) : Prop :=
  ∀ e c', Step S c e c' → ¬ G c e c'

/-- `p` is what is left of `q` after an operation. -/
def Rest (p q : Prog Op Ret ε α) : Prop :=
  ∃ (o : Op) (k : Except ε (Ret o) → Prog Op Ret ε α) (r : Except ε (Ret o)), q = .op o k ∧ p = k r

omit [DecidableEq ι] in
theorem rest_wellFounded : WellFounded (Rest : Prog Op Ret ε α → Prog Op Ret ε α → Prop) := by
  refine ⟨fun p => ?_⟩
  induction p with
  | ret a => exact ⟨_, fun _ ⟨_, _, _, h, _⟩ => by cases h⟩
  | raise e => exact ⟨_, fun _ ⟨_, _, _, h, _⟩ => by cases h⟩
  | op o k ih =>
      refine ⟨_, fun q ⟨_, _, r, h, hq⟩ => ?_⟩
      cases h
      rw [hq]
      exact ih r

/-- Finitely many processes take finitely many steps. -/
theorem step_wellFounded [Finite ι] (S : System ι Op Ret ε σ) :
    WellFounded fun d c : Config ι Op Ret ε α σ => ∃ e, Step S c e d := by
  have hrest : ∀ _ : ι, WellFounded (Rest : Prog Op Ret ε α → Prog Op Ret ε α → Prop) := fun _ =>
    rest_wellFounded
  refine Subrelation.wf ?_ (InvImage.wf Config.procs (Pi.Lex.wellFounded WellOrderingRel hrest))
  rintro d c ⟨e, @⟨i, o, k, r, s', hp, -⟩⟩
  refine ⟨i, fun j hj => ?_, o, k, r, hp, ?_⟩
  · have hne : j ≠ i := fun h => by
      subst h
      exact irrefl j hj
    exact Function.update_of_ne hne _ _
  · exact Function.update_self _ _ _

/-- **Finitely many processes** can run until none of them can move. -/
theorem Run.exists_stuck [Finite ι] (S : System ι Op Ret ε σ) (G : Guard ι Op Ret ε α σ)
    (c : Config ι Op Ret ε α σ) : ∃ c', Run S G c c' ∧ Stuck S G c' := by
  induction c using (step_wellFounded S).induction with
  | _ c ih =>
    by_cases hstuck : Stuck S G c
    · exact ⟨c, .refl, hstuck⟩
    · simp only [Stuck, not_forall, not_not] at hstuck
      obtain ⟨e, d, hs, hG⟩ := hstuck
      obtain ⟨c', hrun, hc'⟩ := ih d ⟨e, hs⟩
      exact ⟨c', .head (.act e hs hG) hrun, hc'⟩

end Runs

end Support

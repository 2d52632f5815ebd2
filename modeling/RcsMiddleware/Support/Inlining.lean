import RcsMiddleware.Support.Retrying
import RcsMiddleware.Support.Interleaving

/-!
# Support — Inlining

Two levels of a system of programs.  On the upper level an operation is atomic; on the lower one some
operations have bodies, programs of operations of their own, and the programs run with the bodies in
the operations' places.  Between two operations of a body other processes move.

* `Prog.inline`: a program with the bodies in place.
* `Prog.EndsWith A`: the results a program can have when its operations are answered as `A` allows;
  what compound programs can end with.
* `Realizes`: what has to hold of the two systems.  The operations of a body are not seen on the upper
  level, where an operation may be answered with the result its body has ended with.
* `Run.inline`: a run on the lower level is matched by a run on the upper one.
-/

namespace Support

open Relation (ReflTransGen)

variable {ι Op : Type} {Ret : Op → Type} {ε α β σ τ : Type}

namespace Prog

/-- `p`, returning how it ended. -/
def attempt : Prog Op Ret ε α → Prog Op Ret ε (Except ε α)
  | .ret a => .ret (.ok a)
  | .raise e => .ret (.error e)
  | .op o k => .op o fun r => attempt (k r)

/-- `p`, with each operation that has a body replaced by it. -/
def inline (body : (o : Op) → Option (Prog Op Ret ε (Ret o))) : Prog Op Ret ε α → Prog Op Ret ε α
  | .ret a => .ret a
  | .raise e => .raise e
  | .op o k =>
      match body o with
      | none => .op o fun r => inline body (k r)
      | some b => b.attempt.bind fun r => inline body (k r)

/-- The answers among `A` can lead the program to this result. -/
inductive EndsWith (A : (o : Op) → Except ε (Ret o) → Prop) :
    Prog Op Ret ε α → Except ε α → Prop where
  | ret (a : α) : EndsWith A (.ret a) (.ok a)
  | raise (e : ε) : EndsWith A (.raise e) (.error e)
  | op {o : Op} {k : Except ε (Ret o) → Prog Op Ret ε α} {r : Except ε (Ret o)} {res : Except ε α}
      (hr : A o r) (h : EndsWith A (k r) res) : EndsWith A (.op o k) res

variable {body : (o : Op) → Option (Prog Op Ret ε (Ret o))}
  {A A' : (o : Op) → Except ε (Ret o) → Prop}

theorem inline_of_none {o : Op} {k : Except ε (Ret o) → Prog Op Ret ε α} (h : body o = none) :
    inline body (.op o k) = .op o fun r => inline body (k r) := by
  rw [inline]
  simp only [h]

theorem inline_of_some {o : Op} {k : Except ε (Ret o) → Prog Op Ret ε α} {b : Prog Op Ret ε (Ret o)}
    (h : body o = some b) : inline body (.op o k) = b.attempt.bind fun r => inline body (k r) := by
  rw [inline]
  simp only [h]

/-- Where a program has ended, the rest is what follows its result. -/
theorem Ended.attempt_bind {p : Prog Op Ret ε α} (h : p.Ended)
    (A : (o : Op) → Except ε (Ret o) → Prop) (f : Except ε α → Prog Op Ret ε β) :
    ∃ res, p.EndsWith A res ∧ p.attempt.bind f = f res := by
  cases p with
  | ret a => exact ⟨.ok a, .ret a, rfl⟩
  | raise e => exact ⟨.error e, .raise e, rfl⟩
  | op o k => exact absurd rfl (h o k)

theorem not_ended {p : Prog Op Ret ε α} (h : ¬ p.Ended) : ∃ o k, p = .op o k := by
  cases p with
  | ret a => exact absurd (ended_ret a) h
  | raise e => exact absurd (ended_raise e) h
  | op o k => exact ⟨o, k, rfl⟩

/-! ### The results of compound programs -/

namespace EndsWith

theorem mono {p : Prog Op Ret ε α} {res : Except ε α} (h : p.EndsWith A res)
    (hA : ∀ o r, A o r → A' o r) : p.EndsWith A' res := by
  induction h with
  | ret a => exact .ret a
  | raise e => exact .raise e
  | op hr _ ih => exact .op (hA _ _ hr) ih

/-- A value of `p`, then `f`, is one of `f` at a value of `p`. -/
theorem of_bind {p : Prog Op Ret ε α} {f : α → Prog Op Ret ε β} {b : β}
    (h : (p.bind f).EndsWith A (.ok b)) : ∃ a, p.EndsWith A (.ok a) ∧ (f a).EndsWith A (.ok b) := by
  induction p with
  | ret a => exact ⟨a, .ret a, h⟩
  | raise e => cases h
  | op o k ih =>
      cases h with
      | op hr h =>
          obtain ⟨a, hp, hf⟩ := ih _ h
          exact ⟨a, .op hr hp, hf⟩

/-- A value of `p` with a handler is one of `p`, or of the handler. -/
theorem of_tryCatch {p : Prog Op Ret ε α} {g : ε → Prog Op Ret ε α} {a : α}
    (h : (p.tryCatch g).EndsWith A (.ok a)) :
    p.EndsWith A (.ok a) ∨ ∃ e, (g e).EndsWith A (.ok a) := by
  induction p with
  | ret a' => exact .inl h
  | raise e => exact .inr ⟨e, h⟩
  | op o k ih =>
      cases h with
      | op hr h => exact (ih _ h).imp_left fun hp => .op hr hp

/-- As `of_tryCatch`, where the handler only raises. -/
theorem of_translated {p : Prog Op Ret ε α} {f : ε → ε} {a : α}
    (h : (p.tryCatch fun e => .raise (f e)).EndsWith A (.ok a)) : p.EndsWith A (.ok a) := by
  rcases of_tryCatch h with hp | ⟨e, he⟩
  · exact hp
  · cases he

theorem of_retry {p : Prog Op Ret ε α} {again : ε → Bool} {n : Nat} {a : α}
    (h : (p.retry again n).EndsWith A (.ok a)) : p.EndsWith A (.ok a) := by
  induction n with
  | zero => exact h
  | succ n ih =>
      rcases of_tryCatch h with hp | ⟨e, he⟩
      · exact hp
      · split at he
        · exact ih he
        · cases he

theorem of_perform {o : Op} {v : Ret o} (h : (perform o).EndsWith A (.ok v)) : A o (.ok v) := by
  cases h with
  | @op _ _ r _ hr h =>
      cases r with
      | ok v' =>
          cases h
          exact hr
      | error e => cases h

theorem of_ofExcept {r : Except ε α} {a : α}
    (h : (ofExcept r : Prog Op Ret ε α).EndsWith A (.ok a)) : r = .ok a := by
  cases r with
  | ok a' =>
      cases h
      rfl
  | error e => cases h

end EndsWith

end Prog

/-! ### The two levels of one program -/

section Levels

variable (body : (o : Op) → Option (Prog Op Ret ε (Ret o))) (P : Op → Prop)

/-- The lower program is the upper one with the bodies in place; or it is inside the body of the
operation the upper one is at, having got the answers in `A`. -/
inductive Inlines (A : (o : Op) → Except ε (Ret o) → Prop) :
    Prog Op Ret ε α → Prog Op Ret ε α → Prop where
  | at (p : Prog Op Ret ε α) : Inlines A p (p.inline body)
  | inside {o : Op} {k : Except ε (Ret o) → Prog Op Ret ε α} {b rest : Prog Op Ret ε (Ret o)}
      (hb : body o = some b)
      (hends : ∀ A' : (o : Op) → Except ε (Ret o) → Prop, (∀ o r, A o r → A' o r) →
        ∀ res, rest.EndsWith A' res → b.EndsWith A' res)
      (honly : rest.Only P) (hlive : ¬ rest.Ended) :
      Inlines A (.op o k) (rest.attempt.bind fun r => (k r).inline body)

/-- The answers process `i` has got. -/
def Answered (trace : List (Event ι Op Ret ε)) (i : ι) (o : Op) (r : Except ε (Ret o)) : Prop :=
  ⟨i, o, r⟩ ∈ trace

/-- The system `T` does on the upper level what `S` does on the lower one; `rel` may speak of what
was performed on the lower level so far. -/
structure Realizes (S : System ι Op Ret ε σ) (T : System ι Op Ret ε τ)
    (rel : List (Event ι Op Ret ε) → σ → τ → Prop) : Prop where
  live : ∀ {o b}, body o = some b → ¬ b.Ended
  only : ∀ {o b}, body o = some b → b.Only P
  hidden : ∀ {i o s r s' t trace}, P o → S.exec i o s r s' → rel trace s t →
    rel (⟨i, o, r⟩ :: trace) s' t
  same : ∀ {i o s r s' t trace}, body o = none → S.exec i o s r s' → rel trace s t →
    ∃ t', T.exec i o t r t' ∧ rel (⟨i, o, r⟩ :: trace) s' t'
  answers : ∀ {i o b r s t trace}, body o = some b → b.EndsWith (Answered trace i) r →
    rel trace s t → ∃ t', T.exec i o t r t' ∧ rel trace s t'
  env : ∀ {s s' t trace}, S.env s s' → rel trace s t →
    rel trace s' t ∨ ∃ t', T.env t t' ∧ rel trace s' t'

end Levels

variable {body : (o : Op) → Option (Prog Op Ret ε (Ret o))} {P : Op → Prop}
  {A A' : (o : Op) → Except ε (Ret o) → Prop} {q : Prog Op Ret ε α}

theorem Inlines.mono {p : Prog Op Ret ε α} (h : Inlines body P A q p)
    (hA : ∀ o r, A o r → A' o r) : Inlines body P A' q p := by
  cases h with
  | «at» => exact .at q
  | inside hb hends honly hlive =>
      exact .inside hb (fun A'' hA' => hends A'' fun o r h => hA' o r (hA o r h)) honly hlive

/-- What the upper program does when the lower one performs `o` and gets the answer `r`: the same,
or nothing, or it is answered with the result of the body that this was the last operation of. -/
def Follows (body : (o : Op) → Option (Prog Op Ret ε (Ret o))) (P : Op → Prop)
    (A : (o : Op) → Except ε (Ret o) → Prop) (q : Prog Op Ret ε α) (o : Op) (r : Except ε (Ret o))
    (p' : Prog Op Ret ε α) : Prop :=
  (∃ k, q = .op o k ∧ body o = none ∧ Inlines body P A (k r) p') ∨
    (P o ∧ (Inlines body P A q p' ∨ ∃ o' k b res, q = .op o' k ∧ body o' = some b ∧
      b.EndsWith A res ∧ Inlines body P A (k res) p'))

theorem follows_inside {o o' : Op} {k : Except ε (Ret o) → Prog Op Ret ε α}
    {b rest : Prog Op Ret ε (Ret o)} (hb : body o = some b)
    (hends : ∀ A' : (o : Op) → Except ε (Ret o) → Prop, (∀ o r, A o r → A' o r) →
      ∀ res, rest.EndsWith A' res → b.EndsWith A' res)
    (honly : rest.Only P) (hlive : ¬ rest.Ended) {k' : Except ε (Ret o') → Prog Op Ret ε α}
    (h : (rest.attempt.bind fun r => (k r).inline body) = .op o' k') (hA : ∀ o r, A o r → A' o r)
    {r : Except ε (Ret o')} (hr : A' o' r) : Follows body P A' (.op o k) o' r (k' r) := by
  obtain ⟨o₁, k₁, rfl⟩ := Prog.not_ended hlive
  cases h
  refine .inr ⟨honly.first, ?_⟩
  by_cases hended : (k₁ r).Ended
  · obtain ⟨res, hres, heq⟩ := hended.attempt_bind A' fun r => (k r).inline body
    refine .inr ⟨o, k, b, res, rfl, hb, hends A' hA res (.op hr hres), ?_⟩
    show Inlines body P A' (k res) ((k₁ r).attempt.bind fun r => (k r).inline body)
    rw [heq]
    exact .at (k res)
  · refine .inl (.inside hb (fun A'' hA' res hres => ?_) (honly.next r) hended)
    exact hends A'' (fun o r h => hA' o r (hA o r h)) res (.op (hA' _ _ hr) hres)

/-- **One operation of the lower program.** -/
theorem Inlines.follows (hlive : ∀ {o b}, body o = some b → ¬ b.Ended)
    (honly : ∀ {o b}, body o = some b → b.Only P) {o : Op}
    {k' : Except ε (Ret o) → Prog Op Ret ε α} (h : Inlines body P A q (.op o k'))
    (hA : ∀ o r, A o r → A' o r) {r : Except ε (Ret o)} (hr : A' o r) :
    Follows body P A' q o r (k' r) := by
  generalize hp : Prog.op o k' = p at h
  cases h with
  | «at» =>
      cases q with
      | ret a => cases hp
      | raise e => cases hp
      | op o₁ k =>
          cases hb : body o₁ with
          | none =>
              rw [Prog.inline_of_none hb] at hp
              cases hp
              exact .inl ⟨k, rfl, hb, .at (k r)⟩
          | some b =>
              rw [Prog.inline_of_some hb] at hp
              exact follows_inside hb (fun _ _ _ h => h) (honly hb) (hlive hb) hp.symm hA hr
  | inside hb hends hrest hended => exact follows_inside hb hends hrest hended hp.symm hA hr

/-- The lower program has ended where the upper one has, and alike. -/
theorem Inlines.of_ended (hlive : ∀ {o b}, body o = some b → ¬ b.Ended) {p : Prog Op Ret ε α}
    (h : Inlines body P A q p) (hp : p.Ended) : q = p := by
  have hbody : ∀ {o : Op} {k : Except ε (Ret o) → Prog Op Ret ε α} {b : Prog Op Ret ε (Ret o)},
      ¬ b.Ended → ¬ (b.attempt.bind fun r => (k r).inline body).Ended := by
    intro o k b hb hended
    obtain ⟨o', k', rfl⟩ := Prog.not_ended hb
    exact hended _ _ rfl
  cases h with
  | «at» =>
      cases q with
      | ret a => rfl
      | raise e => rfl
      | op o k =>
          cases hb : body o with
          | none =>
              rw [Prog.inline_of_none hb] at hp
              exact absurd rfl (hp _ _)
          | some b =>
              rw [Prog.inline_of_some hb] at hp
              exact absurd hp (hbody (hlive hb))
  | inside _ _ _ hended => exact absurd hp (hbody hended)

/-! ### Runs -/

variable [DecidableEq ι] {S : System ι Op Ret ε σ} {T : System ι Op Ret ε τ}
  {rel : List (Event ι Op Ret ε) → σ → τ → Prop} {G : Guard ι Op Ret ε α σ}
  {c : Config ι Op Ret ε α σ} {s : σ} {t : τ} {p : ι → Prog Op Ret ε α}

/-- The configurations of the two levels stand for each other. -/
def Levels (body : (o : Op) → Option (Prog Op Ret ε (Ret o))) (P : Op → Prop)
    (rel : List (Event ι Op Ret ε) → σ → τ → Prop) (c : Config ι Op Ret ε α σ)
    (d : Config ι Op Ret ε α τ) : Prop :=
  rel c.trace c.shared d.shared ∧
    ∀ i, Inlines body P (Answered c.trace i) (d.procs i) (c.procs i)

/-- **One step on the lower level.** -/
theorem Levels.step (hreal : Realizes body P S T rel) {c' : Config ι Op Ret ε α σ}
    {d : Config ι Op Ret ε α τ} {e : Event ι Op Ret ε} (h : Levels body P rel c d)
    (hs : Step S c e c') :
    ∃ d', ReflTransGen (Move T unguarded) d d' ∧ Levels body P rel c' d' := by
  obtain @⟨i, o, k', r, s', hp, hx⟩ := hs
  have hmore : ∀ j o' r', Answered c.trace j o' r' → Answered (⟨i, o, r⟩ :: c.trace) j o' r' :=
    fun j o' r' h => List.mem_cons_of_mem _ h
  have hothers : ∀ {q}, Inlines body P (Answered (⟨i, o, r⟩ :: c.trace) i) q (k' r) →
      ∀ j, Inlines body P (Answered (⟨i, o, r⟩ :: c.trace) j) (Function.update d.procs i q j)
        (Function.update c.procs i (k' r) j) := by
    intro q hq j
    by_cases hj : j = i
    · subst hj
      rw [Function.update_self, Function.update_self]
      exact hq
    · rw [Function.update_of_ne hj, Function.update_of_ne hj]
      exact (h.2 j).mono (hmore j)
  have hi := h.2 i
  rw [hp] at hi
  rcases hi.follows hreal.live hreal.only (hmore i) List.mem_cons_self with
    ⟨k, hq, hb, hk⟩ | ⟨hP, hk⟩
  -- The operation is one of both programs.
  · obtain ⟨t', ht, hrel⟩ := hreal.same hb hx h.1
    exact ⟨_, .single (.act _ (.mk hq ht) trivial), hrel, hothers hk⟩
  -- The operation belongs to a body: the other program waits, until the body has ended.
  · have hrel := hreal.hidden hP hx h.1
    rcases hk with hq | ⟨o', k, b, res, hq, hb, hres, hk⟩
    · refine ⟨d, .refl, hrel, fun j => ?_⟩
      have hj := hothers hq j
      rwa [Function.update_eq_self] at hj
    · obtain ⟨t', ht, hrel'⟩ := hreal.answers hb hres hrel
      exact ⟨_, .single (.act _ (.mk hq ht) trivial), hrel', hothers hk⟩

/-- **A run on the lower level** is matched by a run on the upper one. -/
theorem Run.inline (hreal : Realizes body P S T rel) (hrel : rel [] s t)
    (h : Run S G (.start s fun i => (p i).inline body) c) :
    ∃ d, Run T unguarded (.start t p) d ∧ Levels body P rel c d := by
  refine Run.simulate h (fun d d' e a (hd : Levels body P rel d a) _ hs => hd.step hreal hs) ?_
    ⟨hrel, fun i => .at (p i)⟩
  rintro d s' a ⟨hrel, hprocs⟩ henv
  rcases hreal.env henv hrel with hrel' | ⟨t', ht, hrel'⟩
  · exact ⟨a, .refl, hrel', hprocs⟩
  · exact ⟨_, .single (.env ht), hrel', hprocs⟩

end Support

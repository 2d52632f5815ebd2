import Mathlib.Algebra.GroupWithZero.Nat
import RcsMiddleware.Support.Inlining
import RcsMiddleware.Support.Retrying

/-!
# Support — Paths

What one process of a run has done: the operations it has performed, oldest first, with their answers.
They are a path through its program, so what holds of all paths of a program holds of what a process
does beside others.

* `Prog.Path`: the paths of a program; `Run.path`: a process has gone along one.
* `Within A P w n p`: with answers among `A`, `p` performs what `P` allows, at a cost of at most `n`.
* `Within.bind` and its like: the rules for compound programs; `Within.inline`: for bodies in place of
  operations.
* `Within.along`: what such a program has done on any of its paths.
-/

namespace Support

variable {ι Op : Type} {Ret : Op → Type} {ε α β σ : Type}

/-- An operation that has been answered. -/
abbrev Done (Op : Type) (Ret : Op → Type) (ε : Type) := (o : Op) × Except ε (Ret o)

/-- What process `i` has done, oldest first. -/
def doneBy [DecidableEq ι] (trace : List (Event ι Op Ret ε)) (i : ι) : List (Done Op Ret ε) :=
  (trace.filter fun e => e.pid = i).reverse.map fun e => ⟨e.op, e.answer⟩

theorem mem_doneBy [DecidableEq ι] {trace : List (Event ι Op Ret ε)} {i : ι} {d : Done Op Ret ε} :
    d ∈ doneBy trace i ↔ (⟨i, d.1, d.2⟩ : Event ι Op Ret ε) ∈ trace := by
  simp only [doneBy, List.mem_map, List.mem_reverse, List.mem_filter, decide_eq_true_eq]
  constructor
  · rintro ⟨e, ⟨he, rfl⟩, rfl⟩
    exact he
  · exact fun h => ⟨_, ⟨h, rfl⟩, rfl⟩

theorem doneBy_cons_self [DecidableEq ι] (trace : List (Event ι Op Ret ε)) (i : ι) (o : Op)
    (r : Except ε (Ret o)) : doneBy (⟨i, o, r⟩ :: trace) i = doneBy trace i ++ [⟨o, r⟩] := by
  simp [doneBy]

theorem doneBy_cons_of_ne [DecidableEq ι] (trace : List (Event ι Op Ret ε)) {i j : ι} (h : i ≠ j)
    (o : Op) (r : Except ε (Ret o)) : doneBy (⟨i, o, r⟩ :: trace) j = doneBy trace j := by
  simp [doneBy, h]

namespace Prog

/-- The operations and answers lead the program to what it has still to run. -/
inductive Path : Prog Op Ret ε α → List (Done Op Ret ε) → Prog Op Ret ε α → Prop where
  | nil (p : Prog Op Ret ε α) : Path p [] p
  | cons {o : Op} {k : Except ε (Ret o) → Prog Op Ret ε α} {r : Except ε (Ret o)}
      {done : List (Done Op Ret ε)} {q : Prog Op Ret ε α} (h : Path (k r) done q) :
      Path (.op o k) (⟨o, r⟩ :: done) q

/-- One operation more. -/
theorem Path.snoc {p : Prog Op Ret ε α} {done : List (Done Op Ret ε)} {o : Op}
    {k : Except ε (Ret o) → Prog Op Ret ε α} (h : Path p done (.op o k)) (r : Except ε (Ret o)) :
    Path p (done ++ [⟨o, r⟩]) (k r) := by
  generalize hq : Prog.op o k = q at h
  induction h with
  | nil p =>
      subst hq
      exact .cons (.nil _)
  | cons _ ih => exact .cons (ih hq)

end Prog

/-- **A process has gone along a path** of its program. -/
theorem Run.path [DecidableEq ι] {S : System ι Op Ret ε σ} {G : Guard ι Op Ret ε α σ} {s : σ}
    {p : ι → Prog Op Ret ε α} {c : Config ι Op Ret ε α σ} (h : Run S G (.start s p) c) (i : ι) :
    (p i).Path (doneBy c.trace i) (c.procs i) := by
  refine h.invariant (I := fun d => ∀ i, (p i).Path (doneBy d.trace i) (d.procs i)) ?_
    (fun _ _ hd _ => hd) (fun i => .nil _) i
  intro d d' e hd _ hs i
  cases hs with
  | @mk j o k r s' hp hx =>
      dsimp only
      -- The path of the process that moves grows by its operation; the others stay where they are.
      by_cases hi : j = i
      · subst hi
        rw [doneBy_cons_self, Function.update_self]
        exact (hp ▸ hd j).snoc r
      · rw [doneBy_cons_of_ne _ hi, Function.update_of_ne (Ne.symm hi)]
        exact hd i

/-- With answers among `A`, the program performs what `P` allows, at a cost of at most `n`. -/
inductive Within (A : (o : Op) → Except ε (Ret o) → Prop) (P : Op → Prop) (w : Op → Nat) :
    Nat → Prog Op Ret ε α → Prop where
  | ret (n : Nat) (a : α) : Within A P w n (.ret a)
  | raise (n : Nat) (e : ε) : Within A P w n (.raise e)
  | op {m n : Nat} {o : Op} {k : Except ε (Ret o) → Prog Op Ret ε α} (ho : P o) (hle : w o + m ≤ n)
      (hk : ∀ r, A o r → Within A P w m (k r)) : Within A P w n (.op o k)

namespace Within

variable {A A' : (o : Op) → Except ε (Ret o) → Prop} {P P' : Op → Prop} {w w' : Op → Nat} {m n : Nat}

theorem mono {p : Prog Op Ret ε α} (hp : Within A P w m p) (h : m ≤ n) : Within A P w n p := by
  cases hp with
  | ret _ a => exact .ret n a
  | raise _ e => exact .raise n e
  | op ho hle hk => exact .op ho (hle.trans h) hk

theorem bind {p : Prog Op Ret ε α} {g : α → Prog Op Ret ε β} (hp : Within A P w m p)
    (hg : ∀ a, p.EndsWith A (.ok a) → Within A P w n (g a)) : Within A P w (m + n) (p.bind g) := by
  induction hp with
  | ret k a => exact (hg a (.ret a)).mono (by omega)
  | raise k e => exact .raise _ e
  | op ho hle _ ih =>
      exact .op ho (by omega) fun r hr => ih r hr fun a ha => hg a (.op hr ha)

theorem tryCatch {p : Prog Op Ret ε α} {g : ε → Prog Op Ret ε α} (hp : Within A P w m p)
    (hg : ∀ e, p.EndsWith A (.error e) → Within A P w n (g e)) :
    Within A P w (m + n) (p.tryCatch g) := by
  induction hp with
  | ret k a => exact .ret _ a
  | raise k e => exact (hg e (.raise e)).mono (by omega)
  | op ho hle _ ih =>
      exact .op ho (by omega) fun r hr => ih r hr fun e he => hg e (.op hr he)

/-- What follows costs nothing. -/
theorem seq {p : Prog Op Ret ε α} {g : α → Prog Op Ret ε β} (hp : Within A P w n p)
    (hg : ∀ a, p.EndsWith A (.ok a) → Within A P w 0 (g a)) : Within A P w n (p.bind g) :=
  hp.bind hg

/-- What comes before costs nothing. -/
theorem after {p : Prog Op Ret ε α} {g : α → Prog Op Ret ε β} (hp : Within A P w 0 p)
    (hg : ∀ a, p.EndsWith A (.ok a) → Within A P w n (g a)) : Within A P w n (p.bind g) :=
  (hp.bind hg).mono (by omega)

theorem caught {p : Prog Op Ret ε α} {g : ε → Prog Op Ret ε α} (hp : Within A P w n p)
    (hg : ∀ e, p.EndsWith A (.error e) → Within A P w 0 (g e)) : Within A P w n (p.tryCatch g) :=
  hp.tryCatch hg

theorem tryFinally {p : Prog Op Ret ε α} {fin : Prog Op Ret ε Unit} (hp : Within A P w n p)
    (hfin : Within A P w 0 fin) : Within A P w n (p.tryFinally fin) :=
  .seq (.caught hp fun e _ => .seq hfin fun _ _ => .raise 0 e) fun a _ =>
    .seq hfin fun _ _ => .ret 0 a

theorem discard {p : Prog Op Ret ε α} (hp : Within A P w n p) : Within A P w n p.discard :=
  .seq hp fun _ _ => .ret 0 ()

theorem ofExcept (r : Except ε α) : Within A P w n (Prog.ofExcept r : Prog Op Ret ε α) := by
  cases r with
  | ok a => exact .ret n a
  | error e => exact .raise n e

theorem perform {o : Op} (ho : P o) (hle : w o ≤ n) :
    Within A P w n (Prog.perform o : Prog Op Ret ε (Ret o)) :=
  .op (m := 0) ho hle fun r _ => .ofExcept r

/-- A program that performs only what is allowed for nothing. -/
theorem of_only {p : Prog Op Ret ε α} (hp : Prog.Only (fun o => P o ∧ w o = 0) p) :
    Within A P w n p := by
  induction hp with
  | ret a => exact .ret n a
  | raise e => exact .raise n e
  | op ho _ ih => exact .op ho.1 (by rw [ho.2, Nat.zero_add]) fun r _ => ih r

/-- What a program performs, whatever it is answered. -/
theorem only {p : Prog Op Ret ε α} (hp : Within (fun _ _ => True) P w n p) : Prog.Only P p := by
  induction hp with
  | ret n a => exact .ret a
  | raise n e => exact .raise e
  | op ho _ _ ih => exact .op ho fun r => ih r trivial

/-- Each attempt costs as much as the first may. -/
theorem retry {p : Prog Op Ret ε α} (hp : Within A P w m p) (again : ε → Bool) (n : Nat) :
    Within A P w ((n + 1) * m) (p.retry again n) := by
  induction n with
  | zero => exact hp.mono (by omega)
  | succ n ih =>
      refine (hp.tryCatch (n := (n + 1) * m) fun e _ => ?_).mono (by
        rw [Nat.add_mul (n + 1) 1 m]
        omega)
      split
      · exact ih
      · exact .raise _ e

/-! ### Bodies in place of operations -/

theorem attempt {p : Prog Op Ret ε α} (hp : Within A P w n p) : Within A P w n p.attempt := by
  induction hp with
  | ret n a => exact .ret n _
  | raise n e => exact .ret n _
  | op ho hle _ ih => exact .op ho hle ih

theorem endsWith_of_attempt {p : Prog Op Ret ε α} {res : Except ε α}
    (h : p.attempt.EndsWith A (.ok res)) : p.EndsWith A res := by
  induction p with
  | ret a =>
      cases h
      exact .ret a
  | raise e =>
      cases h
      exact .raise e
  | op o k ih =>
      cases h with
      | op hr h => exact .op hr (ih _ h)

/-- A program with bodies in place of operations, each within the cost of its operation. -/
theorem inline {body : (o : Op) → Option (Prog Op Ret ε (Ret o))} {p : Prog Op Ret ε α}
    (hsame : ∀ o, body o = none → P' o → P o ∧ w o ≤ w' o)
    (hsameA : ∀ o r, body o = none → A o r → A' o r)
    (hbody : ∀ o b, body o = some b → P' o → Within A P w (w' o) b)
    (hbodyA : ∀ o b r, body o = some b → b.EndsWith A r → A' o r)
    (hp : Within A' P' w' n p) : Within A P w n (p.inline body) := by
  induction hp with
  | ret n a => exact .ret n a
  | raise n e => exact .raise n e
  | @op m n o k ho hle _ ih =>
      cases hb : body o with
      | none =>
          rw [Prog.inline_of_none hb]
          obtain ⟨hP, hw⟩ := hsame o hb ho
          exact .op hP (by omega) fun r hr => ih r (hsameA o r hb hr)
      | some b =>
          rw [Prog.inline_of_some hb]
          refine ((hbody o b hb ho).attempt.bind fun r hr => ?_).mono hle
          exact ih r (hbodyA o b r hb (endsWith_of_attempt hr))

/-- **What such a program has done** on a path whose answers are among `A`. -/
theorem along {p q : Prog Op Ret ε α} {done : List (Done Op Ret ε)} (hp : Within A P w n p)
    (hpath : p.Path done q) (hA : ∀ d ∈ done, A d.1 d.2) :
    (∀ d ∈ done, P d.1) ∧ (done.map fun d => w d.1).sum ≤ n := by
  induction hpath generalizing n with
  | nil p => exact ⟨fun _ hd => absurd hd List.not_mem_nil, Nat.zero_le n⟩
  | cons _ ih =>
      cases hp with
      | op ho hle hk =>
          obtain ⟨hP, hsum⟩ := ih (hk _ (hA _ List.mem_cons_self)) fun d hd =>
            hA d (List.mem_cons_of_mem _ hd)
          refine ⟨fun d hd => ?_, ?_⟩
          · rcases List.mem_cons.mp hd with rfl | hd
            · exact ho
            · exact hP d hd
          · rw [List.map_cons, List.sum_cons]
            exact (Nat.add_le_add_left hsum _).trans hle

end Within

end Support

import Mathlib.Logic.Function.Basic

/-!
# Support — Programs

Programs that perform operations on a shared store.  A program over `Op` returns a value, raises
an exception, or performs one operation `o` and goes on with its answer: a value of `Ret o`, or
the exception the operation ended with.  The operations are not interpreted here: `Prog.run`
gives them a meaning when the program runs alone, `Interleaving.lean` when it runs beside others.

* `Prog.run`: the result and the final store of a program run alone under a handler.
* `run_bind`, `run_tryCatch`, `run_tryFinally`: a run of a compound program is a run of its first
  part, then of what follows the way it ended.
* `Prog.Only`: every operation a program can perform satisfies a predicate.
* `Only.run_alike`: stores that answer alike give the same result.
* `Prog.RaisesOnly`: a program adds no exceptions of its own to those of its operations.
* `Prog.Returns`: every value a program can return satisfies a predicate.
* `Prog.Strict`: a program that returns has had no operation fail (`Strict.run_eq`).
-/

namespace Support

/-- A program: a value, an exception, or an operation and what follows each of its answers. -/
inductive Prog (Op : Type) (Ret : Op → Type) (ε α : Type) where
  | ret (a : α)
  | raise (e : ε)
  | op (o : Op) (k : Except ε (Ret o) → Prog Op Ret ε α)

namespace Prog

variable {Op : Type} {Ret : Op → Type} {ε α β σ : Type}

/-- `p`, then `f` at its value. -/
def bind : Prog Op Ret ε α → (α → Prog Op Ret ε β) → Prog Op Ret ε β
  | .ret a, f => f a
  | .raise e, _ => .raise e
  | .op o k, f => .op o fun r => bind (k r) f

/-- `p`, then `h` at the exception it raises. -/
def tryCatch : Prog Op Ret ε α → (ε → Prog Op Ret ε α) → Prog Op Ret ε α
  | .ret a, _ => .ret a
  | .raise e, h => h e
  | .op o k, h => .op o fun r => tryCatch (k r) h

/-- The program that returns a value or raises an exception at once. -/
def ofExcept : Except ε α → Prog Op Ret ε α
  | .ok a => .ret a
  | .error e => .raise e

/-- One operation: its value is returned, its exception raised. -/
def perform (o : Op) : Prog Op Ret ε (Ret o) := .op o ofExcept

instance : Monad (Prog Op Ret ε) where
  pure := .ret
  bind := bind

instance : MonadExceptOf ε (Prog Op Ret ε) where
  throw := .raise
  tryCatch := tryCatch

/-- `p`, then `fin` however `p` ended; `fin`'s own exception replaces `p`'s. -/
def tryFinally (p : Prog Op Ret ε α) (fin : Prog Op Ret ε Unit) : Prog Op Ret ε α :=
  (p.tryCatch fun e => fin.bind fun _ => .raise e).bind fun a => fin.bind fun _ => .ret a

/-- The program has returned. -/
def returned : Prog Op Ret ε α → Bool
  | .ret _ => true
  | _ => false

theorem exists_ret_of_returned {p : Prog Op Ret ε α} (h : p.returned = true) :
    ∃ a, p = .ret a := by
  cases p with
  | ret a => exact ⟨a, rfl⟩
  | raise e => cases h
  | op o k => cases h

/-- The program has no operation left. -/
def Ended (p : Prog Op Ret ε α) : Prop := ∀ o k, p ≠ .op o k

theorem ended_ret (a : α) : (.ret a : Prog Op Ret ε α).Ended := fun _ _ h => by cases h

theorem ended_raise (e : ε) : (.raise e : Prog Op Ret ε α).Ended := fun _ _ h => by cases h

theorem ended_of_returned {p : Prog Op Ret ε α} (h : p.returned = true) : p.Ended := by
  intro o k hp
  rw [hp] at h
  cases h

/-- A program whose value is dropped. -/
def discard (p : Prog Op Ret ε α) : Prog Op Ret ε Unit := p.bind fun _ => .ret ()

@[simp] theorem bind_ret (a : α) (f : α → Prog Op Ret ε β) :
    bind (.ret a : Prog Op Ret ε α) f = f a := rfl

@[simp] theorem bind_raise (e : ε) (f : α → Prog Op Ret ε β) :
    bind (.raise e : Prog Op Ret ε α) f = .raise e := rfl

@[simp] theorem bind_op (o : Op) (k : Except ε (Ret o) → Prog Op Ret ε α)
    (f : α → Prog Op Ret ε β) : bind (.op o k) f = .op o fun r => bind (k r) f := rfl

@[simp] theorem tryCatch_ret (a : α) (h : ε → Prog Op Ret ε α) :
    tryCatch (.ret a : Prog Op Ret ε α) h = .ret a := rfl

@[simp] theorem tryCatch_raise (e : ε) (h : ε → Prog Op Ret ε α) :
    tryCatch (.raise e : Prog Op Ret ε α) h = h e := rfl

@[simp] theorem tryCatch_op (o : Op) (k : Except ε (Ret o) → Prog Op Ret ε α)
    (h : ε → Prog Op Ret ε α) : tryCatch (.op o k) h = .op o fun r => tryCatch (k r) h := rfl

@[simp] theorem bind_eq (p : Prog Op Ret ε α) (f : α → Prog Op Ret ε β) : p >>= f = p.bind f := rfl

@[simp] theorem pure_eq (a : α) : (pure a : Prog Op Ret ε α) = .ret a := rfl

instance (p : Prog Op Ret ε α) : Decidable (∀ e, p ≠ .raise e) :=
  match p with
  | .ret _ => isTrue nofun
  | .raise e => isFalse fun h => h e rfl
  | .op _ _ => isTrue nofun

/-! ### A program run alone -/

/-- The result and the final store of a program run alone, the operations answered by `h`. -/
def run (h : (o : Op) → σ → Except ε (Ret o) × σ) : Prog Op Ret ε α → σ → Except ε α × σ
  | .ret a, s => (.ok a, s)
  | .raise e, s => (.error e, s)
  | .op o k, s => run h (k (h o s).1) (h o s).2

variable {h : (o : Op) → σ → Except ε (Ret o) × σ}

@[simp] theorem run_ret (a : α) (s : σ) : run h (.ret a : Prog Op Ret ε α) s = (.ok a, s) := rfl

@[simp] theorem run_raise (e : ε) (s : σ) :
    run h (.raise e : Prog Op Ret ε α) s = (.error e, s) := rfl

@[simp] theorem run_op (o : Op) (k : Except ε (Ret o) → Prog Op Ret ε α) (s : σ) :
    run h (.op o k) s = run h (k (h o s).1) (h o s).2 := rfl

@[simp] theorem run_ofExcept (r : Except ε α) (s : σ) :
    run h (ofExcept r : Prog Op Ret ε α) s = (r, s) := by
  cases r <;> rfl

@[simp] theorem run_perform (o : Op) (s : σ) : run h (perform o) s = h o s := by
  simp [perform]

/-- The rest of a run, at the value of its first part. -/
def onOk (r : Except ε α × σ) (f : α → σ → Except ε β × σ) : Except ε β × σ :=
  match r with
  | (.ok a, s) => f a s
  | (.error e, s) => (.error e, s)

/-- The rest of a run, at the exception of its first part. -/
def onError (r : Except ε α × σ) (g : ε → σ → Except ε α × σ) : Except ε α × σ :=
  match r with
  | (.ok a, s) => (.ok a, s)
  | (.error e, s) => g e s

@[simp] theorem onOk_ok (a : α) (s : σ) (f : α → σ → Except ε β × σ) :
    onOk (.ok a, s) f = f a s := rfl

@[simp] theorem onOk_error (e : ε) (s : σ) (f : α → σ → Except ε β × σ) :
    onOk (.error e, s) f = (.error e, s) := rfl

@[simp] theorem onError_ok (a : α) (s : σ) (g : ε → σ → Except ε α × σ) :
    onError (.ok a, s) g = (.ok a, s) := rfl

@[simp] theorem onError_error (e : ε) (s : σ) (g : ε → σ → Except ε α × σ) :
    onError (.error e, s) g = g e s := rfl

/-- A first part that returned is followed by the rest. -/
theorem onOk_of_ok {r : Except ε α × σ} {f : α → σ → Except ε β × σ} {a : α} (hr : r.1 = .ok a) :
    onOk r f = f a r.2 := by
  obtain ⟨r, s⟩ := r
  cases hr
  rfl

/-- A first part that raised is all there is. -/
theorem onOk_of_error {r : Except ε α × σ} {f : α → σ → Except ε β × σ} {e : ε}
    (hr : r.1 = .error e) : onOk r f = (.error e, r.2) := by
  obtain ⟨r, s⟩ := r
  cases hr
  rfl

theorem run_bind (p : Prog Op Ret ε α) (f : α → Prog Op Ret ε β) (s : σ) :
    run h (p.bind f) s = onOk (run h p s) fun a s' => run h (f a) s' := by
  induction p generalizing s with
  | ret a => rfl
  | raise e => rfl
  | op o k ih => simp only [bind_op, run_op, ih]

theorem run_tryCatch (p : Prog Op Ret ε α) (g : ε → Prog Op Ret ε α) (s : σ) :
    run h (p.tryCatch g) s = onError (run h p s) fun e s' => run h (g e) s' := by
  induction p generalizing s with
  | ret a => rfl
  | raise e => rfl
  | op o k ih => simp only [tryCatch_op, run_op, ih]

theorem run_tryFinally (p : Prog Op Ret ε α) (fin : Prog Op Ret ε Unit) (s : σ) :
    run h (p.tryFinally fin) s =
      onOk (run h fin (run h p s).2) fun _ s' => ((run h p s).1, s') := by
  rw [tryFinally, run_bind, run_tryCatch]
  rcases run h p s with ⟨e | a, s'⟩
  · rw [onError_error, run_bind]
    cases run h fin s' with
    | mk r s'' => cases r <;> rfl
  · rw [onError_ok, onOk_ok, run_bind]
    rfl

/-! ### The operations of a program -/

/-- Every operation `p` can perform, whatever the answers, satisfies `P`. -/
inductive Only (P : Op → Prop) : Prog Op Ret ε α → Prop where
  | ret (a : α) : Only P (.ret a)
  | raise (e : ε) : Only P (.raise e)
  | op {o : Op} {k : Except ε (Ret o) → Prog Op Ret ε α}
      (ho : P o) (hk : ∀ r, Only P (k r)) : Only P (.op o k)

theorem Only.bind {P : Op → Prop} {p : Prog Op Ret ε α} {f : α → Prog Op Ret ε β}
    (hp : Only P p) (hf : ∀ a, Only P (f a)) : Only P (p.bind f) := by
  induction hp with
  | ret a => exact hf a
  | raise e => exact .raise e
  | op ho _ ih => exact .op ho ih

theorem Only.tryCatch {P : Op → Prop} {p : Prog Op Ret ε α} {g : ε → Prog Op Ret ε α}
    (hp : Only P p) (hg : ∀ e, Only P (g e)) : Only P (p.tryCatch g) := by
  induction hp with
  | ret a => exact .ret a
  | raise e => exact hg e
  | op ho _ ih => exact .op ho ih

theorem Only.tryFinally {P : Op → Prop} {p : Prog Op Ret ε α} {fin : Prog Op Ret ε Unit}
    (hp : Only P p) (hfin : Only P fin) : Only P (p.tryFinally fin) :=
  .bind (.tryCatch hp fun e => .bind hfin fun _ => .raise e) fun a => .bind hfin fun _ => .ret a

theorem Only.ofExcept {P : Op → Prop} (r : Except ε α) :
    Only P (Prog.ofExcept r : Prog Op Ret ε α) := by
  cases r
  · exact .raise _
  · exact .ret _

theorem Only.perform {P : Op → Prop} {o : Op} (ho : P o) :
    Only P (Prog.perform o : Prog Op Ret ε (Ret o)) :=
  .op ho fun r => Only.ofExcept r

theorem Only.first {P : Op → Prop} {o : Op} {k : Except ε (Ret o) → Prog Op Ret ε α}
    (h : Only P (.op o k)) : P o := by
  cases h with
  | op ho _ => exact ho

/-- What follows an operation, at one of its answers. -/
theorem Only.next {P : Op → Prop} {o : Op} {k : Except ε (Ret o) → Prog Op Ret ε α}
    (h : Only P (.op o k)) (r : Except ε (Ret o)) : Only P (k r) := by
  cases h with
  | op _ hk => exact hk r

theorem Only.of_bind {P : Op → Prop} {p : Prog Op Ret ε α} {f : α → Prog Op Ret ε β}
    (h : Only P (p.bind f)) : Only P p := by
  induction p with
  | ret a => exact .ret a
  | raise e => exact .raise e
  | op o k ih => exact .op h.first fun r => ih r (h.next r)

theorem Only.mono {P Q : Op → Prop} {p : Prog Op Ret ε α} (hp : Only P p) (h : ∀ o, P o → Q o) :
    Only Q p := by
  induction hp with
  | ret a => exact .ret a
  | raise e => exact .raise e
  | op ho _ ih => exact .op (h _ ho) ih

/-- A property of the store that every allowed operation preserves holds after a run. -/
theorem Only.run_preserves {P : Op → Prop} {I : σ → Prop} {p : Prog Op Ret ε α} (hp : Only P p)
    (hI : ∀ o s, P o → I s → I (h o s).2) : ∀ {s : σ}, I s → I (run h p s).2 := by
  induction hp with
  | ret a => exact id
  | raise e => exact id
  | op ho _ ih => exact fun hs => ih _ (hI _ _ ho hs)

/-- Two stores that answer every allowed operation alike, and stay related, give a program the
same result. -/
theorem Only.run_alike {τ : Type} {h' : (o : Op) → τ → Except ε (Ret o) × τ} {P : Op → Prop}
    {R : σ → τ → Prop} {p : Prog Op Ret ε α} (hp : Only P p)
    (hR : ∀ o s t, P o → R s t → (h o s).1 = (h' o t).1 ∧ R (h o s).2 (h' o t).2) :
    ∀ {s : σ} {t : τ}, R s t → (run h p s).1 = (run h' p t).1 ∧ R (run h p s).2 (run h' p t).2 := by
  induction hp with
  | ret a => exact fun hs => ⟨rfl, hs⟩
  | raise e => exact fun hs => ⟨rfl, hs⟩
  | op ho _ ih =>
      intro s t hs
      obtain ⟨hanswer, hnext⟩ := hR _ s t ho hs
      rw [run_op, run_op, ← hanswer]
      exact ih _ hnext

/-- A program performs what it performs. -/
theorem only_true (p : Prog Op Ret ε α) : Only (fun _ => True) p := by
  induction p with
  | ret a => exact .ret a
  | raise e => exact .raise e
  | op o k ih => exact .op trivial ih

/-! ### The exceptions of a program -/

/-- Every operation satisfies `P`, and every exception raised is in `E`, if those that operations
end in are. -/
inductive RaisesOnly (P : Op → Prop) (E : ε → Prop) : Prog Op Ret ε α → Prop where
  | ret (a : α) : RaisesOnly P E (.ret a)
  | raise {e : ε} (he : E e) : RaisesOnly P E (.raise e)
  | op {o : Op} {k : Except ε (Ret o) → Prog Op Ret ε α} (ho : P o)
      (hk : ∀ r, (∀ e, r = .error e → E e) → RaisesOnly P E (k r)) : RaisesOnly P E (.op o k)

variable {P : Op → Prop} {E : ε → Prop}

theorem RaisesOnly.bind {p : Prog Op Ret ε α} {f : α → Prog Op Ret ε β} (hp : RaisesOnly P E p)
    (hf : ∀ a, RaisesOnly P E (f a)) : RaisesOnly P E (p.bind f) := by
  induction hp with
  | ret a => exact hf a
  | raise he => exact .raise he
  | op ho _ ih => exact .op ho ih

theorem RaisesOnly.tryCatch {p : Prog Op Ret ε α} {g : ε → Prog Op Ret ε α}
    (hp : RaisesOnly P E p) (hg : ∀ e, E e → RaisesOnly P E (g e)) :
    RaisesOnly P E (p.tryCatch g) := by
  induction hp with
  | ret a => exact .ret a
  | raise he => exact hg _ he
  | op ho _ ih => exact .op ho ih

theorem RaisesOnly.perform {o : Op} (ho : P o) :
    RaisesOnly P E (Prog.perform o : Prog Op Ret ε (Ret o)) := by
  refine .op ho fun r hr => ?_
  cases r with
  | ok a => exact .ret a
  | error e => exact .raise (hr e rfl)

theorem RaisesOnly.only {p : Prog Op Ret ε α} (hp : RaisesOnly P (fun _ => True) p) : Only P p := by
  induction hp with
  | ret a => exact .ret a
  | raise _ => exact .raise _
  | op ho _ ih => exact .op ho fun r => ih r fun _ _ => trivial

theorem RaisesOnly.run {p : Prog Op Ret ε α} (hp : RaisesOnly P E p)
    (hE : ∀ o s e, P o → (h o s).1 = .error e → E e) {s : σ} {e : ε}
    (he : (run h p s).1 = .error e) : E e := by
  induction hp generalizing s with
  | ret a => cases he
  | raise hx =>
      cases he
      exact hx
  | op ho _ ih => exact ih _ (fun x hx => hE _ _ x ho hx) he

/-! ### The values of a program -/

/-- Every value the program can return, whatever the answers, satisfies `A`. -/
inductive Returns (A : α → Prop) : Prog Op Ret ε α → Prop where
  | ret {a : α} (ha : A a) : Returns A (.ret a)
  | raise (e : ε) : Returns A (.raise e)
  | op {o : Op} {k : Except ε (Ret o) → Prog Op Ret ε α} (hk : ∀ r, Returns A (k r)) :
      Returns A (.op o k)

variable {A : α → Prop} {B : β → Prop}

theorem Returns.bind {p : Prog Op Ret ε α} {f : α → Prog Op Ret ε β} (hp : Returns A p)
    (hf : ∀ a, A a → Returns B (f a)) : Returns B (p.bind f) := by
  induction hp with
  | ret ha => exact hf _ ha
  | raise e => exact .raise e
  | op _ ih => exact .op ih

theorem Returns.tryCatch {p : Prog Op Ret ε α} {g : ε → Prog Op Ret ε α} (hp : Returns A p)
    (hg : ∀ e, Returns A (g e)) : Returns A (p.tryCatch g) := by
  induction hp with
  | ret ha => exact .ret ha
  | raise e => exact hg e
  | op _ ih => exact .op ih

theorem returns_true (p : Prog Op Ret ε α) : Returns (fun _ => True) p := by
  induction p with
  | ret a => exact .ret trivial
  | raise e => exact .raise e
  | op o k ih => exact .op ih

/-! ### Programs that stop at a failure -/

/-- The program does not return. -/
abbrev NoReturn (p : Prog Op Ret ε α) : Prop := Returns (fun _ => False) p

/-- After an operation that fails the program does not return. -/
inductive Strict : Prog Op Ret ε α → Prop where
  | ret (a : α) : Strict (.ret a)
  | raise (e : ε) : Strict (.raise e)
  | op {o : Op} {k : Except ε (Ret o) → Prog Op Ret ε α} (hok : ∀ v, Strict (k (.ok v)))
      (herr : ∀ e, NoReturn (k (.error e))) : Strict (.op o k)

theorem Strict.perform (o : Op) : Strict (Prog.perform o : Prog Op Ret ε (Ret o)) :=
  .op (fun v => .ret v) fun e => .raise e

theorem Strict.bind {p : Prog Op Ret ε α} {f : α → Prog Op Ret ε β} (hp : Strict p)
    (hf : ∀ a, Strict (f a)) : Strict (p.bind f) := by
  induction hp with
  | ret a => exact hf a
  | raise e => exact .raise e
  | op _ herr ih => exact .op ih fun e => (herr e).bind fun _ h => h.elim

theorem Strict.tryCatch {p : Prog Op Ret ε α} {g : ε → Prog Op Ret ε α} (hp : Strict p)
    (hstrict : ∀ e, Strict (g e)) (hg : ∀ e, NoReturn (g e)) : Strict (p.tryCatch g) := by
  induction hp with
  | ret a => exact .ret a
  | raise e => exact hstrict e
  | op _ herr ih => exact .op ih fun e => (herr e).tryCatch hg

theorem Strict.tryFinally {p : Prog Op Ret ε α} {fin : Prog Op Ret ε Unit} (hp : Strict p)
    (hfin : Strict fin) : Strict (p.tryFinally fin) := by
  refine .bind (hp.tryCatch (fun e => hfin.bind fun _ => .raise e) fun e => ?_) fun a =>
    hfin.bind fun _ => .ret a
  exact (returns_true fin).bind fun _ _ => .raise e

theorem NoReturn.run {p : Prog Op Ret ε α} (hp : NoReturn p) (s : σ) (a : α) :
    (run h p s).1 ≠ .ok a := by
  induction hp generalizing s with
  | ret ha => exact ha.elim
  | raise e => exact nofun
  | op _ ih => exact ih _ _

/-- **A strict program that returns** does under every store that answers what went through in the
same way. -/
theorem Strict.run_eq {h' : (o : Op) → σ → Except ε (Ret o) × σ} {p : Prog Op Ret ε α}
    (hp : Strict p) (hsame : ∀ o s v, (h o s).1 = .ok v → h' o s = h o s) {s : σ} {a : α}
    (ha : (run h p s).1 = .ok a) : run h' p s = run h p s := by
  induction hp generalizing s with
  | ret a => rfl
  | raise e => rfl
  | op _ herr ih =>
      rw [run_op] at ha
      rw [run_op, run_op]
      cases hr : (h _ s).1 with
      | error e =>
          rw [hr] at ha
          exact absurd ha ((herr e).run _ _)
      | ok v =>
          rw [hsame _ s v hr]
          rw [hr] at ha ⊢
          exact ih v ha

end Prog

end Support

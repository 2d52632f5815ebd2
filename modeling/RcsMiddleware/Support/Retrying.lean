import RcsMiddleware.Support.Programs

/-!
# Support — Retrying

A program that is tried again while it raises an exception worth another try, a bounded number of
times; and a change that is attempted until it has gone through.

* `Attempts.eq_once`: attempts at an idempotent change come to the change made once.
* `lastTry_and_iff`: when attempts that may be spoiled end as the others alone would.
* `run_retry`: a retried program ends as its last attempt does.
-/

namespace Support

/-- A series of attempts at a change of the state: each makes the change or leaves the state as it
was, and the last makes it. -/
inductive Attempts {S : Type} (change : S → S) : S → S → Prop where
  | last (s : S) : Attempts change s (change s)
  | again {s s' t : S} (h : s' = s ∨ s' = change s) (rest : Attempts change s' t) :
      Attempts change s t

/-- **Attempts at an idempotent change** come to the change made once. -/
theorem Attempts.eq_once {S : Type} {change : S → S} (hidem : ∀ s, change (change s) = change s)
    {s t : S} (h : Attempts change s t) : t = change s := by
  induction h with
  | last s => rfl
  | again hs _ ih =>
      rcases hs with rfl | rfl
      · exact ih
      · rw [ih, hidem]

/-- The number of the last attempt, of the ones numbered from `n` to at most `n + k`: an attempt is
the last when it asks for no other one. -/
def lastTry (again : Nat → Bool) : Nat → Nat → Nat
  | 0, n => n
  | k + 1, n => if again n then lastTry again k (n + 1) else n

theorem lastTry_of_not {again : Nat → Bool} {n : Nat} (h : again n = false) (k : Nat) :
    lastTry again k n = n := by
  cases k with
  | zero => rfl
  | succ k => rw [lastTry, h, if_neg Bool.false_ne_true]

theorem le_lastTry (again : Nat → Bool) (k n : Nat) : n ≤ lastTry again k n := by
  induction k generalizing n with
  | zero => exact Nat.le_refl n
  | succ k ih =>
      rw [lastTry]
      split
      · exact Nat.le_of_succ_le (ih (n + 1))
      · exact Nat.le_refl n

/-- **Spoiled attempts** ask for no other one.  The last attempt is the one it would be without
them, and is not spoiled itself, exactly when none is up to that one. -/
theorem lastTry_and_iff (good again : Nat → Bool) (k n : Nat) :
    (lastTry (fun j => good j && again j) k n = lastTry again k n ∧
        good (lastTry again k n) = true) ↔
      ∀ j, n ≤ j → j ≤ lastTry again k n → good j = true := by
  have honly : ∀ n, good n = true ↔ ∀ j, n ≤ j → j ≤ n → good j = true := fun n =>
    ⟨fun h j hn hj => Nat.le_antisymm hn hj ▸ h, fun h => h n n.le_refl n.le_refl⟩
  induction k generalizing n with
  | zero => exact (and_iff_right rfl).trans (honly n)
  | succ k ih =>
      cases hagain : again n with
      | false =>
          have hand : (good n && again n) = false := by rw [hagain, Bool.and_false]
          rw [lastTry_of_not hagain, lastTry_of_not hand]
          exact (and_iff_right rfl).trans (honly n)
      | true =>
          have hnext : lastTry again (k + 1) n = lastTry again k (n + 1) := by
            rw [lastTry, if_pos hagain]
          have hlt : n < lastTry again k (n + 1) := le_lastTry again k (n + 1)
          rw [hnext]
          cases hgood : good n with
          | false =>
              -- Attempt `n` is spoiled, and another one should have followed it.
              have hand : (good n && again n) = false := by rw [hgood, Bool.false_and]
              rw [lastTry_of_not hand]
              refine iff_of_false (fun h => Nat.ne_of_lt hlt h.1) fun h => ?_
              rw [h n n.le_refl (Nat.le_of_lt hlt)] at hgood
              cases hgood
          | true =>
              have hand : (good n && again n) = true := by rw [hgood, hagain, Bool.and_self]
              rw [lastTry, if_pos hand]
              refine (ih (n + 1)).trans ⟨fun h j hn hj => ?_, fun h j hn => h j (by omega)⟩
              rcases Nat.eq_or_lt_of_le hn with rfl | hn
              · exact hgood
              · exact h j hn hj

end Support

namespace Support.Prog

variable {Op : Type} {Ret : Op → Type} {ε α σ : Type}

/-- `p`, and at most `n` times more while it raises an exception of `again`. -/
def retry (again : ε → Bool) (p : Prog Op Ret ε α) : Nat → Prog Op Ret ε α
  | 0 => p
  | n + 1 => p.tryCatch fun e => if again e then retry again p n else .raise e

variable {h : (o : Op) → σ → Except ε (Ret o) × σ} {again : ε → Bool} {p : Prog Op Ret ε α}

/-- An attempt with this result is repeated. -/
def repeats (again : ε → Bool) : Except ε α → Bool
  | .ok _ => false
  | .error e => again e

/-- The store at the beginning of the last attempt, when there are `n` more after the first. -/
def lastAttempt (h : (o : Op) → σ → Except ε (Ret o) × σ) (again : ε → Bool)
    (p : Prog Op Ret ε α) : Nat → σ → σ
  | 0, s => s
  | n + 1, s => if repeats again (run h p s).1 then lastAttempt h again p n (run h p s).2 else s

/-- **A retried program** ends as its last attempt does. -/
theorem run_retry (n : Nat) (s : σ) :
    run h (retry again p n) s = run h p (lastAttempt h again p n s) := by
  induction n generalizing s with
  | zero => rfl
  | succ n ih =>
      rw [retry, lastAttempt, run_tryCatch]
      rcases hr : run h p s with ⟨r, s'⟩
      cases r with
      | ok a => exact hr.symm
      | error e =>
          have hrepeats : repeats again (.error e : Except ε α) = again e := rfl
          rw [onError_error, hrepeats]
          by_cases hagain : again e = true
          · rw [if_pos hagain, if_pos hagain]
            exact ih s'
          · rw [if_neg hagain, if_neg hagain]
            exact hr.symm

theorem Only.retry {P : Op → Prop} (hp : Only P p) (again : ε → Bool) (n : Nat) :
    Only P (p.retry again n) := by
  induction n with
  | zero => exact hp
  | succ n ih =>
      refine hp.tryCatch fun e => ?_
      split
      · exact ih
      · exact .raise e

end Support.Prog

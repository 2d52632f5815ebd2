import Mathlib.Logic.Function.Basic

/-!
# Support — Memo

A memo keeps, for each key, the first request that succeeded under it and its result.  A later call
with the key produces nothing: it gets the result back when its request is the same, and is refused
otherwise.  A call without a key always produces, and is not remembered.

* `Memo.answer`, `Memo.next`: what a call is answered, and the memo it leaves.
* `Memo.kept_after`: what the first success under a key keeps, every later call finds.
* `Memo.answers_filter`: the answers under a key depend on the calls under that key alone.
-/

namespace Support

variable {K R V E C : Type}

/-- A call: its key, its request, and what producing the result comes to. -/
structure Memo.Call (K R V E : Type) where
  key : Option K
  request : R
  produce : Except E V

/-- What a call is answered. -/
inductive Memo.Answer (V E : Type) where
  | produced (v : V)
  | failed (e : E)
  | replayed (v : V)
  | conflict

/-- For each key, the request that succeeded first, and its result. -/
abbrev Memo (K R V : Type) := K → Option (R × V)

namespace Memo

/-- What is kept for a call with this key. -/
def lookup (m : Memo K R V) : Option K → Option (R × V)
  | some k => m k
  | none => none

variable {m m' : Memo K R V} {c : Call K R V E} {k : K} {kept : R × V}

theorem lookup_eq_some {key : Option K} :
    m.lookup key = some kept ↔ ∃ k, key = some k ∧ m k = some kept := by
  cases key with
  | none => exact ⟨nofun, fun ⟨_, h, _⟩ => nomatch h⟩
  | some k =>
      refine ⟨fun h => ⟨k, rfl, h⟩, ?_⟩
      rintro ⟨_, ⟨⟩, h⟩
      exact h

section Answer

variable [DecidableEq R]

def answer (m : Memo K R V) (c : Call K R V E) : Answer V E :=
  match m.lookup c.key with
  | some (r, v) => if r = c.request then .replayed v else .conflict
  | none =>
      match c.produce with
      | .ok v => .produced v
      | .error e => .failed e

theorem answer_of_kept (h : m.lookup c.key = some kept) :
    m.answer c = if kept.1 = c.request then .replayed kept.2 else .conflict := by
  rw [answer, h]

theorem answer_of_ok {v : V} (h : m.lookup c.key = none) (hp : c.produce = .ok v) :
    m.answer c = .produced v := by
  rw [answer, h, hp]

theorem answer_of_error {e : E} (h : m.lookup c.key = none) (hp : c.produce = .error e) :
    m.answer c = .failed e := by
  rw [answer, h, hp]

theorem answer_congr (hk : c.key = some k) (h : m k = m' k) : m.answer c = m'.answer c := by
  rw [answer, answer, hk, lookup, lookup, h]

end Answer

section Next

variable [DecidableEq K]

/-- The first success under a key is kept. -/
def next (m : Memo K R V) (c : Call K R V E) : Memo K R V := fun k =>
  if c.key = some k then
    match m k, c.produce with
    | none, .ok v => some (c.request, v)
    | kept, _ => kept
  else m k

/-- The memo after a sequence of calls. -/
def after (m : Memo K R V) (calls : List (Call K R V E)) : Memo K R V := calls.foldl next m

theorem next_other (h : c.key ≠ some k) : m.next c k = m k := if_neg h

theorem next_of_ok {v : V} (hk : c.key = some k) (h : m k = none) (hp : c.produce = .ok v) :
    m.next c k = some (c.request, v) := by
  rw [next, if_pos hk, h, hp]

/-- A call that fails changes nothing. -/
theorem next_of_error {e : E} (h : c.produce = .error e) : m.next c = m := by
  funext k
  rw [next, h]
  cases m k <;> exact ite_self _

theorem kept_next (h : m k = some kept) : m.next c k = some kept := by
  by_cases hk : c.key = some k
  · rw [next, if_pos hk, h]
  · rw [next_other hk, h]

/-- A call whose key has something kept changes nothing. -/
theorem next_of_kept (h : m.lookup c.key = some kept) : m.next c = m := by
  funext k
  by_cases hk : c.key = some k
  · rw [hk, lookup] at h
    rw [kept_next h, h]
  · exact next_other hk

/-- What is kept under a key depends on what was kept there. -/
theorem next_congr (h : m k = m' k) : m.next c k = m'.next c k := by
  rw [next, next, h]

/-- What is kept stays. -/
theorem kept_after (calls : List (Call K R V E)) (h : m k = some kept) :
    m.after calls k = some kept := by
  induction calls generalizing m with
  | nil => exact h
  | cons c later ih => exact ih (kept_next h)

end Next

variable [DecidableEq K] [DecidableEq R]

/-- Each of a sequence of things that `f` reads as calls, with its answer. -/
def answers (f : C → Call K R V E) (m : Memo K R V) : List C → List (C × Answer V E)
  | [] => []
  | c :: later => (c, m.answer (f c)) :: answers f (m.next (f c)) later

/-- **The answers under a key** depend on the calls under that key alone. -/
theorem answers_filter {f : C → Call K R V E} (calls : List C) (h : m k = m' k) :
    (answers f m calls).filter (fun a => (f a.1).key = some k) =
      answers f m' (calls.filter fun c => (f c).key = some k) := by
  induction calls generalizing m m' with
  | nil => rfl
  | cons c later ih =>
      by_cases hk : (f c).key = some k
      · rw [answers, List.filter_cons_of_pos (by simpa using hk),
          List.filter_cons_of_pos (by simpa using hk), answers, answer_congr hk h,
          ih (next_congr h)]
      · rw [answers, List.filter_cons_of_neg (by simpa using hk),
          List.filter_cons_of_neg (by simpa using hk)]
        exact ih ((next_other hk).trans h)

end Memo

end Support

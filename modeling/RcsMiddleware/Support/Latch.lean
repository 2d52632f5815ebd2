import Mathlib.Data.List.Basic

/-!
# Support — Latch

A value that takes each value it is given, until it holds a final one; and a cell that takes each
value it is given, where `none` gives none.

* `Latch.puts_of_find?`: a latch that meets a final value keeps the first one.
* `Latch.puts_of_not_final`: a latch that meets none holds the last value.
* `Latch.puts_of_two`: given two values only, one of them final, the order does not matter.
* `Cell.stores_eq`: a cell holds the last value it was given.
-/

namespace Support

namespace Latch

variable {V : Type} {final : V → Bool} {v u : V} {us : List V}

/-- A latch that holds `v` is given `u`. -/
def put (final : V → Bool) (v u : V) : V := if final v then v else u

/-- A latch that holds `v` is given the values `us`, in this order. -/
def puts (final : V → Bool) (v : V) (us : List V) : V := us.foldl (put final) v

theorem put_of_final (h : final v = true) : put final v u = v := if_pos h

theorem put_of_not_final (h : final v = false) : put final v u = u := by
  rw [put, h]
  exact if_neg Bool.false_ne_true

@[simp] theorem puts_nil : puts final v [] = v := rfl

@[simp] theorem puts_cons : puts final v (u :: us) = puts final (put final v u) us := rfl

theorem puts_of_final (h : final v = true) : puts final v us = v := by
  induction us with
  | nil => rfl
  | cons u us ih => rw [puts_cons, put_of_final h, ih]

/-- A latch holds the first final value it has met. -/
theorem puts_of_find? {x : V} (h : (v :: us).find? final = some x) : puts final v us = x := by
  induction us generalizing v with
  | nil =>
      rw [List.find?_cons] at h
      cases hv : final v <;> rw [hv] at h <;> cases h
      rfl
  | cons u us ih =>
      rw [List.find?_cons] at h
      cases hv : final v with
      | true =>
          rw [hv] at h
          cases h
          exact puts_of_final hv
      | false =>
          rw [hv] at h
          rw [puts_cons, put_of_not_final hv]
          exact ih h

/-- A latch that has met no final value holds the last one. -/
theorem puts_of_not_final (h : (v :: us).find? final = none) :
    puts final v us = us.getLastD v := by
  induction us generalizing v with
  | nil => rfl
  | cons u us ih =>
      rw [List.find?_cons] at h
      cases hv : final v with
      | true => rw [hv] at h; cases h
      | false =>
          rw [hv] at h
          rw [puts_cons, put_of_not_final hv, ih h, List.getLastD_cons]

/-- A latch is final once it has met a final value, and not before. -/
theorem final_puts : final (puts final v us) = true ↔ ∃ x, (v :: us).find? final = some x := by
  cases h : (v :: us).find? final with
  | some x =>
      rw [puts_of_find? h]
      exact ⟨fun _ => ⟨x, rfl⟩, fun _ => List.find?_some h⟩
  | none =>
      refine ⟨fun hf => ?_, fun ⟨_, hx⟩ => by cases hx⟩
      have hmem : us.getLastD v ∈ v :: us := by
        cases us with
        | nil => exact List.mem_cons_self
        | cons u us => exact List.mem_cons_of_mem _ (by simp [List.getLastD])
      rw [puts_of_not_final h] at hf
      exact absurd hf (List.find?_eq_none.mp h _ hmem)

/-- A latch that is only given `a` and `b`, of which `b` is final, holds `b` when it was given
`b`, else `a` when it was given anything: in whatever order. -/
theorem puts_of_two [DecidableEq V] {a b : V} (hv : final v = false) (ha : final a = false)
    (hb : final b = true) (hus : ∀ u ∈ us, u = a ∨ u = b) :
    puts final v us = if b ∈ us then b else if us = [] then v else a := by
  induction us generalizing v with
  | nil => rfl
  | cons u us ih =>
      rw [puts_cons, put_of_not_final hv]
      have hrest : ∀ x ∈ us, x = a ∨ x = b := fun x hx => hus x (List.mem_cons_of_mem _ hx)
      rcases hus u List.mem_cons_self with rfl | rfl
      · have hne : b ≠ u := fun he => by rw [he, ha] at hb; cases hb
        rw [ih ha hrest]
        by_cases hm : b ∈ us
        · rw [if_pos hm, if_pos (List.mem_cons_of_mem _ hm)]
        · have hm' : b ∉ u :: us := fun h => by
            rcases List.mem_cons.mp h with h | h
            · exact hne h
            · exact hm h
          rw [if_neg hm, if_neg hm', if_neg (List.cons_ne_nil _ _), ite_self]
      · rw [puts_of_final hb, if_pos List.mem_cons_self]

end Latch

namespace Cell

variable {A : Type} {o u : Option A} {us : List (Option A)}

/-- A cell that holds `o` is given the values `us`, in this order. -/
def stores (o : Option A) (us : List (Option A)) : Option A := us.foldl (fun o u => u <|> o) o

@[simp] theorem stores_nil : stores o [] = o := rfl

@[simp] theorem stores_cons : stores o (u :: us) = stores (u <|> o) us := rfl

/-- A cell holds the last value it was given. -/
theorem stores_eq : stores o us = ((us.filterMap id).getLast? <|> o) := by
  induction us generalizing o with
  | nil => rfl
  | cons u us ih =>
      rw [stores_cons, ih]
      cases u with
      | none => rfl
      | some a =>
          rw [List.filterMap_cons_some (a := some a) (b := a) rfl, List.getLast?_cons]
          cases (us.filterMap id).getLast? <;> rfl

end Cell

end Support

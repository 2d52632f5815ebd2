import Mathlib.Logic.Function.Basic
import Mathlib.Logic.Relation

/-!
# Support — CacheAside

One value in two places: the *row*, which counts, and a *cache* beside it.  A process reads the row
and fills the cache with what it has read, or changes the row and writes the new value to the cache.
Both take two steps.  The cache may lose its entry at any time.

**Coherence** (`coherent`).  When no process changes the row while another one is to write the cache,
and none that has changed the row stops before it has, the cache is empty or holds the row's value
whenever no process is to write it.
-/

namespace Support.CacheAside

open Function (update)
open Relation (ReflTransGen)

variable {ι V : Type}

/-- What a process is to write to the cache: a value it has read, or one it has put in the row. -/
inductive Phase (V : Type) where
  | idle
  | filling (v : V)
  | flushing (v : V)

/-- The row, the cache, and the processes. -/
structure State (ι V : Type) where
  row : Option V
  cache : Option V
  phase : ι → Phase V

variable [DecidableEq ι]

/-- One step, by process `i` or, `evict`, by the cache. -/
inductive Move : State ι V → State ι V → Prop where
  | evict {s : State ι V} : Move s { s with cache := none }
  | read {s : State ι V} {i : ι} {v : V} (hi : s.phase i = .idle) (hv : s.row = some v) :
      Move s { s with phase := update s.phase i (.filling v) }
  | change {s : State ι V} {i : ι} {v : V} (hc : ∀ j, j ≠ i → s.phase j = .idle) :
      Move s { s with row := some v, phase := update s.phase i (.flushing v) }
  | write {s : State ι V} {i : ι} {v : V} (hi : s.phase i = .filling v ∨ s.phase i = .flushing v) :
      Move s { s with cache := some v, phase := update s.phase i .idle }
  | drop {s : State ι V} {i : ι} {v : V} (hi : s.phase i = .filling v) :
      Move s { s with phase := update s.phase i .idle }

/-- Whoever is to write the cache is to write the row's value, and the cache is stale only while
a process that has changed the row is to write it. -/
structure Inv (s : State ι V) : Prop where
  pending : ∀ i v, s.phase i = .filling v ∨ s.phase i = .flushing v → s.row = some v
  cache : s.cache = none ∨ s.cache = s.row ∨ ∃ i v, s.phase i = .flushing v

variable {s s' : State ι V}

omit [DecidableEq ι] in
theorem Inv.of_idle (h : ∀ i, s.phase i = .idle) (hc : s.cache = none ∨ s.cache = s.row) :
    Inv s where
  pending := by
    intro i v hi
    rw [h i] at hi
    rcases hi with hi | hi <;> cases hi
  cache := hc.imp_right .inl

/-- A process that starts or stops filling changes nothing that counts. -/
theorem Inv.update_phase (h : Inv s) {i : ι} {p : Phase V} (hi : ∀ v, s.phase i ≠ .flushing v)
    (hp : ∀ v, p = .filling v ∨ p = .flushing v → s.row = some v) :
    Inv { s with phase := update s.phase i p } where
  pending := by
    intro j v hj
    dsimp only at hj
    by_cases hji : j = i
    · subst hji
      rw [Function.update_self] at hj
      exact hp v hj
    · rw [Function.update_of_ne hji] at hj
      exact h.pending j v hj
  cache := by
    refine h.cache.imp_right (.imp_right ?_)
    rintro ⟨j, v, hj⟩
    have hji : j ≠ i := fun e => hi v (e ▸ hj)
    exact ⟨j, v, (Function.update_of_ne hji _ _).trans hj⟩

/-- No process but `i` is to write, and `i` is to write the row's value. -/
theorem Inv.of_only {i : ι} {v : V} {c : Option V} (h : ∀ j, j ≠ i → s.phase j = .idle) :
    Inv { s with row := some v, cache := c, phase := update s.phase i (.flushing v) } where
  pending := by
    intro j u hj
    dsimp only at hj
    by_cases hji : j = i
    · subst hji
      rw [Function.update_self] at hj
      rcases hj with hj | hj <;> cases hj
      rfl
    · rw [Function.update_of_ne hji, h j hji] at hj
      rcases hj with hj | hj <;> cases hj
  cache := .inr (.inr ⟨i, v, Function.update_self _ _ _⟩)

theorem Inv.move (h : Inv s) (hm : Move s s') : Inv s' := by
  cases hm with
  | evict => exact ⟨h.pending, .inl rfl⟩
  | @read i v hi hv =>
      refine h.update_phase (fun u hu => ?_) fun u hu => ?_
      · cases hi.symm.trans hu
      · rcases hu with hu | hu <;> cases hu
        exact hv
  | change hc => exact .of_only hc
  | @write i v hi =>
      -- The value written is the row's, so whoever else is to write is to write the same.
      have hrow : s.row = some v := h.pending i v hi
      refine ⟨fun j u hj => ?_, .inr (.inl hrow.symm)⟩
      dsimp only at hj ⊢
      by_cases hji : j = i
      · subst hji
        rw [Function.update_self] at hj
        rcases hj with hj | hj <;> cases hj
      · rw [Function.update_of_ne hji] at hj
        exact h.pending j u hj
  | @drop i v hi =>
      refine h.update_phase (fun u hu => ?_) fun u hu => ?_
      · cases hi.symm.trans hu
      · rcases hu with hu | hu <;> cases hu

theorem Inv.run (h : Inv s) (hr : ReflTransGen Move s s') : Inv s' := by
  induction hr with
  | refl => exact h
  | tail _ hm ih => exact ih.move hm

/-- **Coherence**, after any run from a coherent state in which no process is to write. -/
theorem coherent (hidle : ∀ i, s.phase i = .idle) (hc : s.cache = none ∨ s.cache = s.row)
    (hr : ReflTransGen Move s s') (hidle' : ∀ i, s'.phase i = .idle) :
    s'.cache = none ∨ s'.cache = s'.row := by
  rcases ((Inv.of_idle hidle hc).run hr).cache with h | h | ⟨i, v, hi⟩
  · exact .inl h
  · exact .inr h
  · cases (hidle' i).symm.trans hi

end Support.CacheAside

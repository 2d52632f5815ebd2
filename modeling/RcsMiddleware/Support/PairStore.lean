import Mathlib.Logic.Function.Basic
import Mathlib.Logic.Relation

/-!
# Support — PairStore

Two cells that belong together.  A writer `i` with `pair i = some (a, b)` writes `a` to the first
cell and then `b` to the second; a reader reads the first and then the second.  Nothing makes
either step one with the other, and a writer may stop between its two.

* `supplied`: each half of what a reader gets was written by some writer, or was there before.
* **Whole pairs** (`whole`).  The two halves were written by one writer, or were there before,
  when a writer writes the second cell only while the first is as it left it, and a reader reads
  the second cell only when it has been written since the first was, and the first is as the
  reader read it.

`Move strict` is a step under the second's condition, if `strict`.
-/

namespace Support.PairStore

open Function (update)
open Relation (ReflTransGen)

variable {ι A B : Type}

/-- What a reader has read. -/
inductive Phase (A B : Type) where
  | idle
  | half (a : Option A)
  | got (a : Option A) (b : Option B)

/-- The two cells, the writer that wrote the first last, if the second has not been written since,
and what each reader has read. -/
structure State (ι A B : Type) where
  first : Option A
  second : Option B
  writing : Option ι
  phase : ι → Phase A B

variable [DecidableEq ι]

/-- One step of process `i`. -/
inductive Move (strict : Prop) (pair : ι → Option (A × B)) : State ι A B → State ι A B → Prop where
  | writeFirst {s : State ι A B} {i : ι} {a : A} {b : B} (hp : pair i = some (a, b)) :
      Move strict pair s { s with first := some a, writing := some i }
  | writeSecond {s : State ι A B} {i : ι} {a : A} {b : B} (hp : pair i = some (a, b))
      (hc : strict → s.writing = some i) :
      Move strict pair s { s with second := some b, writing := none }
  | readFirst {s : State ι A B} {i : ι} :
      Move strict pair s { s with phase := update s.phase i (.half s.first) }
  | readSecond {s : State ι A B} {i : ι} {a : Option A} (hi : s.phase i = .half a)
      (hc : strict → s.writing = none ∧ a = s.first) :
      Move strict pair s { s with phase := update s.phase i (.got a s.second) }

variable {strict : Prop} {pair : ι → Option (A × B)} {s s' s₀ : State ι A B}

/-- Where a process stands after another phase of `i`: it is `i`, or it stands as before. -/
theorem phase_cases {f : ι → Phase A B} {i j : ι} {p q : Phase A B} (h : update f i p j = q) :
    p = q ∨ f j = q := by
  by_cases hj : j = i
  · subst hj
    rw [Function.update_self] at h
    exact .inl h
  · rw [Function.update_of_ne hj] at h
    exact .inr h

/-! ### Each half -/

/-- A first half that was there before, or that a writer has. -/
def FirstSupplied (pair : ι → Option (A × B)) (before a : Option A) : Prop :=
  a = before ∨ ∃ i u v, pair i = some (u, v) ∧ a = some u

/-- A second half that was there before, or that a writer has. -/
def SecondSupplied (pair : ι → Option (A × B)) (before b : Option B) : Prop :=
  b = before ∨ ∃ i u v, pair i = some (u, v) ∧ b = some v

/-- Every half in sight was supplied. -/
structure Halves (pair : ι → Option (A × B)) (s₀ s : State ι A B) : Prop where
  first : FirstSupplied pair s₀.first s.first
  second : SecondSupplied pair s₀.second s.second
  half : ∀ i a, s.phase i = .half a → FirstSupplied pair s₀.first a
  got : ∀ i a b, s.phase i = .got a b →
    FirstSupplied pair s₀.first a ∧ SecondSupplied pair s₀.second b

theorem Halves.move (h : Halves pair s₀ s) (hm : Move strict pair s s') :
    Halves pair s₀ s' := by
  cases hm with
  | @writeFirst i u v hp => exact ⟨.inr ⟨i, u, v, hp, rfl⟩, h.second, h.half, h.got⟩
  | @writeSecond i u v hp _ => exact ⟨h.first, .inr ⟨i, u, v, hp, rfl⟩, h.half, h.got⟩
  | readFirst =>
      refine ⟨h.first, h.second, fun j a hj => ?_, fun j a b hj => ?_⟩
      · rcases phase_cases hj with hp | hj
        · cases hp
          exact h.first
        · exact h.half j a hj
      · rcases phase_cases hj with hp | hj
        · cases hp
        · exact h.got j a b hj
  | @readSecond i a hi _ =>
      refine ⟨h.first, h.second, fun j a' hj => ?_, fun j a' b hj => ?_⟩
      · rcases phase_cases hj with hp | hj
        · cases hp
        · exact h.half j a' hj
      · rcases phase_cases hj with hp | hj
        · cases hp
          exact ⟨h.half i a hi, h.second⟩
        · exact h.got j a' b hj

theorem Halves.run (h : Halves pair s₀ s) (hr : ReflTransGen (Move strict pair) s s') :
    Halves pair s₀ s' := by
  induction hr with
  | refl => exact h
  | tail _ hm ih => exact ih.move hm

/-- **Each half** a reader gets was supplied. -/
theorem supplied (hidle : ∀ i, s₀.phase i = .idle) (hr : ReflTransGen (Move strict pair) s₀ s)
    {i : ι} {a : Option A} {b : Option B} (hi : s.phase i = .got a b) :
    FirstSupplied pair s₀.first a ∧ SecondSupplied pair s₀.second b := by
  have hstart : Halves pair s₀ s₀ := by
    refine ⟨.inl rfl, .inl rfl, fun j a hj => ?_, fun j a b hj => ?_⟩
    · cases (hidle j).symm.trans hj
    · cases (hidle j).symm.trans hj
  exact (hstart.run hr).got i a b hi

/-! ### Whole pairs -/

/-- A pair that was there before, or that one writer has. -/
def Whole (pair : ι → Option (A × B)) (a₀ : Option A) (b₀ : Option B) (a : Option A)
    (b : Option B) : Prop :=
  (a = a₀ ∧ b = b₀) ∨ ∃ i u v, pair i = some (u, v) ∧ a = some u ∧ b = some v

/-- The cells hold a whole pair, unless a writer has written the first and nobody the second. -/
structure Inv (pair : ι → Option (A × B)) (s₀ s : State ι A B) : Prop where
  settled : s.writing = none → Whole pair s₀.first s₀.second s.first s.second
  torn : ∀ i, s.writing = some i → ∃ u v, pair i = some (u, v) ∧ s.first = some u
  got : ∀ i a b, s.phase i = .got a b → Whole pair s₀.first s₀.second a b

theorem Inv.move (h : Inv pair s₀ s) (hm : Move True pair s s') : Inv pair s₀ s' := by
  cases hm with
  | @writeFirst i a b hp =>
      refine ⟨fun hw => ?_, fun j hw => ?_, h.got⟩
      · cases hw
      · cases hw
        exact ⟨a, b, hp, rfl⟩
  | @writeSecond i a b hp hc =>
      -- The first cell is the writer's own, so the pair is.
      obtain ⟨u, v, hq, hu⟩ := h.torn i (hc trivial)
      cases hp.symm.trans hq
      refine ⟨fun _ => .inr ⟨i, a, b, hp, hu, rfl⟩, fun j hw => ?_, h.got⟩
      cases hw
  | readFirst =>
      refine ⟨h.settled, h.torn, fun j a b hj => ?_⟩
      rcases phase_cases hj with hp | hj
      · cases hp
      · exact h.got j a b hj
  | readSecond hi hc =>
      obtain ⟨hw, rfl⟩ := hc trivial
      refine ⟨h.settled, h.torn, fun j a b hj => ?_⟩
      rcases phase_cases hj with hp | hj
      · cases hp
        exact h.settled hw
      · exact h.got j a b hj

theorem Inv.run (h : Inv pair s₀ s) (hr : ReflTransGen (Move True pair) s s') :
    Inv pair s₀ s' := by
  induction hr with
  | refl => exact h
  | tail _ hm ih => exact ih.move hm

/-- **Whole pairs**: the two halves a reader gets belong together. -/
theorem whole (hwriting : s₀.writing = none) (hidle : ∀ i, s₀.phase i = .idle)
    (hr : ReflTransGen (Move True pair) s₀ s) {i : ι} {a : Option A} {b : Option B}
    (hi : s.phase i = .got a b) : Whole pair s₀.first s₀.second a b := by
  have hstart : Inv pair s₀ s₀ := by
    refine ⟨fun _ => .inl ⟨rfl, rfl⟩, fun j hw => ?_, fun j a b hj => ?_⟩
    · cases hwriting.symm.trans hw
    · cases (hidle j).symm.trans hj
  exact (hstart.run hr).got i a b hi

end Support.PairStore

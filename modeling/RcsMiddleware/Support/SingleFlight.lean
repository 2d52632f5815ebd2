import Mathlib.Logic.Function.Basic
import Mathlib.Logic.Relation

/-!
# Support — SingleFlight

Work behind a cache.  A process looks its result up; when the lookup misses it does the work
and publishes the result, and from then on every lookup hits.  Between its miss and its
publication a process is in flight.

**One flight at a time** (`Flights.works_le_one`).  When no lookup misses while another process
is in flight, the work is done at most once, whatever the number of processes and the order of
their steps.  Nothing here makes the processes wait: that a miss meets no flight is a condition
of `Flight.miss`, to be discharged or assumed by whoever uses the model.
-/

namespace Support

open Function (update)

variable {ι : Type}

/-- Where a process stands. -/
inductive Stage where
  | idle
  | flying (worked : Bool)
  | done

/-- Whether the result is published, how often the work was done, where each process stands. -/
structure Flights (ι : Type) where
  cached : Bool
  works : Nat
  stage : ι → Stage

namespace Flights

/-- No process is in flight. -/
def Quiet (s : Flights ι) : Prop := ∀ j b, s.stage j ≠ .flying b

/-- The three situations of a run: nothing done yet, one process in flight, a result there. -/
inductive Inv (s : Flights ι) : Prop where
  | fresh (hc : s.cached = false) (hw : s.works = 0) (hq : s.Quiet)
  | flight (i : ι) (worked : Bool) (hc : s.cached = false) (hw : s.works = worked.toNat)
      (hi : s.stage i = .flying worked) (ho : ∀ j b, j ≠ i → s.stage j ≠ .flying b)
  | published (hc : s.cached = true) (hw : s.works ≤ 1) (hq : s.Quiet)

theorem Inv.works_le_one {s : Flights ι} (h : s.Inv) : s.works ≤ 1 := by
  rcases h with ⟨-, hw, -⟩ | ⟨i, worked, -, hw, -, -⟩ | ⟨-, hw, -⟩
  · omega
  · rw [hw]
    exact Bool.toNat_le worked
  · exact hw

variable [DecidableEq ι]

/-- One step of one process. -/
inductive Flight : Flights ι → Flights ι → Prop where
  | hit {s : Flights ι} {i : ι} (hi : s.stage i = .idle) (hc : s.cached = true) :
      Flight s { s with stage := update s.stage i .done }
  | miss {s : Flights ι} {i : ι} (hi : s.stage i = .idle) (hc : s.cached = false)
      (hq : ∀ j b, s.stage j ≠ .flying b) :
      Flight s { s with stage := update s.stage i (.flying false) }
  | work {s : Flights ι} {i : ι} (hi : s.stage i = .flying false) :
      Flight s { s with works := s.works + 1, stage := update s.stage i (.flying true) }
  | publish {s : Flights ι} {i : ι} (hi : s.stage i = .flying true) :
      Flight s { s with cached := true, stage := update s.stage i .done }

/-- A process that ends at `done` leaves no other process in flight than there was. -/
theorem Quiet.update_done {s : Flights ι} {i : ι} (h : ∀ j b, j ≠ i → s.stage j ≠ .flying b) :
    ∀ j b, update s.stage i .done j ≠ .flying b := by
  intro j b
  by_cases hj : j = i
  · subst hj
    rw [Function.update_self]
    exact Stage.noConfusion
  · rw [Function.update_of_ne hj]
    exact h j b hj

theorem Inv.step {s s' : Flights ι} (h : s.Inv) (hs : Flight s s') : s'.Inv := by
  cases hs with
  | @hit i hi hc =>
      rcases h with ⟨hn, -, -⟩ | ⟨-, -, hn, -, -, -⟩ | ⟨-, hw, hq⟩
      · exact absurd (hn.symm.trans hc) Bool.false_ne_true
      · exact absurd (hn.symm.trans hc) Bool.false_ne_true
      · exact .published hc hw (Quiet.update_done fun j b _ => hq j b)
  | @miss i hi hc hq =>
      have ho : ∀ j b, j ≠ i → update s.stage i (.flying false) j ≠ .flying b := fun j b hj => by
        rw [Function.update_of_ne hj]
        exact hq j b
      rcases h with ⟨-, hw, -⟩ | ⟨k, worked, -, -, hk, -⟩ | ⟨hn, -, -⟩
      · exact .flight i false hc hw (Function.update_self _ _ _) ho
      · exact absurd hk (hq k worked)
      · exact absurd (hc.symm.trans hn) Bool.false_ne_true
  | @work i hi =>
      rcases h with ⟨-, -, hq⟩ | ⟨k, worked, hc, hw, hk, ho⟩ | ⟨-, -, hq⟩
      · exact absurd hi (hq i _)
      · obtain rfl : i = k := by
          by_contra hne
          exact ho i _ hne hi
        obtain rfl : worked = false := by
          rw [hi] at hk
          cases hk
          rfl
        refine .flight i true hc ?_ (Function.update_self _ _ _) fun j b hj => ?_
        · rw [show s.works + 1 = 1 by rw [hw]; rfl]
          rfl
        · show update s.stage i (.flying true) j ≠ .flying b
          rw [Function.update_of_ne hj]
          exact ho j b hj
      · exact absurd hi (hq i _)
  | @publish i hi =>
      rcases h with ⟨-, -, hq⟩ | ⟨k, worked, hc, hw, hk, ho⟩ | ⟨-, -, hq⟩
      · exact absurd hi (hq i _)
      · obtain rfl : i = k := by
          by_contra hne
          exact ho i _ hne hi
        exact .published rfl (hw ▸ Bool.toNat_le worked) (Quiet.update_done ho)
      · exact absurd hi (hq i _)

/-- **One flight at a time**: the work is done at most once. -/
theorem works_le_one {s s' : Flights ι} (h : Relation.ReflTransGen Flight s s')
    (hw : s.works = 0) (hq : s.Quiet) : s'.works ≤ 1 := by
  refine Inv.works_le_one (?_ : s'.Inv)
  induction h with
  | refl =>
      cases hc : s.cached with
      | true => exact .published hc (by omega) hq
      | false => exact .fresh hc hw hq
  | tail _ hs ih => exact ih.step hs

end Flights

end Support

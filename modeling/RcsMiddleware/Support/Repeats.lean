import Mathlib.Data.List.Nodup
import Mathlib.Data.Set.Card

/-!
# Support — Repeats

A set that is enumerated in any order, where an element may come several times, as with a cursor
that promises each element at least once.

* `length_eq_ncard_iff`: counting what comes counts the set exactly when nothing comes twice.
* `filterMap_distinct_iff`: results that are made one by one are those of different elements exactly
  when no element with a result comes twice.
-/

namespace Support

variable {α β : Type} {s : Set α} {xs : List α}

/-- Each element comes at least once, and nothing else does. -/
def Enumerates (s : Set α) (xs : List α) : Prop := ∀ x, x ∈ xs ↔ x ∈ s

namespace Enumerates

/-- **What is counted** is the set exactly when nothing comes twice. -/
theorem length_eq_ncard_iff (h : Enumerates s xs) : xs.length = s.ncard ↔ xs.Nodup := by
  classical
  have hset : s = (xs.toFinset : Set α) := by
    ext x
    simp [h x]
  rw [hset, Set.ncard_coe_finset]
  constructor
  · intro hlength
    exact Multiset.toFinset_card_eq_card_iff_nodup.mp hlength.symm
  · exact fun hnodup => (List.toFinset_card_of_nodup hnodup).symm

end Enumerates

/-! ### Results -/

/-- The results are those of elements that come, no two of one element. -/
def FromDistinct (f : α → Option β) (xs : List α) (results : List β) : Prop :=
  ∃ sources : List α, sources.Nodup ∧ sources ⊆ xs ∧ results.map some = sources.map f

variable {f : α → Option β}

theorem map_some_filterMap (f : α → Option β) (xs : List α) :
    (xs.filterMap f).map some = (xs.filter fun x => (f x).isSome).map f := by
  induction xs with
  | nil => rfl
  | cons x xs ih =>
      cases hx : f x with
      | none => simp [hx, ih]
      | some y => simp [hx, ih]

/-- **Results that are made one by one** are those of different elements exactly when no element
with a result comes twice. -/
theorem filterMap_distinct_iff : FromDistinct f xs (xs.filterMap f) ↔
    (xs.filter fun x => (f x).isSome).Nodup := by
  constructor
  · rintro ⟨sources, hnodup, hsubset, hresults⟩
    have hshow : sources ⊆ xs.filter fun x => (f x).isSome := by
      intro x hx
      have hmem : f x ∈ (xs.filterMap f).map some := hresults ▸ List.mem_map_of_mem hx
      obtain ⟨y, -, hy⟩ := List.mem_map.mp hmem
      exact List.mem_filter.mpr ⟨hsubset hx, by rw [← hy]; rfl⟩
    -- There are as many sources as elements with a result, counted with their repetitions.
    have hlength : (xs.filter fun x => (f x).isSome).length ≤ sources.length := by
      rw [map_some_filterMap] at hresults
      simpa using (congrArg List.length hresults).le
    exact ((hnodup.subperm hshow).perm_of_length_le hlength).nodup_iff.mp hnodup
  · intro hnodup
    exact ⟨_, hnodup, List.filter_subset_self _, map_some_filterMap f xs⟩

end Support

import Mathlib.Data.List.Forall2
import Mathlib.Data.List.Sort
import Mathlib.Data.String.Basic

/-!
# Support — Members

Lists of members, a key with a value each, as a `dict` holds them: what a lookup finds, and the
members in the order of their keys.

* `lookup_sortByKey`: sorting keeps what a lookup finds.
* `sortByKey_eq_of_lookup`: members with distinct keys are sorted alike when lookups find the same.
-/

namespace Support

variable {α β : Type}

/-- Members in the order of their keys. -/
def sortByKey (members : List (String × α)) : List (String × α) :=
  members.insertionSort fun a b => a.1 ≤ b.1

theorem perm_sortByKey (members : List (String × α)) : (sortByKey members).Perm members :=
  List.perm_insertionSort _ members

theorem map_sortByKey (f : α → β) (members : List (String × α)) :
    (sortByKey members).map (fun kv => (kv.1, f kv.2)) =
      sortByKey (members.map fun kv => (kv.1, f kv.2)) :=
  List.map_insertionSort _ _ _ _ fun _ _ _ _ => Iff.rfl

theorem lookup_orderedInsert (member : String × α) (members : List (String × α)) (key : String) :
    (members.orderedInsert (fun a b => a.1 ≤ b.1) member).lookup key =
      (member :: members).lookup key := by
  induction members with
  | nil => rfl
  | cons other members ih =>
      rw [List.orderedInsert_cons]
      split_ifs with h
      · rfl
      · -- The two keys are different.
        have hne : member.1 ≠ other.1 := fun he => h (le_of_eq he)
        rw [List.lookup_cons, ih, List.lookup_cons, List.lookup_cons, List.lookup_cons]
        by_cases hkey : key = other.1
        · subst hkey
          rw [beq_self_eq_true, beq_false_of_ne hne.symm]
        · rw [beq_false_of_ne hkey]

/-- Sorting keeps what a lookup finds. -/
theorem lookup_sortByKey (members : List (String × α)) (key : String) :
    (sortByKey members).lookup key = members.lookup key := by
  induction members with
  | nil => rfl
  | cons member members ih =>
      rw [sortByKey, List.insertionSort_cons, lookup_orderedInsert, List.lookup_cons,
        List.lookup_cons]
      cases key == member.1 with
      | true => rfl
      | false => exact ih

/-- Members with equal keys and related values give related lookups. -/
theorem lookup_forall₂ {R : α → β → Prop} {members : List (String × α)}
    {members' : List (String × β)}
    (h : List.Forall₂ (fun a b => a.1 = b.1 ∧ R a.2 b.2) members members') (key : String) :
    Option.Rel R (members.lookup key) (members'.lookup key) := by
  induction h with
  | nil => exact .none
  | @cons a b _ _ hab _ ih =>
      rw [List.lookup_cons, List.lookup_cons, ← hab.1]
      cases key == a.1 with
      | true => exact .some hab.2
      | false => exact ih

theorem mem_of_lookup {members : List (String × α)} {key : String} {v : α}
    (h : members.lookup key = some v) : (key, v) ∈ members := by
  obtain ⟨before, after, rfl, -⟩ := List.lookup_eq_some_iff.mp h
  exact List.mem_append_right _ List.mem_cons_self

theorem lookup_of_mem {members : List (String × α)} (hkeys : (members.map Prod.fst).Nodup)
    {key : String} {v : α} (h : (key, v) ∈ members) : members.lookup key = some v := by
  induction members with
  | nil => cases h
  | cons member members ih =>
      rw [List.map_cons, List.nodup_cons] at hkeys
      rw [List.lookup_cons]
      rcases List.mem_cons.mp h with rfl | h
      · rw [beq_self_eq_true]
      · have hne : key ≠ member.1 := fun he => hkeys.1 (he ▸ List.mem_map_of_mem h)
        rw [beq_false_of_ne hne]
        exact ih hkeys.2 h

theorem lookup_map (f : α → β) (members : List (String × α)) (key : String) :
    (members.map fun kv => (kv.1, f kv.2)).lookup key = (members.lookup key).map f := by
  induction members with
  | nil => rfl
  | cons member members ih =>
      rw [List.map_cons, List.lookup_cons, List.lookup_cons]
      cases key == member.1 with
      | true => rfl
      | false => exact ih

theorem map_eq_of_rel {γ : Type} {R : α → β → Prop} {f : α → γ} {g : β → γ} {a : Option α}
    {b : Option β} (h : Option.Rel R a b) (hfg : ∀ x ∈ a, ∀ y ∈ b, R x y → f x = g y) :
    a.map f = b.map g := by
  cases h with
  | none => rfl
  | some hxy => exact congrArg some (hfg _ rfl _ rfl hxy)

/-- Members with distinct keys are sorted alike when lookups find the same in them. -/
theorem sortByKey_eq_of_lookup {members members' : List (String × α)}
    (hkeys : (members.map Prod.fst).Nodup) (hkeys' : (members'.map Prod.fst).Nodup)
    (h : ∀ key, members.lookup key = members'.lookup key) :
    sortByKey members = sortByKey members' := by
  have hperm : members.Perm members' := by
    refine (List.perm_ext_iff_of_nodup hkeys.of_map hkeys'.of_map).mpr fun kv => ?_
    exact ⟨fun hm => mem_of_lookup ((h kv.1).symm.trans (lookup_of_mem hkeys hm)),
      fun hm => mem_of_lookup ((h kv.1).trans (lookup_of_mem hkeys' hm))⟩
  have hsorted : ∀ l : List (String × α), (sortByKey l).Pairwise fun a b => a.1 ≤ b.1 := fun l =>
    @List.pairwise_insertionSort _ (fun a b : String × α => a.1 ≤ b.1) _
      ⟨fun a b => le_total a.1 b.1⟩ ⟨fun _ _ _ => le_trans⟩ l
  refine @List.Perm.eq_of_pairwise _ (fun a b => a.1 ≤ b.1) _ _ ?_ (hsorted members)
    (hsorted members')
    ((perm_sortByKey members).trans (hperm.trans (perm_sortByKey members').symm))
  rintro ⟨key, v⟩ ⟨key', v'⟩ ha hb hab hba
  obtain rfl : key = key' := le_antisymm hab hba
  have hv := lookup_of_mem hkeys ((perm_sortByKey members).mem_iff.mp ha)
  have hv' := lookup_of_mem hkeys' ((perm_sortByKey members').mem_iff.mp hb)
  rw [h, hv'] at hv
  rw [Option.some.inj hv]

end Support

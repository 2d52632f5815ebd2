import Mathlib.Data.List.Nodup
import Mathlib.Data.List.Perm.Basic
import Mathlib.Order.Lattice

/-!
# Support — Descending

Rows in descending order of a key that several can share, as a database gives them: rows with equal
keys come in any order, and in another one for every query.

* `DescOrder`: what a query may answer.
* `take_perm`: the first rows are the same in every answer where the cut splits no group of rows
  with equal keys.
* `pages_perm_iff`: pages that are read one by one have every row once exactly when no page ends
  within such a group.
-/

namespace Support.Descending

variable {α K : Type} [LinearOrder K] {key : α → K} {rows : List α}

/-- The rows in descending order. -/
structure DescOrder (key : α → K) (rows : List α) where
  list : List α
  perm : list.Perm rows
  sorted : list.Pairwise fun a b => key b ≤ key a

namespace DescOrder

/-- The answer in which rows with equal keys keep their order. -/
def stable (key : α → K) (rows : List α) : DescOrder key rows where
  list := rows.mergeSort fun a b => decide (key b ≤ key a)
  perm := List.mergeSort_perm _ _
  sorted := by
    have hsorted : (rows.mergeSort fun a b => decide (key b ≤ key a)).Pairwise
        fun a b => decide (key b ≤ key a) = true := by
      refine List.pairwise_mergeSort (fun a b c hab hbc => ?_) (fun a b => ?_) rows
      · simp only [decide_eq_true_eq] at hab hbc ⊢
        exact hbc.trans hab
      · simp only [Bool.or_eq_true, decide_eq_true_eq]
        exact le_total _ _
    simpa using hsorted

/-- The number of rows with a greater key is at most that of the rows in front. -/
theorem countP_lt_le (order : DescOrder key rows) {front back : List α} {x : α}
    (h : order.list = front ++ x :: back) :
    rows.countP (fun r => key x < key r) ≤ front.length := by
  have hsorted := order.sorted
  rw [h, List.pairwise_append, List.pairwise_cons] at hsorted
  have hback : (x :: back).countP (fun r => key x < key r) = 0 := by
    rw [List.countP_eq_zero]
    intro r hr
    rcases List.mem_cons.mp hr with rfl | hr
    · simp
    · simpa using hsorted.2.1.1 r hr
  rw [← order.perm.countP_eq, h, List.countP_append, hback]
  exact List.countP_le_length

/-- The rows in front have no smaller key. -/
theorem lt_countP_le (order : DescOrder key rows) {front back : List α} {x : α}
    (h : order.list = front ++ x :: back) :
    front.length < rows.countP fun r => key x ≤ key r := by
  have hsorted := order.sorted
  rw [h, List.pairwise_append] at hsorted
  have hfront : front.countP (fun r => key x ≤ key r) = front.length := by
    rw [List.countP_eq_length]
    intro r hr
    simpa using hsorted.2.2 r hr x List.mem_cons_self
  rw [← order.perm.countP_eq, h, List.countP_append, List.countP_cons, hfront]
  simp

end DescOrder

/-! ### A cut -/

/-- Where a row in front of a cut stands. -/
theorem exists_of_mem_take {list : List α} {x : α} {n : Nat} (hx : x ∈ list.take n) :
    ∃ front back, list = front ++ x :: back ∧ front.length < n := by
  obtain ⟨front, back, hfront⟩ := List.append_of_mem hx
  refine ⟨front, back ++ list.drop n, ?_, ?_⟩
  · conv_lhs => rw [← List.take_append_drop n list, hfront, List.append_assoc, List.cons_append]
  · have hlength := congrArg List.length hfront
    rw [List.length_take, List.length_append, List.length_cons] at hlength
    omega

/-- Where a row behind a cut stands. -/
theorem exists_of_mem_drop {list : List α} {x : α} {n : Nat} (hx : x ∈ list.drop n) :
    ∃ front back, list = front ++ x :: back ∧ n ≤ front.length := by
  obtain ⟨front, back, hback⟩ := List.append_of_mem hx
  have hlist : list = list.take n ++ front ++ x :: back := by
    rw [List.append_assoc, ← hback, List.take_append_drop]
  refine ⟨_, back, hlist, ?_⟩
  have hlength := congrArg List.length hback
  rw [List.length_drop, List.length_append, List.length_cons] at hlength
  rw [List.length_append, List.length_take]
  omega

/-- No row behind a cut comes before one in front of it. -/
theorem DescOrder.le_of_cut (order : DescOrder key rows) {x y : α} {n : Nat}
    (hx : x ∈ order.list.take n) (hy : y ∈ order.list.drop n) : key y ≤ key x := by
  have hsorted := order.sorted
  rw [← List.take_append_drop n order.list, List.pairwise_append] at hsorted
  exact hsorted.2.2 x hx y hy

/-- The cut after `n` rows splits no group of rows with equal keys: the rows with a greater key than
this one fill the front, or the rows with no smaller key fit into it. -/
def Unsplit (key : α → K) (rows : List α) (n : Nat) : Prop :=
  ∀ x ∈ rows, n ≤ rows.countP (fun r => key x < key r) ∨
    rows.countP (fun r => key x ≤ key r) ≤ n

instance (key : α → K) (rows : List α) (n : Nat) : Decidable (Unsplit key rows n) :=
  inferInstanceAs (Decidable (∀ x ∈ rows, _ ∨ _))

variable {n : Nat}

theorem unsplit_congr {rows' : List α} (h : rows.Perm rows') :
    Unsplit key rows n ↔ Unsplit key rows' n := by
  simp only [Unsplit, h.countP_eq, h.mem_iff]

/-- The rows in front of a cut are those that fit into it. -/
theorem take_eq_filter (h : Unsplit key rows n) (order : DescOrder key rows) :
    order.list.take n =
      order.list.filter fun x => decide (rows.countP (fun r => key x ≤ key r) ≤ n) := by
  have hfront : (order.list.take n).filter
      (fun x => decide (rows.countP (fun r => key x ≤ key r) ≤ n)) = order.list.take n := by
    rw [List.filter_eq_self]
    intro x hx
    obtain ⟨front, back, hlist, hlt⟩ := exists_of_mem_take hx
    have hnewer := order.countP_lt_le hlist
    rcases h x (order.perm.subset (List.mem_of_mem_take hx)) with hfull | hfits
    · omega
    · simpa using hfits
  have hback : (order.list.drop n).filter
      (fun x => decide (rows.countP (fun r => key x ≤ key r) ≤ n)) = [] := by
    rw [List.filter_eq_nil_iff]
    intro x hx
    obtain ⟨front, back, hlist, hle⟩ := exists_of_mem_drop hx
    have hnot := order.lt_countP_le hlist
    simp only [decide_eq_true_eq]
    omega
  conv_rhs => rw [← List.take_append_drop n order.list, List.filter_append, hfront, hback,
    List.append_nil]

/-- **The rows in front of a cut** are the same in every answer. -/
theorem take_perm (h : Unsplit key rows n) (order order' : DescOrder key rows) :
    (order.list.take n).Perm (order'.list.take n) := by
  rw [take_eq_filter h, take_eq_filter h]
  exact (order.perm.trans order'.perm.symm).filter _

/-- **A cut that splits a group**: rows with equal keys stand on either side of it. -/
theorem exists_equal (h : ¬ Unsplit key rows n) (order : DescOrder key rows) :
    ∃ front x y back, order.list = front ++ x :: y :: back ∧ front.length + 1 = n ∧
      key x = key y := by
  simp only [Unsplit, not_forall, not_or, Nat.not_le, exists_prop] at h
  obtain ⟨z, -, hnewer, hnot⟩ := h
  have hlong : n < order.list.length := by
    rw [order.perm.length_eq]
    exact Nat.lt_of_lt_of_le hnot List.countP_le_length
  obtain ⟨m, rfl⟩ : ∃ m, n = m + 1 := ⟨n - 1, by omega⟩
  obtain ⟨front, x, y, back, hlist, hfront⟩ :
      ∃ front x y back, order.list = front ++ x :: y :: back ∧ front.length = m := by
    refine ⟨order.list.take m, order.list[m], order.list[m + 1], order.list.drop (m + 2), ?_, ?_⟩
    · rw [← List.drop_eq_getElem_cons, ← List.drop_eq_getElem_cons, List.take_append_drop]
    · rw [List.length_take]
      omega
  refine ⟨front, x, y, back, hlist, by rw [hfront], ?_⟩
  have hcut : order.list = (front ++ [x]) ++ y :: back := by
    rw [hlist, List.append_assoc]
    rfl
  have hsorted := order.sorted
  rw [hcut, List.pairwise_append, List.pairwise_cons, List.pairwise_append] at hsorted
  obtain ⟨⟨-, -, hx⟩, ⟨hy, -⟩, hxy⟩ := hsorted
  -- Both keys are that of the row whose group is split.
  have hzy : key z ≤ key y := by
    by_contra hlt
    have hback : (y :: back).countP (fun r => key z ≤ key r) = 0 := by
      rw [List.countP_eq_zero]
      intro r hr
      have hry : key r ≤ key y := by
        rcases List.mem_cons.mp hr with rfl | hr
        · exact le_rfl
        · exact hy r hr
      simpa using hry.trans_lt (not_le.mp hlt)
    have hfits : (front ++ [x]).countP (fun r => key z ≤ key r) ≤ m + 1 := by
      have hlength : (front ++ [x]).length = m + 1 := by
        rw [List.length_append, List.length_singleton, hfront]
      exact hlength ▸ List.countP_le_length
    rw [← order.perm.countP_eq, hcut, List.countP_append, hback] at hnot
    omega
  have hxz : key x ≤ key z := by
    by_contra hlt
    have hfull : (front ++ [x]).countP (fun r => key z < key r) = (front ++ [x]).length := by
      rw [List.countP_eq_length]
      intro r hr
      have hxr : key x ≤ key r := by
        rcases List.mem_append.mp hr with hr | hr
        · exact hx r hr x (List.mem_singleton_self x)
        · rw [List.mem_singleton.mp hr]
      simpa using (not_le.mp hlt).trans_le hxr
    rw [← order.perm.countP_eq, hcut, List.countP_append, hfull, List.length_append,
      List.length_singleton, hfront] at hnewer
    omega
  exact le_antisymm (hxz.trans hzy)
    (hxy x (List.mem_append_right _ (List.mem_singleton_self x)) y List.mem_cons_self)

/-- The answer in which two neighbours with equal keys have changed places. -/
def DescOrder.exchange (order : DescOrder key rows) {front back : List α} {x y : α}
    (h : order.list = front ++ x :: y :: back) (hkey : key x = key y) : DescOrder key rows where
  list := front ++ y :: x :: back
  perm := by
    have hswap : (front ++ y :: x :: back).Perm (front ++ x :: y :: back) :=
      (List.Perm.swap x y back).append_left front
    rw [← h] at hswap
    exact hswap.trans order.perm
  sorted := by
    have hsorted := order.sorted
    rw [h] at hsorted
    simp only [List.pairwise_append, List.pairwise_cons, List.mem_cons] at hsorted ⊢
    grind

/-! ### Pages -/

/-- Rows that fit on one page. -/
theorem unsplit_of_length_le {size : Nat} (h : rows.length ≤ size) (k : Nat) :
    Unsplit key rows (k * size) := by
  intro x hx
  cases k with
  | zero =>
      refine .inl ?_
      rw [Nat.zero_mul]
      exact Nat.zero_le _
  | succ k =>
      refine .inr (Nat.le_trans List.countP_le_length (Nat.le_trans h ?_))
      rw [Nat.succ_mul]
      exact Nat.le_add_left size _

/-- The page after `k` others. -/
def page (list : List α) (size k : Nat) : List α := (list.drop (k * size)).take size

/-- The number of pages. -/
def pageCount (total size : Nat) : Nat := (total + size - 1) / size

theorem flatMap_page (list : List α) (size n : Nat) :
    (List.range n).flatMap (page list size) = list.take (n * size) := by
  induction n with
  | zero => simp
  | succ n ih =>
      rw [List.range_succ, List.flatMap_append, ih, Nat.succ_mul, List.take_add]
      simp [page]

/-- Every row is on a page. -/
theorem le_pageCount {size : Nat} (hsize : 0 < size) (total : Nat) :
    total ≤ pageCount total size * size := by
  have hdiv := Nat.div_add_mod (total + size - 1) size
  have hmod := Nat.mod_lt (total + size - 1) hsize
  rw [pageCount, Nat.mul_comm]
  omega

/-- A page before the last is full. -/
theorem lt_of_succ_lt_pageCount {total size k : Nat} (hsize : 0 < size)
    (h : k + 1 < pageCount total size) : (k + 1) * size < total := by
  have hmul := (Nat.le_div_iff_mul_le hsize).mp h
  rw [Nat.succ_mul] at hmul
  omega

theorem lt_pageCount {total size k : Nat} (hsize : 0 < size) (h : k * size < total) :
    k < pageCount total size := by
  refine (Nat.le_div_iff_mul_le hsize).mpr ?_
  rw [Nat.succ_mul]
  omega

theorem length_page (list : List α) (size k : Nat) :
    (page list size k).length = min size (list.length - k * size) := by
  rw [page, List.length_take, List.length_drop]

variable {size : Nat}

/-- Pages that end where no group is split are the same in every answer. -/
theorem page_perm (h : ∀ k, Unsplit key rows (k * size)) (order order' : DescOrder key rows)
    (k : Nat) : (page order.list size k).Perm (page order'.list size k) := by
  have hnext := take_perm (h (k + 1)) order order'
  rw [Nat.succ_mul, List.take_add, List.take_add] at hnext
  exact (List.perm_append_left_iff _).mp
    (((take_perm (h k) order' order).append_right _).trans hnext)

theorem mem_page {list front back : List α} {x : α} {k : Nat} (h : list = front ++ x :: back)
    (hle : k * size ≤ front.length) (hlt : front.length < (k + 1) * size) :
    x ∈ page list size k := by
  rw [Nat.succ_mul] at hlt
  obtain ⟨m, hm⟩ : ∃ m, size - (front.drop (k * size)).length = m + 1 := by
    refine ⟨size - (front.drop (k * size)).length - 1, ?_⟩
    rw [List.length_drop]
    omega
  rw [page, h, List.drop_append_of_le_length hle, List.take_append, hm, List.take_succ_cons]
  exact List.mem_append_right _ List.mem_cons_self

/-- **Pages that are read one by one**, each from an answer of its own, have every row once exactly
when no page ends within a group of rows with equal keys. -/
theorem pages_perm_iff (hnodup : rows.Nodup) (hsize : 0 < size) :
    (∀ orders : Nat → DescOrder key rows,
      ((List.range (pageCount rows.length size)).flatMap fun k =>
        page (orders k).list size k).Perm rows) ↔ ∀ k, Unsplit key rows (k * size) := by
  constructor
  · intro hall k
    by_contra hsplit
    obtain ⟨front, x, y, back, hlist, hlength, hkey⟩ :=
      exists_equal hsplit (DescOrder.stable key rows)
    obtain ⟨j, rfl⟩ : ∃ j, k = j + 1 := by
      cases k with
      | zero => omega
      | succ j => exact ⟨j, rfl⟩
    -- The pages up to the cut come from one answer, those behind it from the other.
    let order' := (DescOrder.stable key rows).exchange hlist hkey
    have hperm := hall fun i => if i ≤ j then DescOrder.stable key rows else order'
    have hpages := (List.nodup_flatMap.mp (hperm.nodup_iff.mpr hnodup)).2
    have hmem : x ∈ page (DescOrder.stable key rows).list size j := by
      refine mem_page hlist ?_ ?_
      · rw [Nat.succ_mul] at hlength
        omega
      · omega
    have hmem' : x ∈ page order'.list size (j + 1) := by
      have hlist' : order'.list = (front ++ [y]) ++ x :: back := by
        rw [List.append_assoc]
        rfl
      refine mem_page hlist' ?_ ?_
      · rw [List.length_append, List.length_singleton]
        exact Nat.le_of_eq hlength.symm
      · rw [List.length_append, List.length_singleton, hlength, Nat.succ_mul (j + 1)]
        omega
    have hlast : j + 1 < pageCount rows.length size := by
      refine lt_pageCount hsize ?_
      rw [← (DescOrder.stable key rows).perm.length_eq, hlist, ← hlength, List.length_append,
        List.length_cons, List.length_cons]
      omega
    have hdisjoint := List.pairwise_iff_getElem.mp hpages j (j + 1)
      (by rw [List.length_range]; omega) (by rw [List.length_range]; exact hlast) (by omega)
    simp only [List.getElem_range, Function.onFun, if_pos (Nat.le_refl j),
      if_neg (Nat.not_succ_le_self j)] at hdisjoint
    exact hdisjoint hmem hmem'
  · intro h orders
    have hpages := List.Perm.flatMap_left (List.range (pageCount rows.length size))
      fun k _ => page_perm h (orders k) (DescOrder.stable key rows) k
    have hall : rows.length ≤ pageCount rows.length size * size := le_pageCount hsize _
    refine hpages.trans ?_
    rw [flatMap_page, List.take_of_length_le (by
      rw [(DescOrder.stable key rows).perm.length_eq]
      exact hall)]
    exact (DescOrder.stable key rows).perm

/-- The pages have as many rows together as there are, in any answers. -/
theorem length_pages (hsize : 0 < size) (orders : Nat → DescOrder key rows) :
    ((List.range (pageCount rows.length size)).flatMap fun k =>
      page (orders k).list size k).length = rows.length := by
  have hlength : ∀ k, (page (orders k).list size k).length = (page rows size k).length := by
    intro k
    rw [length_page, length_page, (orders k).perm.length_eq]
  rw [List.length_flatMap, funext hlength, ← List.length_flatMap, flatMap_page,
    List.take_of_length_le (le_pageCount hsize _)]

/-- Every page but the last is full. -/
theorem length_page_of_not_last (hsize : 0 < size) (order : DescOrder key rows) {k : Nat}
    (h : k + 1 < pageCount rows.length size) : (page order.list size k).length = size := by
  have hlt := lt_of_succ_lt_pageCount hsize h
  rw [Nat.succ_mul] at hlt
  rw [length_page, order.perm.length_eq]
  omega

/-! ### The first rows of two sources -/

/-- The answer, with the rows as values of another type. -/
def DescOrder.map {β : Type} {key' : β → K} (order : DescOrder key rows) (f : α → β)
    (hkey : ∀ r, key' (f r) = key r) : DescOrder key' (rows.map f) where
  list := order.list.map f
  perm := order.perm.map f
  sorted := by
    rw [List.pairwise_map]
    simpa only [hkey] using order.sorted

/-- What a source has behind its first rows comes after the first rows of all that are taken. -/
theorem le_of_mem_drop {taken : List α} (order : DescOrder key rows) (merged : DescOrder key taken)
    (hsub : (order.list.take n).Sublist taken) {x y : α} (hx : x ∈ merged.list.take n)
    (hy : y ∈ order.list.drop n) : key y ≤ key x := by
  by_contra hlt
  -- The source's first rows all come before `x`, and there are `n` of them.
  have hnewer : (order.list.take n).countP (fun r => key x < key r) =
      (order.list.take n).length := by
    rw [List.countP_eq_length]
    intro r hr
    simpa using (not_le.mp hlt).trans_le (order.le_of_cut hr hy)
  have hfull : (order.list.take n).length = n := by
    have hpos := List.length_pos_of_mem hy
    rw [List.length_drop] at hpos
    rw [List.length_take]
    omega
  obtain ⟨front, back, hlist, hfront⟩ := exists_of_mem_take hx
  have hle := merged.countP_lt_le hlist
  have hcount := hsub.countP_le (p := fun r => decide (key x < key r))
  omega

/-- **The first rows of two sources**, taken from the first rows of each: no row that is left out
comes before one of them. -/
theorem firsts_of_firsts {rows' : List α} (first : DescOrder key rows)
    (second : DescOrder key rows')
    (merged : DescOrder key (first.list.take n ++ second.list.take n)) :
    ∃ hidden, (merged.list.take n ++ hidden).Perm (rows ++ rows') ∧
      (merged.list.take n).length = min n (rows ++ rows').length ∧
      ∀ y ∈ hidden, ∀ x ∈ merged.list.take n, key y ≤ key x := by
  refine ⟨merged.list.drop n ++ (first.list.drop n ++ second.list.drop n), ?_, ?_, ?_⟩
  · rw [← List.append_assoc, List.take_append_drop]
    have hrest : ((first.list.take n ++ second.list.take n) ++
        (first.list.drop n ++ second.list.drop n)).Perm
        ((first.list.take n ++ first.list.drop n) ++
          (second.list.take n ++ second.list.drop n)) := by
      simp only [List.append_assoc]
      exact (List.perm_append_comm_assoc _ _ _).append_left _
    rw [List.take_append_drop, List.take_append_drop] at hrest
    exact ((merged.perm.append_right _).trans hrest).trans (first.perm.append second.perm)
  · rw [List.length_take, merged.perm.length_eq, List.length_append, List.length_take,
      List.length_take, first.perm.length_eq, second.perm.length_eq, List.length_append]
    omega
  · intro y hy x hx
    rcases List.mem_append.mp hy with hy | hy
    · exact merged.le_of_cut hx hy
    · rcases List.mem_append.mp hy with hy | hy
      · exact le_of_mem_drop first merged (List.sublist_append_left _ _) hx hy
      · exact le_of_mem_drop second merged (List.sublist_append_right _ _) hx hy

end Support.Descending

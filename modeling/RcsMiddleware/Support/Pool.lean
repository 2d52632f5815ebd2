import Mathlib.Data.List.Chain

/-!
# Support — Pool

A pool of connections.  It keeps what is returned to it while it has room, and hands out an idle
connection before it opens a new one; an idle connection that is unfit for the use it is wanted for
is replaced by a new one.  Which idle connection is handed out is the pool's own affair.

A pool that serves one use at a time, each of which returns its connection, never holds more than
one: it is a cell (`Pool.checkout_toList`, `Pool.checkin_nil`), and `Demand.serve` says what the
uses of a sequence are handed.

* `Demand.serve_owned_iff`: every use is handed a connection of its own exactly when none finds the
  connection of the use before it fit.
-/

namespace Support

variable {C S L : Type}

/-- What is asked of a pool: which idle connections are fit for the use, and the connection that is
opened for it where none is handed out. -/
structure Demand (C : Type) where
  fit : C → Bool
  new : C

/-- A pool that has room for `size` idle connections. -/
structure Pool (C S : Type) (size : Nat) where
  empty : S
  idle : S → List C
  checkout : Demand C → S → C × S
  checkin : C → S → S
  idle_empty : idle empty = []
  checkout_nil {s : S} (d : Demand C) (h : idle s = []) :
    (checkout d s).1 = d.new ∧ idle (checkout d s).2 = []
  checkout_idle {s : S} (d : Demand C) (h : idle s ≠ []) :
    ∃ c, (idle s).Perm (c :: idle (checkout d s).2) ∧
      (checkout d s).1 = if d.fit c then c else d.new
  checkin_idle {s : S} (c : C) (h : (idle s).length < size) :
    (idle (checkin c s)).Perm (c :: idle s)

/-- The pool that hands out the connection that has been idle for longest. -/
def Pool.fifo (C : Type) (size : Nat) : Pool C (List C) size where
  empty := []
  idle s := s
  checkout d s :=
    match s with
    | [] => (d.new, [])
    | c :: s => (if d.fit c then c else d.new, s)
  checkin c s := if s.length < size then s ++ [c] else s
  idle_empty := rfl
  checkout_nil d h := by
    cases h
    exact ⟨rfl, rfl⟩
  checkout_idle {s} d h := by
    cases s with
    | nil => exact absurd rfl h
    | cons c s => exact ⟨c, List.Perm.refl _, rfl⟩
  checkin_idle {s} c h := by
    rw [if_pos h]
    exact List.perm_append_singleton c s

/-! ### One use at a time -/

/-- The connection a use is handed, given the one that is idle. -/
def Demand.pick (d : Demand C) : Option C → C
  | none => d.new
  | some c => if d.fit c then c else d.new

variable {size : Nat} {P : Pool C S size} {d : Demand C} {s : S}

theorem Pool.checkout_toList {o : Option C} (h : P.idle s = o.toList) :
    (P.checkout d s).1 = d.pick o ∧ P.idle (P.checkout d s).2 = [] := by
  cases o with
  | none => exact P.checkout_nil d h
  | some c =>
      have hsome : P.idle s = [c] := h
      have hne : P.idle s ≠ [] := by
        rw [hsome]
        exact List.cons_ne_nil _ _
      obtain ⟨c', hperm, hc'⟩ := P.checkout_idle d hne
      rw [hsome] at hperm
      obtain ⟨rfl, hnil⟩ := List.cons.inj (List.singleton_perm.mp hperm)
      exact ⟨hc', hnil.symm⟩

theorem Pool.checkin_nil {c : C} (hsize : 0 < size) (h : P.idle s = []) :
    P.idle (P.checkin c s) = [c] := by
  have hroom : (P.idle s).length < size := by
    rw [h]
    exact hsize
  have hperm := P.checkin_idle c hroom
  rw [h] at hperm
  exact List.perm_singleton.mp hperm

/-- What the uses of a sequence are handed, each of which returns its connection. -/
def Demand.serve : Option C → List (Demand C) → List C
  | _, [] => []
  | o, d :: ds => d.pick o :: serve (some (d.pick o)) ds

theorem Demand.pick_of_fit {c : C} (h : d.fit c = true) : d.pick (some c) = c := if_pos h

theorem Demand.pick_of_unfit {c : C} (h : d.fit c = false) : d.pick (some c) = d.new := by
  rw [Demand.pick, if_neg (by rw [h]; exact Bool.false_ne_true)]

/-- Each use is handed a connection of its owner. -/
abbrev Demand.Owned (owner : C → L) (ds : List (Demand C)) (cs : List C) : Prop :=
  List.Forall₂ (fun d c => owner c = owner d.new) ds cs

/-- As `Demand.serve_owned_iff`, after a use that was handed its own connection. -/
theorem Demand.serve_some_owned_iff {owner : C → L} :
    ∀ {d : Demand C} {ds : List (Demand C)},
      ((d :: ds).map fun d => owner d.new).Nodup →
        (Owned owner ds (serve (some d.new) ds) ↔
          (d :: ds).IsChain fun a b => b.fit a.new = false)
  | d, [], _ => by simp [Owned, serve]
  | d, d' :: ds, hnodup => by
      have hne : owner d.new ≠ owner d'.new := fun h =>
        (List.nodup_cons.mp hnodup).1 (List.mem_map.mpr ⟨d', List.mem_cons_self, h.symm⟩)
      have ih := serve_some_owned_iff (List.nodup_cons.mp hnodup).2
      rw [serve, Owned, List.forall₂_cons, List.isChain_cons_cons]
      cases hfit : d'.fit d.new with
      | true =>
          rw [pick_of_fit hfit]
          exact ⟨fun h => absurd h.1 hne, fun h => nomatch h.1⟩
      | false =>
          rw [pick_of_unfit hfit]
          exact ⟨fun h => ⟨rfl, ih.mp h.2⟩, fun h => ⟨rfl, ih.mpr h.2⟩⟩

/-- **Connections of one's own.**  From an empty pool, every use is handed a connection of its owner
exactly when none finds the connection opened for the use before it fit. -/
theorem Demand.serve_owned_iff {owner : C → L} {ds : List (Demand C)}
    (hnodup : (ds.map fun d => owner d.new).Nodup) :
    Owned owner ds (serve none ds) ↔ ds.IsChain fun a b => b.fit a.new = false := by
  cases ds with
  | nil => simp [Owned, serve]
  | cons d ds =>
      rw [serve, Owned, List.forall₂_cons, pick]
      exact ⟨fun h => (serve_some_owned_iff hnodup).mp h.2,
        fun h => ⟨rfl, (serve_some_owned_iff hnodup).mpr h⟩⟩

end Support

import Mathlib.Data.String.Basic
import RcsMiddleware.Support.DateTime

/-!
# Support — IsoOrder

The order of the texts `isoformat` writes.  The parts have a fixed width, but the microseconds are
left out where they are zero.

* `append_lt_append_iff`: texts that begin with parts of one length are compared part by part.
* `isoformat_le_iff`: the texts are in the order of the dates.
-/

namespace Support

/-- Texts that begin with parts of one length. -/
theorem append_lt_append_iff {α : Type} [LinearOrder α] {a b s t : List α}
    (h : a.length = b.length) : a ++ s < b ++ t ↔ a < b ∨ a = b ∧ s < t := by
  induction a generalizing b with
  | nil =>
      obtain rfl := List.length_eq_zero_iff.mp h.symm
      simp
  | cons x a ih =>
      cases b with
      | nil => simp at h
      | cons y b =>
          rw [List.cons_append, List.cons_append, List.cons_lt_cons_iff, List.cons_lt_cons_iff,
            ih (Nat.succ.inj h), List.cons.injEq]
          tauto

/-- Numbers whose leading parts are compared first. -/
theorem mul_add_lt_iff {p x y u v : Nat} (hu : u < p) (hv : v < p) :
    p * x + u < p * y + v ↔ x < y ∨ x = y ∧ u < v := by
  rcases Nat.lt_trichotomy x y with hlt | rfl | hgt
  · have hmul := Nat.mul_le_mul_left p hlt
    rw [Nat.mul_succ] at hmul
    omega
  · omega
  · have hmul := Nat.mul_le_mul_left p hgt
    rw [Nat.mul_succ] at hmul
    omega

namespace DateTime

open Text (padZeros)

theorem digit_bounds {c : Char} (h : c.isDigit = true) : 48 ≤ c.toNat ∧ c.toNat ≤ 57 := by
  rw [Char.isDigit, Bool.and_eq_true, decide_eq_true_eq, decide_eq_true_eq] at h
  exact ⟨h.1, h.2⟩

theorem ofDigitChars_cons_zero (c : Char) (a : List Char) :
    Nat.ofDigitChars 10 (c :: a) 0 = 10 ^ a.length * (c.toNat - 48) + Nat.ofDigitChars 10 a 0 := by
  have hzero : '0'.toNat = 48 := rfl
  rw [Nat.ofDigitChars_cons, Nat.ofDigitChars_eq_ofDigitChars_zero, Nat.mul_zero, Nat.zero_add,
    hzero]

theorem ofDigitChars_lt {a : List Char} (ha : ∀ c ∈ a, c.isDigit = true) :
    Nat.ofDigitChars 10 a 0 < 10 ^ a.length := by
  induction a with
  | nil => simp
  | cons c a ih =>
      obtain ⟨-, hle⟩ := digit_bounds (ha c List.mem_cons_self)
      have hrest := ih fun d hd => ha d (List.mem_cons_of_mem _ hd)
      have hmul := Nat.mul_le_mul_left (10 ^ a.length) (show c.toNat - 48 ≤ 9 by omega)
      rw [ofDigitChars_cons_zero, List.length_cons, Nat.pow_succ]
      omega

/-- Digits of one width are in the order of the numbers. -/
theorem digits_lt_iff {a b : List Char} (hlength : a.length = b.length)
    (ha : ∀ c ∈ a, c.isDigit = true) (hb : ∀ c ∈ b, c.isDigit = true) :
    a < b ↔ Nat.ofDigitChars 10 a 0 < Nat.ofDigitChars 10 b 0 := by
  induction a generalizing b with
  | nil =>
      obtain rfl := List.length_eq_zero_iff.mp hlength.symm
      simp
  | cons c a ih =>
      cases b with
      | nil => simp at hlength
      | cons d b =>
          have ha' := fun x hx => ha x (List.mem_cons_of_mem _ hx)
          have hb' := fun x hx => hb x (List.mem_cons_of_mem _ hx)
          have hlength' : a.length = b.length := Nat.succ.inj hlength
          have hlead : c < d ↔ c.toNat - 48 < d.toNat - 48 := by
            obtain ⟨hc, -⟩ := digit_bounds (ha c List.mem_cons_self)
            have hlt : c < d ↔ c.toNat < d.toNat := Iff.rfl
            rw [hlt]
            omega
          have heq : c = d ↔ c.toNat - 48 = d.toNat - 48 := by
            obtain ⟨hc, -⟩ := digit_bounds (ha c List.mem_cons_self)
            obtain ⟨hd, -⟩ := digit_bounds (hb d List.mem_cons_self)
            rw [← Char.toNat_inj]
            omega
          rw [List.cons_lt_cons_iff, ofDigitChars_cons_zero, ofDigitChars_cons_zero, ← hlength',
            mul_add_lt_iff (ofDigitChars_lt ha') (hlength' ▸ ofDigitChars_lt hb'), hlead, heq,
            ih hlength' ha' hb']

/-- Numbers of one width are in the order of their texts, whatever follows. -/
theorem padZeros_append_lt_iff {width n m : Nat} {s t : List Char} (hw : 0 < width)
    (hn : n < 10 ^ width) (hm : m < 10 ^ width) :
    (padZeros width (toString n)).toList ++ s < (padZeros width (toString m)).toList ++ t ↔
      n < m ∨ n = m ∧ s < t := by
  obtain ⟨hlength, hdigits, hvalue⟩ := padZeros_digits hw hn
  obtain ⟨hlength', hdigits', hvalue'⟩ := padZeros_digits hw hm
  have heq : (padZeros width (toString n)).toList = (padZeros width (toString m)).toList ↔
      n = m := by
    constructor
    · intro h
      rw [← hvalue, ← hvalue', h]
    · rintro rfl
      rfl
  rw [append_lt_append_iff (hlength.trans hlength'.symm),
    digits_lt_iff (hlength.trans hlength'.symm) hdigits hdigits', hvalue, hvalue', heq]

/-- The microseconds, which are left out where they are zero. -/
theorem microsecond_lt_iff {n m : Nat} (hn : n < 1000000) (hm : m < 1000000) :
    (if n = 0 then "" else "." ++ padZeros 6 (toString n)).toList <
        (if m = 0 then "" else "." ++ padZeros 6 (toString m)).toList ↔ n < m := by
  have hpoint : ".".toList = ['.'] := by rfl
  by_cases hm0 : m = 0
  · rw [if_pos hm0, hm0]
    simp
  · rw [if_neg hm0, String.toList_append, hpoint, List.singleton_append]
    by_cases hn0 : n = 0
    · rw [if_pos hn0, hn0]
      simp [Nat.pos_of_ne_zero hm0]
    · have hlt := padZeros_append_lt_iff (s := []) (t := []) (show 0 < 6 by decide) hn hm
      rw [List.append_nil, List.append_nil] at hlt
      rw [if_neg hn0, String.toList_append, hpoint, List.singleton_append,
        List.cons_lt_cons_self, hlt]
      simp

/-- **The texts of dates** are in the order of the dates. -/
theorem isoformat_lt_iff {d e : DateTime} (hd : d.Valid) (he : e.Valid) :
    d.isoformat < e.isoformat ↔ d.parts < e.parts := by
  obtain ⟨hyear, hmonth, hday, hhour, hminute, hsecond, hmicro⟩ := hd
  obtain ⟨hyear', hmonth', hday', hhour', hminute', hsecond', hmicro'⟩ := he
  have hdays := daysInMonth_le d.year d.month
  have hdays' := daysInMonth_le e.year e.month
  have htwo : ∀ {n m : Nat} {s t : List Char}, n < 100 → m < 100 →
      ((padZeros 2 (toString n)).toList ++ s < (padZeros 2 (toString m)).toList ++ t ↔
        n < m ∨ n = m ∧ s < t) := fun hn hm =>
    padZeros_append_lt_iff (by decide) hn hm
  rw [String.lt_iff_toList_lt, toList_isoformat, toList_isoformat,
    padZeros_append_lt_iff (by decide) (by omega) (by omega), List.cons_lt_cons_self,
    htwo (by omega) (by omega), List.cons_lt_cons_self, htwo (by omega) (by omega),
    List.cons_lt_cons_self, htwo (by omega) (by omega), List.cons_lt_cons_self,
    htwo (by omega) (by omega), List.cons_lt_cons_self, htwo (by omega) (by omega),
    microsecond_lt_iff hmicro hmicro']
  simp [parts, List.cons_lt_cons_iff]

theorem isoformat_le_iff {d e : DateTime} (hd : d.Valid) (he : e.Valid) :
    d.isoformat ≤ e.isoformat ↔ d ≤ e := by
  have hparts : d ≤ e ↔ d.parts ≤ e.parts := Iff.rfl
  rw [hparts, ← not_lt, ← not_lt, isoformat_lt_iff he hd]

end DateTime

end Support

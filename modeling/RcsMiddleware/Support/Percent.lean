import RcsMiddleware.Support.Text

/-!
# Support — Percent

Percent-decoding, and the segments of what is decoded.  An escape is read as the character of its
code, as in Latin-1: which ASCII characters come out, and where, does not depend on the encoding
of the others.

* `unquote`: the decoding; `Spells c x`: the text `x` is `c`, or an escape of `c`.
* `unquote_append`: a text can be cut where no digit of an escape follows.
* `mem_splitOn_iff`: the parts of a list between two separators.
* `mem_splitOn_unquote`: the segments of a decoded text, as they are spelled in the text.
-/

namespace Support.Percent

open Text

/-- The character of an escape with these two digits. -/
def escaped? (h l : Char) : Option Char := do
  let high ← hexDigit? h
  let low ← hexDigit? l
  return Char.ofNat (16 * high + low)

/-- The text with its escapes decoded.  A percent sign that starts none is left. -/
def unquote : List Char → List Char
  | '%' :: h :: l :: rest =>
      match escaped? h l with
      | some c => c :: unquote rest
      | none => '%' :: unquote (h :: l :: rest)
  | c :: rest => c :: unquote rest
  | [] => []

example : unquote "/%2e%2E%2fa%2%41".toList = "/../a%2A".toList := by decide

/-- The text is the character, or an escape of it. -/
inductive Spells (c : Char) : List Char → Prop where
  | plain (hc : c ≠ '%') : Spells c [c]
  | escape {h l : Char} (he : escaped? h l = some c) : Spells c ['%', h, l]

variable {c : Char} {x u v : List Char}

/-! ### Decoding -/

/-- A character that starts no escape is left as it is. -/
theorem unquote_literal {rest : List Char}
    (h : ∀ d e more, c = '%' → rest = d :: e :: more → escaped? d e = none) :
    unquote (c :: rest) = c :: unquote rest := by
  by_cases hshape : ∃ d e more, c = '%' ∧ rest = d :: e :: more
  · obtain ⟨d, e, more, rfl, rfl⟩ := hshape
    rw [unquote, h d e more rfl rfl]
  · rw [unquote]
    intro d e more hc hrest
    exact hshape ⟨d, e, more, hc, hrest⟩

theorem unquote_spelled (hx : Spells c x) (rest : List Char) :
    unquote (x ++ rest) = c :: unquote rest := by
  cases hx with
  | plain hc => exact unquote_literal fun _ _ _ h _ => absurd h hc
  | escape he =>
      rw [List.cons_append, List.cons_append, List.cons_append, unquote, he]
      rfl

/-- **A text that begins with no digit** is decoded on its own. -/
theorem unquote_append {post : List Char}
    (hpost : ∀ d, post.head? = some d → hexDigit? d = none) (pre : List Char) :
    unquote (pre ++ post) = unquote pre ++ unquote post := by
  induction pre using unquote.induct with
  | case1 h l rest c he ih =>
      have hspells : Spells c ['%', h, l] := .escape he
      have hwhole := unquote_spelled hspells (rest ++ post)
      rw [ih] at hwhole
      exact hwhole.trans (congrArg (· ++ unquote post) (unquote_spelled hspells rest).symm)
  | case2 h l rest he ih =>
      have hno : ∀ more d e more', '%' = '%' → h :: l :: more = d :: e :: more' →
          escaped? d e = none := by
        rintro more d e more' - ⟨⟩
        exact he
      have hwhole := unquote_literal (hno (rest ++ post))
      rw [unquote_literal (hno rest)]
      exact hwhole.trans (congrArg ('%' :: ·) ih)
  | case3 c rest hne ih =>
      have hrest : unquote (c :: rest) = c :: unquote rest :=
        unquote_literal fun d e more hc hr => absurd hr (hne d e more hc)
      rw [hrest, List.cons_append, List.cons_append, ← ih]
      refine unquote_literal fun d e more hc hr => ?_
      -- At most one character of the text is left behind the percent sign.
      match rest, hne, hr with
      | [], _, hr =>
          have hd := hpost d (congrArg List.head? hr)
          rw [escaped?, hd]
          rfl
      | [a], _, hr =>
          obtain ⟨rfl, htail⟩ := List.cons.inj hr
          have he := hpost e (congrArg List.head? htail)
          rw [escaped?, he]
          cases hexDigit? a <;> rfl
      | a :: b :: rest, hne, hr => exact absurd rfl (hne a b rest hc)
  | case4 => rfl

/-- The first character of a decoded text, and the text that spells it. -/
theorem unquote_eq_cons {cs : List Char} (hc : c ≠ '%') :
    unquote cs = c :: v ↔ ∃ x rest, cs = x ++ rest ∧ Spells c x ∧ unquote rest = v := by
  constructor
  · intro h
    unfold unquote at h
    split at h
    · next d e rest =>
        cases he : escaped? d e with
        | none =>
            rw [he] at h
            exact absurd (List.cons.inj h).1.symm hc
        | some c' =>
            rw [he] at h
            obtain ⟨rfl, hv⟩ := List.cons.inj h
            exact ⟨['%', d, e], rest, rfl, .escape he, hv⟩
    · next c' rest _ =>
        obtain ⟨rfl, hv⟩ := List.cons.inj h
        exact ⟨[c'], rest, rfl, .plain hc, hv⟩
    · cases h
  · rintro ⟨x, rest, rfl, hx, rfl⟩
    exact unquote_spelled hx rest

theorem unquote_eq_nil {cs : List Char} : unquote cs = [] ↔ cs = [] := by
  refine ⟨fun h => ?_, fun h => by rw [h]; rfl⟩
  unfold unquote at h
  split at h
  · next d e rest => cases he : escaped? d e <;> rw [he] at h <;> cases h
  · cases h
  · rfl

/-- A cut of a decoded text comes from a cut of the text. -/
def Cuts (cs u v : List Char) : Prop :=
  ∃ pre post, cs = pre ++ post ∧ unquote pre = u ∧ unquote post = v

theorem Cuts.literal {rest : List Char}
    (h : ∀ d e more, c = '%' → rest = d :: e :: more → escaped? d e = none)
    (hcut : Cuts rest u v) : Cuts (c :: rest) (c :: u) v := by
  obtain ⟨pre, post, rfl, rfl, rfl⟩ := hcut
  refine ⟨c :: pre, post, rfl, unquote_literal ?_, rfl⟩
  rintro d e more hc rfl
  exact h d e (more ++ post) hc rfl

theorem Cuts.spelled {rest : List Char} (hx : Spells c x) (hcut : Cuts rest u v) :
    Cuts (x ++ rest) (c :: u) v := by
  obtain ⟨pre, post, rfl, rfl, rfl⟩ := hcut
  exact ⟨x ++ pre, post, (List.append_assoc x pre post).symm, unquote_spelled hx pre, rfl⟩

theorem cuts_of_append {cs : List Char} (h : unquote cs = u ++ v) : Cuts cs u v := by
  induction cs using unquote.induct generalizing u with
  | case1 d e rest c he ih =>
      cases u with
      | nil => exact ⟨[], _, rfl, rfl, h⟩
      | cons a u =>
          have hx : Spells c ['%', d, e] := .escape he
          obtain ⟨rfl, hrest⟩ := List.cons.inj ((unquote_spelled hx rest).symm.trans h)
          exact .spelled hx (ih hrest)
  | case2 d e rest he ih =>
      cases u with
      | nil => exact ⟨[], _, rfl, rfl, h⟩
      | cons a u =>
          have hlit : ∀ d' e' more, '%' = '%' → d :: e :: rest = d' :: e' :: more →
              escaped? d' e' = none := by
            rintro d' e' more - ⟨⟩
            exact he
          obtain ⟨rfl, hrest⟩ := List.cons.inj ((unquote_literal hlit).symm.trans h)
          exact .literal hlit (ih hrest)
  | case3 c rest hne ih =>
      cases u with
      | nil => exact ⟨[], _, rfl, rfl, h⟩
      | cons a u =>
          have hlit : ∀ d e more, c = '%' → rest = d :: e :: more → escaped? d e = none :=
            fun d e more hc hr => absurd hr (hne d e more hc)
          obtain ⟨rfl, hrest⟩ := List.cons.inj ((unquote_literal hlit).symm.trans h)
          exact .literal hlit (ih hrest)
  | case4 =>
      obtain ⟨rfl, rfl⟩ := List.append_eq_nil_iff.mp h.symm
      exact ⟨[], [], rfl, rfl, rfl⟩

/-! ### Segments -/

/-- **The parts of a list** between two separators, or the ends of the list. -/
theorem mem_splitOn_iff {α : Type} [BEq α] [LawfulBEq α] {a : α} {l s : List α} :
    s ∈ l.splitOn a ↔ a ∉ s ∧ ∃ u v, l = u ++ (s ++ v) ∧ (u = [] ∨ ∃ u', u = u' ++ [a]) ∧
      (v = [] ∨ ∃ v', v = a :: v') := by
  constructor
  · intro h
    induction hn : l.length using Nat.strong_induction_on generalizing l with
    | h n ih =>
        by_cases ha : a ∈ l
        · obtain ⟨u, l', rfl, hu⟩ := List.eq_append_cons_of_mem ha
          rw [List.splitOn_append_cons_self_of_not_mem hu] at h
          rcases List.mem_cons.mp h with rfl | h
          · exact ⟨hu, [], a :: l', rfl, .inl rfl, .inr ⟨l', rfl⟩⟩
          · have hlt : l'.length < n := by
              rw [← hn, List.length_append, List.length_cons]
              omega
            obtain ⟨hs, u', v, rfl, hu', hv⟩ := ih _ hlt h rfl
            refine ⟨hs, u ++ a :: u', v, by rw [List.append_assoc, List.cons_append], .inr ?_, hv⟩
            rcases hu' with rfl | ⟨w, rfl⟩
            · exact ⟨u, rfl⟩
            · exact ⟨u ++ a :: w, by rw [List.append_assoc, List.cons_append]⟩
        · rw [List.splitOn_eq_singleton ha, List.mem_singleton] at h
          subst h
          exact ⟨ha, [], [], (List.append_nil s).symm, .inl rfl, .inl rfl⟩
  · rintro ⟨hs, u, v, rfl, hu, hv⟩
    have hback : s ∈ (s ++ v).splitOn a := by
      rcases hv with rfl | ⟨v', rfl⟩
      · rw [List.append_nil, List.splitOn_eq_singleton hs]
        exact List.mem_singleton_self s
      · rw [List.splitOn_append_cons_self_of_not_mem hs]
        exact List.mem_cons_self
    rcases hu with rfl | ⟨u', rfl⟩
    · exact hback
    · rw [List.append_assoc, List.singleton_append, List.splitOn_append_cons_self]
      exact List.mem_append_right _ hback

/-- Between two spellings of the separator, or the ends of the text. -/
def Between (sep : Char) (pre post : List Char) : Prop :=
  (pre = [] ∨ ∃ u x, pre = u ++ x ∧ Spells sep x) ∧
    (post = [] ∨ ∃ x v, post = x ++ v ∧ Spells sep x)

section Between

variable {sep : Char} {pre mid post : List Char}

/-- A text that begins with a separator begins with no digit. -/
theorem Spells.head (hdigit : hexDigit? c = none) (hx : Spells c x) (rest : List Char) :
    ∀ d, (x ++ rest).head? = some d → hexDigit? d = none := by
  intro d hd
  cases hx with
  | plain _ =>
      cases hd
      exact hdigit
  | escape _ =>
      cases hd
      decide

/-- A text can be cut between two separators. -/
theorem Between.decode (hdigit : hexDigit? sep = none) (h : Between sep pre post) :
    unquote (pre ++ (mid ++ post)) =
      unquote pre ++ (unquote mid ++ unquote post) := by
  obtain ⟨hpre, hpost⟩ := h
  have hback : unquote (mid ++ post) = unquote mid ++ unquote post := by
    rcases hpost with rfl | ⟨x, v, rfl, hx⟩
    · rw [List.append_nil]
      exact (List.append_nil _).symm
    · exact unquote_append (hx.head hdigit v) mid
  rw [← hback]
  rcases hpre with rfl | ⟨u, x, rfl, hx⟩
  · rfl
  · have hsep : ∀ rest, unquote (u ++ (x ++ rest)) =
        unquote u ++ sep :: unquote rest := fun rest => by
      rw [unquote_append (hx.head hdigit rest), unquote_spelled hx]
    have hpre := hsep []
    rw [List.append_nil] at hpre
    rw [List.append_assoc, hsep, hpre, List.append_assoc]
    rfl

theorem Between.front (hdigit : hexDigit? sep = none) (h : Between sep pre post) :
    unquote pre = [] ∨ ∃ u, unquote pre = u ++ [sep] := by
  rcases h.1 with rfl | ⟨u, x, rfl, hx⟩
  · exact .inl rfl
  · refine .inr ⟨unquote u, ?_⟩
    have hhead := hx.head hdigit []
    have hx' := unquote_spelled hx []
    rw [List.append_nil] at hhead hx'
    rw [unquote_append hhead, hx']
    rfl

theorem Between.back (h : Between sep pre post) :
    unquote post = [] ∨ ∃ v, unquote post = sep :: v := by
  rcases h.2 with rfl | ⟨x, v, rfl, hx⟩
  · exact .inl rfl
  · exact .inr ⟨_, unquote_spelled hx v⟩

end Between

/-- **The segments of a decoded text**, as they are spelled in the text. -/
theorem mem_splitOn_unquote {sep : Char} {seg cs : List Char} (hdigit : hexDigit? sep = none)
    (hsep : sep ≠ '%') : seg ∈ (unquote cs).splitOn sep ↔
      sep ∉ seg ∧ ∃ pre mid post, cs = pre ++ (mid ++ post) ∧ Between sep pre post ∧
        unquote mid = seg := by
  rw [mem_splitOn_iff]
  refine and_congr_right fun hseg => ?_
  constructor
  · rintro ⟨u, v, h, hu, hv⟩
    obtain ⟨pre, rest, rfl, rfl, hrest⟩ := cuts_of_append h
    obtain ⟨mid, post, rfl, rfl, rfl⟩ := cuts_of_append hrest
    refine ⟨pre, mid, post, rfl, ⟨?_, ?_⟩, rfl⟩
    · rcases hu with hu | ⟨u', hu⟩
      · exact .inl (unquote_eq_nil.mp hu)
      · obtain ⟨p, x', rfl, -, hx'⟩ := cuts_of_append hu
        obtain ⟨x, rest, rfl, hx, hnil⟩ := (unquote_eq_cons hsep).mp hx'
        rw [unquote_eq_nil.mp hnil, List.append_nil]
        exact .inr ⟨p, x, rfl, hx⟩
    · rcases hv with hv | ⟨v', hv⟩
      · exact .inl (unquote_eq_nil.mp hv)
      · obtain ⟨x, rest, rfl, hx, -⟩ := (unquote_eq_cons hsep).mp hv
        exact .inr ⟨x, rest, rfl, hx⟩
  · rintro ⟨pre, mid, post, rfl, h, rfl⟩
    exact ⟨_, _, h.decode hdigit, h.front hdigit, h.back⟩

end Support.Percent

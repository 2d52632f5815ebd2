import Mathlib.Data.List.Induction

/-!
# Support — Framing

A message of several fields written with one separator and without escaping: leading fields, each
followed by the separator, then a free part, then trailing fields, each preceded by it.  The fields
hold no separator; the free part may hold any number of them.

* `frame_inj`: two messages with as many leading and as many trailing fields are the same only when
  they agree in every field and in the free part.
-/

namespace Support.Framing

variable {α : Type} {sep : α}

/-- The message. -/
def frame (sep : α) (front : List (List α)) (free : List α) (back : List (List α)) : List α :=
  front.flatMap (· ++ [sep]) ++ (free ++ back.flatMap (sep :: ·))

/-- No field holds the separator. -/
def Clean (sep : α) (fields : List (List α)) : Prop := ∀ field ∈ fields, sep ∉ field

/-- The first separator tells a leading field from the rest. -/
theorem leading_inj {a a' b b' : List α} (ha : sep ∉ a) (ha' : sep ∉ a')
    (h : a ++ sep :: b = a' ++ sep :: b') : a = a' ∧ b = b' := by
  rcases List.append_eq_append_iff.mp h with ⟨t, rfl, ht⟩ | ⟨t, rfl, ht⟩
  · cases t with
    | nil => exact ⟨(List.append_nil a).symm, (List.cons.inj ht).2⟩
    | cons c t =>
        obtain ⟨rfl, -⟩ := List.cons.inj ht
        exact absurd (List.mem_append_right a List.mem_cons_self) ha'
  · cases t with
    | nil => exact ⟨List.append_nil a', (List.cons.inj ht).2.symm⟩
    | cons c t =>
        obtain ⟨rfl, -⟩ := List.cons.inj ht
        exact absurd (List.mem_append_right a' List.mem_cons_self) ha

/-- The last separator tells a trailing field from what is before it. -/
theorem trailing_inj {a a' b b' : List α} (hb : sep ∉ b) (hb' : sep ∉ b')
    (h : a ++ sep :: b = a' ++ sep :: b') : a = a' ∧ b = b' := by
  have hreverse : b.reverse ++ sep :: a.reverse = b'.reverse ++ sep :: a'.reverse := by
    simpa using congrArg List.reverse h
  obtain ⟨hbs, has⟩ := leading_inj (fun hm => hb (List.mem_reverse.mp hm))
    (fun hm => hb' (List.mem_reverse.mp hm)) hreverse
  exact ⟨List.reverse_inj.mp has, List.reverse_inj.mp hbs⟩

theorem Clean.tail {field : List α} {fields : List (List α)} (h : Clean sep (field :: fields)) :
    Clean sep fields := fun f hf => h f (List.mem_cons_of_mem field hf)

/-- The leading fields can be read off in front of any two rests. -/
theorem front_inj : ∀ {front front' : List (List α)} {rest rest' : List α},
    front.length = front'.length → Clean sep front → Clean sep front' →
    front.flatMap (· ++ [sep]) ++ rest = front'.flatMap (· ++ [sep]) ++ rest' →
    front = front' ∧ rest = rest'
  | [], [], _, _, _, _, _, h => ⟨rfl, h⟩
  | field :: front, field' :: front', rest, rest', hlength, hclean, hclean', h => by
      rw [List.flatMap_cons, List.flatMap_cons] at h
      obtain ⟨rfl, hrests⟩ := leading_inj (hclean field List.mem_cons_self)
        (hclean' field' List.mem_cons_self) (by simpa using h)
      obtain ⟨rfl, rfl⟩ := front_inj (Nat.succ.inj hlength) hclean.tail hclean'.tail hrests
      exact ⟨rfl, rfl⟩

/-- The trailing fields can be read off behind any two texts. -/
theorem back_inj {back back' : List (List α)} {free free' : List α}
    (hlength : back.length = back'.length) (hclean : Clean sep back) (hclean' : Clean sep back')
    (h : free ++ back.flatMap (sep :: ·) = free' ++ back'.flatMap (sep :: ·)) :
    free = free' ∧ back = back' := by
  induction back using List.reverseRecOn generalizing back' with
  | nil =>
      obtain rfl := List.eq_nil_of_length_eq_zero hlength.symm
      exact ⟨by simpa using h, rfl⟩
  | append_singleton back field ih =>
      cases back' using List.reverseRecOn with
      | nil => simp at hlength
      | append_singleton back' field' =>
          simp only [List.flatMap_append, List.flatMap_cons, List.flatMap_nil, List.append_nil,
            ← List.append_assoc] at h
          obtain ⟨hrests, rfl⟩ := trailing_inj (hclean field (by simp)) (hclean' field' (by simp)) h
          obtain ⟨rfl, rfl⟩ := ih (by simpa using hlength)
            (fun f hf => hclean f (List.mem_append_left _ hf))
            (fun f hf => hclean' f (List.mem_append_left _ hf)) hrests
          exact ⟨rfl, rfl⟩

/-- A message determines its parts. -/
theorem frame_inj {front front' back back' : List (List α)} {free free' : List α}
    (hfront : front.length = front'.length) (hback : back.length = back'.length)
    (hcf : Clean sep front) (hcf' : Clean sep front') (hcb : Clean sep back)
    (hcb' : Clean sep back') :
    frame sep front free back = frame sep front' free' back' ↔
      front = front' ∧ free = free' ∧ back = back' := by
  constructor
  · intro h
    obtain ⟨hf, hrest⟩ := front_inj hfront hcf hcf' h
    exact ⟨hf, back_inj hback hcb hcb' hrest⟩
  · rintro ⟨rfl, rfl, rfl⟩
    rfl

end Support.Framing

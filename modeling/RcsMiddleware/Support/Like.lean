import RcsMiddleware.Support.Text

/-!
# Support — Like

The `LIKE` of SQL, as MySQL evaluates it: character by character, under a collation that can take
different characters for one another, with the backslash as escape character.

* `likeMatch_append`: the characters of a pattern before the first special one stand for those the
  collation takes for them.
* `likeContains_eq_hasSub`: `LIKE '%s%'` finds the texts that contain `s`, where `s` has no special
  character and the collation takes its characters for no others.
-/

namespace Support

open Text

/-- The characters that are taken for one another. -/
structure Collation where
  same : Char → Char → Bool
  refl : ∀ c, same c c = true

namespace Collation

/-- Every character is taken for itself only. -/
def exact : Collation := ⟨fun c d => c == d, fun c => beq_self_eq_true c⟩

variable (collation : Collation)

/-- `text LIKE pattern`: `%` stands for any text, `_` for one character, and what follows a
backslash for itself. -/
def likeMatch : List Char → List Char → Bool
  | [], text => text.isEmpty
  | '%' :: pattern, text => text.tails.any fun rest => likeMatch pattern rest
  | '_' :: pattern, text => match text with
    | [] => false
    | _ :: rest => likeMatch pattern rest
  | '\\' :: c :: pattern, text => match text with
    | [] => false
    | d :: rest => collation.same c d && likeMatch pattern rest
  | c :: pattern, text => match text with
    | [] => false
    | d :: rest => collation.same c d && likeMatch pattern rest

/-- `column.contains(s)`: `column LIKE concat('%', s, '%')`. -/
def likeContains (s text : String) : Bool :=
  collation.likeMatch ('%' :: (s.toList ++ ['%'])) text.toList

example : exact.likeContains "b_d" "abcde" = true ∧ exact.likeContains "b\\_d" "abcde" = false := by
  decide

/-- The character stands for itself only: it has no special meaning in a pattern, and the collation
takes it for no other. -/
def Literal (c : Char) : Prop :=
  (c ≠ '%' ∧ c ≠ '_' ∧ c ≠ '\\') ∧ ∀ d, collation.same c d = true → c = d

theorem exact_literal {s : String} (h : ∀ c ∈ s.toList, c ≠ '%' ∧ c ≠ '_' ∧ c ≠ '\\') :
    ∀ c ∈ s.toList, exact.Literal c :=
  fun c hc => ⟨h c hc, fun _ heq => eq_of_beq heq⟩

variable {collation} {literal pattern text : List Char}

theorem likeMatch_cons {c : Char} (h : collation.Literal c) (d : Char) :
    collation.likeMatch (c :: pattern) (d :: text) = true ↔
      c = d ∧ collation.likeMatch pattern text = true := by
  obtain ⟨⟨hpercent, hmark, hescape⟩, hsame⟩ := h
  have heq : collation.same c d = true ↔ c = d := by
    refine ⟨hsame d, ?_⟩
    rintro rfl
    exact collation.refl c
  rw [likeMatch, Bool.and_eq_true, heq]
  · exact hpercent
  · exact hmark
  · exact fun _ _ h _ => hescape h

theorem likeMatch_percent : collation.likeMatch ('%' :: pattern) text = true ↔
    ∃ middle rest, text = middle ++ rest ∧ collation.likeMatch pattern rest = true := by
  rw [likeMatch, any_tails_iff]

/-- The characters of a pattern that stand for themselves. -/
theorem likeMatch_append (h : ∀ c ∈ literal, collation.Literal c) :
    collation.likeMatch (literal ++ pattern) text = true ↔
      ∃ rest, text = literal ++ rest ∧ collation.likeMatch pattern rest = true := by
  induction literal generalizing text with
  | nil =>
      constructor
      · exact fun hm => ⟨text, rfl, hm⟩
      · rintro ⟨rest, rfl, hm⟩
        exact hm
  | cons c literal ih =>
      have hliteral := fun d hd => h d (List.mem_cons_of_mem _ hd)
      cases text with
      | nil =>
          obtain ⟨⟨hpercent, hmark, hescape⟩, -⟩ := h c List.mem_cons_self
          rw [List.cons_append, likeMatch]
          · simp
          · exact hpercent
          · exact hmark
          · exact fun _ _ h _ => hescape h
      | cons d text =>
          rw [List.cons_append, likeMatch_cons (h c List.mem_cons_self), ih hliteral]
          constructor
          · rintro ⟨rfl, rest, rfl, hm⟩
            exact ⟨rest, rfl, hm⟩
          · rintro ⟨rest, htext, hm⟩
            obtain ⟨rfl, rfl⟩ := List.cons.inj htext
            exact ⟨rfl, rest, rfl, hm⟩

/-- **`LIKE` around a text** of characters that stand for themselves finds the texts that contain
it. -/
theorem likeContains_eq_hasSub {s : String} (h : ∀ c ∈ s.toList, collation.Literal c)
    (text : String) : collation.likeContains s text = hasSub text s := by
  rw [Bool.eq_iff_iff, likeContains, likeMatch_percent, hasSub, any_tails_iff]
  constructor
  · rintro ⟨middle, rest, htext, hm⟩
    obtain ⟨tail, rfl, -⟩ := (likeMatch_append h).mp hm
    exact ⟨middle, _, htext, List.isPrefixOf_iff_prefix.mpr ⟨tail, rfl⟩⟩
  · rintro ⟨middle, rest, htext, hprefix⟩
    obtain ⟨tail, rfl⟩ := List.isPrefixOf_iff_prefix.mp hprefix
    refine ⟨middle, _, htext, (likeMatch_append h).mpr ⟨tail, rfl, ?_⟩⟩
    exact likeMatch_percent.mpr ⟨tail, [], (List.append_nil tail).symm, rfl⟩

end Collation

end Support

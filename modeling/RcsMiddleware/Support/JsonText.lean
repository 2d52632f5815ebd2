import RcsMiddleware.Support.Json

/-!
# Support — JsonText

Reading back what `json.dumps` writes.  An escaped character, a string literal and a number are
each read from the front of a text without regard to what follows, so a text written from several of
them determines them all.

* `unescape_escapeChar`: the decoder inverts the escaping of one character.
* `quote_append_inj`: a string literal at the front of a text determines the string and the rest.
* `digits_append_inj`: so does a number that is not followed by a digit.
* `pyStr_eq_iff`: a text with an underscore that begins like no list and no `dict` is `str(v)` of
  itself only.
-/

namespace Support.Json

open Support.Text

/-- The character a one-letter escape stands for. -/
def simpleEscape? : Char → Option Char
  | '"' => some '"'
  | '\\' => some '\\'
  | 'n' => some '\n'
  | 'r' => some '\r'
  | 't' => some '\t'
  | 'b' => some (.ofNat 0x08)
  | 'f' => some (.ofNat 0x0c)
  | _ => none

/-- A code unit written as an escape, and what follows it. -/
def codeUnit? : List Char → Option (Nat × List Char)
  | '\\' :: 'u' :: a :: b :: c :: d :: rest => some (hexValue [a, b, c, d], rest)
  | _ => none

/-- The character of a string literal at the front of a text, and what follows it. -/
def unescape : List Char → Option (Char × List Char)
  | '\\' :: 'u' :: a :: b :: c :: d :: rest =>
      let high := hexValue [a, b, c, d]
      if 0xd800 ≤ high ∧ high < 0xdc00 then
        (codeUnit? rest).map fun (low, rest') =>
          (.ofNat (0x10000 + (high - 0xd800) * 0x400 + (low - 0xdc00)), rest')
      else some (.ofNat high, rest)
  | '\\' :: e :: rest => (simpleEscape? e).map fun c => (c, rest)
  | c :: rest => some (c, rest)
  | [] => none

/-- Four hexadecimal digits, one by one. -/
theorem hex_four {n : Nat} (h : n < 0x10000) :
    ∃ a b c d, (hex 4 n).toList = [a, b, c, d] ∧ hexValue [a, b, c, d] = n := by
  have hlen : (hex 4 n).toList.length = 4 := length_hex (by decide) h
  have hvalue := hexValue_hex 4 n
  obtain ⟨a, b, c, d, he⟩ := List.length_eq_four.mp hlen
  exact ⟨a, b, c, d, he, he ▸ hvalue⟩

theorem ofNat_of_toNat {c : Char} {n : Nat} (h : c.toNat = n) : Char.ofNat n = c := by
  rw [← h, Char.ofNat_toNat]

theorem unescape_of_ne {c : Char} (h : c ≠ '\\') (rest : List Char) :
    unescape (c :: rest) = some (c, rest) := by
  unfold unescape
  split
  · next heq => exact absurd (List.cons.inj heq).1 h
  · next heq => exact absurd (List.cons.inj heq).1 h
  · next heq =>
      obtain ⟨rfl, rfl⟩ := List.cons.inj heq
      rfl
  · next heq => cases heq

/-- A code unit that is no surrogate. -/
theorem unescape_unit {n : Nat} (h : n < 0x10000) (hs : ¬ (0xd800 ≤ n ∧ n < 0xdc00))
    (rest : List Char) :
    unescape (("\\u" ++ hex 4 n).toList ++ rest) = some (.ofNat n, rest) := by
  obtain ⟨a, b, c, d, he, hv⟩ := hex_four h
  rw [String.toList_append, he]
  show unescape ('\\' :: 'u' :: a :: b :: c :: d :: rest) = _
  rw [unescape, hv, if_neg hs]

/-- A pair of surrogates. -/
theorem unescape_pair {high low : Nat} (hhigh : 0xd800 ≤ high ∧ high < 0xdc00) (hlow : low < 0x10000)
    (rest : List Char) :
    unescape (("\\u" ++ hex 4 high ++ "\\u" ++ hex 4 low).toList ++ rest) =
      some (.ofNat (0x10000 + (high - 0xd800) * 0x400 + (low - 0xdc00)), rest) := by
  obtain ⟨a, b, c, d, he, hv⟩ := hex_four (n := high) (by omega)
  obtain ⟨a', b', c', d', he', hv'⟩ := hex_four hlow
  simp only [String.toList_append, he, he']
  show unescape ('\\' :: 'u' :: a :: b :: c :: d :: '\\' :: 'u' :: a' :: b' :: c' :: d' :: rest) = _
  rw [unescape, hv, if_pos hhigh, codeUnit?, hv']
  rfl

/-- The decoder inverts the escaping of one character. -/
theorem unescape_escapeChar (c : Char) (rest : List Char) :
    unescape ((escapeChar c).toList ++ rest) = some (c, rest) := by
  unfold escapeChar
  split
  · subst_vars; rfl
  split
  · subst_vars; rfl
  split
  · subst_vars; rfl
  split
  · subst_vars; rfl
  split
  · subst_vars; rfl
  split
  · next h => rw [← ofNat_of_toNat h]; rfl
  split
  · next h => rw [← ofNat_of_toNat h]; rfl
  split
  · next h _ _ _ _ _ _ =>
      rw [String.toList_ofList]
      exact unescape_of_ne h rest
  split
  · next h =>
      -- A character is no surrogate.
      have hvalid : c.toNat < 0xd800 ∨ 0xdfff < c.toNat ∧ c.toNat < 0x110000 := c.valid
      rw [unescape_unit h (by omega), Char.ofNat_toNat]
  · next h =>
      have hvalid : c.toNat < 0xd800 ∨ 0xdfff < c.toNat ∧ c.toNat < 0x110000 := c.valid
      dsimp only
      rw [unescape_pair (by omega) (by omega), ofNat_of_toNat (c := c) (by omega)]

/-! ### String literals -/

/-- The characters between the quotes of a literal. -/
def escaped (cs : List Char) : List Char := cs.flatMap fun c => (escapeChar c).toList

theorem toList_quote (s : String) : (quote s).toList = '"' :: (escaped s.toList ++ ['"']) := by
  have hjoin : ∀ cs : List Char, (String.join (cs.map escapeChar)).toList = escaped cs := by
    intro cs
    induction cs with
    | nil => rfl
    | cons c cs ih =>
        rw [List.map_cons, String.join_cons, String.toList_append, ih]
        rfl
  rw [quote, String.toList_append, String.toList_append, hjoin]
  rfl

/-- No character is escaped to something that begins like the end of the literal. -/
theorem escapeChar_append_ne (c : Char) (rest text : List Char) :
    (escapeChar c).toList ++ rest ≠ '"' :: text := by
  intro h
  have hquote : unescape ('"' :: text) = some ('"', text) := unescape_of_ne (by decide) text
  rw [← h, unescape_escapeChar] at hquote
  obtain ⟨rfl, rfl⟩ := Prod.mk.inj (Option.some.inj hquote)
  have hhead := congrArg List.head? h
  cases hhead

theorem escaped_append_inj : ∀ {as bs rest rest' : List Char},
    escaped as ++ '"' :: rest = escaped bs ++ '"' :: rest' → as = bs ∧ rest = rest' := by
  intro as
  induction as with
  | nil =>
      intro bs rest rest' h
      cases bs with
      | nil => exact ⟨rfl, (List.cons.inj h).2⟩
      | cons b bs =>
          rw [escaped, escaped, List.flatMap_nil, List.flatMap_cons, List.append_assoc] at h
          exact absurd h.symm (escapeChar_append_ne b _ _)
  | cons a as ih =>
      intro bs rest rest' h
      cases bs with
      | nil =>
          rw [escaped, escaped, List.flatMap_nil, List.flatMap_cons, List.append_assoc] at h
          exact absurd h (escapeChar_append_ne a _ _)
      | cons b bs =>
          rw [escaped, escaped, List.flatMap_cons, List.flatMap_cons, List.append_assoc,
            List.append_assoc] at h
          have hdecoded := congrArg unescape h
          rw [unescape_escapeChar, unescape_escapeChar] at hdecoded
          obtain ⟨rfl, htail⟩ := Prod.mk.inj (Option.some.inj hdecoded)
          obtain ⟨rfl, hrest⟩ := ih htail
          exact ⟨rfl, hrest⟩

/-- **A string literal at the front of a text** determines the string and the rest. -/
theorem quote_append_inj {s t : String} {rest rest' : List Char}
    (h : (quote s).toList ++ rest = (quote t).toList ++ rest') : s = t ∧ rest = rest' := by
  rw [toList_quote, toList_quote, List.cons_append, List.cons_append, List.append_assoc,
    List.append_assoc] at h
  obtain ⟨hs, hrest⟩ := escaped_append_inj (List.cons.inj h).2
  exact ⟨String.toList_inj.mp hs, hrest⟩

/-! ### Numbers -/

theorem takeWhile_digits (n : Nat) {c : Char} (hc : c.isDigit = false) (rest : List Char) :
    (n.repr.toList ++ c :: rest).takeWhile Char.isDigit = n.repr.toList := by
  have hdigits : ∀ d ∈ n.repr.toList, d.isDigit = true := by
    intro d hd
    rw [Nat.toList_repr] at hd
    exact Nat.isDigit_of_mem_toDigits (by decide) (by decide) hd
  rw [List.takeWhile_append_of_pos hdigits, List.takeWhile_cons_of_neg (by simp [hc]),
    List.append_nil]

/-- **A number at the front of a text**, before a character that is no digit, determines the number
and the rest. -/
theorem digits_append_inj {n m : Nat} {c d : Char} (hc : c.isDigit = false) (hd : d.isDigit = false)
    {rest rest' : List Char} (h : n.repr.toList ++ c :: rest = m.repr.toList ++ d :: rest') :
    n = m ∧ c :: rest = d :: rest' := by
  have htake := congrArg (List.takeWhile Char.isDigit) h
  rw [takeWhile_digits n hc, takeWhile_digits m hd] at htake
  obtain rfl : n = m := by
    rw [Nat.toList_repr, Nat.toList_repr] at htake
    rw [← Nat.ofDigitChars_ten_toDigits (n := n), htake, Nat.ofDigitChars_ten_toDigits]
  exact ⟨rfl, List.append_cancel_left h⟩

/-! ### `str` of a value -/

theorem not_mem_append {c : Char} {s t : String} :
    c ∉ (s ++ t).toList ↔ c ∉ s.toList ∧ c ∉ t.toList := by
  rw [String.toList_append, List.mem_append, not_or]

theorem isDigit_of_mem_nat (n : Nat) : ∀ c ∈ (toString n).toList, c.isDigit = true := by
  intro c hc
  rw [Nat.toString_eq_repr, Nat.toList_repr] at hc
  exact Nat.isDigit_of_mem_toDigits (by decide) (by decide) hc

theorem underscore_not_mem_nat (n : Nat) : '_' ∉ (toString n).toList := by
  rw [Nat.toString_eq_repr, Nat.toList_repr]
  exact Nat.underscore_not_in_toDigits

theorem underscore_not_mem_int (i : Int) : '_' ∉ (toString i).toList := by
  cases i with
  | ofNat n => exact underscore_not_mem_nat n
  | negSucc n => exact not_mem_append.mpr ⟨by decide, underscore_not_mem_nat (n + 1)⟩

/-- The text is made of the characters of a finite float. -/
def Numeric (s : String) : Prop :=
  ∀ c ∈ s.toList, c.isDigit = true ∨ c ∈ ['.', '-', '+', 'e']

instance (s : String) : Decidable (Numeric s) := List.decidableBAll _ s.toList

theorem numeric_append {s t : String} : Numeric (s ++ t) ↔ Numeric s ∧ Numeric t := by
  rw [Numeric, String.toList_append, List.forall_mem_append]
  rfl

theorem numeric_finite (negative : Bool) (digits : Nat) (exponent : Int) :
    Numeric (PyFloat.finite negative digits exponent).repr := by
  -- What is written of the digits, and of the zeros around them.
  have hpart : ∀ l : List Char, (∀ c ∈ l, c = '0' ∨ c ∈ Nat.toDigits 10 digits) →
      Numeric (String.ofList l) := by
    intro l hl c hc
    rw [String.toList_ofList] at hc
    rcases hl c hc with rfl | h
    · exact .inl rfl
    · exact .inl (Nat.isDigit_of_mem_toDigits (by decide) (by decide) h)
  have htake : ∀ k, Numeric (String.ofList ((Nat.toDigits 10 digits).take k)) := fun k =>
    hpart _ fun _ hc => .inr (List.mem_of_mem_take hc)
  have hdrop : ∀ k, Numeric (String.ofList ((Nat.toDigits 10 digits).drop k)) := fun k =>
    hpart _ fun _ hc => .inr (List.mem_of_mem_drop hc)
  have hbefore : ∀ k, Numeric (String.ofList (List.replicate k '0' ++ Nat.toDigits 10 digits)) :=
    fun k => hpart _ fun _ hc => (List.mem_append.mp hc).imp_left List.eq_of_mem_replicate
  have hafter : ∀ k, Numeric (String.ofList (Nat.toDigits 10 digits ++ List.replicate k '0')) :=
    fun k => hpart _ fun _ hc => (List.mem_append.mp hc).symm.imp_left List.eq_of_mem_replicate
  have hexponent : ∀ k : Nat, Numeric (padZeros 2 (toString k)) := fun k =>
    numeric_append.mpr ⟨hpart _ fun _ hc => .inl (List.eq_of_mem_replicate hc),
      fun c hc => .inl (isDigit_of_mem_nat k c hc)⟩
  unfold PyFloat.repr
  dsimp only
  split_ifs
  all_goals
    first
    | decide
    | simp only [numeric_append, htake, hdrop, hbefore, hafter, hexponent, and_true, true_and]
      try decide

theorem underscore_not_mem_float (f : PyFloat) : '_' ∉ f.repr.toList := by
  cases f with
  | nan => decide
  | infinity negative => cases negative <;> decide
  | finite negative digits exponent =>
      exact fun h => absurd (numeric_finite negative digits exponent _ h) (by decide)

/-- **A text with an underscore** that begins like no list and no `dict` is `str(v)` of itself
only. -/
theorem pyStr_eq_iff {s : String} (hu : '_' ∈ s.toList) (harr : s.toList.head? ≠ some '[')
    (hobj : s.toList.head? ≠ some '\x7b') (v : Json) : v.pyStr = s ↔ v = .str s := by
  have hnot : v.pyStr ≠ s → v ≠ .str s := by
    rintro h rfl
    exact h rfl
  have hfree : '_' ∉ v.pyStr.toList → (v.pyStr = s ↔ v = .str s) := fun h => by
    have hne : v.pyStr ≠ s := fun he => h (he ▸ hu)
    exact iff_of_false hne (hnot hne)
  cases v with
  | null => exact hfree (by decide)
  | bool b => exact hfree (by cases b <;> decide)
  | int i => exact hfree (underscore_not_mem_int i)
  | float f => exact hfree (underscore_not_mem_float f)
  | str t => exact ⟨congrArg Json.str, Json.str.inj⟩
  | arr items =>
      have hne : (Json.arr items).pyStr ≠ s := by
        rintro rfl
        exact harr (head?_append (head?_append rfl _) _)
      exact iff_of_false hne (hnot hne)
  | obj fields =>
      have hne : (Json.obj fields).pyStr ≠ s := by
        rintro rfl
        exact hobj (head?_append (head?_append rfl _) _)
      exact iff_of_false hne (hnot hne)

end Support.Json

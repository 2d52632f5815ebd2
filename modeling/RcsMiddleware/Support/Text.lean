import Mathlib.Algebra.GroupWithZero.Nat
import Mathlib.Data.List.DropRight
import Mathlib.Data.List.Infix

/-!
# Support — Text

Python's string operations, on Lean strings.  A Lean string is a sequence of Unicode scalar
values, so it is a Python string without lone surrogates.

* `globMatch`: the patterns of Redis, as far as they have no brackets.
-/

namespace Support.Text

/-- The characters `str.strip()` removes: `str.isspace()`. -/
def isSpace (c : Char) : Bool :=
  let n := c.toNat
  (0x09 ≤ n && n ≤ 0x0d) || (0x1c ≤ n && n ≤ 0x20) || n == 0x85 || n == 0xa0 || n == 0x1680 ||
    (0x2000 ≤ n && n ≤ 0x200a) || n == 0x2028 || n == 0x2029 || n == 0x202f || n == 0x205f ||
    n == 0x3000

/-- A text without the characters of a kind around it. -/
def trim (p : Char → Bool) (s : String) : String := .ofList ((s.toList.dropWhile p).rdropWhile p)

/-- `s.strip()`. -/
def strip (s : String) : String := trim isSpace s

/-- `s.rstrip(c)`. -/
def rstrip (c : Char) (s : String) : String := .ofList (s.toList.rdropWhile (· == c))

/-- `s.startswith(pre)`. -/
def startsWith (s pre : String) : Bool := pre.toList.isPrefixOf s.toList

/-- `sub in s`. -/
def hasSub (s sub : String) : Bool := s.toList.tails.any fun t => sub.toList.isPrefixOf t

/-- `s.split(c, 1)[0]`. -/
def before (c : Char) (s : String) : String := .ofList (s.toList.takeWhile (· != c))

/-- `if s:` for `s : str | None`: the string, when it is neither `None` nor empty. -/
def truthy : Option String → Option String
  | some s => if s = "" then none else some s
  | none => none

@[simp] theorem truthy_some {s : String} (h : s ≠ "") : truthy (some s) = some s := by
  simp [truthy, h]

@[simp] theorem truthy_none : truthy none = none := rfl

@[simp] theorem truthy_empty : truthy (some "") = none := rfl

theorem truthy_eq_some {o : Option String} {s : String} :
    truthy o = some s ↔ o = some s ∧ s ≠ "" := by
  cases o with
  | none => simp
  | some t =>
      by_cases ht : t = ""
      · subst ht; simp only [truthy_empty, Option.some.injEq]; tauto
      · simp only [truthy_some ht, Option.some.injEq]
        exact ⟨fun h => ⟨h, h ▸ ht⟩, And.left⟩

theorem startsWith_iff {s pre : String} : startsWith s pre = true ↔ ∃ rest, s = pre ++ rest := by
  rw [startsWith, List.isPrefixOf_iff_prefix]
  constructor
  · rintro ⟨rest, h⟩
    refine ⟨.ofList rest, String.toList_injective ?_⟩
    rw [String.toList_append, String.toList_ofList, h]
  · rintro ⟨rest, rfl⟩
    rw [String.toList_append]
    exact List.prefix_append _ _

/-- A text up to a character, and the text from there on. -/
theorem before_eq_iff {c : Char} {s t : String} : before c s = t ↔
    c ∉ t.toList ∧ ∃ u, t ++ u = s ∧ (u = "" ∨ startsWith u (.singleton c) = true) := by
  constructor
  · rintro rfl
    rw [before, String.toList_ofList]
    refine ⟨fun hmem => absurd (List.mem_takeWhile_imp hmem) (by simp),
      .ofList (s.toList.dropWhile (· != c)), ?_, ?_⟩
    · rw [← String.ofList_append, List.takeWhile_append_dropWhile, String.ofList_toList]
    · cases hd : s.toList.dropWhile (· != c) with
      | nil => exact .inl rfl
      | cons d rest =>
          have hd' := List.head_dropWhile_not (· != c) (l := s.toList) (by rw [hd]; nofun)
          simp only [hd, List.head_cons, bne_eq_false_iff_eq] at hd'
          refine .inr (startsWith_iff.mpr ⟨.ofList rest, String.toList_injective ?_⟩)
          rw [hd', String.toList_append, String.toList_singleton, String.toList_ofList,
            String.toList_ofList, List.singleton_append]
  · rintro ⟨hc, u, rfl, hu⟩
    have hall : ∀ x ∈ t.toList, (x != c) = true := fun x hx => by
      rw [bne_iff_ne]
      rintro rfl
      exact hc hx
    rw [before, String.toList_append, List.takeWhile_append_of_pos hall]
    rcases hu with rfl | hu
    · rw [String.toList_empty, List.takeWhile_nil, List.append_nil, String.ofList_toList]
    · obtain ⟨rest, rfl⟩ := startsWith_iff.mp hu
      rw [String.toList_append, String.toList_singleton, List.singleton_append,
        List.takeWhile_cons_of_neg (by simp), List.append_nil, String.ofList_toList]

/-! ### White space and separators -/

/-- Dropping from the end stops at a character that stays. -/
theorem rdropWhile_append_cons {p : Char → Bool} {c : Char} (hc : ¬ p c = true)
    (front cs : List Char) : (front ++ c :: cs).rdropWhile p = front ++ c :: cs.rdropWhile p := by
  induction cs using List.reverseRecOn with
  | nil => rw [List.rdropWhile_concat_neg _ _ _ hc, List.rdropWhile_nil]
  | append_singleton cs d ih =>
      rw [← List.cons_append, ← List.append_assoc, List.rdropWhile_concat, List.rdropWhile_concat]
      split_ifs
      · exact ih
      · rw [List.append_assoc, List.cons_append]

theorem rdropWhile_cons {p : Char → Bool} {c : Char} (hc : ¬ p c = true) (cs : List Char) :
    (c :: cs).rdropWhile p = c :: cs.rdropWhile p := rdropWhile_append_cons hc [] cs

/-- The length of a text joined from parts. -/
theorem length_intercalate (sep : String) (parts : List String) :
    (sep.intercalate parts).length =
      (parts.map String.length).sum + sep.length * (parts.length - 1) := by
  induction parts with
  | nil => simp
  | cons part rest ih =>
      cases rest with
      | nil => simp
      | cons next rest =>
          rw [String.intercalate_cons_cons, String.length_append, String.length_append, ih]
          simp only [List.map_cons, List.sum_cons, List.length_cons, Nat.add_sub_cancel]
          rw [Nat.mul_succ]
          omega

theorem head?_append {c : Char} {s : String} (h : s.toList.head? = some c) (t : String) :
    (s ++ t).toList.head? = some c := by
  rw [String.toList_append, List.head?_append, h, Option.some_or]

/-- Dropping characters from the front keeps the others as often as they were. -/
theorem count_dropWhile {p : Char → Bool} {c : Char} (hc : p c = false) (l : List Char) :
    (l.dropWhile p).count c = l.count c := by
  have hnot : c ∉ l.takeWhile p := fun hm => by
    rw [List.mem_takeWhile_imp hm] at hc
    cases hc
  have hsplit := congrArg (List.count c) (List.takeWhile_append_dropWhile (p := p) (l := l))
  rwa [List.count_append, List.count_eq_zero.mpr hnot, Nat.zero_add] at hsplit

/-- Stripping keeps a character that is no white space as often as it was. -/
theorem count_strip {c : Char} (hc : isSpace c = false) (s : String) :
    (strip s).toList.count c = s.toList.count c := by
  rw [strip, trim, String.toList_ofList, List.rdropWhile, List.count_reverse, count_dropWhile hc,
    List.count_reverse, count_dropWhile hc]

/-- Two texts around a separator of one character: the parts are the same, or the left part of one
goes on over a separator of the other. -/
theorem append_separator_eq_iff {c : Char} {sep : String} (hsep : sep = .singleton c)
    {a b a' b' : String} :
    a ++ sep ++ b = a' ++ sep ++ b' ↔ (a = a' ∧ b = b') ∨
      (∃ t, a' = a ++ sep ++ t ∧ b = t ++ sep ++ b') ∨
      ∃ t, a = a' ++ sep ++ t ∧ b' = t ++ sep ++ b := by
  subst hsep
  -- One left part is the other and a rest, which is empty or begins with the separator.
  have hrest : ∀ {u v u' v' : String} {t : List Char}, u'.toList = u.toList ++ t →
      c :: v.toList = t ++ c :: v'.toList → (u = u' ∧ v = v') ∨
        ∃ r, u' = u ++ .singleton c ++ r ∧ v = r ++ .singleton c ++ v' := by
    intro u v u' v' t hu hv
    cases t with
    | nil =>
        rw [List.append_nil] at hu
        exact .inl ⟨(String.toList_injective hu).symm, String.toList_injective (List.cons.inj hv).2⟩
    | cons d t =>
        obtain ⟨rfl, hv⟩ := List.cons.inj hv
        refine .inr ⟨.ofList t, String.toList_injective ?_, String.toList_injective ?_⟩
        · simpa using hu
        · simpa using hv
  constructor
  · intro h
    have hl : a.toList ++ c :: b.toList = a'.toList ++ c :: b'.toList := by
      simpa using congrArg String.toList h
    rcases List.append_eq_append_iff.mp hl with ⟨t, ht, hb⟩ | ⟨t, ht, hb⟩
    · exact (hrest ht hb).imp_right .inl
    · rcases hrest ht hb with ⟨rfl, rfl⟩ | h
      · exact .inl ⟨rfl, rfl⟩
      · exact .inr (.inr h)
  · rintro (⟨rfl, rfl⟩ | ⟨t, rfl, rfl⟩ | ⟨t, rfl, rfl⟩)
    · rfl
    · simp only [String.append_assoc]
    · simp only [String.append_assoc]

/-! ### Patterns -/

/-- Whether Redis takes a text for one of a pattern, which has no brackets and no backslash: `*`
stands for any text, `?` for one character. -/
def globMatch : List Char → List Char → Bool
  | [], text => text.isEmpty
  | '*' :: pattern, text => text.tails.any fun rest => globMatch pattern rest
  | '?' :: pattern, text => match text with
    | [] => false
    | _ :: rest => globMatch pattern rest
  | c :: pattern, text => match text with
    | [] => false
    | d :: rest => c == d && globMatch pattern rest

/-- What some end of a text is. -/
theorem any_tails_iff {p : List Char → Bool} {text : List Char} :
    text.tails.any p = true ↔ ∃ middle rest, text = middle ++ rest ∧ p rest = true := by
  rw [List.any_eq_true]
  constructor
  · rintro ⟨rest, hsuffix, hrest⟩
    obtain ⟨middle, rfl⟩ := (List.mem_tails rest text).mp hsuffix
    exact ⟨middle, rest, rfl, hrest⟩
  · rintro ⟨middle, rest, rfl, hrest⟩
    exact ⟨rest, (List.mem_tails rest _).mpr ⟨middle, rfl⟩, hrest⟩

theorem globMatch_star {pattern text : List Char} :
    globMatch ('*' :: pattern) text = true ↔
      ∃ middle rest, text = middle ++ rest ∧ globMatch pattern rest = true := by
  rw [globMatch, any_tails_iff]

/-- The characters of a pattern before the first special one stand for themselves. -/
theorem globMatch_append {literal : List Char} (h : ∀ c ∈ literal, c ≠ '*' ∧ c ≠ '?')
    {pattern text : List Char} :
    globMatch (literal ++ pattern) text = true ↔
      ∃ rest, text = literal ++ rest ∧ globMatch pattern rest = true := by
  induction literal generalizing text with
  | nil =>
      constructor
      · exact fun hm => ⟨text, rfl, hm⟩
      · rintro ⟨rest, rfl, hm⟩
        exact hm
  | cons c literal ih =>
      obtain ⟨hstar, hmark⟩ := h c List.mem_cons_self
      have hliteral : ∀ d ∈ literal, d ≠ '*' ∧ d ≠ '?' := fun d hd =>
        h d (List.mem_cons_of_mem _ hd)
      cases text with
      | nil =>
          rw [List.cons_append, globMatch]
          · simp
          · exact hstar
          · exact hmark
      | cons d text =>
          rw [List.cons_append, globMatch, Bool.and_eq_true, beq_iff_eq, ih hliteral]
          · constructor
            · rintro ⟨rfl, rest, rfl, hm⟩
              exact ⟨rest, rfl, hm⟩
            · rintro ⟨rest, htext, hm⟩
              obtain ⟨rfl, rfl⟩ := List.cons.inj htext
              exact ⟨rfl, rest, rfl, hm⟩
          · exact hstar
          · exact hmark

/-- A pattern of one `*` between two texts. -/
theorem globMatch_around {before after : List Char} (hbefore : ∀ c ∈ before, c ≠ '*' ∧ c ≠ '?')
    (hafter : ∀ c ∈ after, c ≠ '*' ∧ c ≠ '?') {text : List Char} :
    globMatch (before ++ '*' :: after) text = true ↔ ∃ middle, text = before ++ middle ++ after := by
  have hend : ∀ rest, globMatch after rest = true ↔ rest = after := fun rest => by
    have happend : globMatch (after ++ []) rest = true ↔
        ∃ tail, rest = after ++ tail ∧ globMatch [] tail = true := globMatch_append hafter
    rw [List.append_nil] at happend
    rw [happend]
    constructor
    · rintro ⟨tail, rfl, htail⟩
      rw [List.isEmpty_iff.mp htail, List.append_nil]
    · exact fun h => ⟨[], by rw [h, List.append_nil], rfl⟩
  rw [globMatch_append hbefore]
  simp only [globMatch_star, hend]
  constructor
  · rintro ⟨_, rfl, middle, _, rfl, rfl⟩
    exact ⟨middle, List.append_assoc _ _ _ |>.symm⟩
  · rintro ⟨middle, rfl⟩
    exact ⟨middle ++ after, List.append_assoc _ _ _, middle, after, rfl, rfl⟩

/-! ### Numbers -/

/-- `s.rjust(n, "0")`. -/
def padZeros (n : Nat) (s : String) : String := .ofList (List.replicate (n - s.length) '0') ++ s

/-- `n` in lower-case hexadecimal, at least `width` digits. -/
def hex (width n : Nat) : String := padZeros width (.ofList (Nat.toDigits 16 n))

/-- The value of a hexadecimal digit. -/
def hexDigit? (c : Char) : Option Nat :=
  let n := c.toNat
  if 0x30 ≤ n ∧ n ≤ 0x39 then some (n - 0x30)
  else if 0x41 ≤ n ∧ n ≤ 0x46 then some (n - 0x37)
  else if 0x61 ≤ n ∧ n ≤ 0x66 then some (n - 0x57)
  else none

/-- The number a list of hexadecimal digits writes. -/
def hexValue (cs : List Char) : Nat := cs.foldl (fun n c => 16 * n + (hexDigit? c).getD 0) 0

theorem hexDigit?_digitChar : ∀ d, d < 16 → hexDigit? d.digitChar = some d := by decide

theorem hexValue_append_singleton (cs : List Char) (c : Char) :
    hexValue (cs ++ [c]) = 16 * hexValue cs + (hexDigit? c).getD 0 := by
  simp [hexValue]

theorem hexValue_toDigits (n : Nat) : hexValue (Nat.toDigits 16 n) = n := by
  induction n using Nat.strong_induction_on with
  | h n ih =>
      by_cases h : n < 16
      · rw [Nat.toDigits_of_lt_base h]
        simp [hexValue, hexDigit?_digitChar n h]
      · rw [Nat.toDigits_of_base_le (by decide) (by omega), hexValue_append_singleton,
          ih (n / 16) (by omega), hexDigit?_digitChar (n % 16) (Nat.mod_lt n (by decide))]
        simp only [Option.getD_some]
        omega

theorem hexValue_zeros (k : Nat) (cs : List Char) :
    hexValue (List.replicate k '0' ++ cs) = hexValue cs := by
  induction k with
  | zero => rfl
  | succ k ih =>
      rw [List.replicate_succ, List.cons_append]
      exact ih

/-- Hexadecimal digits read as the number they were written for. -/
theorem hexValue_hex (width n : Nat) : hexValue (hex width n).toList = n := by
  rw [hex, padZeros, String.toList_append, String.toList_ofList, String.toList_ofList,
    hexValue_zeros, hexValue_toDigits]

theorem length_hex {width n : Nat} (hw : 0 < width) (h : n < 16 ^ width) :
    (hex width n).toList.length = width := by
  have hle := (Nat.length_toDigits_le_iff (b := 16) (by decide) hw).mpr h
  rw [hex, padZeros, String.toList_append, String.toList_ofList, String.toList_ofList,
    List.length_append, List.length_replicate, String.length_ofList]
  omega

/-- The code points of the digit zero of every decimal digit block: general category `Nd`, by the
character database of Python 3.11 (Unicode 14). -/
def decimalZeros : List Nat :=
  [0x30, 0x660, 0x6f0, 0x7c0, 0x966, 0x9e6, 0xa66, 0xae6, 0xb66, 0xbe6, 0xc66, 0xce6, 0xd66, 0xde6,
    0xe50, 0xed0, 0xf20, 0x1040, 0x1090, 0x17e0, 0x1810, 0x1946, 0x19d0, 0x1a80, 0x1a90, 0x1b50,
    0x1bb0, 0x1c40, 0x1c50, 0xa620, 0xa8d0, 0xa900, 0xa9d0, 0xa9f0, 0xaa50, 0xabf0, 0xff10, 0x104a0,
    0x10d30, 0x11066, 0x110f0, 0x11136, 0x111d0, 0x112f0, 0x11450, 0x114d0, 0x11650, 0x116c0,
    0x11730, 0x118e0, 0x11950, 0x11c50, 0x11d50, 0x11da0, 0x16a60, 0x16ac0, 0x16b50, 0x1d7ce,
    0x1d7d8, 0x1d7e2, 0x1d7ec, 0x1d7f6, 0x1e140, 0x1e2f0, 0x1e950, 0x1fbf0]

/-- The value of a decimal digit character. -/
def digit? (c : Char) : Option Nat :=
  (decimalZeros.find? fun z => z ≤ c.toNat && c.toNat < z + 10).map fun z => c.toNat - z

/-- The digits of an integer literal: single underscores may stand between digits. -/
def digits? : List Char → Option (List Nat)
  | [] => none
  | [c] => (digit? c).map fun d => [d]
  | c :: '_' :: rest => do return (← digit? c) :: (← digits? rest)
  | c :: rest => do return (← digit? c) :: (← digits? rest)

/-- The sign of an integer literal, and what follows it. -/
def signOf : List Char → Int × List Char
  | '-' :: rest => (-1, rest)
  | '+' :: rest => (1, rest)
  | rest => (1, rest)

/-- The white space `int` allows around a literal: what `str.isspace()` says, but for the
separators U+001C to U+001F. -/
def isIntSpace (c : Char) : Bool := isSpace c && !(0x1c ≤ c.toNat && c.toNat ≤ 0x1f)

/-- `int(s)`; `none` where Python raises `ValueError`, a literal of more than 4300 digits
included. -/
def int? (s : String) : Option Int :=
  let literal := signOf (trim isIntSpace s).toList
  match digits? literal.2 with
  | some ds =>
      if ds.length ≤ 4300 then
        some (literal.1 * ((ds.foldl (fun n d => 10 * n + d) 0 : Nat) : Int))
      else none
  | none => none

theorem signOf_suffix (l : List Char) : (signOf l).2 <:+ l := by
  unfold signOf
  split
  · exact List.suffix_cons _ _
  · exact List.suffix_cons _ _
  · exact List.suffix_rfl

/-- A run of digits ends in a digit. -/
theorem digits?_last {l : List Char} {ds : List Nat} {c : Char} (h : digits? l = some ds)
    (hc : l.getLast? = some c) : (digit? c).isSome = true := by
  induction l using digits?.induct generalizing ds with
  | case1 => cases h
  | case2 d =>
      obtain rfl : d = c := by simpa using hc
      rw [digits?] at h
      cases hd : digit? d with
      | none => rw [hd] at h; cases h
      | some n => rfl
  | case3 d rest ih =>
      simp only [digits?, Option.bind_eq_bind, Option.bind_eq_some_iff] at h
      obtain ⟨-, -, ds', hds, -⟩ := h
      cases rest with
      | nil => cases hds
      | cons _ _ => exact ih hds hc
  | case4 d rest hne hnot ih =>
      rw [digits?] at h
      · simp only [Option.bind_eq_bind, Option.bind_eq_some_iff] at h
        obtain ⟨-, -, ds', hds, -⟩ := h
        cases rest with
        | nil => cases hds
        | cons _ _ => exact ih hds hc
      · exact hne
      · exact hnot

/-- What is left of a list at its end ends as the list does. -/
theorem getLast?_of_suffix {α : Type} {l m : List α} (h : m <:+ l) (hm : m ≠ []) :
    m.getLast? = l.getLast? := by
  obtain ⟨t, rfl⟩ := h
  rw [List.getLast?_append]
  cases hl : m.getLast? with
  | none => exact absurd (List.getLast?_eq_none_iff.mp hl) hm
  | some a => rfl

/-- An integer literal ends in a digit or in white space. -/
theorem int?_last {s : String} {n : Int} {c : Char} (h : int? s = some n)
    (hc : s.toList.getLast? = some c) (hspace : isIntSpace c = false) : (digit? c).isSome = true := by
  -- Trimming keeps the last character, and so does dropping a sign.
  have htrim : (trim isIntSpace s).toList = s.toList.dropWhile isIntSpace := by
    rw [trim, String.toList_ofList, List.rdropWhile_eq_self_iff]
    intro hne
    have hlast := getLast?_of_suffix (List.dropWhile_suffix isIntSpace) hne
    rw [hc, List.getLast?_eq_some_getLast hne] at hlast
    rw [Option.some.inj hlast, hspace]
    exact Bool.false_ne_true
  have hbody := signOf_suffix (trim isIntSpace s).toList
  rw [htrim] at hbody
  rw [int?, htrim] at h
  cases hds : digits? (signOf (s.toList.dropWhile isIntSpace)).2 with
  | none =>
      rw [hds] at h
      cases h
  | some ds =>
      have hne : (signOf (s.toList.dropWhile isIntSpace)).2 ≠ [] := by
        intro hnil
        rw [hnil] at hds
        cases hds
      refine digits?_last hds ?_
      rw [getLast?_of_suffix (hbody.trans (List.dropWhile_suffix isIntSpace)) hne]
      exact hc

theorem rstrip_of_last {c : Char} {s : String} (h : s.toList.getLast? ≠ some c) :
    rstrip c s = s := by
  rw [rstrip, List.rdropWhile_eq_self_iff.mpr, String.ofList_toList]
  intro hne hlast
  rw [List.getLast?_eq_some_getLast hne] at h
  exact h (congrArg some (eq_of_beq hlast))

end Support.Text

import RcsMiddleware.Support.JsonText

/-!
# Support — JsonScan

The tokens `json.loads` reads from the front of a text, each with what follows it: white space, a
string literal, a number.  A lone surrogate, which no Lean string holds, is refused.

* `literal?_quote`: a literal that `json.dumps` writes is read back.
* `Numeral`: the parts of a number; `scan_numeral` reads them back.
* `intNumeral`, `float_numeral`: what `json.dumps` writes of an `int` and of a `float` is one.
-/

namespace Support.Json

open Support.Text

/-! ### White space -/

/-- The white space of JSON. -/
def isBlank (c : Char) : Bool := c == ' ' || c == '\t' || c == '\n' || c == '\r'

/-- What follows the white space at the front. -/
def skipBlank (cs : List Char) : List Char := cs.dropWhile isBlank

@[simp] theorem skipBlank_nil : skipBlank [] = [] := rfl

theorem skipBlank_cons {c : Char} (hc : isBlank c = false) (cs : List Char) :
    skipBlank (c :: cs) = c :: cs := by
  rw [skipBlank, List.dropWhile_cons_of_neg (by simp [hc])]

theorem skipBlank_append {sp : List Char} (hsp : ∀ c ∈ sp, isBlank c = true) (cs : List Char) :
    skipBlank (sp ++ cs) = skipBlank cs := by
  rw [skipBlank, List.dropWhile_append_of_pos hsp]
  rfl

/-! ### String literals -/

/-- Four hexadecimal digits, and what follows them. -/
def unit? : List Char → Option (Nat × List Char)
  | a :: b :: c :: d :: rest =>
      if [a, b, c, d].all fun c => (hexDigit? c).isSome then some (hexValue [a, b, c, d], rest)
      else none
  | _ => none

/-- The other half of a character after a high surrogate. -/
def lowUnit? : List Char → Option (Nat × List Char)
  | '\\' :: 'u' :: rest => (unit? rest).bind fun (low, rest) =>
      if 0xdc00 ≤ low ∧ low < 0xe000 then some (low - 0xdc00, rest) else none
  | _ => none

/-- The character after a backslash and a `u`. -/
def unicode? (cs : List Char) : Option (Char × List Char) :=
  match unit? cs with
  | none => none
  | some (n, rest) =>
      if 0xd800 ≤ n ∧ n < 0xdc00 then
        (lowUnit? rest).map fun (low, rest) => (.ofNat (0x10000 + (n - 0xd800) * 0x400 + low), rest)
      else if 0xdc00 ≤ n ∧ n < 0xe000 then none
      else some (.ofNat n, rest)

/-- The character at the front of a literal; control characters are refused. -/
def character? : List Char → Option (Char × List Char)
  | '\\' :: 'u' :: rest => unicode? rest
  | '\\' :: '/' :: rest => some ('/', rest)
  | '\\' :: e :: rest => (simpleEscape? e).map fun c => (c, rest)
  | c :: rest => if c = '\\' ∨ c.toNat < 0x20 then none else some (c, rest)
  | [] => none

/-- The characters of a literal after its opening quote, and what follows the closing one. -/
def literal? : Nat → List Char → Option (List Char × List Char)
  | 0, _ => none
  | _ + 1, '"' :: rest => some ([], rest)
  | fuel + 1, text =>
      match character? text with
      | some (c, rest) => (literal? fuel rest).map fun (cs, rest) => (c :: cs, rest)
      | none => none

theorem hexDigit?_toDigits (n : Nat) : ∀ c ∈ Nat.toDigits 16 n, (hexDigit? c).isSome = true := by
  induction n using Nat.strong_induction_on with
  | h n ih =>
      intro c hc
      by_cases h : n < 16
      · rw [Nat.toDigits_of_lt_base h, List.mem_singleton] at hc
        rw [hc, hexDigit?_digitChar n h]
        rfl
      · rw [Nat.toDigits_of_base_le (by decide) (by omega), List.mem_append, List.mem_singleton] at hc
        rcases hc with hc | rfl
        · exact ih (n / 16) (by omega) c hc
        · rw [hexDigit?_digitChar (n % 16) (Nat.mod_lt n (by decide))]
          rfl

theorem hexDigit?_hex (width n : Nat) : ∀ c ∈ (hex width n).toList, (hexDigit? c).isSome = true := by
  intro c hc
  rw [hex, padZeros, String.toList_append, String.toList_ofList, String.toList_ofList,
    List.mem_append] at hc
  rcases hc with hc | hc
  · rw [List.eq_of_mem_replicate hc]
    rfl
  · exact hexDigit?_toDigits n c hc

theorem unit?_hex {n : Nat} (h : n < 0x10000) (rest : List Char) :
    unit? ((hex 4 n).toList ++ rest) = some (n, rest) := by
  obtain ⟨a, b, c, d, he, hv⟩ := hex_four h
  have hdigits : ∀ c ∈ (hex 4 n).toList, (hexDigit? c).isSome = true := hexDigit?_hex 4 n
  rw [he] at hdigits ⊢
  show (if [a, b, c, d].all (fun c => (hexDigit? c).isSome) = true then
    some (hexValue [a, b, c, d], rest) else none) = _
  rw [if_pos (List.all_eq_true.mpr hdigits), hv]

theorem character?_u (cs : List Char) : character? ("\\u".toList ++ cs) = unicode? cs := rfl

theorem lowUnit?_u (cs : List Char) : lowUnit? ("\\u".toList ++ cs) = (unit? cs).bind fun x =>
    if 0xdc00 ≤ x.1 ∧ x.1 < 0xe000 then some (x.1 - 0xdc00, x.2) else none := rfl

theorem lowUnit?_hex {n : Nat} (h : n < 0x400) (rest : List Char) :
    lowUnit? ("\\u".toList ++ ((hex 4 (0xdc00 + n)).toList ++ rest)) = some (n, rest) := by
  rw [lowUnit?_u, unit?_hex (by omega), Option.bind_some, if_pos (by omega), Nat.add_sub_cancel_left]

/-- The reader inverts the escaping of one character. -/
theorem character?_escapeChar (c : Char) (rest : List Char) :
    character? ((escapeChar c).toList ++ rest) = some (c, rest) := by
  have hvalid : c.toNat < 0xd800 ∨ 0xdfff < c.toNat ∧ c.toNat < 0x110000 := c.valid
  unfold escapeChar
  split
  · subst_vars; rfl
  split
  · subst_vars; rfl
  split
  · subst_vars; rfl
  split
  · subst_vars; rfl
  split
  · subst_vars; rfl
  split
  · next h => rw [← ofNat_of_toNat h]; rfl
  split
  · next h => rw [← ofNat_of_toNat h]; rfl
  split
  · next hslash _ _ _ _ _ h =>
      rw [String.toList_ofList]
      have hplain : ¬ (c = '\\' ∨ c.toNat < 0x20) := by
        rintro (hc | hc)
        · exact hslash hc
        · omega
      -- What is printed as it is, is no escape and no control character.
      show character? (c :: rest) = _
      unfold character?
      split
      · next heq => exact absurd (List.cons.inj heq).1 hslash
      · next heq => exact absurd (List.cons.inj heq).1 hslash
      · next heq => exact absurd (List.cons.inj heq).1 hslash
      · next heq =>
          obtain ⟨rfl, rfl⟩ := List.cons.inj heq
          rw [if_neg hplain]
      · next heq => cases heq
  split
  · next h =>
      rw [String.toList_append, List.append_assoc, character?_u, unicode?, unit?_hex h]
      dsimp only
      rw [if_neg (by omega), if_neg (by omega), Char.ofNat_toNat]
  · next h =>
      dsimp only
      rw [String.toList_append, String.toList_append, String.toList_append, List.append_assoc,
        List.append_assoc, List.append_assoc, character?_u, unicode?, unit?_hex (by omega)]
      dsimp only
      -- A character beyond the basic plane is a pair of surrogates.
      rw [if_pos (by omega), lowUnit?_hex (by omega), Option.map_some]
      have hsplit : 0x10000 + (0xd800 + (c.toNat - 0x10000) / 0x400 - 0xd800) * 0x400 +
          (c.toNat - 0x10000) % 0x400 = c.toNat := by omega
      rw [hsplit, Char.ofNat_toNat]

theorem literal?_succ {text : List Char} (h : ∀ rest, text ≠ '"' :: rest) (fuel : Nat) :
    literal? (fuel + 1) text = match character? text with
      | some (c, rest) => (literal? fuel rest).map fun (cs, rest) => (c :: cs, rest)
      | none => none := by
  rw [literal?]
  exact h

/-- What `json.dumps` writes between the quotes is read back. -/
theorem literal?_escaped (cs : List Char) {fuel : Nat} (hfuel : cs.length < fuel) (rest : List Char) :
    literal? fuel (escaped cs ++ '"' :: rest) = some (cs, rest) := by
  induction cs generalizing fuel with
  | nil =>
      cases fuel with
      | zero => cases hfuel
      | succ fuel => rfl
  | cons c cs ih =>
      cases fuel with
      | zero => cases hfuel
      | succ fuel =>
          have htext : escaped (c :: cs) ++ '"' :: rest =
              (escapeChar c).toList ++ (escaped cs ++ '"' :: rest) := by
            rw [escaped, List.flatMap_cons, List.append_assoc]
            rfl
          rw [htext, literal?_succ fun _ => escapeChar_append_ne c _ _, character?_escapeChar]
          dsimp only
          rw [ih (Nat.lt_of_succ_lt_succ hfuel)]
          rfl

/-! ### Numbers -/

/-- The parts of a number, as they are written: `-?(0|[1-9][0-9]*)(\.[0-9]+)?([eE][-+]?[0-9]+)?`. -/
structure Numeral where
  sign : List Char
  int : List Char
  fraction : List Char
  exponent : List Char

namespace Numeral

def chars (n : Numeral) : List Char := n.sign ++ (n.int ++ (n.fraction ++ n.exponent))

/-- It has neither a fraction nor an exponent. -/
def integral (n : Numeral) : Bool := n.fraction.isEmpty && n.exponent.isEmpty

/-- The number an integral one writes. -/
def value (n : Numeral) : Int :=
  if n.sign = [] then Nat.ofDigitChars 10 n.int 0 else -Nat.ofDigitChars 10 n.int 0

end Numeral

/-- The sign at the front, which is `-` or nothing. -/
def scanSign : List Char → List Char × List Char
  | '-' :: rest => (['-'], rest)
  | rest => ([], rest)

def scanInt? : List Char → Option (List Char × List Char)
  | '0' :: rest => some (['0'], rest)
  | c :: rest => if c.isDigit then some ((c :: rest).span Char.isDigit) else none
  | [] => none

/-- A point, if digits follow it, with them. -/
def scanFraction : List Char → List Char × List Char
  | '.' :: rest =>
      if (rest.takeWhile Char.isDigit).isEmpty then ([], '.' :: rest)
      else ('.' :: rest.takeWhile Char.isDigit, rest.dropWhile Char.isDigit)
  | rest => ([], rest)

/-- The sign of an exponent. -/
def scanExponentSign : List Char → List Char × List Char
  | '-' :: rest => (['-'], rest)
  | '+' :: rest => (['+'], rest)
  | rest => ([], rest)

/-- An `e`, if digits follow it, with them. -/
def scanExponent : List Char → List Char × List Char
  | e :: rest =>
      if (e = 'e' ∨ e = 'E') ∧
          ((scanExponentSign rest).2.takeWhile Char.isDigit).isEmpty = false then
        (e :: ((scanExponentSign rest).1 ++ (scanExponentSign rest).2.takeWhile Char.isDigit),
          (scanExponentSign rest).2.dropWhile Char.isDigit)
      else ([], e :: rest)
  | [] => ([], [])

/-- The number at the front of a text, and what follows it. -/
def scanNumeral? (cs : List Char) : Option (Numeral × List Char) :=
  match scanInt? (scanSign cs).2 with
  | none => none
  | some (digits, rest) =>
      some (⟨(scanSign cs).1, digits, (scanFraction rest).1, (scanExponent (scanFraction rest).2).1⟩,
        (scanExponent (scanFraction rest).2).2)

/-- The characters a number may go on with. -/
def continues (c : Char) : Bool := c.isDigit || c == '.' || c == 'e' || c == 'E'

/-- The text does not go on with a number. -/
def Ended (cs : List Char) : Prop := ∀ c ∈ cs.head?, continues c = false

theorem ended_nil : Ended [] := fun _ h => by cases h

theorem ended_cons {c : Char} (hc : continues c = false) (cs : List Char) : Ended (c :: cs) :=
  fun _ h => by
    cases h
    exact hc

/-- Digits, at least one. -/
def Digits (cs : List Char) : Prop := cs ≠ [] ∧ ∀ c ∈ cs, c.isDigit = true

/-- What a number may consist of. -/
structure Numeral.WellFormed (n : Numeral) : Prop where
  sign : n.sign = [] ∨ n.sign = ['-']
  int : n.int = ['0'] ∨ Digits n.int ∧ n.int.head? ≠ some '0'
  fraction : n.fraction = [] ∨ ∃ ds, Digits ds ∧ n.fraction = '.' :: ds
  exponent : n.exponent = [] ∨ ∃ sign ds, Digits ds ∧ (sign = '-' ∨ sign = '+') ∧
    n.exponent = 'e' :: sign :: ds

theorem takeWhile_isDigit {ds rest : List Char} (hds : ∀ c ∈ ds, c.isDigit = true)
    (hrest : ∀ c ∈ rest.head?, c.isDigit = false) :
    (ds ++ rest).takeWhile Char.isDigit = ds ∧ (ds ++ rest).dropWhile Char.isDigit = rest := by
  rw [List.takeWhile_append_of_pos hds, List.dropWhile_append_of_pos hds]
  cases rest with
  | nil => exact ⟨List.append_nil ds, rfl⟩
  | cons c rest =>
      have hc : ¬ c.isDigit = true := by simp [hrest c rfl]
      rw [List.takeWhile_cons_of_neg hc, List.dropWhile_cons_of_neg hc]
      exact ⟨List.append_nil ds, rfl⟩

theorem scanExponent_append {n : Numeral} (hn : n.WellFormed) {rest : List Char} (hrest : Ended rest) :
    scanExponent (n.exponent ++ rest) = (n.exponent, rest) := by
  rcases hn.exponent with h | ⟨sign, ds, hds, hsign, h⟩
  · rw [h, List.nil_append]
    cases rest with
    | nil => rfl
    | cons c rest =>
        have hc := hrest c rfl
        simp only [continues, Bool.or_eq_false_iff, beq_eq_false_iff_ne] at hc
        rw [scanExponent, if_neg]
        rintro ⟨rfl | rfl, -⟩
        · exact hc.1.2 rfl
        · exact hc.2 rfl
  · have hend : ∀ c ∈ rest.head?, c.isDigit = false := fun c hc => by
      have hc' := hrest c hc
      simp only [continues, Bool.or_eq_false_iff] at hc'
      exact hc'.1.1.1
    obtain ⟨htake, hdrop⟩ := takeWhile_isDigit hds.2 hend
    have hscan : scanExponentSign (sign :: (ds ++ rest)) = ([sign], ds ++ rest) := by
      rcases hsign with rfl | rfl <;> rfl
    rw [h]
    show scanExponent ('e' :: sign :: (ds ++ rest)) = _
    rw [scanExponent, hscan]
    dsimp only
    rw [htake, hdrop, if_pos ⟨.inl rfl, by simpa using hds.1⟩]
    rfl

theorem exponent_head {n : Numeral} (hn : n.WellFormed) {rest : List Char} (hrest : Ended rest) :
    ∀ c ∈ (n.exponent ++ rest).head?, c.isDigit = false ∧ c ≠ '.' := by
  intro c hc
  rcases hn.exponent with h | ⟨sign, ds, hds, hsign, h⟩
  · rw [h, List.nil_append] at hc
    have hc' := hrest c hc
    simp only [continues, Bool.or_eq_false_iff, beq_eq_false_iff_ne] at hc'
    exact hc'.1.1
  · rw [h] at hc
    cases hc
    exact ⟨rfl, by decide⟩

theorem scanFraction_append {n : Numeral} (hn : n.WellFormed) {rest : List Char} (hrest : Ended rest) :
    scanFraction (n.fraction ++ (n.exponent ++ rest)) = (n.fraction, n.exponent ++ rest) := by
  have hhead := exponent_head hn hrest
  rcases hn.fraction with h | ⟨ds, hds, h⟩
  · rw [h, List.nil_append]
    unfold scanFraction
    split
    · next heq =>
      rw [heq] at hhead
      exact absurd rfl (hhead '.' rfl).2
    · rfl
  · obtain ⟨htake, hdrop⟩ := takeWhile_isDigit hds.2 fun c hc => (hhead c hc).1
    rw [h]
    show scanFraction ('.' :: (ds ++ (n.exponent ++ rest))) = _
    rw [scanFraction, htake, hdrop, if_neg]
    simpa using hds.1

theorem fraction_head {n : Numeral} (hn : n.WellFormed) {rest : List Char} (hrest : Ended rest) :
    ∀ c ∈ (n.fraction ++ (n.exponent ++ rest)).head?, c.isDigit = false := by
  intro c hc
  rcases hn.fraction with h | ⟨ds, hds, h⟩
  · rw [h, List.nil_append] at hc
    exact (exponent_head hn hrest c hc).1
  · rw [h] at hc
    cases hc
    rfl

theorem scanInt?_append {n : Numeral} (hn : n.WellFormed) {rest : List Char} (hrest : Ended rest) :
    scanInt? (n.int ++ (n.fraction ++ (n.exponent ++ rest))) =
      some (n.int, n.fraction ++ (n.exponent ++ rest)) := by
  rcases hn.int with h | ⟨hds, hzero⟩
  · rw [h]
    rfl
  · obtain ⟨htake, hdrop⟩ := takeWhile_isDigit hds.2 (fraction_head hn hrest)
    cases hint : n.int with
    | nil => exact absurd hint hds.1
    | cons d ds =>
        rw [hint] at hzero hds htake hdrop
        have hd : d.isDigit = true := hds.2 d List.mem_cons_self
        rw [List.cons_append] at htake hdrop ⊢
        unfold scanInt?
        split
        · next heq =>
          obtain ⟨rfl, -⟩ := List.cons.inj heq
          exact absurd rfl hzero
        · next heq =>
          obtain ⟨rfl, rfl⟩ := List.cons.inj heq
          rw [if_pos hd, List.span_eq_takeWhile_dropWhile, htake, hdrop]
        · next heq => cases heq

theorem scanSign_append {n : Numeral} (hn : n.WellFormed) (rest : List Char) :
    scanSign (n.sign ++ (n.int ++ rest)) = (n.sign, n.int ++ rest) := by
  rcases hn.sign with h | h
  · rw [h, List.nil_append]
    unfold scanSign
    split
    · next heq =>
      rcases hn.int with hint | ⟨hds, -⟩
      · rw [hint] at heq
        cases heq
      · cases hint : n.int with
        | nil => exact absurd hint hds.1
        | cons d ds =>
            rw [hint] at heq hds
            obtain ⟨rfl, -⟩ := List.cons.inj heq
            exact absurd (hds.2 '-' List.mem_cons_self) (by decide)
    · rfl
  · rw [h]
    rfl

/-- **A number at the front of a text** is read back, unless the text goes on with a number. -/
theorem scan_numeral {n : Numeral} (hn : n.WellFormed) {rest : List Char} (hrest : Ended rest) :
    scanNumeral? (n.chars ++ rest) = some (n, rest) := by
  have hchars : n.chars ++ rest = n.sign ++ (n.int ++ (n.fraction ++ (n.exponent ++ rest))) := by
    simp only [Numeral.chars, List.append_assoc]
  rw [hchars, scanNumeral?, scanSign_append hn, scanInt?_append hn hrest]
  dsimp only
  rw [scanFraction_append hn hrest, scanExponent_append hn hrest]

/-! ### What `json.dumps` writes of a number -/

theorem digits_toDigits (n : Nat) : Digits (Nat.toDigits 10 n) :=
  ⟨Nat.toDigits_ne_nil, fun _ hc => Nat.isDigit_of_mem_toDigits (by decide) (by decide) hc⟩

/-- A number that is not zero does not begin with a zero. -/
theorem head?_toDigits {n : Nat} (hn : n ≠ 0) : (Nat.toDigits 10 n).head? ≠ some '0' := by
  induction n using Nat.strong_induction_on with
  | h n ih =>
      by_cases h : n < 10
      · have hdigit : ∀ m, m < 10 → m ≠ 0 → m.digitChar ≠ '0' := by decide
        rw [Nat.toDigits_of_lt_base h]
        exact fun heq => hdigit n h hn (Option.some.inj heq)
      · rw [Nat.toDigits_of_base_le (by decide) (by omega),
          List.head?_append_of_ne_nil _ Nat.toDigits_ne_nil]
        exact ih (n / 10) (by omega) (by omega)

/-- What `json.dumps` writes of an `int`. -/
def intNumeral (i : Int) : Numeral :=
  ⟨if i < 0 then ['-'] else [], Nat.toDigits 10 i.natAbs, [], []⟩

theorem intNumeral_wellFormed (i : Int) : (intNumeral i).WellFormed where
  sign := by
    rw [intNumeral]
    split
    · exact .inr rfl
    · exact .inl rfl
  int := by
    by_cases h : i.natAbs = 0
    · exact .inl (by rw [intNumeral, h]; rfl)
    · exact .inr ⟨digits_toDigits _, head?_toDigits h⟩
  fraction := .inl rfl
  exponent := .inl rfl

theorem intNumeral_chars (i : Int) : (intNumeral i).chars = (toString i).toList := by
  cases i with
  | ofNat n =>
      show [] ++ (Nat.toDigits 10 n ++ ([] ++ [])) = n.repr.toList
      rw [Nat.toList_repr, List.nil_append, List.append_nil, List.append_nil]
  | negSucc n =>
      have htext : (toString (Int.negSucc n)).toList = "-".toList ++ Nat.toDigits 10 (n + 1) := by
        show ("-" ++ (n + 1).repr).toList = _
        rw [String.toList_append, Nat.toList_repr]
      rw [htext, intNumeral, if_pos (Int.negSucc_lt_zero n), Numeral.chars, List.append_nil,
        List.append_nil]
      rfl

theorem intNumeral_value (i : Int) : (intNumeral i).value = i := by
  cases i with
  | ofNat n => exact congrArg Int.ofNat Nat.ofDigitChars_ten_toDigits
  | negSucc n =>
      rw [intNumeral, if_pos (Int.negSucc_lt_zero n), Numeral.value, if_neg (List.cons_ne_nil _ _),
        Nat.ofDigitChars_ten_toDigits]
      rfl

/-- A number without a sign, but with a fraction or an exponent. -/
def Fractional (text : List Char) : Prop :=
  ∃ n : Numeral, n.WellFormed ∧ n.sign = [] ∧ n.chars = text ∧ n.integral = false

theorem fractional_point {digits fraction : List Char} (hdigits : Digits digits)
    (hzero : digits = ['0'] ∨ digits.head? ≠ some '0') (hfraction : Digits fraction) :
    Fractional (digits ++ '.' :: fraction) := by
  refine ⟨⟨[], digits, '.' :: fraction, []⟩, ⟨.inl rfl, ?_, .inr ⟨_, hfraction, rfl⟩, .inl rfl⟩, rfl,
    ?_, rfl⟩
  · exact hzero.imp_right fun h => ⟨hdigits, h⟩
  · simp only [Numeral.chars, List.nil_append, List.append_nil]

theorem fractional_exponent {digit sign : Char} {fraction exponent : List Char}
    (hdigit : digit.isDigit = true) (hzero : digit ≠ '0')
    (hfraction : fraction = [] ∨ ∃ ds, Digits ds ∧ fraction = '.' :: ds)
    (hsign : sign = '-' ∨ sign = '+') (hexponent : Digits exponent) :
    Fractional (digit :: (fraction ++ 'e' :: sign :: exponent)) := by
  have hdigits : Digits [digit] := ⟨List.cons_ne_nil _ _, by simpa using hdigit⟩
  refine ⟨⟨[], [digit], fraction, 'e' :: sign :: exponent⟩, ⟨.inl rfl, .inr ⟨hdigits, by simpa using hzero⟩,
    hfraction, .inr ⟨sign, exponent, hexponent, hsign, rfl⟩⟩, rfl, ?_, ?_⟩
  · simp only [Numeral.chars, List.nil_append, List.cons_append]
  · rw [Numeral.integral]
    exact Bool.and_false _

theorem digits_append {ds ds' : List Char} (hds : Digits ds) (hds' : ∀ c ∈ ds', c.isDigit = true) :
    Digits (ds ++ ds') ∧ Digits (ds' ++ ds) := by
  refine ⟨⟨by simp [hds.1], fun c hc => ?_⟩, by simp [hds.1], fun c hc => ?_⟩
  · exact (List.mem_append.mp hc).elim (hds.2 c) (hds' c)
  · exact (List.mem_append.mp hc).elim (hds' c) (hds.2 c)

theorem isDigit_zeros (k : Nat) : ∀ c ∈ List.replicate k '0', c.isDigit = true := fun c hc => by
  rw [List.eq_of_mem_replicate hc]
  rfl

/-- **A finite float** is written as a number with a fraction or an exponent. -/
theorem float_numeral (negative : Bool) (digits : Nat) (exponent : Int) :
    ∃ n : Numeral, n.WellFormed ∧ n.integral = false ∧
      n.chars = (PyFloat.finite negative digits exponent).repr.toList := by
  have hsigned : ∀ body : String, Fractional body.toList → ∃ n : Numeral, n.WellFormed ∧
      n.integral = false ∧ n.chars = (if negative = true then "-" ++ body else body).toList := by
    rintro body ⟨n, hn, hsign, hchars, hfrac⟩
    cases negative with
    | false => exact ⟨n, hn, hfrac, hchars⟩
    | true =>
        refine ⟨{ n with sign := ['-'] }, ⟨.inr rfl, hn.int, hn.fraction, hn.exponent⟩, hfrac, ?_⟩
        rw [if_pos rfl, String.toList_append, ← hchars]
        simp only [Numeral.chars, hsign, List.nil_append]
        rfl
  unfold PyFloat.repr
  dsimp only
  refine hsigned _ ?_
  have hds := digits_toDigits digits
  have hdigitZero : Digits ['0'] := digits_toDigits 0
  by_cases hzero : digits = 0
  · rw [if_pos hzero]
    exact fractional_point hdigitZero (.inl rfl) hdigitZero
  rw [if_neg hzero]
  have hhead := head?_toDigits hzero
  obtain ⟨d, ds, hcons⟩ := List.exists_cons_of_ne_nil hds.1
  rw [hcons] at hds hhead ⊢
  have hrest : ∀ c ∈ ds, c.isDigit = true := fun c hc => hds.2 c (List.mem_cons_of_mem _ hc)
  split
  · next hrange =>
    split
    · -- The point stands before the digits.
      simp only [String.toList_append, String.toList_ofList]
      exact fractional_point hdigitZero (.inl rfl) (digits_append hds (isDigit_zeros _)).2
    split
    · -- It stands behind them.
      simp only [String.toList_append, String.toList_ofList]
      exact fractional_point (digits_append hds (isDigit_zeros _)).1 (.inr hhead) hdigitZero
    · -- It stands among them.
      next hpos hlen =>
      generalize hk : ((d :: ds).length + exponent : Int).toNat = k
      have hbounds : 0 < k ∧ k < (d :: ds).length := by omega
      obtain ⟨k, rfl⟩ := Nat.exists_eq_succ_of_ne_zero hbounds.1.ne'
      have hfraction : Digits ((d :: ds).drop (k + 1)) := by
        refine ⟨fun hnil => ?_, fun c hc => hds.2 c (List.mem_of_mem_drop hc)⟩
        have hlength := congrArg List.length hnil
        rw [List.length_drop, List.length_nil] at hlength
        omega
      simp only [String.toList_append, String.toList_ofList, List.append_assoc]
      exact fractional_point ⟨List.cons_ne_nil _ _, fun c hc => hds.2 c (List.mem_of_mem_take hc)⟩
        (.inr hhead) hfraction
  · -- The first digit, a point before the others, and an exponent of at least two digits.
    have hexp : ∀ k : Nat, Digits (padZeros 2 (toString k)).toList := fun k => by
      rw [padZeros, String.toList_append, String.toList_ofList, Nat.toString_eq_repr, Nat.toList_repr]
      exact (digits_append (digits_toDigits k) (isDigit_zeros _)).2
    have hnonzero : d ≠ '0' := fun h => hhead (congrArg some h)
    have hfraction : (if (d :: ds).length = 1 then "" else
        "." ++ String.ofList ((d :: ds).drop 1)).toList = [] ∨ ∃ ds', Digits ds' ∧
        (if (d :: ds).length = 1 then "" else
          "." ++ String.ofList ((d :: ds).drop 1)).toList = '.' :: ds' := by
      split
      · exact .inl rfl
      · next hlen =>
        refine .inr ⟨ds, ⟨fun hnil => hlen ?_, hrest⟩, ?_⟩
        · rw [hnil]
          rfl
        · simp only [String.toList_append, String.toList_ofList]
          rfl
    generalize ((d :: ds).length : Int) + exponent - 1 = power
    obtain ⟨sign, hsign, htext⟩ : ∃ sign, (sign = '-' ∨ sign = '+') ∧
        (if power < 0 then "-" else "+").toList = [sign] := by
      split
      · exact ⟨'-', .inl rfl, rfl⟩
      · exact ⟨'+', .inr rfl, rfl⟩
    have h := fractional_exponent (hds.2 d List.mem_cons_self) hnonzero hfraction hsign
      (hexp power.natAbs)
    simp only [String.toList_append, htext, List.append_assoc]
    rw [String.toList_ofList]
    exact h

end Support.Json

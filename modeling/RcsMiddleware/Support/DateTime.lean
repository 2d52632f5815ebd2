import Mathlib.Data.List.Lex
import RcsMiddleware.Support.Text

/-!
# Support — DateTime

Naive `datetime` values, their order, and the two texts the code makes of them.

* `number?_padZeros`: a number of fixed width is read as it was written.
* `fromIsoformat_isoformat`: `fromisoformat` is the inverse of `isoformat`.
-/

namespace Support

/-- A naive `datetime`. -/
structure DateTime where
  year : Nat
  month : Nat
  day : Nat
  hour : Nat
  minute : Nat
  second : Nat
  microsecond : Nat
  deriving DecidableEq, Repr

namespace DateTime

open Text (padZeros)

/-- The parts, the year first. -/
def parts (d : DateTime) : List Nat :=
  [d.year, d.month, d.day, d.hour, d.minute, d.second, d.microsecond]

/-- Naive values are compared part by part. -/
instance : Preorder DateTime := @Preorder.lift _ _ List.instLinearOrder.toPreorder parts

instance (a b : DateTime) : Decidable (a ≤ b) := inferInstanceAs (Decidable (a.parts ≤ b.parts))

/-- `d.isoformat()`: the microseconds are written only when they are not zero. -/
def isoformat (d : DateTime) : String :=
  padZeros 4 (toString d.year) ++ "-" ++ padZeros 2 (toString d.month) ++ "-" ++
    padZeros 2 (toString d.day) ++ "T" ++ padZeros 2 (toString d.hour) ++ ":" ++
    padZeros 2 (toString d.minute) ++ ":" ++ padZeros 2 (toString d.second) ++
    (if d.microsecond = 0 then "" else "." ++ padZeros 6 (toString d.microsecond))

/-- `d.strftime("%Y%m%d%H%M")`. -/
def toMinute (d : DateTime) : String :=
  padZeros 4 (toString d.year) ++ padZeros 2 (toString d.month) ++ padZeros 2 (toString d.day) ++
    padZeros 2 (toString d.hour) ++ padZeros 2 (toString d.minute)

/-- The days of a month in the Gregorian calendar. -/
def daysInMonth (year month : Nat) : Nat :=
  if month = 2 then (if year % 4 = 0 ∧ (year % 100 ≠ 0 ∨ year % 400 = 0) then 29 else 28)
  else if month = 4 ∨ month = 6 ∨ month = 9 ∨ month = 11 then 30
  else 31

/-- The bounds `datetime` checks when it builds a value. -/
structure Valid (d : DateTime) : Prop where
  year : 1 ≤ d.year ∧ d.year ≤ 9999
  month : 1 ≤ d.month ∧ d.month ≤ 12
  day : 1 ≤ d.day ∧ d.day ≤ daysInMonth d.year d.month
  hour : d.hour < 24
  minute : d.minute < 60
  second : d.second < 60
  microsecond : d.microsecond < 1000000

instance (d : DateTime) : Decidable d.Valid :=
  decidable_of_iff ((1 ≤ d.year ∧ d.year ≤ 9999) ∧ (1 ≤ d.month ∧ d.month ≤ 12) ∧
      (1 ≤ d.day ∧ d.day ≤ daysInMonth d.year d.month) ∧ d.hour < 24 ∧ d.minute < 60 ∧
      d.second < 60 ∧ d.microsecond < 1000000)
    ⟨fun ⟨h₁, h₂, h₃, h₄, h₅, h₆, h₇⟩ => ⟨h₁, h₂, h₃, h₄, h₅, h₆, h₇⟩,
      fun ⟨h₁, h₂, h₃, h₄, h₅, h₆, h₇⟩ => ⟨h₁, h₂, h₃, h₄, h₅, h₆, h₇⟩⟩

/-! ### Reading a date -/

/-- A number of `width` digits, and what follows it. -/
def number? (width : Nat) (text : List Char) : Option (Nat × List Char) :=
  let digits := text.take width
  if digits.length = width ∧ digits.all Char.isDigit then
    some (Nat.ofDigitChars 10 digits 0, text.drop width)
  else none

/-- What follows the character `c`. -/
def skip? (c : Char) : List Char → Option (List Char)
  | d :: rest => if d = c then some rest else none
  | [] => none

/-- The microseconds, which may be absent, and what follows them. -/
def microsecond? : List Char → Option (Nat × List Char)
  | [] => some (0, [])
  | text => do number? 6 (← skip? '.' text)

/-- `datetime.fromisoformat(s)`, of the texts `isoformat` writes for naive values; `none` where it
raises `ValueError`. -/
def fromIsoformat (s : String) : Option DateTime := do
  let (year, text) ← number? 4 s.toList
  let (month, text) ← number? 2 (← skip? '-' text)
  let (day, text) ← number? 2 (← skip? '-' text)
  let (hour, text) ← number? 2 (← skip? 'T' text)
  let (minute, text) ← number? 2 (← skip? ':' text)
  let (second, text) ← number? 2 (← skip? ':' text)
  let (microsecond, text) ← microsecond? text
  let d : DateTime := ⟨year, month, day, hour, minute, second, microsecond⟩
  if text = [] ∧ d.Valid then some d else none

/-- A number of fixed width: its digits, and what they say. -/
theorem padZeros_digits {width n : Nat} (hw : 0 < width) (h : n < 10 ^ width) :
    (padZeros width (toString n)).toList.length = width ∧
      (∀ c ∈ (padZeros width (toString n)).toList, c.isDigit = true) ∧
      Nat.ofDigitChars 10 (padZeros width (toString n)).toList 0 = n := by
  have hle := (Nat.length_toDigits_le_iff (b := 10) (by decide) hw).mpr h
  have htext : (padZeros width (toString n)).toList =
      List.replicate (width - (Nat.toDigits 10 n).length) '0' ++ Nat.toDigits 10 n := by
    rw [padZeros, String.toList_append, String.toList_ofList, Nat.toString_eq_repr,
      Nat.toList_repr, ← String.length_toList, Nat.toList_repr]
  rw [htext]
  refine ⟨?_, ?_, ?_⟩
  · rw [List.length_append, List.length_replicate]
    omega
  · intro c hc
    rcases List.mem_append.mp hc with hc | hc
    · rw [List.eq_of_mem_replicate hc]
      decide
    · exact Nat.isDigit_of_mem_toDigits (by decide) (by decide) hc
  · rw [Nat.ofDigitChars_append, Nat.ofDigitChars_replicate_zero, Nat.mul_zero,
      Nat.ofDigitChars_ten_toDigits]

/-- **A number of fixed width** is read as it was written. -/
theorem number?_padZeros {width n : Nat} (hw : 0 < width) (h : n < 10 ^ width) (rest : List Char) :
    number? width ((padZeros width (toString n)).toList ++ rest) = some (n, rest) := by
  obtain ⟨hlength, hdigits, hvalue⟩ := padZeros_digits hw h
  rw [number?, List.take_left' hlength, List.drop_left' hlength,
    if_pos ⟨hlength, List.all_eq_true.mpr hdigits⟩, hvalue]

@[simp] theorem skip?_cons (c : Char) (rest : List Char) : skip? c (c :: rest) = some rest :=
  if_pos (c := c = c) rfl

theorem microsecond?_point (rest : List Char) : microsecond? ('.' :: rest) = number? 6 rest := by
  simp only [microsecond?, skip?_cons, Option.bind_eq_bind, Option.bind_some]

theorem microsecond?_isoformat {n : Nat} (h : n < 1000000) :
    microsecond? (if n = 0 then "" else "." ++ padZeros 6 (toString n)).toList = some (n, []) := by
  by_cases hn : n = 0
  · rw [if_pos hn, hn]
    rfl
  · have hread : number? 6 ((padZeros 6 (toString n)).toList ++ []) = some (n, []) :=
      number?_padZeros (by decide) (by omega) []
    have hpoint : ".".toList = ['.'] := by rfl
    rw [List.append_nil] at hread
    rw [if_neg hn, String.toList_append, hpoint, List.cons_append, List.nil_append,
      microsecond?_point, hread]

theorem toList_isoformat (d : DateTime) :
    d.isoformat.toList = (padZeros 4 (toString d.year)).toList ++
      '-' :: ((padZeros 2 (toString d.month)).toList ++
      '-' :: ((padZeros 2 (toString d.day)).toList ++
      'T' :: ((padZeros 2 (toString d.hour)).toList ++
      ':' :: ((padZeros 2 (toString d.minute)).toList ++
      ':' :: ((padZeros 2 (toString d.second)).toList ++
      (if d.microsecond = 0 then "" else "." ++ padZeros 6 (toString d.microsecond)).toList)))))
    := by
  have hdash : "-".toList = ['-'] := by rfl
  have htime : "T".toList = ['T'] := by rfl
  have hcolon : ":".toList = [':'] := by rfl
  simp only [isoformat, String.toList_append, List.append_assoc, hdash, htime, hcolon,
    List.cons_append, List.nil_append]

theorem daysInMonth_le (year month : Nat) : daysInMonth year month ≤ 31 := by
  rw [daysInMonth]
  split_ifs <;> omega

/-- **`fromisoformat` is the inverse of `isoformat`.** -/
theorem fromIsoformat_isoformat {d : DateTime} (h : d.Valid) :
    fromIsoformat d.isoformat = some d := by
  obtain ⟨hyear, hmonth, hday, hhour, hminute, hsecond, hmicro⟩ := h
  have hdays := daysInMonth_le d.year d.month
  have htwo : ∀ {n : Nat} (rest : List Char), n < 100 →
      number? 2 ((padZeros 2 (toString n)).toList ++ rest) = some (n, rest) := fun rest hn =>
    number?_padZeros (by decide) hn rest
  rw [fromIsoformat, toList_isoformat, number?_padZeros (by decide) (by omega)]
  simp only [Option.bind_eq_bind, Option.bind_some, skip?_cons,
    htwo _ (show d.month < 100 by omega), htwo _ (show d.day < 100 by omega),
    htwo _ (show d.hour < 100 by omega),
    htwo _ (show d.minute < 100 by omega), htwo _ (show d.second < 100 by omega),
    microsecond?_isoformat hmicro]
  exact if_pos ⟨trivial, hyear, hmonth, hday, hhour, hminute, hsecond, hmicro⟩

example : fromIsoformat "2026-01-31T08:05:09.000120" = some ⟨2026, 1, 31, 8, 5, 9, 120⟩ := by decide

end DateTime

end Support

import Mathlib.Data.List.Sort
import RcsMiddleware.Support.Printable
import RcsMiddleware.Support.Text

/-!
# Support — Json

The values `json.loads` returns and the text `json.dumps` writes.  A Python float is given by
the shortest decimal that reads back as it, the one `repr` prints; an object keeps its members
in insertion order, as a `dict` does.

* `Json.truthy`, `Json.pyStr`: `bool(v)` and `str(v)`.
* `Json.dumps`, `Json.dumpsSorted`: `json.dumps(v, separators=(",", ":"))`, without and with
  `sort_keys=True`.
-/

namespace Support

/-- A Python float: `± digits · 10 ^ exponent` is its shortest decimal. -/
inductive PyFloat where
  | finite (negative : Bool) (digits : Nat) (exponent : Int)
  | infinity (negative : Bool)
  | nan
  deriving DecidableEq, Repr

/-- A value `json.loads` can return. -/
inductive Json where
  | null
  | bool (b : Bool)
  | int (i : Int)
  | float (f : PyFloat)
  | str (s : String)
  | arr (items : List Json)
  | obj (fields : List (String × Json))
  deriving Repr

namespace PyFloat

/-- `bool(f)`. -/
def truthy : PyFloat → Bool
  | .finite _ digits _ => digits != 0
  | .infinity _ | .nan => true

/-- `f == n` for a natural number `n`. -/
def eqNat (n : Nat) : PyFloat → Bool
  | .finite negative digits exponent =>
      (!negative || digits == 0) &&
        (if 0 ≤ exponent then digits * Nat.pow 10 exponent.toNat == n
          else digits == n * Nat.pow 10 (-exponent).toNat)
  | .infinity _ | .nan => false

theorem eqNat_zero_of_truthy {f : PyFloat} (h : f.truthy = true) : f.eqNat 0 = false := by
  cases f with
  | finite negative digits exponent =>
      have hdigits : digits ≠ 0 := bne_iff_ne.mp h
      have hproduct : digits * 10 ^ exponent.toNat ≠ 0 :=
        Nat.mul_ne_zero hdigits (Nat.pow_pos (by decide)).ne'
      rw [eqNat]
      split
      · simp [hdigits, hproduct]
      · simp [hdigits]
  | infinity _ | nan => rfl

theorem truthy_of_eqNat_one {f : PyFloat} (h : f.eqNat 1 = true) : f.truthy = true := by
  cases f with
  | finite negative digits exponent =>
      refine bne_iff_ne.mpr fun hdigits => ?_
      have hpow : 0 < 10 ^ (-exponent).toNat := Nat.pow_pos (by decide)
      simp only [eqNat, hdigits, Nat.pow_eq, Nat.zero_mul, Nat.one_mul, Bool.and_eq_true] at h
      split at h
      · exact absurd h.2 (by decide)
      · have hzero : 0 = 10 ^ (-exponent).toNat := beq_iff_eq.mp h.2
        omega
  | infinity _ | nan => rfl

/-- `repr(f)`: fixed notation while the decimal point falls among or near the digits. -/
def repr : PyFloat → String
  | .nan => "nan"
  | .infinity negative => if negative then "-inf" else "inf"
  | .finite negative digits exponent =>
      let ds := Nat.toDigits 10 digits
      let point := (ds.length : Int) + exponent
      let body :=
        if digits = 0 then "0.0"
        else if -4 < point ∧ point ≤ 16 then
          if point ≤ 0 then "0." ++ .ofList (List.replicate (-point).toNat '0' ++ ds)
          else if (ds.length : Int) ≤ point then
            .ofList (ds ++ List.replicate exponent.toNat '0') ++ ".0"
          else .ofList (ds.take point.toNat) ++ "." ++ .ofList (ds.drop point.toNat)
        else
          let tail := if ds.length = 1 then "" else "." ++ .ofList (ds.drop 1)
          let sign := if point - 1 < 0 then "-" else "+"
          .ofList (ds.take 1) ++ tail ++ "e" ++ sign ++
            Text.padZeros 2 (toString (point - 1).natAbs)
      if negative then "-" ++ body else body

/-- How `json.dumps` writes a float. -/
def jsonText : PyFloat → String
  | .nan => "NaN"
  | .infinity negative => if negative then "-Infinity" else "Infinity"
  | f => f.repr

end PyFloat

namespace Json

/-- `bool(v)`. -/
def truthy : Json → Bool
  | .null => false
  | .bool b => b
  | .int i => i != 0
  | .float f => f.truthy
  | .str s => s != ""
  | .arr items => !items.isEmpty
  | .obj fields => !fields.isEmpty

/-- `v == n` for a natural number `n`: `True` is 1 and `False` is 0. -/
def eqNat (n : Nat) : Json → Bool
  | .bool b => b.toNat = n
  | .int i => i = n
  | .float f => f.eqNat n
  | _ => false

theorem eqNat_zero_of_truthy {v : Json} (h : v.truthy = true) : v.eqNat 0 = false := by
  cases v with
  | bool b =>
      cases h
      rfl
  | int i =>
      have hi : i ≠ 0 := bne_iff_ne.mp h
      simpa [eqNat] using hi
  | float f => exact PyFloat.eqNat_zero_of_truthy h
  | _ => rfl

/-- `d.get(key)` of a `dict`. -/
def field (fields : List (String × Json)) (key : String) : Option Json := fields.lookup key

/-- `type(v).__name__`. -/
def typeName : Json → String
  | .null => "NoneType"
  | .bool _ => "bool"
  | .int _ => "int"
  | .float _ => "float"
  | .str _ => "str"
  | .arr _ => "list"
  | .obj _ => "dict"

/-- `v or {}`, of a member that may be absent. -/
def orEmpty : Option Json → Json
  | some v => if v.truthy then v else .obj []
  | none => .obj []

/-- `v == s`, of a member that may be absent and a string. -/
def eqStr (v : Option Json) (s : String) : Bool :=
  match v with
  | some (.str t) => t = s
  | _ => false

@[simp] theorem eqStr_str (t s : String) : eqStr (some (.str t)) s = decide (t = s) := rfl

/-! ### `str` -/

/-- How `repr` writes a character that is not printable. -/
def escapeRepr (c : Char) : String :=
  if c.toNat < 0x100 then "\\x" ++ Text.hex 2 c.toNat
  else if c.toNat < 0x10000 then "\\u" ++ Text.hex 4 c.toNat
  else "\\U" ++ Text.hex 8 c.toNat

/-- `repr(s)` of a string: the quote it does not contain, and what is not printable escaped. -/
def reprStr (s : String) : String :=
  let quote := if s.toList.contains '\'' && !s.toList.contains '"' then '"' else '\''
  let esc : Char → String := fun c =>
    if c = '\\' then "\\\\"
    else if c = quote then .ofList ['\\', c]
    else if c = '\n' then "\\n"
    else if c = '\r' then "\\r"
    else if c = '\t' then "\\t"
    else if Text.isPrintable c then .ofList [c]
    else escapeRepr c
  .ofList [quote] ++ String.join (s.toList.map esc) ++ .ofList [quote]

mutual
/-- `repr(v)`. -/
def pyRepr : Json → String
  | .null => "None"
  | .bool b => if b then "True" else "False"
  | .int i => toString i
  | .float f => f.repr
  | .str s => reprStr s
  | .arr items => "[" ++ ", ".intercalate (pyReprItems items) ++ "]"
  | .obj fields => "\x7b" ++ ", ".intercalate (pyReprFields fields) ++ "\x7d"

def pyReprItems : List Json → List String
  | [] => []
  | v :: vs => pyRepr v :: pyReprItems vs

def pyReprFields : List (String × Json) → List String
  | [] => []
  | (k, v) :: rest => (reprStr k ++ ": " ++ pyRepr v) :: pyReprFields rest
end

/-- `str(v)`. -/
def pyStr : Json → String
  | .str s => s
  | v => v.pyRepr

/-! ### `json.dumps` -/

/-- One character of a JSON string, as `ensure_ascii` writes it. -/
def escapeChar (c : Char) : String :=
  if c = '"' then "\\\""
  else if c = '\\' then "\\\\"
  else if c = '\n' then "\\n"
  else if c = '\r' then "\\r"
  else if c = '\t' then "\\t"
  else if c.toNat = 0x08 then "\\b"
  else if c.toNat = 0x0c then "\\f"
  else if 0x20 ≤ c.toNat ∧ c.toNat ≤ 0x7e then .ofList [c]
  else if c.toNat < 0x10000 then "\\u" ++ Text.hex 4 c.toNat
  else
    let n := c.toNat - 0x10000
    "\\u" ++ Text.hex 4 (0xd800 + n / 0x400) ++ "\\u" ++ Text.hex 4 (0xdc00 + n % 0x400)

/-- A JSON string literal. -/
def quote (s : String) : String := "\"" ++ String.join (s.toList.map escapeChar) ++ "\""

/-- Members in the order of their keys. -/
def sortFields (fields : List (String × String)) : List (String × String) :=
  fields.insertionSort fun a b => a.1 ≤ b.1

mutual
/-- `json.dumps(v, separators=(",", ":"))`, the members of each object put in the order `arrange`
gives them. -/
def dumpsWith (arrange : List (String × String) → List (String × String)) : Json → String
  | .null => "null"
  | .bool b => if b then "true" else "false"
  | .int i => toString i
  | .float f => f.jsonText
  | .str s => quote s
  | .arr items => "[" ++ ",".intercalate (dumpsItems arrange items) ++ "]"
  | .obj fields =>
      "\x7b" ++ ",".intercalate ((arrange (dumpsFields arrange fields)).map
        fun kv => quote kv.1 ++ ":" ++ kv.2) ++ "\x7d"

def dumpsItems (arrange : List (String × String) → List (String × String)) :
    List Json → List String
  | [] => []
  | v :: vs => dumpsWith arrange v :: dumpsItems arrange vs

/-- The members with their values written. -/
def dumpsFields (arrange : List (String × String) → List (String × String)) :
    List (String × Json) → List (String × String)
  | [] => []
  | (k, v) :: rest => (k, dumpsWith arrange v) :: dumpsFields arrange rest
end

/-- `json.dumps(v, separators=(",", ":"))`. -/
def dumps (v : Json) : String := v.dumpsWith id

/-- `json.dumps(v, sort_keys=True, separators=(",", ":"))`. -/
def dumpsSorted (v : Json) : String := v.dumpsWith sortFields

example : dumpsSorted (.obj [("b", .int 2), ("a", .arr [.null, .str "\n"])]) =
    "\x7b\"a\":[null,\"\\n\"],\"b\":2\x7d" := by decide

end Json

end Support

import RcsMiddleware.Support.CanonicalJson
import RcsMiddleware.Support.JsonScan

/-!
# Support — JsonLoads

`json.loads`, and `json.dumps` with its separators.  How Python reads a decimal as a `float` is a
parameter (`read`).

* `loads?`: the value of a text; `none` where `json.loads` raises.
* `Readable`: the values that come back from their texts; `readable_of_loads`: those that have come
  from a text.
* `loads_dumpsSep`: **what `json.dumps` writes, `json.loads` reads back**.
-/

namespace Support.Json

open Support.Text

/-! ### Objects -/

section Members

variable {α : Type}

/-- `d[key] = v`. -/
def setMember (key : String) (v : α) : List (String × α) → List (String × α)
  | [] => [(key, v)]
  | (k, w) :: rest => if k = key then (key, v) :: rest else (k, w) :: setMember key v rest

/-- `dict(members)`. -/
def dictOf (members : List (String × α)) : List (String × α) :=
  members.foldl (fun d member => setMember member.1 member.2 d) []

theorem setMember_of_not_mem {key : String} {d : List (String × α)} (h : key ∉ d.map Prod.fst) (v : α) :
    setMember key v d = d ++ [(key, v)] := by
  induction d with
  | nil => rfl
  | cons member d ih =>
      rw [List.map_cons, List.mem_cons, not_or] at h
      rw [setMember, if_neg (Ne.symm h.1), ih h.2]
      rfl

theorem mem_setMember {key : String} {v : α} {d : List (String × α)} {member : String × α}
    (h : member ∈ setMember key v d) : member = (key, v) ∨ member ∈ d := by
  induction d with
  | nil => exact .inl (List.mem_singleton.mp h)
  | cons old d ih =>
      rw [setMember] at h
      split at h
      · exact (List.mem_cons.mp h).imp_right (List.mem_cons_of_mem _)
      · rcases List.mem_cons.mp h with rfl | h
        · exact .inr List.mem_cons_self
        · exact (ih h).imp_right (List.mem_cons_of_mem _)

theorem setMember_keys {key : String} {v : α} {d : List (String × α)} (h : (d.map Prod.fst).Nodup) :
    ((setMember key v d).map Prod.fst).Nodup := by
  induction d with
  | nil => exact List.nodup_singleton _
  | cons old d ih =>
      rw [List.map_cons, List.nodup_cons] at h
      rw [setMember]
      split
      · next heq => exact List.nodup_cons.mpr ⟨heq ▸ h.1, h.2⟩
      · next hne =>
        refine List.nodup_cons.mpr ⟨fun hm => ?_, ih h.2⟩
        obtain ⟨member, hmember, hkey⟩ := List.mem_map.mp hm
        rcases mem_setMember hmember with rfl | hold
        · exact hne hkey.symm
        · exact h.1 (hkey ▸ List.mem_map_of_mem hold)

theorem foldl_setMember {members d : List (String × α)}
    (h : ((d ++ members).map Prod.fst).Nodup) :
    members.foldl (fun d member => setMember member.1 member.2 d) d = d ++ members := by
  induction members generalizing d with
  | nil => exact (List.append_nil d).symm
  | cons member members ih =>
      have hsplit : d ++ member :: members = d ++ [member] ++ members := by
        rw [List.append_assoc, List.singleton_append]
      have hnew : member.1 ∉ d.map Prod.fst := fun hm => by
        rw [List.map_append, List.nodup_append] at h
        exact h.2.2 _ hm _ (List.mem_cons_self) rfl
      rw [List.foldl_cons, setMember_of_not_mem hnew, hsplit]
      exact ih (hsplit ▸ h)

/-- Members with different keys are the `dict` they make. -/
theorem dictOf_of_nodup {members : List (String × α)} (h : (members.map Prod.fst).Nodup) :
    dictOf members = members := foldl_setMember h

theorem dictOf_spec (members : List (String × α)) :
    ((dictOf members).map Prod.fst).Nodup ∧ ∀ member ∈ dictOf members, member ∈ members := by
  suffices h : ∀ d : List (String × α), (d.map Prod.fst).Nodup →
      ((members.foldl (fun d member => setMember member.1 member.2 d) d).map Prod.fst).Nodup ∧
      ∀ member ∈ members.foldl (fun d member => setMember member.1 member.2 d) d,
        member ∈ d ∨ member ∈ members from
    ⟨(h [] List.nodup_nil).1, fun member hm => ((h [] List.nodup_nil).2 member hm).resolve_left
      List.not_mem_nil⟩
  induction members with
  | nil => exact fun d hd => ⟨hd, fun _ hm => .inl hm⟩
  | cons new members ih =>
      intro d hd
      obtain ⟨hnodup, hmem⟩ := ih (setMember new.1 new.2 d) (setMember_keys hd)
      refine ⟨hnodup, fun member hm => ?_⟩
      rcases hmem member hm with hold | hm
      · rcases mem_setMember hold with rfl | hold
        · exact .inr List.mem_cons_self
        · exact .inl hold
      · exact .inr (List.mem_cons_of_mem _ hm)

end Members

/-! ### Reading -/

/-- `int` refuses a text of more digits. -/
def maxIntDigits : Nat := 4300

/-- What follows an item of a list: the end (`true`), or a comma and the next item. -/
def after? (close : Char) (cs : List Char) : Option (Bool × List Char) :=
  match skipBlank cs with
  | c :: rest =>
      if c = close then some (true, rest)
      else if c = ',' then some (false, skipBlank rest)
      else none
  | [] => none

/-- The key of a member, with its colon. -/
def key? : List Char → Option (String × List Char)
  | '"' :: cs =>
      match literal? (cs.length + 1) cs with
      | some (key, rest) =>
          match skipBlank rest with
          | ':' :: rest => some (.ofList key, skipBlank rest)
          | _ => none
      | none => none
  | _ => none

section Loads

variable (read : String → PyFloat)

/-- The value of a number. -/
def numberOf? (n : Numeral) : Option Json :=
  if n.integral then if n.int.length ≤ maxIntDigits then some (.int n.value) else none
  else some (.float (read (.ofList n.chars)))

/-- The words of JSON, and those Python adds. -/
def word? : List Char → Option (Json × List Char)
  | 'n' :: 'u' :: 'l' :: 'l' :: rest => some (.null, rest)
  | 't' :: 'r' :: 'u' :: 'e' :: rest => some (.bool true, rest)
  | 'f' :: 'a' :: 'l' :: 's' :: 'e' :: rest => some (.bool false, rest)
  | 'N' :: 'a' :: 'N' :: rest => some (.float .nan, rest)
  | 'I' :: 'n' :: 'f' :: 'i' :: 'n' :: 'i' :: 't' :: 'y' :: rest => some (.float (.infinity false), rest)
  | '-' :: 'I' :: 'n' :: 'f' :: 'i' :: 'n' :: 'i' :: 't' :: 'y' :: rest =>
      some (.float (.infinity true), rest)
  | _ => none

/-- A number or a word at the front. -/
def scalar? (cs : List Char) : Option (Json × List Char) :=
  match scanNumeral? cs with
  | some (n, rest) => (numberOf? read n).map fun v => (v, rest)
  | none => word? cs

mutual
/-- The value at the front of a text, and what follows it. -/
def value? : Nat → List Char → Option (Json × List Char)
  | 0, _ => none
  | fuel + 1, cs =>
      match cs with
      | '"' :: rest => (literal? (rest.length + 1) rest).map fun (s, rest) => (.str (.ofList s), rest)
      | '[' :: rest =>
          match skipBlank rest with
          | ']' :: rest => some (.arr [], rest)
          | rest => (items? fuel rest).map fun (items, rest) => (.arr items, rest)
      | '\x7b' :: rest =>
          match skipBlank rest with
          | '\x7d' :: rest => some (.obj [], rest)
          | rest => (members? fuel rest).map fun (members, rest) => (.obj (dictOf members), rest)
      | cs => scalar? read cs

/-- The items of a list that has some. -/
def items? : Nat → List Char → Option (List Json × List Char)
  | 0, _ => none
  | fuel + 1, cs =>
      match value? fuel cs with
      | none => none
      | some (v, rest) =>
          match after? ']' rest with
          | some (true, rest) => some ([v], rest)
          | some (false, rest) => (items? fuel rest).map fun (vs, rest) => (v :: vs, rest)
          | none => none

/-- The members of an object that has some. -/
def members? : Nat → List Char → Option (List (String × Json) × List Char)
  | 0, _ => none
  | fuel + 1, cs =>
      match key? cs with
      | none => none
      | some (key, rest) =>
          match value? fuel rest with
          | none => none
          | some (v, rest) =>
              match after? '\x7d' rest with
              | some (true, rest) => some ([(key, v)], rest)
              | some (false, rest) => (members? fuel rest).map fun (ms, rest) => ((key, v) :: ms, rest)
              | none => none
end

/-- `json.loads(text)`; `none` where it raises.  Each call consumes a character or follows one that
does. -/
def loads? (text : String) : Option Json :=
  match value? read (2 * text.toList.length + 1) (skipBlank text.toList) with
  | some (v, rest) => if skipBlank rest = [] then some v else none
  | none => none

end Loads

/-! ### Writing -/

mutual
/-- `json.dumps(v, separators=("," + sp, ":" + sp))`. -/
def dumpsSep (sp : String) : Json → String
  | .null => "null"
  | .bool b => if b then "true" else "false"
  | .int i => toString i
  | .float f => f.jsonText
  | .str s => quote s
  | .arr items => "[" ++ ("," ++ sp).intercalate (dumpsSepItems sp items) ++ "]"
  | .obj fields => "\x7b" ++ ("," ++ sp).intercalate (dumpsSepFields sp fields) ++ "\x7d"

def dumpsSepItems (sp : String) : List Json → List String
  | [] => []
  | v :: vs => dumpsSep sp v :: dumpsSepItems sp vs

def dumpsSepFields (sp : String) : List (String × Json) → List String
  | [] => []
  | (k, v) :: rest => (quote k ++ ":" ++ sp ++ dumpsSep sp v) :: dumpsSepFields sp rest
end

/-- `json.dumps(v)`. -/
def dumpsDefault (v : Json) : String := v.dumpsSep " "

/-- Items of a list after the first, and the character that closes it. -/
def trail (sp : List Char) (close : Char) : List (List Char) → List Char
  | [] => [close]
  | text :: texts => ',' :: (sp ++ (text ++ trail sp close texts))

theorem toList_intercalate_sep (sp : String) (close : Char) (text : String) (texts : List String) :
    (("," ++ sp).intercalate (text :: texts)).toList ++ [close] =
      text.toList ++ trail sp.toList close (texts.map String.toList) := by
  induction texts generalizing text with
  | nil =>
      rw [String.intercalate_singleton]
      rfl
  | cons text' texts ih =>
      rw [String.intercalate_cons_cons, String.toList_append, String.toList_append,
        String.toList_append, List.append_assoc, List.append_assoc, List.append_assoc, ih]
      rfl

section Texts

variable (sp : String)

/-- The text of a member. -/
def fieldText (kv : String × Json) : List Char :=
  (quote kv.1).toList ++ ':' :: (sp.toList ++ (kv.2.dumpsSep sp).toList)

theorem dumpsSepItems_eq (items : List Json) :
    dumpsSepItems sp items = items.map (dumpsSep sp) := by
  induction items with
  | nil => rfl
  | cons v items ih => rw [dumpsSepItems, ih, List.map_cons]

theorem dumpsSepFields_eq (fields : List (String × Json)) :
    (dumpsSepFields sp fields).map String.toList = fields.map (fieldText sp) := by
  induction fields with
  | nil => rfl
  | cons kv fields ih =>
      rw [dumpsSepFields, List.map_cons, List.map_cons, ih, fieldText]
      simp only [String.toList_append, List.append_assoc]
      rfl

theorem dumpsSep_arr_nil : (dumpsSep sp (.arr [])).toList = ['[', ']'] := by
  simp only [dumpsSep, dumpsSepItems, String.intercalate_nil, String.toList_append]
  rfl

theorem dumpsSep_arr_cons (v : Json) (items : List Json) :
    (dumpsSep sp (.arr (v :: items))).toList = '[' :: ((v.dumpsSep sp).toList ++
      trail sp.toList ']' (items.map fun v => (v.dumpsSep sp).toList)) := by
  have hjoin := toList_intercalate_sep sp ']' (v.dumpsSep sp) (items.map (dumpsSep sp))
  rw [List.map_map] at hjoin
  simp only [dumpsSep, dumpsSepItems, dumpsSepItems_eq, String.toList_append, List.append_assoc]
  exact congrArg ('[' :: ·) hjoin

theorem dumpsSep_obj_nil : (dumpsSep sp (.obj [])).toList = ['\x7b', '\x7d'] := by
  simp only [dumpsSep, dumpsSepFields, String.intercalate_nil, String.toList_append]
  rfl

theorem dumpsSep_obj_cons (kv : String × Json) (fields : List (String × Json)) :
    (dumpsSep sp (.obj (kv :: fields))).toList = '\x7b' :: (fieldText sp kv ++
      trail sp.toList '\x7d' (fields.map (fieldText sp))) := by
  have hfields := dumpsSepFields_eq sp (kv :: fields)
  generalize htexts : dumpsSepFields sp (kv :: fields) = texts at hfields
  cases texts with
  | nil => cases hfields
  | cons text texts =>
      obtain ⟨hhead, htail⟩ := List.cons.inj hfields
      have hjoin := toList_intercalate_sep sp '\x7d' text texts
      rw [hhead, htail] at hjoin
      simp only [dumpsSep, htexts, String.toList_append, List.append_assoc]
      exact congrArg ('\x7b' :: ·) hjoin

end Texts

/-- Without blanks, the compact text. -/
theorem dumpsSep_empty (v : Json) : v.dumpsSep "" = v.dumps := by
  have hcomma : "," ++ "" = "," := String.append_empty
  induction v using Json.induct with
  | null | bool _ | int _ | float _ | str _ => rfl
  | arr items ih =>
      have hitems : items.map (dumpsSep "") = items.map (dumpsWith id) := List.map_congr_left ih
      rw [dumps, dumpsSep, dumpsWith, dumpsSepItems_eq, dumpsItems_eq, hitems, hcomma]
  | obj fields ih =>
      have hfields : dumpsSepFields "" fields =
          (dumpsFields id fields).map fun kv => quote kv.1 ++ ":" ++ kv.2 := by
        induction fields with
        | nil => rfl
        | cons kv fields ihf =>
            obtain ⟨key, v⟩ := kv
            rw [dumpsSepFields, dumpsFields, List.map_cons, String.append_empty,
              ih (key, v) List.mem_cons_self, ihf fun kv hkv => ih kv (List.mem_cons_of_mem _ hkv)]
            rfl
      rw [dumps, dumpsSep, dumpsWith, hfields, hcomma]
      rfl

/-! ### Texts in ASCII -/

/-- Every character is ASCII. -/
def Ascii (cs : List Char) : Prop := ∀ c ∈ cs, c.toNat < 128

instance (cs : List Char) : Decidable (Ascii cs) := List.decidableBAll _ cs

theorem ascii_append {cs cs' : List Char} : Ascii (cs ++ cs') ↔ Ascii cs ∧ Ascii cs' :=
  List.forall_mem_append

theorem ascii_cons {c : Char} {cs : List Char} : Ascii (c :: cs) ↔ c.toNat < 128 ∧ Ascii cs :=
  List.forall_mem_cons

theorem ascii_of_numeric {c : Char} (h : c.isDigit = true ∨ c ∈ ['.', '-', '+', 'e']) :
    c.toNat < 128 := by
  rcases h with h | h
  · simp only [Char.isDigit, Bool.and_eq_true, decide_eq_true_eq] at h
    have hle : c.toNat ≤ '9'.toNat := h.2
    exact Nat.lt_of_le_of_lt hle (by decide)
  · simp only [List.mem_cons, List.not_mem_nil, or_false] at h
    rcases h with rfl | rfl | rfl | rfl <;> decide

theorem ascii_of_blank {c : Char} (h : isBlank c = true) : c.toNat < 128 := by
  simp only [isBlank, Bool.or_eq_true, beq_iff_eq] at h
  rcases h with ((rfl | rfl) | rfl) | rfl <;> decide

theorem ascii_hex (width n : Nat) : Ascii (hex width n).toList := by
  intro c hc
  have hdigit := hexDigit?_hex width n c hc
  by_contra hlarge
  have hnone : hexDigit? c = none := by
    unfold hexDigit?
    dsimp only
    rw [if_neg (by omega), if_neg (by omega), if_neg (by omega)]
  rw [hnone] at hdigit
  cases hdigit

theorem ascii_escapeChar (c : Char) : Ascii (escapeChar c).toList := by
  have hu : Ascii "\\u".toList := by decide
  unfold escapeChar
  split_ifs
  iterate 7 decide
  · rw [String.toList_ofList]
    exact List.forall_mem_singleton.mpr (by omega)
  · rw [String.toList_append, ascii_append]
    exact ⟨hu, ascii_hex 4 _⟩
  · simp only [String.toList_append, ascii_append]
    exact ⟨⟨⟨hu, ascii_hex 4 _⟩, hu⟩, ascii_hex 4 _⟩

theorem ascii_quote (s : String) : Ascii (quote s).toList := by
  rw [toList_quote, ascii_cons, ascii_append]
  refine ⟨by decide, fun c hc => ?_, by decide⟩
  obtain ⟨d, -, hd⟩ := List.mem_flatMap.mp hc
  exact ascii_escapeChar d c hd

theorem ascii_jsonText (f : PyFloat) : Ascii f.jsonText.toList := by
  cases f with
  | nan => exact (by decide : Ascii "NaN".toList)
  | infinity negative =>
      cases negative with
      | true => exact (by decide : Ascii "-Infinity".toList)
      | false => exact (by decide : Ascii "Infinity".toList)
  | finite negative digits exponent =>
      exact fun c hc => ascii_of_numeric (numeric_finite negative digits exponent c hc)

theorem ascii_trail {sp : List Char} {close : Char} (hsp : Ascii sp) (hclose : close.toNat < 128)
    {texts : List (List Char)} (h : ∀ text ∈ texts, Ascii text) : Ascii (trail sp close texts) := by
  induction texts with
  | nil => exact List.forall_mem_singleton.mpr hclose
  | cons text texts ih =>
      rw [trail, ascii_cons, ascii_append, ascii_append]
      exact ⟨by decide, hsp, h text List.mem_cons_self,
        ih fun text' hm => h text' (List.mem_cons_of_mem _ hm)⟩

/-- **The text of a value is ASCII**, as the blanks between its parts are. -/
theorem ascii_dumpsSep {sp : String} (hsp : Ascii sp.toList) (v : Json) :
    Ascii (v.dumpsSep sp).toList := by
  induction v using Json.induct with
  | null => exact (by decide : Ascii "null".toList)
  | bool b =>
      cases b with
      | true => exact (by decide : Ascii "true".toList)
      | false => exact (by decide : Ascii "false".toList)
  | int i =>
      intro c hc
      refine ascii_of_numeric ((int_chars i c hc).imp_right ?_)
      rintro rfl
      exact List.mem_cons_of_mem _ List.mem_cons_self
  | float f => exact ascii_jsonText f
  | str s => exact ascii_quote s
  | arr items ih =>
      cases items with
      | nil =>
          rw [dumpsSep_arr_nil]
          decide
      | cons v items =>
          rw [dumpsSep_arr_cons, ascii_cons, ascii_append]
          refine ⟨by decide, ih v List.mem_cons_self, ascii_trail hsp (by decide) fun text hm => ?_⟩
          obtain ⟨w, hw, rfl⟩ := List.mem_map.mp hm
          exact ih w (List.mem_cons_of_mem _ hw)
  | obj fields ih =>
      have hfield : ∀ kv ∈ fields, Ascii (fieldText sp kv) := fun kv hkv => by
        rw [fieldText, ascii_append, ascii_cons, ascii_append]
        exact ⟨ascii_quote kv.1, by decide, hsp, ih kv hkv⟩
      cases fields with
      | nil =>
          rw [dumpsSep_obj_nil]
          decide
      | cons kv fields =>
          rw [dumpsSep_obj_cons, ascii_cons, ascii_append]
          refine ⟨by decide, hfield kv List.mem_cons_self, ascii_trail hsp (by decide) fun text hm => ?_⟩
          obtain ⟨kv', hkv, rfl⟩ := List.mem_map.mp hm
          exact hfield kv' (List.mem_cons_of_mem _ hkv)

/-! ### Values that come back -/

section RoundTrip

variable (read : String → PyFloat)

/-- The float reads back from what `repr` prints. -/
def ReadsBack (f : PyFloat) : Prop :=
  ∀ negative digits exponent, f = .finite negative digits exponent → read f.repr = f

/-- A value whose text `json.loads` can read back: no object has a key twice, no `int` has too many
digits, and each `float` reads back. -/
inductive Readable : Json → Prop where
  | null : Readable .null
  | bool (b : Bool) : Readable (.bool b)
  | int {i : Int} (h : (Nat.toDigits 10 i.natAbs).length ≤ maxIntDigits) : Readable (.int i)
  | float {f : PyFloat} (h : ReadsBack read f) : Readable (.float f)
  | str (s : String) : Readable (.str s)
  | arr {items : List Json} (h : ∀ v ∈ items, Readable v) : Readable (.arr items)
  | obj {fields : List (String × Json)} (hkeys : (fields.map Prod.fst).Nodup)
      (h : ∀ kv ∈ fields, Readable kv.2) : Readable (.obj fields)

variable {read} {sp : String} {fuel : Nat} {rest : List Char}

theorem scalar?_of_word {cs : List Char} {x : Json × List Char} (hscan : scanNumeral? cs = none)
    (h : word? cs = some x) : scalar? read cs = some x := by
  rw [scalar?, hscan]
  exact h

theorem scalar?_numeral {n : Numeral} (hn : n.WellFormed) {v : Json} (hv : numberOf? read n = some v)
    (hrest : Ended rest) : scalar? read (n.chars ++ rest) = some (v, rest) := by
  rw [scalar?, scan_numeral hn hrest]
  dsimp only
  rw [hv]
  rfl

theorem numberOf?_int {i : Int} (h : (Nat.toDigits 10 i.natAbs).length ≤ maxIntDigits) :
    numberOf? read (intNumeral i) = some (.int i) := by
  have hint : (intNumeral i).integral = true := rfl
  have hlength : (intNumeral i).int.length ≤ maxIntDigits := h
  rw [numberOf?, if_pos hint, if_pos hlength, intNumeral_value]

theorem numberOf?_float {n : Numeral} (hn : n.integral = false) {f : PyFloat}
    (h : read (.ofList n.chars) = f) : numberOf? read n = some (.float f) := by
  rw [numberOf?, if_neg (by simp [hn]), h]

theorem scalar?_null (rest : List Char) : scalar? read ("null".toList ++ rest) = some (.null, rest) :=
  scalar?_of_word rfl rfl

theorem scalar?_bool (b : Bool) (rest : List Char) :
    scalar? read ((if b then "true" else "false").toList ++ rest) = some (.bool b, rest) := by
  cases b <;> exact scalar?_of_word rfl rfl

/-- A float at the front of a text is read back. -/
theorem scalar?_float {f : PyFloat} (hf : ReadsBack read f) (hrest : Ended rest) :
    scalar? read (f.jsonText.toList ++ rest) = some (.float f, rest) := by
  cases f with
  | nan => exact scalar?_of_word rfl rfl
  | infinity negative => cases negative <;> exact scalar?_of_word rfl rfl
  | finite negative digits exponent =>
      obtain ⟨n, hn, hfrac, hchars⟩ := float_numeral negative digits exponent
      have hback := hf _ _ _ rfl
      rw [← String.ofList_toList (s := (PyFloat.finite negative digits exponent).repr), ← hchars] at hback
      have h := scalar?_numeral hn (numberOf?_float hfrac hback) hrest
      rw [hchars] at h
      exact h

theorem scalar?_int {i : Int} (h : (Nat.toDigits 10 i.natAbs).length ≤ maxIntDigits)
    (hrest : Ended rest) : scalar? read ((toString i).toList ++ rest) = some (.int i, rest) := by
  have hscan := scalar?_numeral (intNumeral_wellFormed i) (numberOf?_int h : numberOf? read _ = _) hrest
  rwa [intNumeral_chars] at hscan

/-! ### How texts begin -/

theorem scalar_text (sp : String) {v : Json} (h : scalar v = true) : (v.dumpsSep sp).toList = sortedText v := by
  cases v <;> first | rfl | cases h

theorem not_blank_of_numeric {c : Char} (h : c.isDigit = true ∨ c ∈ ['.', '-', '+', 'e']) :
    isBlank c = false := by
  by_contra hc
  have hcases := Bool.eq_true_of_not_eq_false hc
  simp only [isBlank, Bool.or_eq_true, beq_iff_eq] at hcases
  rcases hcases with ((rfl | rfl) | rfl) | rfl <;> simp at h

theorem not_blank_of_word (s : String) (h : (s.toList.any isBlank) = false) :
    ∀ c ∈ s.toList, isBlank c = false := by
  simpa using h

theorem scalar_not_blank (sp : String) {v : Json} (h : scalar v = true) :
    ∀ c ∈ (v.dumpsSep sp).toList, isBlank c = false := by
  cases v with
  | null => exact not_blank_of_word "null" (by decide)
  | bool b =>
      cases b with
      | true => exact not_blank_of_word "true" (by decide)
      | false => exact not_blank_of_word "false" (by decide)
  | int i =>
      intro c hc
      refine not_blank_of_numeric ((int_chars i c hc).imp_right ?_)
      rintro rfl
      exact List.mem_cons_of_mem _ List.mem_cons_self
  | float f =>
      cases f with
      | nan => exact not_blank_of_word "NaN" (by decide)
      | infinity negative =>
          cases negative with
          | true => exact not_blank_of_word "-Infinity" (by decide)
          | false => exact not_blank_of_word "Infinity" (by decide)
      | finite negative digits exponent =>
          exact fun c hc => not_blank_of_numeric (numeric_finite negative digits exponent c hc)
  | str _ | arr _ | obj _ => cases h

/-- The text begins with something, which is no white space. -/
def Solid (text : List Char) : Prop := ∃ c cs, text = c :: cs ∧ isBlank c = false

theorem Solid.skip {text : List Char} (h : Solid text) (rest : List Char) :
    skipBlank (text ++ rest) = text ++ rest := by
  obtain ⟨c, cs, rfl, hc⟩ := h
  exact skipBlank_cons hc _

theorem solid_quote (s : String) : Solid (quote s).toList :=
  ⟨_, _, toList_quote s, rfl⟩

/-- How the text of a value begins. -/
theorem text_head (sp : String) (v : Json) :
    ∃ c cs, (v.dumpsSep sp).toList = c :: cs ∧ isBlank c = false ∧ c ≠ ']' := by
  have hscalar : scalar v = true →
      ∃ c cs, (v.dumpsSep sp).toList = c :: cs ∧ isBlank c = false ∧ c ≠ ']' := by
    intro h
    have hword := word_sortedText h
    have hblank := scalar_not_blank sp h
    rw [← scalar_text sp h] at hword
    obtain ⟨c, cs, htext⟩ := List.exists_cons_of_ne_nil hword.1
    rw [htext] at hword hblank
    refine ⟨c, cs, htext, hblank c List.mem_cons_self, ?_⟩
    rintro rfl
    exact absurd (hword.2 ']' List.mem_cons_self) (by decide)
  cases v with
  | null | bool _ | int _ | float _ => exact hscalar rfl
  | str s => exact ⟨_, _, toList_quote s, rfl, by decide⟩
  | arr items =>
      cases items with
      | nil => exact ⟨_, _, dumpsSep_arr_nil sp, rfl, by decide⟩
      | cons v items => exact ⟨_, _, dumpsSep_arr_cons sp v items, rfl, by decide⟩
  | obj fields =>
      cases fields with
      | nil => exact ⟨_, _, dumpsSep_obj_nil sp, rfl, by decide⟩
      | cons kv fields => exact ⟨_, _, dumpsSep_obj_cons sp kv fields, rfl, by decide⟩

theorem solid_text (sp : String) (v : Json) : Solid (v.dumpsSep sp).toList := by
  obtain ⟨c, cs, htext, hc, -⟩ := text_head sp v
  exact ⟨c, cs, htext, hc⟩

/-! ### Reading a list -/

theorem after?_nil {close : Char} (hclose : isBlank close = false) (sp rest : List Char) :
    after? close (trail sp close [] ++ rest) = some (true, rest) := by
  show (match skipBlank (close :: rest) with
    | c :: rest => if c = close then some (true, rest)
        else if c = ',' then some (false, skipBlank rest) else none
    | [] => none) = _
  rw [skipBlank_cons hclose]
  exact if_pos rfl

theorem after?_cons {close : Char} (hclose : ',' ≠ close) {sp text : List Char}
    (hsp : ∀ c ∈ sp, isBlank c = true) (htext : Solid text) (texts : List (List Char))
    (rest : List Char) : after? close (trail sp close (text :: texts) ++ rest) =
      some (false, text ++ (trail sp close texts ++ rest)) := by
  have hskip : skipBlank (sp ++ (text ++ trail sp close texts) ++ rest) =
      text ++ (trail sp close texts ++ rest) := by
    rw [List.append_assoc, List.append_assoc, skipBlank_append hsp, htext.skip]
  show (if ',' = close then _ else if ',' = ',' then some (false, skipBlank _) else none) = _
  rw [if_neg hclose, if_pos rfl]
  exact congrArg (fun cs => some (false, cs)) hskip

theorem ended_trail {close : Char} (hclose : continues close = false) (sp : List Char)
    (texts : List (List Char)) (rest : List Char) : Ended (trail sp close texts ++ rest) := by
  cases texts with
  | nil => exact ended_cons hclose rest
  | cons text texts => exact ended_cons rfl _

theorem length_trail_pos (sp : List Char) (close : Char) (texts : List (List Char)) :
    0 < (trail sp close texts).length := by
  cases texts <;> exact Nat.succ_pos _

/-- The value is read back, whatever follows it. -/
def ComesBack (read : String → PyFloat) (sp : String) (v : Json) : Prop :=
  ∀ fuel rest, 2 * (v.dumpsSep sp).toList.length ≤ fuel → Ended rest →
    value? read fuel ((v.dumpsSep sp).toList ++ rest) = some (v, rest)

/-- A text has a first character, for which there is fuel. -/
theorem comesBack_of_succ {v : Json} (h : ∀ fuel rest,
    2 * (v.dumpsSep sp).toList.length ≤ fuel + 1 → Ended rest →
      value? read (fuel + 1) ((v.dumpsSep sp).toList ++ rest) = some (v, rest)) :
    ComesBack read sp v := by
  intro fuel rest hfuel hrest
  cases fuel with
  | zero =>
      obtain ⟨c, cs, htext, -⟩ := solid_text sp v
      rw [htext] at hfuel
      exact absurd hfuel (Nat.not_succ_le_zero _)
  | succ fuel => exact h fuel rest hfuel hrest

theorem items?_text (hsp : ∀ c ∈ sp.toList, isBlank c = true) (items : List Json) :
    ∀ v fuel rest, (∀ w ∈ v :: items, ComesBack read sp w) →
      2 * ((v.dumpsSep sp).toList.length + (trail sp.toList ']'
        (items.map fun v => (v.dumpsSep sp).toList)).length) ≤ fuel →
      items? read fuel ((v.dumpsSep sp).toList ++ (trail sp.toList ']'
        (items.map fun v => (v.dumpsSep sp).toList) ++ rest)) = some (v :: items, rest) := by
  induction items with
  | nil =>
      intro v fuel rest hback hfuel
      rw [List.map_nil] at hfuel ⊢
      have hpos := length_trail_pos sp.toList ']' []
      obtain ⟨fuel, rfl⟩ := Nat.exists_eq_succ_of_ne_zero (show fuel ≠ 0 by omega)
      rw [items?, hback v List.mem_cons_self fuel _ (by omega) (ended_trail rfl _ _ _)]
      dsimp only
      rw [after?_nil rfl]
  | cons w items ih =>
      intro v fuel rest hback hfuel
      have hpos := length_trail_pos sp.toList ']' ((w :: items).map fun v => (v.dumpsSep sp).toList)
      obtain ⟨fuel, rfl⟩ := Nat.exists_eq_succ_of_ne_zero (show fuel ≠ 0 by omega)
      rw [items?, hback v List.mem_cons_self fuel _ (by omega) (ended_trail rfl _ _ _)]
      dsimp only
      rw [List.map_cons, after?_cons (by decide) hsp (solid_text sp w)]
      dsimp only
      rw [ih w fuel rest (fun u hu => hback u (List.mem_cons_of_mem _ hu))]
      · rfl
      · simp only [List.map_cons, trail, List.length_cons, List.length_append] at hfuel
        omega

theorem literal?_quote (key : String) (rest : List Char) :
    literal? ((escaped key.toList ++ '"' :: rest).length + 1) (escaped key.toList ++ '"' :: rest) =
      some (key.toList, rest) := by
  refine literal?_escaped key.toList ?_ rest
  have hlength : ∀ cs : List Char, cs.length ≤ (escaped cs).length := by
    intro cs
    induction cs with
    | nil => exact Nat.le_refl _
    | cons c cs ih =>
        have hc : 0 < (escapeChar c).toList.length := by
          refine List.length_pos_of_ne_nil fun hnil => ?_
          have hread := character?_escapeChar c []
          rw [hnil] at hread
          cases hread
        rw [escaped, List.flatMap_cons, List.length_append, List.length_cons]
        have hrest : cs.length ≤ (cs.flatMap fun c => (escapeChar c).toList).length := ih
        omega
  have hkey := hlength key.toList
  rw [List.length_append]
  omega

theorem key?_quote (hsp : ∀ c ∈ sp.toList, isBlank c = true) (kv : String × Json) (rest : List Char) :
    key? (fieldText sp kv ++ rest) = some (kv.1, (kv.2.dumpsSep sp).toList ++ rest) := by
  have htext : fieldText sp kv ++ rest = '"' :: (escaped kv.1.toList ++
      '"' :: ':' :: (sp.toList ++ ((kv.2.dumpsSep sp).toList ++ rest))) := by
    rw [fieldText, toList_quote]
    simp only [List.cons_append, List.append_assoc, List.nil_append]
  rw [htext, key?, literal?_quote]
  dsimp only
  rw [skipBlank_cons rfl]
  show some (String.ofList kv.1.toList, skipBlank _) = _
  rw [skipBlank_append hsp, (solid_text sp kv.2).skip, String.ofList_toList]

theorem solid_field (sp : String) (kv : String × Json) : Solid (fieldText sp kv) := by
  obtain ⟨c, cs, htext, hc⟩ := solid_quote kv.1
  exact ⟨c, _, by rw [fieldText, htext, List.cons_append], hc⟩

theorem length_text_lt_field (sp : String) (kv : String × Json) :
    (kv.2.dumpsSep sp).toList.length < (fieldText sp kv).length := by
  rw [fieldText, List.length_append, List.length_cons, List.length_append]
  omega

theorem members?_text (hsp : ∀ c ∈ sp.toList, isBlank c = true) (fields : List (String × Json)) :
    ∀ kv fuel rest, (∀ member ∈ kv :: fields, ComesBack read sp member.2) →
      2 * ((fieldText sp kv).length + (trail sp.toList '\x7d' (fields.map (fieldText sp))).length) ≤
        fuel →
      members? read fuel (fieldText sp kv ++ (trail sp.toList '\x7d' (fields.map (fieldText sp)) ++
        rest)) = some (kv :: fields, rest) := by
  induction fields with
  | nil =>
      intro kv fuel rest hback hfuel
      rw [List.map_nil] at hfuel ⊢
      have hpos := length_trail_pos sp.toList '\x7d' []
      have hlt := length_text_lt_field sp kv
      obtain ⟨fuel, rfl⟩ := Nat.exists_eq_succ_of_ne_zero (show fuel ≠ 0 by omega)
      rw [members?, key?_quote hsp]
      dsimp only
      rw [hback kv List.mem_cons_self fuel _ (by omega) (ended_trail rfl _ _ _)]
      dsimp only
      rw [after?_nil rfl]
  | cons member fields ih =>
      intro kv fuel rest hback hfuel
      have hlt := length_text_lt_field sp kv
      obtain ⟨fuel, rfl⟩ := Nat.exists_eq_succ_of_ne_zero (show fuel ≠ 0 by omega)
      rw [members?, key?_quote hsp]
      dsimp only
      rw [hback kv List.mem_cons_self fuel _ (by omega) (ended_trail rfl _ _ _)]
      dsimp only
      rw [List.map_cons, after?_cons (by decide) hsp (solid_field sp member)]
      dsimp only
      rw [ih member fuel rest (fun m hm => hback m (List.mem_cons_of_mem _ hm))]
      · rfl
      · simp only [List.map_cons, trail, List.length_cons, List.length_append] at hfuel
        omega

/-! ### Reading a value -/

theorem value?_scalar {c : Char} (hc : isWordChar c = true) (cs : List Char) (fuel : Nat) :
    value? read (fuel + 1) (c :: cs) = scalar? read (c :: cs) := by
  have hne : c ≠ '"' ∧ c ≠ '[' ∧ c ≠ '\x7b' := by
    refine ⟨?_, ?_, ?_⟩ <;>
      rintro rfl <;> exact absurd hc (by decide)
  rw [value?]
  · exact fun _ h => hne.1 (List.cons.inj h).1
  · exact fun _ h => hne.2.1 (List.cons.inj h).1
  · exact fun _ h => hne.2.2 (List.cons.inj h).1

theorem comesBack_of_scalar {v : Json} (hv : scalar v = true)
    (h : ∀ rest, Ended rest → scalar? read ((v.dumpsSep sp).toList ++ rest) = some (v, rest)) :
    ComesBack read sp v := by
  refine comesBack_of_succ fun fuel rest _ hrest => ?_
  have hword := word_sortedText hv
  rw [← scalar_text sp hv] at hword
  have hread := h rest hrest
  obtain ⟨c, cs, htext⟩ := List.exists_cons_of_ne_nil hword.1
  rw [htext] at hword hread ⊢
  exact (value?_scalar (hword.2 c List.mem_cons_self) _ fuel).trans hread

theorem value?_quote (s : String) (fuel : Nat) (rest : List Char) :
    value? read (fuel + 1) ((quote s).toList ++ rest) = some (.str s, rest) := by
  have htext : (quote s).toList ++ rest = '"' :: (escaped s.toList ++ '"' :: rest) := by
    rw [toList_quote, List.cons_append, List.append_assoc]
    rfl
  rw [htext, value?, literal?_quote]
  show some (Json.str (.ofList s.toList), rest) = _
  rw [String.ofList_toList]

theorem value?_items (hsp : ∀ c ∈ sp.toList, isBlank c = true) {v : Json} {items : List Json}
    (hback : ∀ w ∈ v :: items, ComesBack read sp w) : ComesBack read sp (.arr (v :: items)) := by
  refine comesBack_of_succ fun fuel rest hfuel _ => ?_
  obtain ⟨c, cs, htext, hc, hclose⟩ := text_head sp v
  have hskip := (solid_text sp v).skip
    (trail sp.toList ']' (items.map fun v => (v.dumpsSep sp).toList) ++ rest)
  rw [dumpsSep_arr_cons, List.length_cons, List.length_append] at hfuel
  rw [dumpsSep_arr_cons, List.cons_append, List.append_assoc]
  have hitems := items?_text hsp items v fuel rest hback (by omega)
  rw [value?, hskip]
  split
  -- An item does not begin as an empty list ends.
  · next heq =>
    rw [htext] at heq
    exact absurd (List.cons.inj heq).1 hclose
  · rw [hitems]
    rfl

theorem value?_members (hsp : ∀ c ∈ sp.toList, isBlank c = true) {kv : String × Json}
    {fields : List (String × Json)} (hkeys : ((kv :: fields).map Prod.fst).Nodup)
    (hback : ∀ member ∈ kv :: fields, ComesBack read sp member.2) :
    ComesBack read sp (.obj (kv :: fields)) := by
  refine comesBack_of_succ fun fuel rest hfuel _ => ?_
  have hskip := (solid_field sp kv).skip
    (trail sp.toList '\x7d' (fields.map (fieldText sp)) ++ rest)
  rw [dumpsSep_obj_cons, List.length_cons, List.length_append] at hfuel
  rw [dumpsSep_obj_cons, List.cons_append, List.append_assoc]
  have hmembers := members?_text hsp fields kv fuel rest hback (by omega)
  rw [value?, hskip]
  split
  -- A member begins with the quote of its key.
  · next heq =>
    rw [fieldText, toList_quote] at heq
    exact absurd (List.cons.inj heq).1 (by decide)
  · rw [hmembers]
    -- `json.loads` keeps the last member of a key; here there is one of each.
    show some (Json.obj (dictOf (kv :: fields)), rest) = _
    rw [dictOf_of_nodup hkeys]

/-- **What `json.dumps` writes, `json.loads` reads back**, whatever follows it. -/
theorem comesBack (hsp : ∀ c ∈ sp.toList, isBlank c = true) (v : Json) :
    Readable read v → ComesBack read sp v := by
  induction v using Json.induct with
  | null => exact fun _ => comesBack_of_scalar rfl fun rest _ => scalar?_null rest
  | bool b => exact fun _ => comesBack_of_scalar rfl fun rest _ => scalar?_bool b rest
  | int i =>
      intro hv
      cases hv with
      | int h => exact comesBack_of_scalar rfl fun _ hrest => scalar?_int h hrest
  | float f =>
      intro hv
      cases hv with
      | float h => exact comesBack_of_scalar rfl fun _ hrest => scalar?_float h hrest
  | str s => exact fun _ => comesBack_of_succ fun fuel rest _ _ => value?_quote s fuel rest
  | arr items ih =>
      intro hv
      cases hv with
      | arr h =>
        cases items with
        | nil =>
            refine comesBack_of_succ fun fuel rest _ _ => ?_
            rw [dumpsSep_arr_nil]
            rfl
        | cons v items => exact value?_items hsp fun w hw => ih w hw (h w hw)
  | obj fields ih =>
      intro hv
      cases hv with
      | obj hkeys h =>
        cases fields with
        | nil =>
            refine comesBack_of_succ fun fuel rest _ _ => ?_
            rw [dumpsSep_obj_nil]
            rfl
        | cons kv fields =>
            exact value?_members hsp hkeys fun member hm => ih member hm (h member hm)

/-- **What `json.dumps` writes, `json.loads` reads back.** -/
theorem loads_dumpsSep (hsp : ∀ c ∈ sp.toList, isBlank c = true) {v : Json} (hv : Readable read v) :
    loads? read (v.dumpsSep sp) = some v := by
  have hread := comesBack hsp v hv (2 * (v.dumpsSep sp).toList.length + 1) [] (by omega) ended_nil
  have hskip := (solid_text sp v).skip []
  rw [List.append_nil] at hread hskip
  rw [loads?, hskip, hread]
  exact if_pos rfl

theorem loads_dumps {v : Json} (hv : Readable read v) : loads? read v.dumps = some v := by
  rw [← dumpsSep_empty]
  exact loads_dumpsSep (fun _ hc => absurd hc List.not_mem_nil) hv

theorem loads_dumpsDefault {v : Json} (hv : Readable read v) : loads? read v.dumpsDefault = some v := by
  refine loads_dumpsSep (fun c hc => ?_) hv
  rw [List.mem_singleton.mp hc]
  rfl

/-! ### What has come from a text comes back -/

theorem ofDigitChars_lt {ds : List Char} (hds : ∀ c ∈ ds, c.isDigit = true) :
    Nat.ofDigitChars 10 ds 0 < 10 ^ ds.length := by
  induction ds with
  | nil => decide
  | cons c ds ih =>
      have hc : c.toNat - '0'.toNat ≤ 9 := by
        have hdigit := hds c List.mem_cons_self
        simp only [Char.isDigit, Bool.and_eq_true, decide_eq_true_eq] at hdigit
        have hle : c.toNat ≤ '9'.toNat := hdigit.2
        exact Nat.sub_le_sub_right hle _
      have hrest := ih fun d hd => hds d (List.mem_cons_of_mem _ hd)
      rw [Nat.ofDigitChars_cons, Nat.ofDigitChars_eq_ofDigitChars_zero, List.length_cons, pow_succ]
      have hmul := Nat.mul_le_mul_left (10 ^ ds.length) hc
      rw [Nat.mul_zero, Nat.zero_add]
      omega

theorem scanInt?_digits {cs ds rest : List Char} (h : scanInt? cs = some (ds, rest)) :
    ∀ c ∈ ds, c.isDigit = true := by
  unfold scanInt? at h
  split at h
  · cases h
    intro c hc
    rw [List.mem_singleton.mp hc]
    rfl
  · split at h
    · rw [List.span_eq_takeWhile_dropWhile] at h
      cases h
      exact fun c hc => List.mem_takeWhile_imp hc
    · cases h
  · cases h

theorem scanNumeral?_digits {cs rest : List Char} {n : Numeral} (h : scanNumeral? cs = some (n, rest)) :
    ∀ c ∈ n.int, c.isDigit = true := by
  rw [scanNumeral?] at h
  split at h
  · cases h
  · next hint =>
    cases h
    exact scanInt?_digits hint

variable (hread : ∀ text, ReadsBack read (read text))

include hread

theorem readable_of_number {n : Numeral} (hn : ∀ c ∈ n.int, c.isDigit = true) {v : Json}
    (h : numberOf? read n = some v) : Readable read v := by
  rw [numberOf?] at h
  split at h
  · split at h
    · next hlength =>
      cases h
      refine .int ((Nat.length_toDigits_le_iff (by decide) (by decide)).mpr ?_)
      have habs : n.value.natAbs = Nat.ofDigitChars 10 n.int 0 := by
        rw [Numeral.value]
        split
        · exact Int.natAbs_natCast _
        · rw [Int.natAbs_neg, Int.natAbs_natCast]
      rw [habs]
      exact lt_of_lt_of_le (ofDigitChars_lt hn) (Nat.pow_le_pow_right (by decide) hlength)
    · cases h
  · cases h
    exact .float (hread _)

theorem readable_of_scalar {cs rest : List Char} {v : Json} (h : scalar? read cs = some (v, rest)) :
    Readable read v := by
  rw [scalar?] at h
  split at h
  · next n rest' hscan =>
    obtain ⟨v', hv, heq⟩ := Option.map_eq_some_iff.mp h
    cases heq
    exact readable_of_number hread (scanNumeral?_digits hscan) hv
  · rw [word?.eq_def] at h
    split at h <;> cases h
    · exact .null
    · exact .bool true
    · exact .bool false
    · exact .float fun _ _ _ h => (by cases h)
    · exact .float fun _ _ _ h => (by cases h)
    · exact .float fun _ _ _ h => (by cases h)

/-- What is read with some fuel is readable: a value, items, members. -/
theorem readable_of_value (fuel : Nat) :
    (∀ cs v rest, value? read fuel cs = some (v, rest) → Readable read v) ∧
    (∀ cs vs rest, items? read fuel cs = some (vs, rest) → ∀ v ∈ vs, Readable read v) ∧
    ∀ cs ms rest, members? read fuel cs = some (ms, rest) → ∀ kv ∈ ms, Readable read kv.2 := by
  induction fuel with
  | zero =>
      refine ⟨fun _ _ _ h => ?_, fun _ _ _ h => ?_, fun _ _ _ h => ?_⟩
      · rw [value?] at h
        cases h
      · rw [items?] at h
        cases h
      · rw [members?] at h
        cases h
  | succ fuel ih =>
      obtain ⟨hvalue, hitems, hmembers⟩ := ih
      refine ⟨fun cs v rest h => ?_, fun cs vs rest h => ?_, fun cs ms rest h => ?_⟩
      · unfold value? at h
        split at h
        · obtain ⟨x, -, hx⟩ := Option.map_eq_some_iff.mp h
          cases hx
          exact .str _
        · split at h
          · cases h
            exact .arr fun _ hv => absurd hv List.not_mem_nil
          · obtain ⟨⟨items, rest'⟩, hread', heq⟩ := Option.map_eq_some_iff.mp h
            cases heq
            exact .arr (hitems _ _ _ hread')
        · split at h
          · cases h
            exact .obj List.nodup_nil fun _ hv => absurd hv List.not_mem_nil
          · obtain ⟨⟨ms, rest'⟩, hread', heq⟩ := Option.map_eq_some_iff.mp h
            cases heq
            -- The `dict` has each key once, and no member that was not read.
            obtain ⟨hkeys, hmem⟩ := dictOf_spec ms
            exact .obj hkeys fun kv hkv => hmembers _ _ _ hread' kv (hmem kv hkv)
        · exact readable_of_scalar hread h
      · unfold items? at h
        split at h
        · cases h
        · next v rest' hv =>
          split at h
          · cases h
            exact List.forall_mem_singleton.mpr (hvalue _ _ _ hv)
          · obtain ⟨⟨items, rest''⟩, hread', heq⟩ := Option.map_eq_some_iff.mp h
            cases heq
            exact List.forall_mem_cons.mpr ⟨hvalue _ _ _ hv, hitems _ _ _ hread'⟩
          · cases h
      · unfold members? at h
        split at h
        · cases h
        · split at h
          · cases h
          · next v rest' hv =>
            split at h
            · cases h
              exact List.forall_mem_singleton.mpr (hvalue _ _ _ hv)
            · obtain ⟨⟨ms', rest''⟩, hread', heq⟩ := Option.map_eq_some_iff.mp h
              cases heq
              exact List.forall_mem_cons.mpr ⟨hvalue _ _ _ hv, hmembers _ _ _ hread'⟩
            · cases h

/-- **What `json.loads` returns** comes back from the text `json.dumps` writes of it. -/
theorem readable_of_loads {text : String} {v : Json} (h : loads? read text = some v) :
    Readable read v := by
  rw [loads?] at h
  split at h
  · next hv =>
    split at h
    · cases h
      exact (readable_of_value hread _).1 _ _ _ hv
    · cases h
  · cases h

end RoundTrip

end Support.Json

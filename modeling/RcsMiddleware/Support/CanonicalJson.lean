import RcsMiddleware.Support.JsonText
import RcsMiddleware.Support.Members

/-!
# Support — CanonicalJson

The text `json.dumps` writes with `sort_keys=True`, as a canonical form.  Two values have one text
exactly when they differ at most in the order of the members of their objects, at any depth.

* `Json.induct`: induction over a value, with a hypothesis for each item and member.
* `Json.Same`: values that differ at most in the order of members.
* `dumpsSorted_append_inj`: a text at the front determines the value, and what follows it.
* `dumpsSorted_eq_iff`: **the texts are equal iff the values are the same**, where no object has a
  key twice.
-/

namespace Support

namespace Json

/-- Induction over a value, with a hypothesis for each item and each member. -/
theorem induct {P : Json → Prop} (null : P .null) (bool : ∀ b, P (.bool b)) (int : ∀ i, P (.int i))
    (float : ∀ f, P (.float f)) (str : ∀ s, P (.str s))
    (arr : ∀ items, (∀ v ∈ items, P v) → P (.arr items))
    (obj : ∀ fields, (∀ kv ∈ fields, P kv.2) → P (.obj fields)) (v : Json) : P v := by
  refine @Json.rec P (fun items => ∀ v ∈ items, P v) (fun fields => ∀ kv ∈ fields, P kv.2)
    (fun kv => P kv.2)
    null bool int float str arr obj ?_ ?_ ?_ ?_ ?_ v
  · exact fun _ h => absurd h List.not_mem_nil
  · exact fun v items hv hitems => List.forall_mem_cons.mpr ⟨hv, hitems⟩
  · exact fun _ h => absurd h List.not_mem_nil
  · exact fun kv fields hkv hfields => List.forall_mem_cons.mpr ⟨hkv, hfields⟩
  · exact fun _ _ h => h

/-! ### Values that differ in the order of members -/

/-- Two values that differ at most in the order of the members of their objects, which are compared
by what `d.get` finds in them.  A float reads back from its text, so floats are compared by it. -/
inductive Same : Json → Json → Prop where
  | null : Same .null .null
  | bool (b : Bool) : Same (.bool b) (.bool b)
  | int (i : Int) : Same (.int i) (.int i)
  | float {f g : PyFloat} (h : f.jsonText = g.jsonText) : Same (.float f) (.float g)
  | str (s : String) : Same (.str s) (.str s)
  | arr {items items' : List Json} (h : List.Forall₂ Same items items') :
      Same (.arr items) (.arr items')
  | obj {fields fields' : List (String × Json)}
      (h : ∀ key, Option.Rel Same (field fields key) (field fields' key)) :
      Same (.obj fields) (.obj fields')

@[simp] theorem same_str_iff {s t : String} : Same (.str s) (.str t) ↔ s = t := by
  constructor
  · intro h
    cases h
    rfl
  · rintro rfl
    exact .str s

@[simp] theorem same_bool_iff {b c : Bool} : Same (.bool b) (.bool c) ↔ b = c := by
  constructor
  · intro h
    cases h
    rfl
  · rintro rfl
    exact .bool b

/-- No object of the value has a key twice, as in every `dict`. -/
inductive DistinctKeys : Json → Prop where
  | null : DistinctKeys .null
  | bool (b : Bool) : DistinctKeys (.bool b)
  | int (i : Int) : DistinctKeys (.int i)
  | float (f : PyFloat) : DistinctKeys (.float f)
  | str (s : String) : DistinctKeys (.str s)
  | arr {items : List Json} (h : ∀ v ∈ items, DistinctKeys v) : DistinctKeys (.arr items)
  | obj {fields : List (String × Json)} (hkeys : (fields.map Prod.fst).Nodup)
      (h : ∀ kv ∈ fields, DistinctKeys kv.2) : DistinctKeys (.obj fields)

variable {α : Type}

/-! ### Texts in a list -/

/-- What follows an item of a list: the other items, each after a comma, and the character that
closes the list. -/
def following (close : Char) : List (List Char) → List Char
  | [] => [close]
  | text :: texts => ',' :: (text ++ following close texts)

/-- The items of a list, and the character that closes it. -/
def enclosed (close : Char) : List (List Char) → List Char
  | [] => [close]
  | text :: texts => text ++ following close texts

theorem toList_intercalate_comma (close : Char) (texts : List String) :
    (",".intercalate texts).toList ++ [close] = enclosed close (texts.map String.toList) := by
  cases texts with
  | nil => rfl
  | cons text texts =>
      rw [List.map_cons, enclosed]
      induction texts generalizing text with
      | nil => rw [String.intercalate_singleton]; rfl
      | cons text' texts ih =>
          rw [String.intercalate_cons_cons, String.toList_append, String.toList_append,
            List.append_assoc, List.append_assoc, ih]
          rfl

/-- The characters that end a value. -/
def isEnd (c : Char) : Bool := c == ',' || c == ']' || c == '\x7d'

/-- The text that follows a value: nothing, or a character that ends it. -/
def Delimited (rest : List Char) : Prop := ∀ c ∈ rest.head?, isEnd c = true

theorem delimited_nil : Delimited [] := fun _ h => by cases h

theorem delimited_following {close : Char} (hclose : close = ']' ∨ close = '\x7d')
    (texts : List (List Char)) (rest : List Char) : Delimited (following close texts ++ rest) := by
  intro c hc
  cases texts with
  | nil =>
      cases hc
      rcases hclose with rfl | rfl <;> rfl
  | cons text texts =>
      cases hc
      rfl

section Front

variable {close : Char} (hclose : close = ']' ∨ close = '\x7d') {text : α → List Char}
  {R : α → α → Prop} {as : List α}
  (hread : ∀ a ∈ as, ∀ b rest rest', Delimited rest → Delimited rest' →
    text a ++ rest = text b ++ rest' → R a b ∧ rest = rest')
include hclose hread

/-- Items whose texts can be read one by one. -/
theorem following_append_inj {bs : List α} {rest rest' : List Char}
    (h : following close (as.map text) ++ rest = following close (bs.map text) ++ rest') :
    List.Forall₂ R as bs ∧ rest = rest' := by
  have hcomma : close ≠ ',' := by
    rcases hclose with rfl | rfl <;> decide
  induction as generalizing bs with
  | nil =>
      cases bs with
      | nil => exact ⟨.nil, (List.cons.inj h).2⟩
      | cons b bs => exact absurd (List.cons.inj h).1 hcomma
  | cons a as ih =>
      cases bs with
      | nil => exact absurd (List.cons.inj h).1.symm hcomma
      | cons b bs =>
          rw [List.map_cons, List.map_cons, following, following, List.cons_append,
            List.cons_append, List.append_assoc, List.append_assoc] at h
          obtain ⟨hab, htail⟩ := hread a List.mem_cons_self b _ _ (delimited_following hclose _ _)
            (delimited_following hclose _ _) (List.cons.inj h).2
          obtain ⟨habs, hrest⟩ := ih (fun a ha => hread a (List.mem_cons_of_mem _ ha)) htail
          exact ⟨.cons hab habs, hrest⟩

/-- The items of a list whose texts do not begin with the character that closes it. -/
theorem enclosed_append_inj (hstart : ∀ a cs cs', text a ++ cs ≠ close :: cs') {bs : List α}
    {rest rest' : List Char}
    (h : enclosed close (as.map text) ++ rest = enclosed close (bs.map text) ++ rest') :
    List.Forall₂ R as bs ∧ rest = rest' := by
  cases as with
  | nil =>
      cases bs with
      | nil => exact ⟨.nil, (List.cons.inj h).2⟩
      | cons b bs =>
          rw [List.map_cons, enclosed, List.append_assoc] at h
          exact absurd h.symm (hstart b _ _)
  | cons a as =>
      cases bs with
      | nil =>
          rw [List.map_cons, enclosed, List.append_assoc] at h
          exact absurd h (hstart a _ _)
      | cons b bs =>
          rw [List.map_cons, List.map_cons, enclosed, enclosed, List.append_assoc,
            List.append_assoc] at h
          obtain ⟨hab, htail⟩ := hread a List.mem_cons_self b _ _ (delimited_following hclose _ _)
            (delimited_following hclose _ _) h
          obtain ⟨habs, hrest⟩ := following_append_inj hclose
            (fun a ha => hread a (List.mem_cons_of_mem _ ha)) htail
          exact ⟨.cons hab habs, hrest⟩

end Front

/-! ### Texts of numbers and words -/

/-- The character ends no value, and begins no string, list or object. -/
def isWordChar (c : Char) : Bool := !isEnd c && c != '"' && c != '[' && c != '\x7b'

theorem isEnd_of_isWordChar {c : Char} (h : isWordChar c = true) : isEnd c = false := by
  simp only [isWordChar, Bool.and_eq_true, Bool.not_eq_true'] at h
  exact h.1.1.1

theorem isWordChar_of_numeric {c : Char} (h : c.isDigit = true ∨ c ∈ ['.', '-', '+', 'e']) :
    isWordChar c = true := by
  by_contra hc
  have hcases : ((c = ',' ∨ c = ']' ∨ c = '\x7d') ∨ c = '"') ∨ c = '[' ∨ c = '\x7b' := by
    simp only [isWordChar, isEnd, Bool.and_eq_true, Bool.not_eq_true', Bool.or_eq_false_iff,
      bne_iff_ne, beq_eq_false_iff_ne] at hc
    tauto
  rcases hcases with ((rfl | rfl | rfl) | rfl) | rfl | rfl <;> simp at h

/-- The text is not empty, and all its characters are those of words. -/
def Word (text : List Char) : Prop := text ≠ [] ∧ ∀ c ∈ text, isWordChar c = true

/-- A word at the front of a text, before its end. -/
theorem word_append_inj {as bs rest rest' : List Char} (has : Word as) (hbs : Word bs)
    (hrest : Delimited rest) (hrest' : Delimited rest') (h : as ++ rest = bs ++ rest') :
    as = bs ∧ rest = rest' := by
  have htake : ∀ {cs rest : List Char}, Word cs → Delimited rest →
      (cs ++ rest).takeWhile (fun c => !isEnd c) = cs := by
    intro cs rest hcs hr
    have hword : ∀ c ∈ cs, (!isEnd c) = true := by
      intro c hc
      rw [isEnd_of_isWordChar (hcs.2 c hc)]
      rfl
    rw [List.takeWhile_append_of_pos hword]
    cases rest with
    | nil => rw [List.takeWhile_nil, List.append_nil]
    | cons c rest =>
        have hend : isEnd c = true := hr c rfl
        rw [List.takeWhile_cons_of_neg (by simp [hend]), List.append_nil]
  have heq := congrArg (List.takeWhile fun c => !isEnd c) h
  rw [htake has hrest, htake hbs hrest'] at heq
  subst heq
  exact ⟨rfl, List.append_cancel_left h⟩

/-- The values whose texts are words. -/
def scalar : Json → Bool
  | .null | .bool _ | .int _ | .float _ => true
  | .str _ | .arr _ | .obj _ => false

/-- The kind of a word: a literal, an integer or a float. -/
def wordKind (text : List Char) : Nat :=
  if 'l' ∈ text ∨ 'u' ∈ text then 0
  else if text.all fun c => c.isDigit || c == '-' then 1
  else 2

theorem int_chars (i : Int) : ∀ c ∈ (toString i).toList, c.isDigit = true ∨ c = '-' := by
  intro c hc
  cases i with
  | ofNat n => exact .inl (isDigit_of_mem_nat n c hc)
  | negSucc n =>
      have hsplit : (toString (Int.negSucc n)).toList = '-' :: (toString (n + 1)).toList := by
        show ("-" ++ toString (n + 1)).toList = _
        rw [String.toList_append]
        rfl
      rw [hsplit] at hc
      rcases List.mem_cons.mp hc with rfl | hc
      · exact .inr rfl
      · exact .inl (isDigit_of_mem_nat _ c hc)

theorem toString_int_injective {i j : Int} (h : (toString i).toList = (toString j).toList) :
    i = j := by
  have hnat : ∀ {m n : Nat}, (toString m).toList = (toString n).toList → m = n := by
    intro m n hmn
    rw [Nat.toString_eq_repr, Nat.toString_eq_repr, Nat.toList_repr, Nat.toList_repr] at hmn
    rw [← Nat.ofDigitChars_ten_toDigits (n := m), hmn, Nat.ofDigitChars_ten_toDigits]
  have hneg : ∀ n, (toString (Int.negSucc n)).toList = '-' :: (toString (n + 1)).toList := by
    intro n
    show ("-" ++ toString (n + 1)).toList = _
    rw [String.toList_append]
    rfl
  have hsign : ∀ m n : Nat, (toString m).toList ≠ '-' :: (toString n).toList := by
    intro m n hmn
    have hdigit := isDigit_of_mem_nat m '-' (hmn ▸ List.mem_cons_self)
    cases hdigit
  cases i with
  | ofNat m =>
      cases j with
      | ofNat n => exact congrArg Int.ofNat (hnat h)
      | negSucc n => exact absurd (h.trans (hneg n)) (hsign m _)
  | negSucc m =>
      cases j with
      | ofNat n => exact absurd (h.symm.trans (hneg m)) (hsign n _)
      | negSucc n =>
          rw [hneg, hneg] at h
          have hmn : m + 1 = n + 1 := hnat (List.cons.inj h).2
          rw [Nat.add_right_cancel hmn]

/-- A finite float is written with a point or an exponent. -/
theorem point_or_exponent_mem (negative : Bool) (digits : Nat) (exponent : Int) :
    '.' ∈ (PyFloat.finite negative digits exponent).repr.toList ∨
      'e' ∈ (PyFloat.finite negative digits exponent).repr.toList := by
  have hpoint : '.' ∈ ".".toList := by decide
  have hzero : '.' ∈ ".0".toList := by decide
  have hlead : '.' ∈ "0.".toList := by decide
  have hexponent : 'e' ∈ "e".toList := by decide
  unfold PyFloat.repr
  dsimp only
  split_ifs
  all_goals
    first
    | exact .inl (by decide)
    | simp only [String.toList_append, List.mem_append, hpoint, hzero, hlead, hexponent, true_or,
        or_true]

theorem wordKind_int (i : Int) : wordKind (toString i).toList = 1 := by
  have hchars := int_chars i
  have hl : 'l' ∉ (toString i).toList := by
    intro h
    simpa using hchars _ h
  have hu : 'u' ∉ (toString i).toList := by
    intro h
    simpa using hchars _ h
  have hall : ((toString i).toList.all fun c => c.isDigit || c == '-') = true := by
    simpa [List.all_eq_true] using hchars
  simp only [wordKind, hl, hu, hall, or_self, if_false, if_true]

theorem wordKind_float (f : PyFloat) : wordKind f.jsonText.toList = 2 := by
  cases f with
  | nan => rfl
  | infinity negative => cases negative <;> rfl
  | finite negative digits exponent =>
      have hchars := numeric_finite negative digits exponent
      have hl : 'l' ∉ (PyFloat.finite negative digits exponent).repr.toList := by
        intro h
        simpa using hchars _ h
      have hu : 'u' ∉ (PyFloat.finite negative digits exponent).repr.toList := by
        intro h
        simpa using hchars _ h
      have hall : ¬ ((PyFloat.finite negative digits exponent).repr.toList.all
          fun c => c.isDigit || c == '-') = true := by
        rw [List.all_eq_true]
        intro h
        rcases point_or_exponent_mem negative digits exponent with hc | hc
        · simpa using h _ hc
        · simpa using h _ hc
      show wordKind (PyFloat.finite negative digits exponent).repr.toList = 2
      simp only [wordKind, hl, hu, hall, or_self, if_false]
      rfl

/-! ### The sorted text -/

theorem dumpsItems_eq (arrange : List (String × String) → List (String × String))
    (items : List Json) : dumpsItems arrange items = items.map (dumpsWith arrange) := by
  induction items with
  | nil => rfl
  | cons v items ih => rw [dumpsItems, ih, List.map_cons]

theorem dumpsFields_eq (arrange : List (String × String) → List (String × String))
    (fields : List (String × Json)) :
    dumpsFields arrange fields = fields.map fun kv => (kv.1, kv.2.dumpsWith arrange) := by
  induction fields with
  | nil => rfl
  | cons kv fields ih =>
      obtain ⟨key, v⟩ := kv
      rw [dumpsFields, ih, List.map_cons]

/-- A value, as it is written with sorted keys. -/
def sortedText (v : Json) : List Char := v.dumpsSorted.toList

/-- A member, as it is written with sorted keys. -/
def memberText (kv : String × Json) : List Char :=
  (quote kv.1).toList ++ ':' :: sortedText kv.2

theorem sortedText_arr (items : List Json) :
    sortedText (.arr items) = '[' :: enclosed ']' (items.map sortedText) := by
  have hmap : items.map sortedText = (items.map dumpsSorted).map String.toList := by
    rw [List.map_map]
    rfl
  rw [hmap, ← toList_intercalate_comma, sortedText, dumpsSorted, dumpsWith, dumpsItems_eq]
  simp only [String.toList_append]
  rfl

theorem sortedText_obj (fields : List (String × Json)) :
    sortedText (.obj fields) = '\x7b' :: enclosed '\x7d' ((sortByKey fields).map memberText) := by
  have hsort : sortFields (fields.map fun kv => (kv.1, kv.2.dumpsWith sortFields)) =
      (sortByKey fields).map fun kv => (kv.1, kv.2.dumpsWith sortFields) :=
    (map_sortByKey (dumpsWith sortFields) fields).symm
  have hmap : (sortByKey fields).map memberText =
      ((sortByKey fields).map fun kv => quote kv.1 ++ ":" ++ kv.2.dumpsSorted).map
        String.toList := by
    rw [List.map_map]
    refine List.map_congr_left fun kv _ => ?_
    simp only [memberText, sortedText, Function.comp_apply, String.toList_append,
      List.append_assoc]
    rfl
  rw [hmap, ← toList_intercalate_comma, sortedText, dumpsSorted, dumpsWith, dumpsFields_eq, hsort,
    List.map_map]
  simp only [String.toList_append]
  rfl

theorem word_sortedText {v : Json} (h : scalar v = true) : Word (sortedText v) := by
  have hliteral : ∀ {s : String}, s ≠ "" → (s.toList.all isWordChar) = true → Word s.toList := by
    intro s hs hall
    exact ⟨fun h => hs (String.toList_injective h), List.all_eq_true.mp hall⟩
  cases v with
  | null => exact hliteral (s := "null") (by simp) rfl
  | bool b =>
      cases b with
      | true => exact hliteral (s := "true") (by simp) rfl
      | false => exact hliteral (s := "false") (by simp) rfl
  | int i =>
      refine ⟨?_, fun c hc => isWordChar_of_numeric ?_⟩
      · cases i with
        | ofNat n =>
            show (toString n).toList ≠ []
            rw [Nat.toString_eq_repr, Nat.toList_repr]
            exact Nat.toDigits_ne_nil
        | negSucc n =>
            show ("-" ++ toString (n + 1)).toList ≠ []
            simp
      · rcases int_chars i c hc with h | rfl
        · exact .inl h
        · exact .inr (by simp)
  | float f =>
      have hne : f.jsonText.toList ≠ [] := by
        intro h
        have hkind := wordKind_float f
        rw [h] at hkind
        cases hkind
      cases f with
      | nan => exact hliteral (s := "NaN") (by simp) rfl
      | infinity negative =>
          cases negative with
          | true => exact hliteral (s := "-Infinity") (by simp) rfl
          | false => exact hliteral (s := "Infinity") (by simp) rfl
      | finite negative digits exponent =>
          exact ⟨hne, fun c hc => isWordChar_of_numeric (numeric_finite _ _ _ c hc)⟩
  | str _ | arr _ | obj _ => cases h

/-- The kind of the word a value is written as. -/
def scalarKind : Json → Nat
  | .int _ => 1
  | .float _ => 2
  | _ => 0

theorem wordKind_sortedText {v : Json} (h : scalar v = true) :
    wordKind (sortedText v) = scalarKind v := by
  cases v with
  | null => rfl
  | bool b => cases b <;> rfl
  | int i => exact wordKind_int i
  | float f => exact wordKind_float f
  | str _ | arr _ | obj _ => cases h

/-- Words that are equal are written for the same value. -/
theorem same_of_words {v w : Json} (hv : scalar v = true) (hw : scalar w = true)
    (h : sortedText v = sortedText w) : Same v w := by
  have hkind : scalarKind v = scalarKind w := by
    rw [← wordKind_sortedText hv, ← wordKind_sortedText hw, h]
  cases v with
  | null =>
      cases w with
      | null => exact .null
      | bool b => cases b <;> exact absurd h (by decide)
      | int _ | float _ => cases hkind
      | str _ | arr _ | obj _ => cases hw
  | bool b =>
      cases w with
      | null => cases b <;> exact absurd h (by decide)
      | bool b' =>
          cases b <;> cases b'
          · exact .bool _
          · exact absurd h (by decide)
          · exact absurd h (by decide)
          · exact .bool _
      | int _ | float _ => cases hkind
      | str _ | arr _ | obj _ => cases hw
  | int i =>
      cases w with
      | int j =>
          obtain rfl := toString_int_injective h
          exact .int i
      | null | bool _ | float _ => cases hkind
      | str _ | arr _ | obj _ => cases hw
  | float f =>
      cases w with
      | float g => exact .float (String.toList_injective h)
      | null | bool _ | int _ => cases hkind
      | str _ | arr _ | obj _ => cases hw
  | str _ | arr _ | obj _ => cases hv

/-! ### Reading a text -/

/-- The character a text begins with tells a word from a string, a list and an object. -/
def opener (c : Char) : Option Char := if isWordChar c then none else some c

/-- What the text of a value begins with. -/
def openerOf : Json → Option Char
  | .str _ => some '"'
  | .arr _ => some '['
  | .obj _ => some '\x7b'
  | _ => none

theorem head_sortedText (v : Json) :
    ∃ c cs, sortedText v = c :: cs ∧ opener c = openerOf v ∧ isEnd c = false := by
  have hword : ∀ {v}, scalar v = true → openerOf v = none →
      ∃ c cs, sortedText v = c :: cs ∧ opener c = openerOf v ∧ isEnd c = false := by
    intro v hv hopener
    obtain ⟨hne, hchars⟩ := word_sortedText hv
    obtain ⟨c, cs, hcs⟩ := List.exists_cons_of_ne_nil hne
    have hc : isWordChar c = true := hchars c (hcs ▸ List.mem_cons_self)
    exact ⟨c, cs, hcs, by rw [hopener, opener, if_pos hc], isEnd_of_isWordChar hc⟩
  cases v with
  | null | bool _ | int _ | float _ => exact hword rfl rfl
  | str s => exact ⟨'"', _, toList_quote s, rfl, rfl⟩
  | arr items => exact ⟨'[', _, sortedText_arr items, rfl, rfl⟩
  | obj fields => exact ⟨'\x7b', _, sortedText_obj fields, rfl, rfl⟩

theorem openerOf_eq {v w : Json} {rest rest' : List Char}
    (h : sortedText v ++ rest = sortedText w ++ rest') : openerOf v = openerOf w := by
  obtain ⟨c, cs, hv, hcv, -⟩ := head_sortedText v
  obtain ⟨d, ds, hw, hdw, -⟩ := head_sortedText w
  rw [hv, hw] at h
  rw [← hcv, ← hdw, (List.cons.inj h).1]

/-- No value begins with the end of a list. -/
theorem sortedText_append_ne (v : Json) (cs cs' : List Char) : sortedText v ++ cs ≠ ']' :: cs' := by
  obtain ⟨c, ds, hv, -, hc⟩ := head_sortedText v
  rw [hv]
  intro h
  rw [(List.cons.inj h).1] at hc
  cases hc

/-- No member begins with the end of an object. -/
theorem memberText_append_ne (kv : String × Json) (cs cs' : List Char) :
    memberText kv ++ cs ≠ '\x7d' :: cs' := by
  rw [memberText, toList_quote]
  intro h
  exact absurd (List.cons.inj h).1 (by simp)

/-- **A value at the front of a text** is determined, up to the order of members, and so is what
follows it. -/
theorem dumpsSorted_append_inj (v : Json) : ∀ w rest rest', Delimited rest → Delimited rest' →
    sortedText v ++ rest = sortedText w ++ rest' → Same v w ∧ rest = rest' := by
  have hword : ∀ {v}, scalar v = true → openerOf v = none → ∀ w rest rest', Delimited rest →
      Delimited rest' → sortedText v ++ rest = sortedText w ++ rest' → Same v w ∧ rest = rest' := by
    intro v hv hopener w rest rest' hrest hrest' h
    have hw := (openerOf_eq h).symm.trans hopener
    have hscalar : scalar w = true := by
      cases w with
      | null | bool _ | int _ | float _ => rfl
      | str _ | arr _ | obj _ => cases hw
    obtain ⟨heq, htail⟩ := word_append_inj (word_sortedText hv) (word_sortedText hscalar) hrest
      hrest' h
    exact ⟨same_of_words hv hscalar heq, htail⟩
  induction v using induct with
  | null | bool _ | int _ | float _ => exact hword rfl rfl
  | str s =>
      intro w rest rest' _ _ h
      have hw := openerOf_eq h
      cases w with
      | str t =>
          obtain ⟨rfl, htail⟩ := quote_append_inj h
          exact ⟨.str s, htail⟩
      | null | bool _ | int _ | float _ | arr _ | obj _ => cases hw
  | arr items ih =>
      intro w rest rest' _ _ h
      have hw := openerOf_eq h
      cases w with
      | arr items' =>
          rw [sortedText_arr, sortedText_arr] at h
          obtain ⟨hitems, htail⟩ := enclosed_append_inj (.inl rfl) ih sortedText_append_ne
            (List.cons.inj h).2
          exact ⟨.arr hitems, htail⟩
      | null | bool _ | int _ | float _ | str _ | obj _ => cases hw
  | obj fields ih =>
      intro w rest rest' _ _ h
      have hw := openerOf_eq h
      cases w with
      | obj fields' =>
          rw [sortedText_obj, sortedText_obj] at h
          -- A member is read as its key, a colon and its value.
          have hread : ∀ kv ∈ sortByKey fields, ∀ kv' rest rest', Delimited rest →
              Delimited rest' → memberText kv ++ rest = memberText kv' ++ rest' →
              (kv.1 = kv'.1 ∧ Same kv.2 kv'.2) ∧ rest = rest' := by
            intro kv hkv kv' rest rest' hrest hrest' hmember
            rw [memberText, memberText, List.append_assoc, List.append_assoc] at hmember
            obtain ⟨hkey, hvalue⟩ := quote_append_inj hmember
            obtain ⟨hsame, htail⟩ := ih kv ((perm_sortByKey fields).mem_iff.mp hkv) kv'.2 rest rest'
              hrest hrest' (List.cons.inj hvalue).2
            exact ⟨⟨hkey, hsame⟩, htail⟩
          obtain ⟨hfields, htail⟩ := enclosed_append_inj (.inr rfl) hread memberText_append_ne
            (List.cons.inj h).2
          refine ⟨.obj fun key => ?_, htail⟩
          have hlookup := lookup_forall₂ hfields key
          rwa [lookup_sortByKey, lookup_sortByKey] at hlookup
      | null | bool _ | int _ | float _ | str _ | arr _ => cases hw

/-- Texts that are equal are written for values that are the same. -/
theorem same_of_dumpsSorted {v w : Json} (h : v.dumpsSorted = w.dumpsSorted) : Same v w := by
  refine (dumpsSorted_append_inj v w [] [] delimited_nil delimited_nil ?_).1
  rw [sortedText, sortedText, h]

/-- Values that are the same, and whose objects have no key twice, are written alike. -/
theorem dumpsSorted_eq_of_same (v : Json) : ∀ w, Same v w → DistinctKeys v → DistinctKeys w →
    v.dumpsSorted = w.dumpsSorted := by
  induction v using induct with
  | null | bool _ | int _ | str _ =>
      intro w hsame _ _
      cases hsame
      rfl
  | float f =>
      intro w hsame _ _
      cases hsame with
      | float h => exact h
  | arr items ih =>
      intro w hsame hv hw
      cases hsame with
      | @arr _ items' h =>
          cases hv with
          | arr hv =>
          cases hw with
          | arr hw =>
          have htexts : items.map (dumpsWith sortFields) = items'.map (dumpsWith sortFields) := by
            induction h with
            | nil => rfl
            | cons hab _ ihlist =>
                rw [List.map_cons, List.map_cons]
                congr 1
                · exact ih _ List.mem_cons_self _ hab (hv _ List.mem_cons_self)
                    (hw _ List.mem_cons_self)
                · exact ihlist (fun a ha => ih a (List.mem_cons_of_mem _ ha))
                    (fun a ha => hv a (List.mem_cons_of_mem _ ha))
                    (fun a ha => hw a (List.mem_cons_of_mem _ ha))
          rw [dumpsSorted, dumpsSorted, dumpsWith, dumpsWith, dumpsItems_eq, dumpsItems_eq, htexts]
  | obj fields ih =>
      intro w hsame hv hw
      cases hsame with
      | @obj _ fields' h =>
          cases hv with
          | obj hkeys hv =>
          cases hw with
          | obj hkeys' hw =>
          have hnames : ∀ l : List (String × Json),
              (l.map fun kv => (kv.1, kv.2.dumpsWith sortFields)).map Prod.fst =
                l.map Prod.fst := by
            intro l
            rw [List.map_map]
            rfl
          -- Lookups find the same texts.
          have htexts : sortByKey (fields.map fun kv => (kv.1, kv.2.dumpsWith sortFields)) =
              sortByKey (fields'.map fun kv => (kv.1, kv.2.dumpsWith sortFields)) := by
            refine sortByKey_eq_of_lookup (by rwa [hnames]) (by rwa [hnames]) fun key => ?_
            rw [lookup_map (dumpsWith sortFields), lookup_map (dumpsWith sortFields)]
            refine map_eq_of_rel (h key) fun v hl v' hl' hsame => ?_
            exact ih _ (mem_of_lookup hl) _ hsame (hv _ (mem_of_lookup hl))
              (hw _ (mem_of_lookup hl'))
          rw [dumpsSorted, dumpsSorted, dumpsWith, dumpsWith, dumpsFields_eq, dumpsFields_eq]
          exact congrArg (fun members => "\x7b" ++ ",".intercalate (members.map fun kv =>
            quote kv.1 ++ ":" ++ kv.2) ++ "\x7d") htexts

/-- **The sorted texts of two values** are equal exactly when the values differ at most in the order
of members, where no object has a key twice. -/
theorem dumpsSorted_eq_iff {v w : Json} (hv : DistinctKeys v) (hw : DistinctKeys w) :
    v.dumpsSorted = w.dumpsSorted ↔ Same v w :=
  ⟨same_of_dumpsSorted, fun h => dumpsSorted_eq_of_same v w h hv hw⟩

end Json

end Support

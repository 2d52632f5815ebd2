import RcsMiddleware.Support.CanonicalJson

/-!
# Support — Secrets

JSON values that differ only in what stands under sensitive keys, and where such a value begins in
the text of the whole.  Which keys are sensitive is a parameter.

* `plainText`: `json.dumps(v, ensure_ascii=False)`, character by character.
* `Alike`: values that differ only under sensitive keys, at any depth.
* `textBeforeSecret?`: the text before the first value under a sensitive key.
* `eq_of_alike`, `plainText_of_alike`: without a sensitive key nothing can differ; with one, the
  text before its value is that of every value alike.
* `exists_fill`: any value can stand under the first sensitive key.
-/

namespace Support.Json

/-! ### The text -/

/-- One character of a string literal; `ensure_ascii=False` leaves those beyond ASCII. -/
def escapePlain (c : Char) : List Char :=
  if 0x7f ≤ c.toNat then [c] else (escapeChar c).toList

def quotePlain (s : String) : List Char := '"' :: (s.toList.flatMap escapePlain ++ ['"'])

/-- A key of an object, and what stands between it and its value. -/
def keyText (key : String) : List Char := quotePlain key ++ [':', ' ']

/-- What stands between two items. -/
def separator : List Char := [',', ' ']

mutual
/-- `json.dumps(v, ensure_ascii=False)`. -/
def plainText : Json → List Char
  | .null => "null".toList
  | .bool b => (if b then "true" else "false").toList
  | .int i => (toString i).toList
  | .float f => f.jsonText.toList
  | .str s => quotePlain s
  | .arr items => '[' :: (separator.intercalate (plainItems items) ++ [']'])
  | .obj fields => '\x7b' :: (separator.intercalate (plainFields fields) ++ ['\x7d'])

def plainItems : List Json → List (List Char)
  | [] => []
  | v :: vs => plainText v :: plainItems vs

def plainFields : List (String × Json) → List (List Char)
  | [] => []
  | (k, v) :: rest => (keyText k ++ plainText v) :: plainFields rest
end

example : String.ofList (plainText (.obj [("a", .arr [.null, .str "é\n"]), ("b", .int 2)])) =
    "\x7b\"a\": [null, \"é\\n\"], \"b\": 2\x7d" := by decide

variable {sensitive : String → Bool}

/-! ### Values that differ under sensitive keys -/

section
variable (sensitive)

mutual
/-- Two values that differ only in what stands under sensitive keys. -/
inductive Alike : Json → Json → Prop where
  | null : Alike .null .null
  | bool (b : Bool) : Alike (.bool b) (.bool b)
  | int (i : Int) : Alike (.int i) (.int i)
  | float (f : PyFloat) : Alike (.float f) (.float f)
  | str (s : String) : Alike (.str s) (.str s)
  | arr {items items' : List Json} (h : AlikeItems items items') : Alike (.arr items) (.arr items')
  | obj {fields fields' : List (String × Json)} (h : AlikeFields fields fields') :
      Alike (.obj fields) (.obj fields')

inductive AlikeItems : List Json → List Json → Prop where
  | nil : AlikeItems [] []
  | cons {v v' : Json} {vs vs' : List Json} (h : Alike v v') (t : AlikeItems vs vs') :
      AlikeItems (v :: vs) (v' :: vs')

inductive AlikeFields : List (String × Json) → List (String × Json) → Prop where
  | nil : AlikeFields [] []
  | secret {k : String} {rest rest' : List (String × Json)} (hk : sensitive k = true) (v v' : Json)
      (t : AlikeFields rest rest') : AlikeFields ((k, v) :: rest) ((k, v') :: rest')
  | cons (k : String) {v v' : Json} {rest rest' : List (String × Json)} (h : Alike v v')
      (t : AlikeFields rest rest') : AlikeFields ((k, v) :: rest) ((k, v') :: rest')
end

mutual
/-- The text before the first value under a sensitive key, if there is one. -/
def textBeforeSecret? : Json → Option (List Char)
  | .arr items => (itemsBeforeSecret? items).map ('[' :: ·)
  | .obj fields => (fieldsBeforeSecret? fields).map ('\x7b' :: ·)
  | _ => none

def itemsBeforeSecret? : List Json → Option (List Char)
  | [] => none
  | v :: vs =>
      match textBeforeSecret? v with
      | some pre => some pre
      | none => (itemsBeforeSecret? vs).map (plainText v ++ separator ++ ·)

def fieldsBeforeSecret? : List (String × Json) → Option (List Char)
  | [] => none
  | (k, v) :: rest =>
      if sensitive k then some (keyText k)
      else
        match textBeforeSecret? v with
        | some pre => some (keyText k ++ pre)
        | none => (fieldsBeforeSecret? rest).map (keyText k ++ plainText v ++ separator ++ ·)
end
end

theorem AlikeItems.refl {items : List Json} (h : ∀ v ∈ items, Alike sensitive v v) :
    AlikeItems sensitive items items := by
  induction items with
  | nil => exact .nil
  | cons v vs ih =>
      exact .cons (h v List.mem_cons_self) (ih fun w hw => h w (List.mem_cons_of_mem _ hw))

theorem AlikeFields.refl {fields : List (String × Json)}
    (h : ∀ kv ∈ fields, Alike sensitive kv.2 kv.2) : AlikeFields sensitive fields fields := by
  induction fields with
  | nil => exact .nil
  | cons kv rest ih =>
      exact .cons kv.1 (h kv List.mem_cons_self) (ih fun w hw => h w (List.mem_cons_of_mem _ hw))

theorem Alike.refl (v : Json) : Alike sensitive v v := by
  induction v using Json.induct with
  | null => exact .null
  | bool b => exact .bool b
  | int i => exact .int i
  | float f => exact .float f
  | str s => exact .str s
  | arr items ih => exact .arr (.refl ih)
  | obj fields ih => exact .obj (.refl ih)

/-! ### Without a sensitive key -/

theorem eq_of_alikeItems {items items' : List Json}
    (hv : ∀ v ∈ items, ∀ v', textBeforeSecret? sensitive v = none → Alike sensitive v v' → v' = v)
    (h : itemsBeforeSecret? sensitive items = none) (ha : AlikeItems sensitive items items') :
    items' = items := by
  induction items generalizing items' with
  | nil => cases ha; rfl
  | cons v vs ih =>
      cases ha with
      | cons hhead htail =>
          rw [itemsBeforeSecret?] at h
          cases hbefore : textBeforeSecret? sensitive v with
          | some pre =>
              rw [hbefore] at h
              cases h
          | none =>
              rw [hbefore] at h
              rw [hv v List.mem_cons_self _ hbefore hhead,
                ih (fun w hw => hv w (List.mem_cons_of_mem _ hw)) (Option.map_eq_none_iff.mp h)
                  htail]

theorem eq_of_alikeFields {fields fields' : List (String × Json)}
    (hv : ∀ kv ∈ fields, ∀ v', textBeforeSecret? sensitive kv.2 = none →
      Alike sensitive kv.2 v' → v' = kv.2)
    (h : fieldsBeforeSecret? sensitive fields = none) (ha : AlikeFields sensitive fields fields') :
    fields' = fields := by
  induction fields generalizing fields' with
  | nil => cases ha; rfl
  | cons kv rest ih =>
      obtain ⟨k, v⟩ := kv
      rw [fieldsBeforeSecret?] at h
      cases ha with
      | secret hk v v' ht =>
          rw [if_pos hk] at h
          cases h
      | cons k hhead htail =>
          by_cases hk : sensitive k = true
          · rw [if_pos hk] at h
            cases h
          · rw [if_neg hk] at h
            cases hbefore : textBeforeSecret? sensitive v with
            | some pre =>
                rw [hbefore] at h
                cases h
            | none =>
                rw [hbefore] at h
                rw [hv (k, v) List.mem_cons_self _ hbefore hhead,
                  ih (fun w hw => hv w (List.mem_cons_of_mem _ hw)) (Option.map_eq_none_iff.mp h)
                    htail]

/-- **Without a sensitive key** nothing can differ. -/
theorem eq_of_alike {v v' : Json} (h : textBeforeSecret? sensitive v = none)
    (ha : Alike sensitive v v') : v' = v := by
  induction v using Json.induct generalizing v' with
  | null | bool _ | int _ | float _ | str _ => cases ha; rfl
  | arr items ih =>
      cases ha with
      | arr ha =>
          rw [textBeforeSecret?, Option.map_eq_none_iff] at h
          exact congrArg Json.arr (eq_of_alikeItems (fun w hw _ hn hw' => ih w hw hn hw') h ha)
  | obj fields ih =>
      cases ha with
      | obj ha =>
          rw [textBeforeSecret?, Option.map_eq_none_iff] at h
          exact congrArg Json.obj (eq_of_alikeFields (fun w hw _ hn hw' => ih w hw hn hw') h ha)

/-! ### Before the first secret -/

theorem intercalate_cons (sep text : List Char) (texts : List (List Char)) :
    ∃ post, sep.intercalate (text :: texts) = text ++ post := by
  cases texts with
  | nil => exact ⟨[], by simp⟩
  | cons text' texts => exact ⟨_, by rw [List.intercalate_cons_cons, List.append_assoc]⟩

theorem plainItems_of_alike {items items' : List Json} {pre : List Char}
    (hv : ∀ v ∈ items, ∀ v' pre, textBeforeSecret? sensitive v = some pre →
      Alike sensitive v v' → ∃ post, post ≠ [] ∧ plainText v' = pre ++ post)
    (h : itemsBeforeSecret? sensitive items = some pre) (ha : AlikeItems sensitive items items') :
    ∃ post, separator.intercalate (plainItems items') = pre ++ post := by
  induction items generalizing items' pre with
  | nil => cases h
  | cons v vs ih =>
      cases ha with
      | @cons _ v' _ vs' hhead htail =>
          rw [itemsBeforeSecret?] at h
          rw [plainItems]
          cases hbefore : textBeforeSecret? sensitive v with
          | some pre' =>
              rw [hbefore] at h
              obtain rfl := Option.some.inj h
              obtain ⟨post, -, htext⟩ := hv v List.mem_cons_self _ _ hbefore hhead
              obtain ⟨post', hpost⟩ := intercalate_cons separator (plainText v') (plainItems vs')
              exact ⟨post ++ post', by rw [hpost, htext, List.append_assoc]⟩
          | none =>
              rw [hbefore] at h
              obtain ⟨pre', hrest, rfl⟩ := Option.map_eq_some_iff.mp h
              obtain ⟨post, hpost⟩ := ih (fun w hw => hv w (List.mem_cons_of_mem _ hw)) hrest htail
              have hne : plainItems vs' ≠ [] := by
                cases htail with
                | nil => cases hrest
                | cons _ _ => exact List.cons_ne_nil _ _
              rw [eq_of_alike hbefore hhead, List.intercalate_cons_of_ne_nil hne, hpost]
              exact ⟨post, by simp only [List.append_assoc]⟩

theorem plainFields_of_alike {fields fields' : List (String × Json)} {pre : List Char}
    (hv : ∀ kv ∈ fields, ∀ v' pre, textBeforeSecret? sensitive kv.2 = some pre →
      Alike sensitive kv.2 v' → ∃ post, post ≠ [] ∧ plainText v' = pre ++ post)
    (h : fieldsBeforeSecret? sensitive fields = some pre)
    (ha : AlikeFields sensitive fields fields') :
    ∃ post, separator.intercalate (plainFields fields') = pre ++ post := by
  induction fields generalizing fields' pre with
  | nil => cases h
  | cons kv rest ih =>
      obtain ⟨k, v⟩ := kv
      rw [fieldsBeforeSecret?] at h
      by_cases hk : sensitive k = true
      · rw [if_pos hk] at h
        obtain rfl := Option.some.inj h
        obtain ⟨v', rest', rfl⟩ : ∃ v' rest', fields' = (k, v') :: rest' := by
          cases ha with
          | secret _ _ v' _ => exact ⟨v', _, rfl⟩
          | cons _ _ _ => exact ⟨_, _, rfl⟩
        obtain ⟨post, hpost⟩ := intercalate_cons separator (keyText k ++ plainText v')
          (plainFields rest')
        exact ⟨plainText v' ++ post, by rw [plainFields, hpost, List.append_assoc]⟩
      · rw [if_neg hk] at h
        cases ha with
        | secret hk' _ _ _ => exact absurd hk' hk
        | @cons _ _ v' _ rest' hhead htail =>
            rw [plainFields]
            cases hbefore : textBeforeSecret? sensitive v with
            | some pre' =>
                rw [hbefore] at h
                obtain rfl := Option.some.inj h
                obtain ⟨post, -, htext⟩ := hv (k, v) List.mem_cons_self _ _ hbefore hhead
                obtain ⟨post', hpost⟩ := intercalate_cons separator (keyText k ++ plainText v')
                  (plainFields rest')
                exact ⟨post ++ post', by rw [hpost, htext]; simp only [List.append_assoc]⟩
            | none =>
                rw [hbefore] at h
                obtain ⟨pre', hrest, rfl⟩ := Option.map_eq_some_iff.mp h
                obtain ⟨post, hpost⟩ :=
                  ih (fun w hw => hv w (List.mem_cons_of_mem _ hw)) hrest htail
                have hne : plainFields rest' ≠ [] := by
                  cases htail with
                  | nil => cases hrest
                  | secret _ _ _ _ | cons _ _ _ => exact List.cons_ne_nil _ _
                rw [eq_of_alike hbefore hhead, List.intercalate_cons_of_ne_nil hne, hpost]
                exact ⟨post, by simp only [List.append_assoc]⟩

/-- **Before the first secret** the text of every value alike is the same, and goes on. -/
theorem plainText_of_alike {v v' : Json} {pre : List Char}
    (h : textBeforeSecret? sensitive v = some pre) (ha : Alike sensitive v v') :
    ∃ post, post ≠ [] ∧ plainText v' = pre ++ post := by
  induction v using Json.induct generalizing v' pre with
  | null | bool _ | int _ | float _ | str _ => cases h
  | arr items ih =>
      cases ha with
      | arr ha =>
          obtain ⟨pre', hitems, rfl⟩ := Option.map_eq_some_iff.mp h
          obtain ⟨post, hpost⟩ :=
            plainItems_of_alike (fun w hw _ _ hs hw' => ih w hw hs hw') hitems ha
          refine ⟨post ++ [']'], by simp, ?_⟩
          rw [plainText, hpost, List.append_assoc, List.cons_append]
  | obj fields ih =>
      cases ha with
      | obj ha =>
          obtain ⟨pre', hfields, rfl⟩ := Option.map_eq_some_iff.mp h
          obtain ⟨post, hpost⟩ :=
            plainFields_of_alike (fun w hw _ _ hs hw' => ih w hw hs hw') hfields ha
          refine ⟨post ++ ['\x7d'], by simp, ?_⟩
          rw [plainText, hpost, List.append_assoc, List.cons_append]

/-! ### Another secret -/

theorem exists_fillItems {items : List Json} {pre : List Char} (w : Json)
    (hv : ∀ v ∈ items, ∀ pre, textBeforeSecret? sensitive v = some pre →
      ∃ v', Alike sensitive v v' ∧ ∃ post, plainText v' = pre ++ (plainText w ++ post))
    (h : itemsBeforeSecret? sensitive items = some pre) :
    ∃ items', AlikeItems sensitive items items' ∧
      ∃ post, separator.intercalate (plainItems items') = pre ++ (plainText w ++ post) := by
  induction items generalizing pre with
  | nil => cases h
  | cons v vs ih =>
      rw [itemsBeforeSecret?] at h
      cases hbefore : textBeforeSecret? sensitive v with
      | some pre' =>
          rw [hbefore] at h
          obtain rfl := Option.some.inj h
          obtain ⟨v', ha, post, htext⟩ := hv v List.mem_cons_self _ hbefore
          obtain ⟨post', hpost⟩ := intercalate_cons separator (plainText v') (plainItems vs)
          refine ⟨v' :: vs, .cons ha (.refl fun v _ => .refl v), post ++ post', ?_⟩
          rw [plainItems, hpost, htext]
          simp only [List.append_assoc]
      | none =>
          rw [hbefore] at h
          obtain ⟨pre', hrest, rfl⟩ := Option.map_eq_some_iff.mp h
          obtain ⟨vs', ha, post, hpost⟩ := ih (fun w hw => hv w (List.mem_cons_of_mem _ hw)) hrest
          have hne : plainItems vs' ≠ [] := by
            cases ha with
            | nil => cases hrest
            | cons _ _ => exact List.cons_ne_nil _ _
          refine ⟨v :: vs', .cons (.refl v) ha, post, ?_⟩
          rw [plainItems, List.intercalate_cons_of_ne_nil hne, hpost]
          simp only [List.append_assoc]

theorem exists_fillFields {fields : List (String × Json)} {pre : List Char} (w : Json)
    (hv : ∀ kv ∈ fields, ∀ pre, textBeforeSecret? sensitive kv.2 = some pre →
      ∃ v', Alike sensitive kv.2 v' ∧ ∃ post, plainText v' = pre ++ (plainText w ++ post))
    (h : fieldsBeforeSecret? sensitive fields = some pre) :
    ∃ fields', AlikeFields sensitive fields fields' ∧
      ∃ post, separator.intercalate (plainFields fields') = pre ++ (plainText w ++ post) := by
  induction fields generalizing pre with
  | nil => cases h
  | cons kv rest ih =>
      obtain ⟨k, v⟩ := kv
      have hrefl : AlikeFields sensitive rest rest := .refl fun kv _ => .refl kv.2
      rw [fieldsBeforeSecret?] at h
      by_cases hk : sensitive k = true
      · rw [if_pos hk] at h
        obtain rfl := Option.some.inj h
        obtain ⟨post, hpost⟩ := intercalate_cons separator (keyText k ++ plainText w)
          (plainFields rest)
        refine ⟨(k, w) :: rest, .secret hk v w hrefl, post, ?_⟩
        rw [plainFields, hpost, List.append_assoc]
      · rw [if_neg hk] at h
        cases hbefore : textBeforeSecret? sensitive v with
        | some pre' =>
            rw [hbefore] at h
            obtain rfl := Option.some.inj h
            obtain ⟨v', ha, post, htext⟩ := hv (k, v) List.mem_cons_self _ hbefore
            obtain ⟨post', hpost⟩ := intercalate_cons separator (keyText k ++ plainText v')
              (plainFields rest)
            refine ⟨(k, v') :: rest, .cons k ha hrefl, post ++ post', ?_⟩
            rw [plainFields, hpost, htext]
            simp only [List.append_assoc]
        | none =>
            rw [hbefore] at h
            obtain ⟨pre', hrest, rfl⟩ := Option.map_eq_some_iff.mp h
            obtain ⟨rest', ha, post, hpost⟩ :=
              ih (fun w hw => hv w (List.mem_cons_of_mem _ hw)) hrest
            have hne : plainFields rest' ≠ [] := by
              cases ha with
              | nil => cases hrest
              | secret _ _ _ _ | cons _ _ _ => exact List.cons_ne_nil _ _
            refine ⟨(k, v) :: rest', .cons k (.refl v) ha, post, ?_⟩
            rw [plainFields, List.intercalate_cons_of_ne_nil hne, hpost]
            simp only [List.append_assoc]

/-- **Another secret**: any value can stand under the first sensitive key. -/
theorem exists_fill {v : Json} {pre : List Char} (h : textBeforeSecret? sensitive v = some pre)
    (w : Json) :
    ∃ v', Alike sensitive v v' ∧ ∃ post, plainText v' = pre ++ (plainText w ++ post) := by
  induction v using Json.induct generalizing pre with
  | null | bool _ | int _ | float _ | str _ => cases h
  | arr items ih =>
      obtain ⟨pre', hitems, rfl⟩ := Option.map_eq_some_iff.mp h
      obtain ⟨items', ha, post, hpost⟩ := exists_fillItems w (fun v hv _ hs => ih v hv hs) hitems
      refine ⟨.arr items', .arr ha, post ++ [']'], ?_⟩
      rw [plainText, hpost]
      simp only [List.append_assoc, List.cons_append]
  | obj fields ih =>
      obtain ⟨pre', hfields, rfl⟩ := Option.map_eq_some_iff.mp h
      obtain ⟨fields', ha, post, hpost⟩ :=
        exists_fillFields w (fun kv hv _ hs => ih kv hv hs) hfields
      refine ⟨.obj fields', .obj ha, post ++ ['\x7d'], ?_⟩
      rw [plainText, hpost]
      simp only [List.append_assoc, List.cons_append]

/-- A value with a sensitive key is not the only one alike. -/
theorem exists_alike_ne {v : Json} {pre : List Char}
    (h : textBeforeSecret? sensitive v = some pre) : ∃ v', Alike sensitive v v' ∧ v' ≠ v := by
  obtain ⟨v₁, ha₁, post₁, htext₁⟩ := exists_fill h (.bool true)
  obtain ⟨v₂, ha₂, post₂, htext₂⟩ := exists_fill h (.bool false)
  by_cases hv : v₁ = v
  · refine ⟨v₂, ha₂, ?_⟩
    rintro rfl
    rw [hv, htext₂] at htext₁
    have hhead := congrArg List.head? (List.append_cancel_left htext₁)
    cases hhead
  · exact ⟨v₁, ha₁, hv⟩

end Support.Json

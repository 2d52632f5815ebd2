import RcsMiddleware.Source.Logging

/-!
# Client — Logs

What a log event says of the values under sensitive keys.  The processor masks them in a `dict` at
any depth of nested `dict`s, and leaves lists as they are; a long body comes to it as the beginning
of its text; and a signed request logs the signature, which depends on the whole body.

* `maskValue_same_iff`: a masked value says nothing of its secrets exactly when none is in a list.
* `logged_same_iff`: a logged body says nothing of its secrets exactly when the first begins behind
  the part of the text that is kept.
* `logs_masked_iff`: the events.
-/

namespace Rcs

open Support Support.Text Support.Json

namespace StrLower

variable (str : StrLower)

mutual
/-- A sensitive key stands in a list, and not below another one. -/
def exposed : Json → Bool
  | .arr items => (textBeforeSecret? str.isSensitive (.arr items)).isSome
  | .obj fields => exposedFields fields
  | _ => false

def exposedFields : List (String × Json) → Bool
  | [] => false
  | (k, v) :: rest => (!str.isSensitive k && exposed v) || exposedFields rest
end

/-- The first secret of the body, if there is one, begins behind the first 1200 characters. -/
def BeginsLate (body : Option (List (String × Json))) : Prop :=
  ∀ pre, textBeforeSecret? str.isSensitive (bodyValue body) = some pre → 1200 ≤ pre.length

end StrLower

/-- `str.lower` on ASCII text. -/
def asciiLower : StrLower := ⟨String.toLower, fun _ _ => rfl⟩

variable {str : StrLower}

/-- A key in ASCII is tested as by the ASCII letters alone. -/
theorem isSensitive_ascii {key : String} (h : isAscii key = true) :
    str.isSensitive key = asciiLower.isSensitive key := by
  rw [StrLower.isSensitive, StrLower.isSensitive, str.lower_ascii key h]
  rfl

/-! ### Masked values -/

section Mask

variable {fields fields' : List (String × Json)} {v v' : Json}

theorem maskDict_of_alike
    (hv : ∀ kv ∈ fields, ∀ v', str.exposed kv.2 = false → Alike str.isSensitive kv.2 v' →
      str.maskValue v' = str.maskValue kv.2)
    (h : str.exposedFields fields = false) (ha : AlikeFields str.isSensitive fields fields') :
    str.maskDict fields' = str.maskDict fields := by
  induction fields generalizing fields' with
  | nil => cases ha; rfl
  | cons kv rest ih =>
      obtain ⟨k, v⟩ := kv
      rw [StrLower.exposedFields, Bool.or_eq_false_iff] at h
      have hrest : ∀ {rest'}, AlikeFields str.isSensitive rest rest' →
          str.maskDict rest' = str.maskDict rest := fun htail =>
        ih (fun kv hkv => hv kv (List.mem_cons_of_mem _ hkv)) h.2 htail
      cases ha with
      | secret hk _ v' htail =>
          rw [StrLower.maskDict, StrLower.maskDict, if_pos hk, if_pos hk, hrest htail]
      | cons _ hhead htail =>
          rw [StrLower.maskDict, StrLower.maskDict, hrest htail]
          cases hk : str.isSensitive k with
          | true => rfl
          | false =>
              have hexposed : str.exposed v = false := by simpa [hk] using h.1
              rw [hv (k, v) List.mem_cons_self _ hexposed hhead]

theorem maskValue_of_alike (h : str.exposed v = false) (ha : Alike str.isSensitive v v') :
    str.maskValue v' = str.maskValue v := by
  induction v using Json.induct generalizing v' with
  | null | bool _ | int _ | float _ | str _ => cases ha; rfl
  | arr items ih =>
      rw [StrLower.exposed, Option.isSome_eq_false_iff, Option.isNone_iff_eq_none] at h
      rw [eq_of_alike h ha]
  | obj fields ih =>
      cases ha with
      | obj ha =>
          rw [StrLower.maskValue, StrLower.maskValue,
            maskDict_of_alike (fun kv hkv _ hx ha' => ih kv hkv hx ha') h ha]

theorem exists_maskDict_ne
    (hv : ∀ kv ∈ fields, str.exposed kv.2 = true →
      ∃ v', Alike str.isSensitive kv.2 v' ∧ str.maskValue v' ≠ str.maskValue kv.2)
    (h : str.exposedFields fields = true) :
    ∃ fields', AlikeFields str.isSensitive fields fields' ∧
      str.maskDict fields' ≠ str.maskDict fields := by
  induction fields with
  | nil => cases h
  | cons kv rest ih =>
      obtain ⟨k, v⟩ := kv
      rw [StrLower.exposedFields, Bool.or_eq_true, Bool.and_eq_true, Bool.not_eq_true'] at h
      rcases h with ⟨hk, hexposed⟩ | hrest
      · obtain ⟨v', ha, hne⟩ := hv (k, v) List.mem_cons_self hexposed
        refine ⟨(k, v') :: rest, .cons k ha (.refl fun kv _ => .refl kv.2), ?_⟩
        intro heq
        rw [StrLower.maskDict, StrLower.maskDict, hk] at heq
        exact hne (Prod.mk.inj (List.cons.inj heq).1).2
      · obtain ⟨rest', ha, hne⟩ := ih (fun kv hkv => hv kv (List.mem_cons_of_mem _ hkv)) hrest
        refine ⟨(k, v) :: rest', .cons k (.refl v) ha, ?_⟩
        intro heq
        rw [StrLower.maskDict, StrLower.maskDict] at heq
        exact hne (List.cons.inj heq).2

theorem exists_maskValue_ne (h : str.exposed v = true) :
    ∃ v', Alike str.isSensitive v v' ∧ str.maskValue v' ≠ str.maskValue v := by
  induction v using Json.induct with
  | null | bool _ | int _ | float _ | str _ => cases h
  | arr items ih =>
      obtain ⟨pre, hpre⟩ := Option.isSome_iff_exists.mp h
      obtain ⟨v', ha, hne⟩ := exists_alike_ne hpre
      refine ⟨v', ha, ?_⟩
      cases ha with
      | arr ha => exact hne
  | obj fields ih =>
      obtain ⟨fields', ha, hne⟩ := exists_maskDict_ne ih h
      exact ⟨.obj fields', .obj ha, fun heq => hne (Json.obj.inj heq)⟩

/-- **A masked value** is that of every value alike exactly when no sensitive key is in a list. -/
theorem maskValue_same_iff :
    (∀ v', Alike str.isSensitive v v' → str.maskValue v' = str.maskValue v) ↔
      str.exposed v = false := by
  constructor
  · intro h
    rw [Bool.eq_false_iff]
    intro hexposed
    obtain ⟨v', ha, hne⟩ := exists_maskValue_ne hexposed
    exact hne (h v' ha)
  · exact fun h v' ha => maskValue_of_alike h ha

end Mask

/-! ### Logged bodies -/

section Body

variable {body body' : Option (List (String × Json))}

theorem bodyValue_injective (h : bodyValue body = bodyValue body') : body = body' := by
  cases body with
  | none => cases body' with
    | none => rfl
    | some fields' => cases h
  | some fields => cases body' with
    | none => cases h
    | some fields' => exact congrArg some (Json.obj.inj h)

/-- What is alike a body is one. -/
theorem exists_body {v : Json} (ha : Alike str.isSensitive (bodyValue body) v) :
    ∃ body', v = bodyValue body' := by
  cases body with
  | none => cases ha; exact ⟨none, rfl⟩
  | some fields =>
      cases ha with
      | @obj _ fields' _ => exact ⟨some fields', rfl⟩

/-- What is logged of a body whose text is too long. -/
def truncatedBody (text : List Char) : Json :=
  .obj [("_truncated", .bool true), ("preview", .str (.ofList (text.take 1200)))]

theorem take_eq_of_truncatedBody {text text' : List Char}
    (h : truncatedBody text = truncatedBody text') : text.take 1200 = text'.take 1200 := by
  have hpreview := (List.cons.inj (List.cons.inj (Json.obj.inj h)).2).1
  exact String.ofList_injective (Json.str.inj (Prod.mk.inj hpreview).2)

/-- `None` has a short text. -/
theorem requestBodyForLog_eq (body : Option (List (String × Json))) : requestBodyForLog body =
    if (bodyValue body).plainText.length ≤ 1200 then bodyValue body
    else truncatedBody (bodyValue body).plainText := by
  cases body <;> rfl

/-- The members of the events that are looked into are under keys that are not sensitive. -/
theorem isSensitive_member (str : StrLower) {key : String}
    (h : key ∈ ["_truncated", "preview", "body", "params", "sign"]) :
    str.isSensitive key = false := by
  have hkeys : (["_truncated", "preview", "body", "params", "sign"].all fun key =>
      isAscii key && !asciiLower.isSensitive key) = true := by decide +kernel
  obtain ⟨hascii, hplain⟩ := Bool.and_eq_true_iff.mp (List.all_eq_true.mp hkeys key h)
  rw [isSensitive_ascii hascii]
  simpa using hplain

theorem isSensitive_truncated (str : StrLower) :
    str.isSensitive "_truncated" = false ∧ str.isSensitive "preview" = false :=
  ⟨isSensitive_member str (by simp), isSensitive_member str (by simp)⟩

theorem maskValue_truncated (text : List Char) :
    str.maskValue (truncatedBody text) = truncatedBody text := by
  obtain ⟨htruncated, hpreview⟩ := isSensitive_truncated str
  rw [truncatedBody, StrLower.maskValue, StrLower.maskDict, htruncated, StrLower.maskDict, hpreview]
  rfl

/-- Masking changes objects only. -/
theorem eq_of_maskValue_eq {v w : Json} (hw : ∀ fields, w ≠ .obj fields)
    (h : str.maskValue v = w) : v = w := by
  cases v with
  | obj fields => exact absurd h.symm (hw _)
  | null | bool _ | int _ | float _ | str _ | arr _ => exact h

theorem maskDict_keys (str : StrLower) (fields : List (String × Json)) :
    (str.maskDict fields).map Prod.fst = fields.map Prod.fst := by
  induction fields with
  | nil => rfl
  | cons kv rest ih => rw [StrLower.maskDict, List.map_cons, List.map_cons, ih]

/-- No body with a secret is masked to what is logged of a long one. -/
theorem maskValue_ne_truncated {v : Json} {pre : List Char}
    (h : textBeforeSecret? str.isSensitive v = some pre) (text : List Char) :
    str.maskValue v ≠ truncatedBody text := by
  obtain ⟨htruncated, hpreview⟩ := isSensitive_truncated str
  intro heq
  cases v with
  | null | bool _ | int _ | float _ | str _ | arr _ => cases heq
  | obj fields =>
      have hfields := Json.obj.inj heq
      have hkeys : fields.map Prod.fst = ["_truncated", "preview"] := by
        rw [← maskDict_keys str, hfields]
        rfl
      obtain ⟨⟨_, v₁⟩, rest, rfl, rfl, hrest⟩ := List.map_eq_cons_iff.mp hkeys
      obtain ⟨⟨_, v₂⟩, rest, rfl, rfl, hnil⟩ := List.map_eq_cons_iff.mp hrest
      obtain rfl := List.map_eq_nil_iff.mp hnil
      -- The two members are those of the truncated body, and hold no secret.
      rw [StrLower.maskDict, StrLower.maskDict, StrLower.maskDict, htruncated, hpreview,
        if_neg Bool.false_ne_true, if_neg Bool.false_ne_true] at hfields
      have hv₁ := (Prod.mk.inj (List.cons.inj hfields).1).2
      have hv₂ := (Prod.mk.inj (List.cons.inj (List.cons.inj hfields).2).1).2
      rw [eq_of_maskValue_eq (fun _ hx => by cases hx) hv₁,
        eq_of_maskValue_eq (fun _ hx => by cases hx) hv₂, textBeforeSecret?,
        fieldsBeforeSecret?, htruncated, fieldsBeforeSecret?, hpreview] at h
      cases h

/-- A body whose secrets begin late is logged like every body alike. -/
theorem logged_of_beginsLate (h : str.BeginsLate body)
    (ha : Alike str.isSensitive (bodyValue body) (bodyValue body')) :
    requestBodyForLog body' = requestBodyForLog body := by
  cases hbefore : textBeforeSecret? str.isSensitive (bodyValue body) with
  | none => rw [bodyValue_injective (eq_of_alike hbefore ha)]
  | some pre =>
      have hlate : 1200 ≤ pre.length := h pre hbefore
      have hlong : ∀ {post : List Char}, post ≠ [] → ¬ (pre ++ post).length ≤ 1200 := by
        intro post hpost
        have hpos := List.length_pos_of_ne_nil hpost
        rw [List.length_append]
        omega
      obtain ⟨post, hpost, htext⟩ := plainText_of_alike hbefore (.refl (bodyValue body))
      obtain ⟨post', hpost', htext'⟩ := plainText_of_alike hbefore ha
      rw [requestBodyForLog_eq, requestBodyForLog_eq, htext, htext', if_neg (hlong hpost),
        if_neg (hlong hpost'), truncatedBody, truncatedBody, List.take_append_of_le_length hlate,
        List.take_append_of_le_length hlate]

/-- A text of one letter, so many times. -/
def repeated (n : Nat) (c : Char) : Json := .str (.ofList (List.replicate n c))

theorem plainText_repeated {c : Char} (hc : escapePlain c = [c]) (n : Nat) :
    plainText (repeated n c) = '"' :: (List.replicate n c ++ ['"']) := by
  have hescaped : (List.replicate n c).flatMap escapePlain = List.replicate n c := by
    induction n with
    | zero => rfl
    | succ n ih =>
        rw [List.replicate_succ, List.flatMap_cons, hc, ih]
        rfl
  rw [repeated, plainText, quotePlain, String.toList_ofList, hescaped]

/-- There is a value with a long text that does not begin with this character. -/
theorem exists_long (c : Char) :
    ∃ w d text, plainText w = d :: text ∧ d ≠ c ∧ 1200 < (plainText w).length := by
  have htext := plainText_repeated (c := 'R') (by decide) 1200
  have hlength : 1200 < (plainText (repeated 1200 'R')).length := by
    rw [htext, List.length_cons, List.length_append, List.length_replicate, List.length_singleton]
    decide
  by_cases hc : c = '"'
  · refine ⟨.arr [repeated 1200 'R'], '[', _, rfl, ?_, ?_⟩
    · rintro rfl
      cases hc
    · rw [plainText, plainItems, plainItems, List.intercalate_singleton, List.length_cons,
        List.length_append]
      omega
  · exact ⟨repeated 1200 'R', '"', _, htext, fun heq => hc heq.symm, hlength⟩

/-- A body whose first secret begins early is not logged like every body alike. -/
theorem exists_logged_ne {pre : List Char}
    (h : textBeforeSecret? str.isSensitive (bodyValue body) = some pre)
    (hearly : pre.length < 1200) :
    ∃ body', Alike str.isSensitive (bodyValue body) (bodyValue body') ∧
      str.maskValue (requestBodyForLog body') ≠ str.maskValue (requestBodyForLog body) := by
  obtain ⟨post, hpost, htext⟩ := plainText_of_alike h (.refl (bodyValue body))
  obtain ⟨c, post, rfl⟩ := List.exists_cons_of_ne_nil hpost
  obtain ⟨w, d, text, hw, hd, hlength⟩ := exists_long c
  obtain ⟨v', ha, post', htext'⟩ := exists_fill h w
  obtain ⟨body', rfl⟩ := exists_body ha
  have hlong : ¬ (bodyValue body').plainText.length ≤ 1200 := by
    rw [htext', List.length_append, List.length_append]
    omega
  refine ⟨body', ha, ?_⟩
  rw [requestBodyForLog_eq body', if_neg hlong, requestBodyForLog_eq, maskValue_truncated]
  split_ifs with hshort
  · exact (maskValue_ne_truncated h _).symm
  · rw [maskValue_truncated]
    intro heq
    -- The texts differ where the secret begins.
    have hchar := congrArg (·[pre.length]?) (take_eq_of_truncatedBody heq)
    simp only [List.getElem?_take_of_lt hearly, htext, htext', hw] at hchar
    rw [List.getElem?_append_right le_rfl, List.getElem?_append_right le_rfl, Nat.sub_self] at hchar
    exact hd (Option.some.inj hchar)

/-- **A logged body** is that of every body alike exactly when no secret begins early. -/
theorem logged_same_iff :
    (∀ body', Alike str.isSensitive (bodyValue body) (bodyValue body') →
      str.maskValue (requestBodyForLog body') = str.maskValue (requestBodyForLog body)) ↔
      str.BeginsLate body := by
  constructor
  · intro h pre hbefore
    by_contra hearly
    obtain ⟨body', ha, hne⟩ := exists_logged_ne hbefore (Nat.not_le.mp hearly)
    exact hne (h body' ha)
  · intro h body' ha
    rw [logged_of_beginsLate h ha]

end Body

/-! ### Events -/

section Events

variable (str)

/-- The event for the body is masked like that for every body that differs only in what stands under
sensitive keys. -/
def StrLower.Hides (event : Option (List (String × Json)) → List (String × Json))
    (body : Option (List (String × Json))) : Prop :=
  ∀ body', Alike str.isSensitive (bodyValue body) (bodyValue body') →
    str.maskSensitive (event body') = str.maskSensitive (event body)

variable {str}

theorem maskSensitive_eq (event : List (String × Json)) :
    str.maskSensitive event = str.maskDict event := by
  induction event with
  | nil => rfl
  | cons kv rest ih =>
      rw [StrLower.maskDict, ← ih]
      rfl

theorem maskDict_append (fields fields' : List (String × Json)) :
    str.maskDict (fields ++ fields') = str.maskDict fields ++ str.maskDict fields' := by
  rw [← maskSensitive_eq, ← maskSensitive_eq, ← maskSensitive_eq, StrLower.maskSensitive,
    List.map_append]
  rfl

/-- Two events that differ in one member. -/
theorem maskSensitive_member_iff {key : String} (hkey : str.isSensitive key = false)
    (before after : List (String × Json)) {v v' : Json} :
    str.maskSensitive (before ++ (key, v') :: after) =
      str.maskSensitive (before ++ (key, v) :: after) ↔ str.maskValue v' = str.maskValue v := by
  simp only [maskSensitive_eq, maskDict_append, StrLower.maskDict, hkey]
  simp

/-- An event in which one member depends on the body. -/
theorem hides_member_iff {key : String} (hkey : str.isSensitive key = false)
    (before after : List (String × Json)) (value : Option (List (String × Json)) → Json)
    (body : Option (List (String × Json))) :
    str.Hides (fun body => before ++ (key, value body) :: after) body ↔
      ∀ body', Alike str.isSensitive (bodyValue body) (bodyValue body') →
        str.maskValue (value body') = str.maskValue (value body) :=
  forall₂_congr fun _ _ => maskSensitive_member_iff hkey before after

/-- **Every event**: masked like all that are alike exactly when no sensitive key is in a list. -/
theorem event_masked_iff (event : List (String × Json)) :
    (∀ event', AlikeFields str.isSensitive event event' →
      str.maskSensitive event' = str.maskSensitive event) ↔ str.exposedFields event = false := by
  have hvalue := @maskValue_same_iff str (.obj event)
  rw [StrLower.exposed] at hvalue
  rw [← hvalue]
  simp only [maskSensitive_eq]
  constructor
  · intro h v' ha
    cases ha with
    | obj ha => exact congrArg Json.obj (h _ ha)
  · exact fun h event' ha => Json.obj.inj (h _ (.obj ha))

theorem isSensitive_body : str.isSensitive "body" = false :=
  isSensitive_member str (by simp)

/-- `submit_raw`. -/
theorem submitAttempt_hides_iff (request : RcsRawSubmitRequest) (path : String)
    (context : List (String × Json)) :
    str.Hides (fun body => submitAttemptEvent { request with body := body } path context)
      request.body ↔ str.exposed (bodyValue request.body) = false := by
  refine (hides_member_iff isSensitive_body
    [("method", .str request.method.upper), ("path", .str path),
      ("send_signed", .bool request.sendSigned), ("persist_task", .bool request.persistTask)]
    (("event", .str "rcs_submit_attempt") :: context) bodyValue request.body).trans ?_
  rw [← maskValue_same_iff]
  constructor
  · intro h v' ha
    obtain ⟨body', rfl⟩ := exists_body ha
    exact h body' ha
  · exact fun h body' ha => h _ ha

/-- `plain_request`. -/
theorem plainRequest_hides_iff (method : HttpMethod) (path fullUrl : String) (now : DateTime)
    (body : Option (List (String × Json))) (context : List (String × Json)) :
    str.Hides (fun body => plainRequestEvent method path fullUrl now body context) body ↔
      str.BeginsLate body :=
  (hides_member_iff isSensitive_body
    [("method", .str method.upper), ("path", .str path), ("full_url", .str fullUrl),
      ("headers", textMembers (RCS2000Client.plainHeaders now))]
    (("event", .str "rcs_plain_request_outgoing") :: context) requestBodyForLog body).trans
    logged_same_iff

theorem isSensitive_params :
    str.isSensitive "params" = false ∧ str.isSensitive "sign" = false :=
  ⟨isSensitive_member str (by simp), isSensitive_member str (by simp)⟩

/-- The signature is not masked. -/
theorem maskValue_params_iff (str : StrLower) (params : List (String × String))
    (sign sign' : String) :
    str.maskValue (textMembers (params ++ [("sign", sign)])) =
      str.maskValue (textMembers (params ++ [("sign", sign')])) ↔ sign = sign' := by
  simp only [textMembers, List.map_append, List.map_cons, List.map_nil, StrLower.maskValue,
    maskDict_append, StrLower.maskDict, isSensitive_params.2]
  simp

/-- The signature of a request with this body. -/
def signatureOf (strategy : HmacSha256Strategy) (draw : SigningDraw) (method : HttpMethod)
    (path : String) (body : Option (List (String × Json))) : String :=
  strategy.buildSign method.upper path (bodyText body).toUTF8 draw.nonce draw.timestamp

/-- `_do_request`. -/
theorem signedRequest_hides_iff (strategy : HmacSha256Strategy) (draw : SigningDraw)
    (method : HttpMethod) (path fullUrl : String) (params : List (String × String))
    (body : Option (List (String × Json))) (context : List (String × Json)) :
    str.Hides (fun body =>
        signedRequestEvent strategy draw method path fullUrl params body context) body ↔
      str.BeginsLate body ∧ ∀ body', Alike str.isSensitive (bodyValue body) (bodyValue body') →
        signatureOf strategy draw method path body' =
          signatureOf strategy draw method path body := by
  have hevent : ∀ body', str.maskSensitive (signedRequestEvent strategy draw method path fullUrl
      params body' context) = str.maskSensitive (signedRequestEvent strategy draw method path
      fullUrl params body context) ↔
      signatureOf strategy draw method path body' = signatureOf strategy draw method path body ∧
        str.maskValue (requestBodyForLog body') = str.maskValue (requestBodyForLog body) := by
    intro body'
    rw [← maskValue_params_iff str params]
    simp only [maskSensitive_eq, signedRequestEvent, maskDict_append, StrLower.maskDict,
      isSensitive_params.1, isSensitive_body]
    simp [HmacSha256Strategy.sign, signatureOf]
  rw [← logged_same_iff]
  constructor
  · exact fun h => ⟨fun body' ha => ((hevent body').mp (h body' ha)).2,
      fun body' ha => ((hevent body').mp (h body' ha)).1⟩
  · exact fun h body' ha => (hevent body').mpr ⟨h.2 body' ha, h.1 body' ha⟩

end Events

/-- A body with a token of so many letters. -/
def tokenBody (n : Nat) (c : Char) : List (String × Json) := [("token", repeated n c)]

theorem isSensitive_samples : asciiLower.isSensitive "password" = true ∧
    asciiLower.isSensitive "token" = true ∧ asciiLower.isSensitive "steps" = false := by
  decide +kernel

/-- Passwords in a list. -/
def stepsEvent (password : String) : List (String × Json) :=
  [("steps", .arr [.obj [("password", .str password)]])]

/-- The text of a body with a token. -/
theorem plainText_tokenBody (n : Nat) {c : Char} (hc : escapePlain c = [c]) :
    (bodyValue (some (tokenBody n c))).plainText =
      "\x7b\"token\": \"".toList ++ (List.replicate n c ++ "\"\x7d".toList) := by
  have hkey : keyText "token" = "\"token\": ".toList := by decide
  rw [bodyValue, tokenBody, plainText, plainFields, plainFields, List.intercalate_singleton,
    plainText_repeated hc, hkey]
  simp

end Rcs

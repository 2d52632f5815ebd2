import RcsMiddleware.Source.Texts
import RcsMiddleware.Webhook.Endpoint

/-!
# Webhook — Messages

A feedback as text: the body in which RCS sends it, and the message in which the endpoint hands it to
a worker.

* `TaskFeedbackPayload.Sound`: the payloads that come back from their texts;
  `sound_of_payloadOf`: those the endpoint accepts.
* `receive_message`: a worker does with the message what it does with the payload.
* `feedback_survives_the_wire`: **an accepted feedback**, written again, is accepted as what it is.
-/

namespace Rcs

open Support Support.Text

/-- What the endpoint and the workers rely on: the endpoint's `json.loads` is that of a text, and a
float is read as itself, comes back from its text and is what pydantic makes of it. -/
structure WebhookRouter.ReadsTexts (router : WebhookRouter) (read : String → PyFloat) : Prop where
  back : ∀ text, Json.ReadsBack read (read text)
  loads : ∀ raw v, router.jsonLoads raw = .value v → ∃ text, Json.loads? read text = some v
  ascii : ∀ text v, isAscii text = true → Json.loads? read text = some v →
    router.jsonLoads text.toUTF8 = .value v
  floats : ∀ v f, router.floatOf v = some f → Json.ReadsBack read f
  float : ∀ f, Json.ReadsBack read f → router.floatOf (.float f) = some f

namespace TaskFeedbackPayload

/-- The aliases of the declared members. -/
def aliases : List String := ["robotTaskCode", "method", "x", "y", "amrCode", "errorMsg"]

/-- A payload that comes back from its text. -/
structure Sound (read : String → PyFloat) (payload : TaskFeedbackPayload) : Prop where
  x : ∀ f, payload.x = some f → Json.ReadsBack read f
  y : ∀ f, payload.y = some f → Json.ReadsBack read f
  keys : (payload.extra.map Prod.fst).Nodup
  fresh : ∀ member ∈ payload.extra, member.1 ∉ aliases
  extra : ∀ member ∈ payload.extra, Json.Readable read member.2

variable {read : String → PyFloat} {payload payload' : TaskFeedbackPayload}

theorem readable_jsonFloat {o : Option PyFloat} (h : ∀ f, o = some f → Json.ReadsBack read f) :
    Json.Readable read (jsonFloat o) := by
  cases o with
  | none => exact .null
  | some f => exact .float (h f rfl)

theorem readable_jsonOpt (o : Option String) : Json.Readable read (jsonOpt o) := by
  cases o with
  | none => exact .null
  | some s => exact .str s

theorem declared_keys (payload : TaskFeedbackPayload) : payload.declared.map Prod.fst = aliases := rfl

/-- The text of the payload is read back. -/
theorem Sound.readable (h : payload.Sound read) : Json.Readable read payload.modelDump := by
  refine .obj ?_ fun member hm => ?_
  · rw [List.map_append, declared_keys]
    refine List.nodup_append.mpr ⟨by decide, h.keys, fun key hkey key' hkey' heq => ?_⟩
    obtain ⟨member, hm, rfl⟩ := List.mem_map.mp hkey'
    exact h.fresh member hm (heq ▸ hkey)
  · rcases List.mem_append.mp hm with hm | hm
    · simp only [declared, List.mem_cons, List.not_mem_nil, or_false] at hm
      rcases hm with rfl | rfl | rfl | rfl | rfl | rfl
      · exact .str _
      · exact .str _
      · exact readable_jsonFloat h.x
      · exact readable_jsonFloat h.y
      · exact readable_jsonOpt _
      · exact readable_jsonOpt _
    · exact h.extra member hm

/-! ### Reading a payload back -/

section Members

variable (payload)

@[simp] theorem field_robotTaskCode :
    Json.field (payload.declared ++ payload.extra) "robotTaskCode" = some (.str payload.robotTaskCode) :=
  rfl

@[simp] theorem field_method :
    Json.field (payload.declared ++ payload.extra) "method" = some (.str payload.method) := rfl

@[simp] theorem field_x :
    Json.field (payload.declared ++ payload.extra) "x" = some (jsonFloat payload.x) := rfl

@[simp] theorem field_y :
    Json.field (payload.declared ++ payload.extra) "y" = some (jsonFloat payload.y) := rfl

@[simp] theorem field_amrCode :
    Json.field (payload.declared ++ payload.extra) "amrCode" = some (jsonOpt payload.amrCode) := rfl

@[simp] theorem field_errorMsg :
    Json.field (payload.declared ++ payload.extra) "errorMsg" = some (jsonOpt payload.errorMsg) := rfl

end Members

theorem validateNonEmptyStr_str {fields : List (String × Json)} {key s : String} (hs : s ≠ "")
    (h : Json.field fields key = some (.str s)) : validateNonEmptyStr fields key = .ok ⟨s, hs⟩ := by
  rw [validateNonEmptyStr, h]
  exact dif_pos hs

theorem validateOptFloat_jsonFloat {floatOf : Json → Option PyFloat} {fields : List (String × Json)}
    {key : String} {o : Option PyFloat} (ho : ∀ f, o = some f → floatOf (.float f) = some f)
    (h : Json.field fields key = some (jsonFloat o)) : validateOptFloat floatOf fields key = .ok o := by
  rw [validateOptFloat, h]
  cases o with
  | none => rfl
  | some f =>
      dsimp only [jsonFloat]
      rw [ho f rfl]

theorem validateOptStr_jsonOpt {fields : List (String × Json)} {key : String} {o : Option String}
    (h : Json.field fields key = some (jsonOpt o)) : validateOptStr fields key = .ok o := by
  rw [validateOptStr, h]
  cases o <;> rfl

/-- The validation of a dump gives the payload. -/
theorem Sound.validate_dump (h : payload.Sound read) {floatOf : Json → Option PyFloat}
    (hfloat : ∀ f, Json.ReadsBack read f → floatOf (.float f) = some f) :
    modelValidate floatOf payload.modelDump = .ok payload := by
  have hx := validateOptFloat_jsonFloat (fun f hf => hfloat f (h.x f hf)) (field_x payload)
  have hy := validateOptFloat_jsonFloat (fun f hf => hfloat f (h.y f hf)) (field_y payload)
  have hextra : (payload.declared ++ payload.extra).filter
      (fun member => !aliases.contains member.1) = payload.extra := by
    rw [List.filter_append]
    have hnone : payload.declared.filter (fun member => !aliases.contains member.1) = [] := rfl
    rw [hnone, List.nil_append, List.filter_eq_self]
    intro member hm
    simpa using h.fresh member hm
  -- The dump has every alias, so no member is read by its Python name.
  show (do
    let robotTaskCode ← validateNonEmptyStr (payload.declared ++ payload.extra) "robotTaskCode"
    let method ← validateNonEmptyStr (payload.declared ++ payload.extra) "method"
    let x ← validateOptFloat floatOf (payload.declared ++ payload.extra) "x"
    let y ← validateOptFloat floatOf (payload.declared ++ payload.extra) "y"
    let amrCode ← validateOptStr (payload.declared ++ payload.extra) "amrCode"
    let errorMsg ← validateOptStr (payload.declared ++ payload.extra) "errorMsg"
    return {
      robotTaskCode := robotTaskCode.1, method := method.1, x, y, amrCode, errorMsg
      extra := (payload.declared ++ payload.extra).filter fun member => !aliases.contains member.1
      robotTaskCode_nonempty := robotTaskCode.2, method_nonempty := method.2 }) = Except.ok payload
  rw [validateNonEmptyStr_str payload.robotTaskCode_nonempty (field_robotTaskCode payload),
    validateNonEmptyStr_str payload.method_nonempty (field_method payload), hx, hy,
    validateOptStr_jsonOpt (field_amrCode payload), validateOptStr_jsonOpt (field_errorMsg payload)]
  simp only [bind, Except.bind, hextra]
  rfl

/-! ### The worker -/

/-- **A worker does with the message** what it does with the payload. -/
theorem Sound.receive_message (h : payload.Sound read) :
    receive read payload.message = processTaskFeedback payload := by
  have hamr : messageText (payload.declared ++ payload.extra) "amrCode" = .ok payload.amrCode := by
    rw [messageText, field_amrCode]
    cases payload.amrCode <;> rfl
  have herror : messageText (payload.declared ++ payload.extra) "errorMsg" = .ok payload.errorMsg := by
    rw [messageText, field_errorMsg]
    cases payload.errorMsg <;> rfl
  have hstate : ∀ target now, updateRobotStateOf (payload.declared ++ payload.extra) payload.amrCode
      target now = updateRobotState payload target now := fun target now => rfl
  rw [receive, message, Json.loads_dumpsDefault h.readable]
  show processMessage (payload.declared ++ payload.extra) = _
  rw [processMessage, processTaskFeedback, hamr, herror]
  rfl

/-- The reading that takes a float for itself, and nothing else for one. -/
def floatOnly : Json → Option PyFloat
  | .float f => some f
  | _ => none

/-- Different payloads have different messages. -/
theorem message_injective (h : payload.Sound read) (h' : payload'.Sound read)
    (heq : payload.message = payload'.message) : payload = payload' := by
  have hdump : payload.modelDump = payload'.modelDump := by
    have hread := Json.loads_dumpsDefault h.readable
    rw [show payload.modelDump.dumpsDefault = payload'.modelDump.dumpsDefault from heq,
      Json.loads_dumpsDefault h'.readable] at hread
    exact (Option.some.inj hread).symm
  have hfloat : ∀ f, Json.ReadsBack read f → floatOnly (.float f) = some f := fun _ _ => rfl
  -- A dump is validated to one payload.
  have hvalid := h.validate_dump hfloat
  rw [hdump, h'.validate_dump hfloat] at hvalid
  exact (Except.ok.inj hvalid).symm

/-! ### What the endpoint accepts -/

section Accepted

variable {α β : Type} {x : Except PyExc α} {f : α → Except PyExc β} {b : β}

theorem ok_of_bind (h : (x >>= f) = .ok b) : ∃ a, x = .ok a ∧ f a = .ok b := by
  cases x with
  | error e => cases h
  | ok a => exact ⟨a, rfl, h⟩

variable {floatOf : Json → Option PyFloat} {fields : List (String × Json)} {key : String}

theorem validateOptFloat_ok {o : Option PyFloat} (h : validateOptFloat floatOf fields key = .ok o)
    {f : PyFloat} (hf : o = some f) : ∃ v, floatOf v = some f := by
  subst hf
  rw [validateOptFloat] at h
  split at h
  · cases h
  · cases h
  · next v _ _ =>
    split at h
    · next heq =>
      cases h
      exact ⟨v, heq⟩
    · cases h

/-- A key of the object is the one a member is read from, if it is the alias. -/
theorem memberKey_of_mem {member : String × Json} (hm : member ∈ fields) (byName : String) :
    memberKey fields member.1 byName = member.1 := by
  have hsome : (Json.field fields member.1).isSome = true := by
    rw [Json.field, List.lookup_isSome_iff]
    exact ⟨member, hm, beq_self_eq_true _⟩
  rw [memberKey, if_pos hsome]

theorem sound_of_modelValidate {v : Json} (hv : Json.Readable read v)
    (hfloats : ∀ v f, floatOf v = some f → Json.ReadsBack read f)
    (h : modelValidate floatOf v = .ok payload) : payload.Sound read := by
  cases hv with
  | obj hkeys hmembers =>
    obtain ⟨code, -, h⟩ := ok_of_bind h
    obtain ⟨method, -, h⟩ := ok_of_bind h
    obtain ⟨x, hx, h⟩ := ok_of_bind h
    obtain ⟨y, hy, h⟩ := ok_of_bind h
    obtain ⟨amrCode, -, h⟩ := ok_of_bind h
    obtain ⟨errorMsg, -, h⟩ := ok_of_bind h
    cases h
    refine ⟨fun f hf => ?_, fun f hf => ?_, ?_, fun member hm hkey => ?_, fun member hm => ?_⟩
    · obtain ⟨w, hw⟩ := validateOptFloat_ok hx hf
      exact hfloats w f hw
    · obtain ⟨w, hw⟩ := validateOptFloat_ok hy hf
      exact hfloats w f hw
    · exact (List.filter_sublist.map _).nodup hkeys
    · obtain ⟨hmem, hunused⟩ := List.mem_filter.mp hm
      have hcode := memberKey_of_mem hmem "robot_task_code"
      have hamr := memberKey_of_mem hmem "amr_code"
      have herror := memberKey_of_mem hmem "error_msg"
      -- An alias is the key its member is read from, so it is no extra member.
      simp only [aliases, List.mem_cons, List.not_mem_nil, or_false] at hkey
      rcases hkey with heq | heq | heq | heq | heq | heq
      · rw [heq] at hcode
        simp [heq, hcode] at hunused
      · simp [heq] at hunused
      · simp [heq] at hunused
      · simp [heq] at hunused
      · rw [heq] at hamr
        simp [heq, hamr] at hunused
      · rw [heq] at herror
        simp [heq, herror] at hunused
    · exact hmembers member (List.mem_filter.mp hm).1
  | _ => cases h

end Accepted

end TaskFeedbackPayload

variable {router : WebhookRouter} {read : String → PyFloat}

/-- What the endpoint accepts comes back from its text. -/
theorem sound_of_payloadOf (h : router.ReadsTexts read) {raw : ByteArray}
    {payload : TaskFeedbackPayload} (hpayload : router.payloadOf raw = .ok payload) :
    payload.Sound read := by
  rw [WebhookRouter.payloadOf] at hpayload
  split at hpayload
  · next v hv =>
    have hloads : router.loads raw = .value v := by
      cases hbody : router.loads raw <;> rw [hbody] at hv <;> cases hv
      rfl
    obtain ⟨text, htext⟩ := h.loads _ _ hloads
    exact TaskFeedbackPayload.sound_of_modelValidate (Json.readable_of_loads h.back htext) h.floats
      hpayload
  · cases hpayload
  · cases hpayload

/-- A text of the payload, delivered, is accepted as the payload. -/
theorem payloadOf_text (h : router.ReadsTexts read) {payload : TaskFeedbackPayload}
    (hsound : payload.Sound read) {sp : String} (hsp : ∀ c ∈ sp.toList, Json.isBlank c = true) :
    router.payloadOf (payload.modelDump.dumpsSep sp).toUTF8 = .ok payload := by
  have hblank : Json.Ascii sp.toList := fun c hc => Json.ascii_of_blank (hsp c hc)
  have hascii : isAscii (payload.modelDump.dumpsSep sp) = true :=
    List.all_eq_true.mpr fun c hc => decide_eq_true (Json.ascii_dumpsSep hblank _ c hc)
  have hjson := h.ascii _ _ hascii (Json.loads_dumpsSep hsp hsound.readable)
  -- An empty body would be read as an empty object.
  have hfilled : (payload.modelDump.dumpsSep sp).toUTF8.isEmpty = false := by
    obtain ⟨c, cs, htext, -⟩ := Json.solid_text sp payload.modelDump
    by_contra hempty
    have hsize : (payload.modelDump.dumpsSep sp).toUTF8.size = 0 := by
      simpa [ByteArray.isEmpty] using hempty
    rw [String.toUTF8_eq_toByteArray, String.size_toByteArray, String.utf8ByteSize_eq_zero_iff] at hsize
    rw [hsize] at htext
    cases htext
  have hvalue : router.loads (payload.modelDump.dumpsSep sp).toUTF8 = .value payload.modelDump := by
    rw [WebhookRouter.loads, hfilled]
    exact hjson
  rw [WebhookRouter.payloadOf, hvalue]
  exact hsound.validate_dump h.float

/-- **An accepted feedback survives the wire.**  Whatever body the endpoint accepts, a body written
from what it has read of it, with any blanks, is accepted as the same feedback; and a worker does with
the message of it what it does with the feedback itself. -/
theorem feedback_survives_the_wire (h : router.ReadsTexts read) {raw : ByteArray}
    {payload : TaskFeedbackPayload} (hpayload : router.payloadOf raw = .ok payload) :
    (∀ sp : String, (∀ c ∈ sp.toList, Json.isBlank c = true) →
      router.payloadOf (payload.modelDump.dumpsSep sp).toUTF8 = .ok payload) ∧
    receive read payload.message = processTaskFeedback payload :=
  have hsound := sound_of_payloadOf h hpayload
  ⟨fun _ hsp => payloadOf_text h hsound hsp, hsound.receive_message⟩

/-! ### An endpoint that reads texts -/

/-- Reads the floats `12.5` and `0.0`. -/
def sampleRead (text : String) : PyFloat :=
  if text = "12.5" then .finite false 125 (-1) else .finite false 0 0

instance (read : String → PyFloat) (f : PyFloat) : Decidable (Json.ReadsBack read f) :=
  match f with
  | .finite negative digits exponent =>
      decidable_of_iff (read (PyFloat.finite negative digits exponent).repr =
        .finite negative digits exponent) ⟨fun h _ _ _ heq => heq ▸ h, fun h => h _ _ _ rfl⟩
  | .infinity _ | .nan => isTrue fun _ _ _ h => (by cases h)

theorem sampleRead_back (text : String) : Json.ReadsBack sampleRead (sampleRead text) := by
  have hboth : Json.ReadsBack sampleRead (.finite false 125 (-1)) ∧
      Json.ReadsBack sampleRead (.finite false 0 0) := by decide
  by_cases h : text = "12.5"
  · rw [show sampleRead text = .finite false 125 (-1) from if_pos h]
    exact hboth.1
  · rw [show sampleRead text = .finite false 0 0 from if_neg h]
    exact hboth.2

/-- `json.loads` on bytes in UTF-8. -/
def utf8Loads (read : String → PyFloat) (raw : ByteArray) : JsonBody :=
  match String.fromUTF8? raw with
  | none => .unicodeDecodeError
  | some text =>
      match Json.loads? read text with
      | some v => .value v
      | none => .jsonDecodeError

theorem fromUTF8?_toUTF8 (text : String) : String.fromUTF8? text.toUTF8 = some text :=
  dif_pos text.isValidUTF8

/-- The endpoint with the secret of `sampleService`, which takes a float for itself. -/
def textRouter : WebhookRouter where
  computeWebhookSignature := sampleService.computeWebhookSignature
  jsonLoads := utf8Loads sampleRead
  floatOf
    | .float f => if Json.ReadsBack sampleRead f then some f else none
    | _ => none
  signature_ascii := sampleRouter.signature_ascii

theorem textRouter_readsTexts : textRouter.ReadsTexts sampleRead where
  back := sampleRead_back
  loads raw v h := by
    change utf8Loads sampleRead raw = .value v at h
    rw [utf8Loads] at h
    split at h
    · cases h
    · next text _ =>
      split at h
      · next hv =>
        cases h
        exact ⟨text, hv⟩
      · cases h
  ascii text v _ h := by
    show utf8Loads sampleRead text.toUTF8 = .value v
    rw [utf8Loads, fromUTF8?_toUTF8]
    dsimp only
    rw [h]
  floats v f h := by
    cases v with
    | float g =>
        change (if Json.ReadsBack sampleRead g then some g else none) = some f at h
        split at h
        · next hback =>
          cases h
          exact hback
        · cases h
    | _ => cases h
  float _ h := if_pos h

theorem sampleEvent_robotTaskCode : "T7" ≠ "" := by decide

theorem sampleEvent_method : "outbin" ≠ "" := by decide

/-- An `outbin` of the task `T7` at `12.5`, with a member of its own. -/
def sampleEvent : TaskFeedbackPayload :=
  ⟨"T7", "outbin", some (.finite false 125 (-1)), none, some "A1", none, [("podCode", .str "P\n9")],
    sampleEvent_robotTaskCode, sampleEvent_method⟩

theorem sampleEvent_sound : sampleEvent.Sound sampleRead where
  x f h := by
    cases h
    exact sampleRead_back "12.5"
  y := nofun
  keys := by decide
  fresh := by decide
  extra member hm := by
    rw [List.mem_singleton.mp hm]
    exact .str _

theorem feedback_survives_the_wire_sample :
    textRouter.payloadOf (sampleEvent.modelDump.dumpsSep "\n").toUTF8 = .ok sampleEvent ∧
    receive sampleRead sampleEvent.message = processTaskFeedback sampleEvent := by
  have haccepted : textRouter.payloadOf (sampleEvent.modelDump.dumpsSep "").toUTF8 = .ok sampleEvent :=
    payloadOf_text textRouter_readsTexts sampleEvent_sound fun _ hc => absurd hc List.not_mem_nil
  obtain ⟨hagain, hworker⟩ := feedback_survives_the_wire textRouter_readsTexts haccepted
  exact ⟨hagain "\n" (List.all_eq_true.mp (by decide)), hworker⟩

end Rcs

import RcsMiddleware.Source.WebhookRouter
import RcsMiddleware.Webhook.Windows

/-!
# Webhook — Endpoint

What a sender without the secret is answered.  The endpoint parses and validates the body before it
checks the signature, and the check compares strings in a way that only ASCII survives.  Of what can
go wrong on the way only `JSONDecodeError` is turned into `WebhookSignatureError`; a body that is not
in its encoding, that is no object or that lacks a member, and a signature that is not ASCII, are
answered as an internal error (`unsigned_answered_500`).

* `modelValidate_ok_iff`: which objects are a `TaskFeedbackPayload`.
* `unsigned_answered_401_iff`: when a sender without the secret is answered 401.
-/

namespace Rcs

open Support Support.Text Support.Prog

/-! ### Validation -/

/-- The object has the members of a `TaskFeedbackPayload`. -/
structure IsFeedback (floatOf : Json → Option PyFloat) (fields : List (String × Json)) : Prop where
  robotTaskCode : ∃ s, s ≠ "" ∧
    Json.field fields (memberKey fields "robotTaskCode" "robot_task_code") = some (.str s)
  method : ∃ s, s ≠ "" ∧ Json.field fields "method" = some (.str s)
  x : ∀ v, Json.field fields "x" = some v → v = .null ∨ (floatOf v).isSome
  y : ∀ v, Json.field fields "y" = some v → v = .null ∨ (floatOf v).isSome
  amrCode : ∀ v, Json.field fields (memberKey fields "amrCode" "amr_code") = some v →
    v = .null ∨ ∃ s, v = .str s
  errorMsg : ∀ v, Json.field fields (memberKey fields "errorMsg" "error_msg") = some v →
    v = .null ∨ ∃ s, v = .str s

variable {fields : List (String × Json)} {key : String} {floatOf : Json → Option PyFloat}

theorem validateNonEmptyStr_ok_iff :
    (∃ s, validateNonEmptyStr fields key = .ok s) ↔
      ∃ s, s ≠ "" ∧ Json.field fields key = some (.str s) := by
  rw [validateNonEmptyStr]
  cases Json.field fields key with
  | none => simp
  | some v =>
      cases v with
      | str s => by_cases hs : s = "" <;> simp [hs]
      | _ => simp

theorem validateOptFloat_ok_iff :
    (∃ f, validateOptFloat floatOf fields key = .ok f) ↔
      ∀ v, Json.field fields key = some v → v = .null ∨ (floatOf v).isSome := by
  rw [validateOptFloat]
  cases Json.field fields key with
  | none => simp
  | some v =>
      cases v with
      | null => simp
      | bool _ | int _ | float _ | str _ | arr _ | obj _ =>
          dsimp only
          split <;> simp [*]

theorem validateOptStr_ok_iff :
    (∃ s, validateOptStr fields key = .ok s) ↔
      ∀ v, Json.field fields key = some v → v = .null ∨ ∃ s, v = .str s := by
  rw [validateOptStr]
  cases Json.field fields key with
  | none => simp
  | some v => cases v <;> simp

/-- A computation succeeds when its first part does and then the rest does. -/
theorem exists_ok_bind {α β : Type} {x : Except PyExc α} {f : α → Except PyExc β} :
    (∃ b, (x >>= f) = .ok b) ↔ ∃ a, x = .ok a ∧ ∃ b, f a = .ok b := by
  cases x with
  | error e => exact ⟨fun ⟨b, hb⟩ => (by cases hb), fun ⟨a, ha, _⟩ => (by cases ha)⟩
  | ok a => exact ⟨fun h => ⟨a, rfl, h⟩, fun ⟨a', ha, h⟩ => by cases ha; exact h⟩

/-- **What the validation accepts.** -/
theorem modelValidate_ok_iff {v : Json} :
    (∃ payload, TaskFeedbackPayload.modelValidate floatOf v = .ok payload) ↔
      ∃ fields, v = .obj fields ∧ IsFeedback floatOf fields := by
  cases v with
  | obj fields =>
      constructor
      · intro h
        simp only [TaskFeedbackPayload.modelValidate, exists_ok_bind] at h
        obtain ⟨code, hcode, method, hmethod, x, hx, y, hy, amr, hamr, msg, hmsg, -⟩ := h
        refine ⟨fields, rfl, ?_⟩
        exact {
          robotTaskCode := validateNonEmptyStr_ok_iff.mp ⟨code, hcode⟩
          method := validateNonEmptyStr_ok_iff.mp ⟨method, hmethod⟩
          x := validateOptFloat_ok_iff.mp ⟨x, hx⟩
          y := validateOptFloat_ok_iff.mp ⟨y, hy⟩
          amrCode := validateOptStr_ok_iff.mp ⟨amr, hamr⟩
          errorMsg := validateOptStr_ok_iff.mp ⟨msg, hmsg⟩ }
      · rintro ⟨fields', hv, h⟩
        cases hv
        obtain ⟨code, hcode⟩ := validateNonEmptyStr_ok_iff.mpr h.robotTaskCode
        obtain ⟨method, hmethod⟩ := validateNonEmptyStr_ok_iff.mpr h.method
        obtain ⟨x, hx⟩ := validateOptFloat_ok_iff.mpr h.x
        obtain ⟨y, hy⟩ := validateOptFloat_ok_iff.mpr h.y
        obtain ⟨amr, hamr⟩ := validateOptStr_ok_iff.mpr h.amrCode
        obtain ⟨msg, hmsg⟩ := validateOptStr_ok_iff.mpr h.errorMsg
        simp only [TaskFeedbackPayload.modelValidate, exists_ok_bind]
        exact ⟨code, hcode, method, hmethod, x, hx, y, hy, amr, hamr, msg, hmsg, _, rfl⟩
  | null | bool _ | int _ | float _ | str _ | arr _ =>
      exact ⟨fun ⟨_, h⟩ => (by cases h), fun ⟨_, h, _⟩ => (by cases h)⟩

/-- The exceptions of a computation are those of its first part and of the rest. -/
theorem bind_raises {α β : Type} {E : PyExc → Prop} {x : Except PyExc α} {f : α → Except PyExc β}
    (hx : ∀ e, x = .error e → E e) (hf : ∀ a e, f a = .error e → E e) :
    ∀ e, (x >>= f) = .error e → E e := by
  cases x with
  | error e' =>
      intro e h
      exact hx e (congrArg Except.error (Except.error.inj h))
  | ok a => exact hf a

theorem validateNonEmptyStr_error {e : PyExc} (h : validateNonEmptyStr fields key = .error e) :
    e = .validationError key := by
  rw [validateNonEmptyStr] at h
  split at h
  · split at h
    · cases h
    · exact (Except.error.inj h).symm
  · exact (Except.error.inj h).symm

theorem validateOptFloat_error {e : PyExc} (h : validateOptFloat floatOf fields key = .error e) :
    e = .validationError key := by
  rw [validateOptFloat] at h
  split at h
  · cases h
  · cases h
  · split at h
    · cases h
    · exact (Except.error.inj h).symm

theorem validateOptStr_error {e : PyExc} (h : validateOptStr fields key = .error e) :
    e = .validationError key := by
  rw [validateOptStr] at h
  split at h
  · cases h
  · cases h
  · cases h
  · exact (Except.error.inj h).symm

/-- The validation raises a `ValidationError` and nothing else. -/
theorem modelValidate_error {v : Json} : ∀ e,
    TaskFeedbackPayload.modelValidate floatOf v = .error e →
    ∃ field, e = .validationError field := by
  cases v with
  | obj fields =>
      rw [TaskFeedbackPayload.modelValidate]
      refine bind_raises (fun _ h => ⟨_, validateNonEmptyStr_error h⟩) fun _ => ?_
      refine bind_raises (fun _ h => ⟨_, validateNonEmptyStr_error h⟩) fun _ => ?_
      refine bind_raises (fun _ h => ⟨_, validateOptFloat_error h⟩) fun _ => ?_
      refine bind_raises (fun _ h => ⟨_, validateOptFloat_error h⟩) fun _ => ?_
      refine bind_raises (fun _ h => ⟨_, validateOptStr_error h⟩) fun _ => ?_
      refine bind_raises (fun _ h => ⟨_, validateOptStr_error h⟩) fun _ => ?_
      intro e h
      cases h
  | null | bool _ | int _ | float _ | str _ | arr _ =>
      intro e h
      exact ⟨_, (Except.error.inj h).symm⟩

/-! ### The session -/

/-- No store fails, but a commit of the audit log may. -/
def logFault (f : Fault) : Op → Env
  | .commit _ => { fault := f }
  | _ => {}

variable {f : Fault} {w : World Unit}

theorem getDbSession_result {α : Type} (p : M α) :
    ((getDbSession p).run (fun o => respond () (logFault f o) o) w).1 =
      (p.run (fun o => respond () (logFault f o) o) w).1 := by
  rw [getDbSession, withSession, run_tryFinally, run_tryCatch]
  rcases p.run (fun o => respond () (logFault f o) o) w with ⟨e | a, w'⟩
  · rfl
  · rfl

theorem logEvent_result (service : WebhookService) (payload : TaskFeedbackPayload)
    (sigValid duplicate : Bool) :
    ((service.logEvent payload sigValid duplicate).run (fun o => respond () (logFault f o) o) w).1 =
      .ok () := by
  rw [WebhookService.logEvent]
  split
  · rw [run_tryCatch, run_perform]
    generalize respond () (logFault f (.commit _)) (.commit _) w = r
    obtain ⟨e | u, w'⟩ := r
    · rfl
    · rfl
  · rfl

/-! ### The body -/

namespace WebhookRouter

variable {router : WebhookRouter} {raw : ByteArray} {signature : Option String}
  {requestId : String}

/-- The body is an object with the members of a `TaskFeedbackPayload`. -/
def HasFeedback (router : WebhookRouter) (raw : ByteArray) : Prop :=
  ∃ fields, router.loads raw = .value (.obj fields) ∧ IsFeedback router.floatOf fields

theorem payloadOf_of_feedback (h : router.HasFeedback raw) :
    ∃ payload, router.payloadOf raw = .ok payload := by
  obtain ⟨fields, hloads, hfields⟩ := h
  obtain ⟨payload, hpayload⟩ := modelValidate_ok_iff.mpr ⟨fields, rfl, hfields⟩
  refine ⟨payload, ?_⟩
  rw [payloadOf, hloads]
  exact hpayload

theorem payloadOf_of_not_json (h : router.loads raw = .jsonDecodeError) :
    router.payloadOf raw = .error (webhookSignatureError "Webhook body is not valid JSON") := by
  rw [payloadOf, h]
  rfl

/-- Every other body raises something that is not an application's error. -/
theorem payloadOf_of_other (hjson : router.loads raw ≠ .jsonDecodeError)
    (h : ¬ router.HasFeedback raw) :
    ∃ e, router.payloadOf raw = .error e ∧ ∀ exc, e ≠ .app exc := by
  rw [payloadOf]
  cases hloads : router.loads raw with
  | value v =>
      cases hv : TaskFeedbackPayload.modelValidate router.floatOf v with
      | ok payload =>
          obtain ⟨fields, rfl, hfields⟩ := modelValidate_ok_iff.mp ⟨payload, hv⟩
          exact absurd ⟨fields, hloads, hfields⟩ h
      | error e =>
          obtain ⟨field, rfl⟩ := modelValidate_error _ hv
          exact ⟨_, hv, fun _ he => by cases he⟩
  | jsonDecodeError => exact absurd hloads hjson
  | unicodeDecodeError | valueError | recursionError => exact ⟨_, rfl, fun _ he => by cases he⟩

/-! ### The signature -/

/-- The value of the header is not, after stripping, the HMAC of the body. -/
def Unsigned (router : WebhookRouter) (raw : ByteArray) (signature : Option String) : Prop :=
  ∀ s, signature = some s → strip s ≠ router.computeWebhookSignature raw

/-- The value of the header, stripped, can be compared with a digest. -/
def Comparable (signature : Option String) : Prop :=
  ∀ s, signature = some s → isAscii (strip s) = true

theorem verify_of_comparable (h : router.Unsigned raw signature) (hc : Comparable signature) :
    ∃ message, router.service.verifyWebhookSignature raw signature =
      .error (webhookSignatureError message) := by
  rw [WebhookService.verifyWebhookSignature]
  cases hs : truthy signature with
  | none => exact ⟨_, rfl⟩
  | some s =>
      obtain ⟨rfl, -⟩ := truthy_eq_some.mp hs
      have hdigest : compareDigest (router.computeWebhookSignature raw) (strip s) = .ok false := by
        rw [compareDigest, router.signature_ascii raw, hc s rfl, Bool.and_self, if_pos rfl,
          beq_false_of_ne (h s rfl).symm]
      refine ⟨"Webhook signature mismatch", ?_⟩
      dsimp only
      rw [service, hdigest]
      rfl

theorem verify_of_not_comparable (router : WebhookRouter) (raw : ByteArray)
    (hc : ¬ Comparable signature) :
    ∃ message, router.service.verifyWebhookSignature raw signature =
      .error (.typeError message) := by
  obtain ⟨s, rfl, hs⟩ : ∃ s, signature = some s ∧ isAscii (strip s) = false := by
    simpa [Comparable] using hc
  have hne : s ≠ "" := by
    rintro rfl
    exact absurd hs (by decide)
  have hdigest : compareDigest (router.computeWebhookSignature raw) (strip s) =
      .error (.typeError "comparing strings with non-ASCII characters is not supported") := by
    rw [compareDigest, hs, Bool.and_false]
    rfl
  refine ⟨"comparing strings with non-ASCII characters is not supported", ?_⟩
  rw [WebhookService.verifyWebhookSignature, truthy_some hne]
  dsimp only
  rw [service, hdigest]
  rfl

/-! ### The answer -/

theorem outcome_of_body_error {e : PyExc} (h : router.payloadOf raw = .error e) :
    router.outcome requestId raw signature (logFault f) w = .error e := by
  rw [outcome, getDbSession_result, taskFeedback, h]
  rfl

theorem outcome_of_signature_error {payload : TaskFeedbackPayload} {e : PyExc}
    (hp : router.payloadOf raw = .ok payload)
    (hv : router.service.verifyWebhookSignature raw signature = .error e) :
    router.outcome requestId raw signature (logFault f) w = .error e := by
  rw [outcome, getDbSession_result, taskFeedback, hp, bind_eq, Prog.ofExcept, bind_ret, bind_eq,
    run_bind, WebhookService.handleTaskFeedback, hv]
  dsimp only
  split
  · rw [bind_eq, run_bind]
    have hlog := logEvent_result (f := f) (w := w) router.service payload false false
    generalize (router.service.logEvent payload false false).run _ w = r at hlog ⊢
    obtain ⟨e' | u, w'⟩ := r
    · cases hlog
    · rfl
  · rfl

/-- The endpoint raises `WebhookSignatureError`, and the sender is answered 401. -/
def AnswersUnsigned (router : WebhookRouter) (requestId : String) (raw : ByteArray)
    (signature : Option String) (env : Op → Env) (w : World Unit) : Prop :=
  ∃ exc : AppError, exc.cls = .webhookSignatureError ∧
    router.outcome requestId raw signature env w = .error (.app exc) ∧
    respondWith requestId (router.outcome requestId raw signature env w) =
      { statusCode := 401
        content := errorEnvelope requestId "WEBHOOK_SIGNATURE_INVALID" exc.message }

theorem answersUnsigned_of_signature_error {message : String}
    (h : router.outcome requestId raw signature (logFault f) w =
      .error (webhookSignatureError message)) :
    router.AnswersUnsigned requestId raw signature (logFault f) w :=
  ⟨_, rfl, h, by rw [h]; rfl⟩

theorem not_answersUnsigned_of_other {e : PyExc} (he : ∀ exc, e ≠ .app exc)
    (h : router.outcome requestId raw signature (logFault f) w = .error e) :
    ¬ router.AnswersUnsigned requestId raw signature (logFault f) w := by
  rintro ⟨exc, -, hexc, -⟩
  exact he exc (Except.error.inj (h.symm.trans hexc))

/-- **An unsigned request is answered 401** when its body is not JSON; or when the body is an object
with the members of a `TaskFeedbackPayload` and the signature can be compared with a digest. -/
theorem unsigned_answered_401_iff (router : WebhookRouter) (requestId : String) {raw : ByteArray}
    {signature : Option String} (h : router.Unsigned raw signature) (f : Fault) (w : World Unit) :
    router.AnswersUnsigned requestId raw signature (logFault f) w ↔
      router.loads raw = .jsonDecodeError ∨ (router.HasFeedback raw ∧ Comparable signature) := by
  by_cases hjson : router.loads raw = .jsonDecodeError
  · refine ⟨fun _ => .inl hjson, fun _ => ?_⟩
    exact answersUnsigned_of_signature_error (outcome_of_body_error (payloadOf_of_not_json hjson))
  by_cases hbody : router.HasFeedback raw
  · obtain ⟨payload, hp⟩ := payloadOf_of_feedback hbody
    by_cases hc : Comparable signature
    · refine ⟨fun _ => .inr ⟨hbody, hc⟩, fun _ => ?_⟩
      obtain ⟨message, hv⟩ := verify_of_comparable h hc
      exact answersUnsigned_of_signature_error (outcome_of_signature_error hp hv)
    · obtain ⟨message, hv⟩ := verify_of_not_comparable router raw hc
      have hnot : ¬ router.AnswersUnsigned requestId raw signature (logFault f) w :=
        not_answersUnsigned_of_other (fun _ he => by cases he) (outcome_of_signature_error hp hv)
      exact ⟨fun hans => absurd hans hnot, fun hor => absurd (hor.resolve_left hjson).2 hc⟩
  · obtain ⟨e, hp, he⟩ := payloadOf_of_other hjson hbody
    have hnot : ¬ router.AnswersUnsigned requestId raw signature (logFault f) w :=
      not_answersUnsigned_of_other he (outcome_of_body_error hp)
    exact ⟨fun hans => absurd hans hnot, fun hor => absurd (hor.resolve_left hjson).1 hbody⟩

end WebhookRouter

/-! ### A sender without the secret -/

/-- `json.loads` on the two bodies below. -/
def sampleLoads (body : ByteArray) : JsonBody :=
  if body.data = "[]".toUTF8.data then .value (.arr [])
  else if body.data = sampleDelivery.rawBody.data then
    .value (.obj [("robotTaskCode", .str "T7"), ("method", .str "outbin")])
  else .jsonDecodeError

/-- The endpoint with the secret of `sampleService`. -/
def sampleRouter : WebhookRouter where
  computeWebhookSignature := sampleService.computeWebhookSignature
  jsonLoads := sampleLoads
  floatOf _ := none
  signature_ascii _ := by
    show isAscii (sampleService.computeWebhookSignature .empty) = true
    decide

theorem unsigned_answered_401_sample :
    sampleRouter.AnswersUnsigned "r1" sampleDelivery.rawBody (some "00") (logFault .none) {} := by
  have hfeedback : sampleRouter.HasFeedback sampleDelivery.rawBody := by
    refine ⟨[("robotTaskCode", .str "T7"), ("method", .str "outbin")], by rfl, ?_⟩
    exact {
      robotTaskCode := ⟨"T7", by decide, rfl⟩
      method := ⟨"outbin", by decide, rfl⟩
      x := fun v hv => by cases hv
      y := fun v hv => by cases hv
      amrCode := fun v hv => by cases hv
      errorMsg := fun v hv => by cases hv }
  have hunsigned : sampleRouter.Unsigned sampleDelivery.rawBody (some "00") := by
    rintro s ⟨rfl⟩
    decide
  refine (sampleRouter.unsigned_answered_401_iff "r1" hunsigned .none {}).mpr (.inr ⟨hfeedback, ?_⟩)
  rintro s ⟨rfl⟩
  decide

/-- **An unsigned request is answered 500**: a JSON list without a signature, and an event with a
signature that is not ASCII. -/
theorem unsigned_answered_500 :
    (sampleRouter.Unsigned "[]".toUTF8 none ∧
      ¬ sampleRouter.AnswersUnsigned "r1" "[]".toUTF8 none (logFault .none) {} ∧
      (respondWith "r1" (sampleRouter.outcome "r1" "[]".toUTF8 none (logFault .none) {})).statusCode
        = 500) ∧
    (sampleRouter.Unsigned sampleDelivery.rawBody (some "é") ∧
      ¬ sampleRouter.AnswersUnsigned "r1" sampleDelivery.rawBody (some "é") (logFault .none) {} ∧
      (respondWith "r1" (sampleRouter.outcome "r1" sampleDelivery.rawBody (some "é")
        (logFault .none) {})).statusCode = 500) := by
  have hlist : sampleRouter.outcome "r1" "[]".toUTF8 none (logFault .none) {} =
      .error (.validationError "TaskFeedbackPayload") := by rfl
  have haccent : sampleRouter.outcome "r1" sampleDelivery.rawBody (some "é") (logFault .none) {} =
      .error (.typeError "comparing strings with non-ASCII characters is not supported") := by rfl
  refine ⟨⟨fun s hs => (by cases hs), ?_, by rw [hlist]; rfl⟩, ⟨?_, ?_, by rw [haccent]; rfl⟩⟩
  · rintro ⟨exc, -, hexc, -⟩
    cases hlist.symm.trans hexc
  · rintro s ⟨rfl⟩
    decide
  · rintro ⟨exc, -, hexc, -⟩
    cases haccent.symm.trans hexc

end Rcs

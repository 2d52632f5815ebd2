import RcsMiddleware.Source.WebhookService

/-!
# Source — WebhookRouter

The endpoint of `api/v1/routers/webhooks.py`: it parses the body, validates it as a
`TaskFeedbackPayload` and hands it to the service, in a session of its own.  What escapes it is
answered by the handlers of `core/exceptions.py`.  `json.loads` on bytes, the HMAC of a body and how
pydantic reads a value as a `float` are parameters.
-/

namespace Rcs

open Support Support.Text

/-! ### Responses -/

/-- `ErrorDetail`. -/
structure ErrorDetail where
  code : String
  message : String
  details : Option (List (String × Json)) := none

/-- `StandardResponse[T]`. -/
structure StandardResponse (α : Type) where
  success : Bool
  requestId : String := ""
  data : Option α := none
  error : Option ErrorDetail := none

/-- A response: its status code and its body. -/
structure JSONResponse (α : Type) where
  statusCode : Nat
  content : StandardResponse α

/-- `_envelope`. -/
def errorEnvelope {α : Type} (requestId code message : String)
    (details : Option (List (String × Json)) := none) : StandardResponse α where
  success := false
  requestId := requestId
  error := some { code, message, details }

/-- `_app_error_handler`. -/
def appErrorHandler {α : Type} (requestId : String) (exc : AppError) : JSONResponse α where
  statusCode := exc.httpStatus
  content := errorEnvelope requestId exc.code exc.message exc.details

/-- `_unhandled_handler`. -/
def unhandledHandler {α : Type} (requestId : String) : JSONResponse α where
  statusCode := 500
  content := errorEnvelope requestId "INTERNAL_ERROR" "Internal server error"

/-- The handler `register_exception_handlers` finds for an exception.  Nothing in `PyExc` is a
`StarletteHTTPException` or a `RequestValidationError`. -/
def handleException {α : Type} (requestId : String) : PyExc → JSONResponse α
  | .app exc => appErrorHandler requestId exc
  | _ => unhandledHandler requestId

/-- The response to what an endpoint returns or raises. -/
def respondWith {α : Type} (requestId : String) :
    Except PyExc (StandardResponse α) → JSONResponse α
  | .ok content => { statusCode := 200, content }
  | .error e => handleException requestId e

/-- `p` in the session of `get_db_session`. -/
def getDbSession {α : Type} (p : M α) : M α :=
  withSession (Prog.tryCatch p fun e => do perform .rollback; throw e)

/-! ### The body -/

/-- What `json.loads` does: return a value, or raise. -/
def JsonBody.read : JsonBody → Except PyExc Json
  | .value v => .ok v
  | .jsonDecodeError => .error (.jsonDecodeError "Expecting value")
  | .unicodeDecodeError => .error (.unicodeDecodeError "invalid start byte")
  | .valueError => .error (.valueError "Exceeds the limit for integer string conversion")
  | .recursionError => .error .recursionError

/-- The key a member is read from: its alias, or its name where the alias is absent
(`populate_by_name`). -/
def memberKey (fields : List (String × Json)) (byAlias byName : String) : String :=
  if (Json.field fields byAlias).isSome then byAlias else byName

/-- A `str` member with `min_length=1`. -/
def validateNonEmptyStr (fields : List (String × Json)) (key : String) :
    Except PyExc { s : String // s ≠ "" } :=
  match Json.field fields key with
  | some (.str s) => if h : s ≠ "" then .ok ⟨s, h⟩ else .error (.validationError key)
  | _ => .error (.validationError key)

/-- An `Optional[float]` member. -/
def validateOptFloat (floatOf : Json → Option PyFloat) (fields : List (String × Json))
    (key : String) : Except PyExc (Option PyFloat) :=
  match Json.field fields key with
  | none | some .null => .ok none
  | some v =>
      match floatOf v with
      | some f => .ok (some f)
      | none => .error (.validationError key)

/-- `TaskFeedbackPayload.model_validate(data)`. -/
def TaskFeedbackPayload.modelValidate (floatOf : Json → Option PyFloat) :
    Json → Except PyExc TaskFeedbackPayload
  | .obj fields => do
      let robotTaskCodeKey := memberKey fields "robotTaskCode" "robot_task_code"
      let amrCodeKey := memberKey fields "amrCode" "amr_code"
      let errorMsgKey := memberKey fields "errorMsg" "error_msg"
      let robotTaskCode ← validateNonEmptyStr fields robotTaskCodeKey
      let method ← validateNonEmptyStr fields "method"
      let x ← validateOptFloat floatOf fields "x"
      let y ← validateOptFloat floatOf fields "y"
      let amrCode ← validateOptStr fields amrCodeKey
      let errorMsg ← validateOptStr fields errorMsgKey
      let used := [robotTaskCodeKey, "method", "x", "y", amrCodeKey, errorMsgKey]
      return {
        robotTaskCode := robotTaskCode.1, method := method.1, x, y, amrCode, errorMsg
        extra := fields.filter fun member => !used.contains member.1
        robotTaskCode_nonempty := robotTaskCode.2, method_nonempty := method.2 }
  | _ => .error (.validationError "TaskFeedbackPayload")

/-! ### The endpoint -/

/-- What the endpoint relies on: the HMAC of a body under `WEBHOOK_SECRET`, in hexadecimal,
`json.loads` on bytes, and how pydantic reads a value as a `float`. -/
structure WebhookRouter where
  computeWebhookSignature : ByteArray → String
  jsonLoads : ByteArray → JsonBody
  floatOf : Json → Option PyFloat
  signature_ascii : ∀ body, isAscii (computeWebhookSignature body) = true

namespace WebhookRouter

/-- The service the endpoint builds. -/
def service (router : WebhookRouter) : WebhookService where
  computeWebhookSignature := router.computeWebhookSignature
  session := true

/-- `json.loads(raw or b"{}")`. -/
def loads (router : WebhookRouter) (raw : ByteArray) : JsonBody :=
  router.jsonLoads (if raw.isEmpty then "\x7b\x7d".toUTF8 else raw)

/-- The first lines of the endpoint: the body, parsed and validated. -/
def payloadOf (router : WebhookRouter) (raw : ByteArray) : Except PyExc TaskFeedbackPayload :=
  match (router.loads raw).read with
  | .ok payloadDict => TaskFeedbackPayload.modelValidate router.floatOf payloadDict
  | .error (.jsonDecodeError _) =>
      .error (webhookSignatureError "Webhook body is not valid JSON")
  | .error e => .error e

/-- `task_feedback`. -/
def taskFeedback (router : WebhookRouter) (requestId : String) (raw : ByteArray)
    (signature : Option String) : M (StandardResponse WebhookAck) := do
  let payload ← Prog.ofExcept (router.payloadOf raw)
  let ack ← router.service.handleTaskFeedback ⟨raw, signature, payload⟩
  return { success := true, requestId, data := some ack }

/-- What the endpoint returns or raises, the operations answered as `env` says. -/
def outcome (router : WebhookRouter) (requestId : String) (raw : ByteArray)
    (signature : Option String) (env : Op → Env) (w : World Unit) :
    Except PyExc (StandardResponse WebhookAck) :=
  ((getDbSession (router.taskFeedback requestId raw signature)).run
    (fun o => respond () (env o) o) w).1

end WebhookRouter

end Rcs

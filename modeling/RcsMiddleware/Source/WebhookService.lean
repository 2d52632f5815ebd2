import RcsMiddleware.Source.World

/-!
# Source — WebhookService

`services/webhook_service.py`, and the signature check of `core/security.py`.  A delivery is
verified, deduplicated by an atomic `SET NX`, logged and enqueued.  The HMAC of a body under
`WEBHOOK_SECRET` is a parameter.
-/

namespace Rcs

open Support Support.Text

def webhookDedupeTtlSeconds : Nat := 3600

/-- `utils.redis_helper.webhook_dedupe_key`. -/
def webhookDedupeKey (robotTaskCode method : String) : String :=
  "webhook:dedupe:" ++ robotTaskCode ++ ":" ++ method

/-- `WebhookSignatureError(message)`. -/
def webhookSignatureError (message : String) : PyExc :=
  .app (.mk' .webhookSignatureError (some message) none none)

/-- `isinstance(exc, WebhookSignatureError)`. -/
def PyExc.isWebhookSignatureError : PyExc → Bool
  | .app e => e.cls = .webhookSignatureError
  | _ => false

def isAscii (s : String) : Bool := s.toList.all fun c => c.toNat < 128

/-- `hmac.compare_digest` on two strings, which must be ASCII. -/
def compareDigest (a b : String) : Except PyExc Bool :=
  if isAscii a && isAscii b then .ok (a == b)
  else .error (.typeError "comparing strings with non-ASCII characters is not supported")

/-- A delivery of a feedback: the request body, its signature header, and the parsed body. -/
structure Delivery where
  rawBody : ByteArray
  signature : Option String
  payload : TaskFeedbackPayload

/-- `WebhookService`: the HMAC of a body, and whether the service was given a session. -/
structure WebhookService where
  computeWebhookSignature : ByteArray → String
  session : Bool := true

/-- `verify_webhook_signature`. -/
def WebhookService.verifyWebhookSignature (service : WebhookService) (body : ByteArray)
    (signature : Option String) : Except PyExc Unit :=
  match truthy signature with
  | none => .error (webhookSignatureError "Missing webhook signature header")
  | some signature => do
      if ← compareDigest (service.computeWebhookSignature body) (strip signature) then return ()
      else throw (webhookSignatureError "Webhook signature mismatch")

/-- The row `_log_event` adds. -/
def webhookLogOf (payload : TaskFeedbackPayload) (sigValid duplicate : Bool) : WebhookLog where
  robotTaskCode := payload.robotTaskCode
  method := payload.method
  amrCode := payload.amrCode
  x := payload.x
  y := payload.y
  signatureValid := sigValid
  duplicate := duplicate

/-- `_log_event`: a row that cannot be committed is rolled back, and no more. -/
def WebhookService.logEvent (service : WebhookService) (payload : TaskFeedbackPayload)
    (sigValid duplicate : Bool) : M Unit :=
  if service.session then
    Prog.tryCatch (perform (.commit [.insertLog (webhookLogOf payload sigValid duplicate)]))
      fun _ => perform .rollback
  else return ()

/-- Steps 2 to 4 of `handle_task_feedback`, after the signature is verified. -/
def WebhookService.handleVerified (service : WebhookService) (payload : TaskFeedbackPayload) :
    M WebhookAck := do
  let first ← perform (.redisSetNx (webhookDedupeKey payload.robotTaskCode payload.method)
    (.text "1") webhookDedupeTtlSeconds)
  if first then do
    service.logEvent payload true false
    perform (.delay payload)
    return { acknowledged := true, duplicate := false }
  else do
    service.logEvent payload true true
    return { acknowledged := true, duplicate := true }

/-- `handle_task_feedback`. -/
def WebhookService.handleTaskFeedback (service : WebhookService) (delivery : Delivery) :
    M WebhookAck :=
  match service.verifyWebhookSignature delivery.rawBody delivery.signature with
  | .error e =>
      if e.isWebhookSignatureError then do
        service.logEvent delivery.payload false false
        throw e
      else throw e
  | .ok () => service.handleVerified delivery.payload

end Rcs

import RcsMiddleware.Source.RcsPath
import RcsMiddleware.Source.TaskService

/-!
# Source — RcsSubmitService

`services/rcs_submit_service.py`: sending a request of the caller's own making to RCS.  As in
`TaskService.lean`, the parts of `submit_raw` between two operations have names: `submitRaw` (the
path and the lookup), `sendRaw`, `recordRaw`, `finishRaw`.
-/

namespace Rcs

open Support Support.Text

/-- `_idem_key`. -/
def idemKey (clientKey : String) : String := "idempotency:rcs_raw:" ++ clientKey

/-- `_raw_fingerprint`. -/
def rawFingerprint (method : HttpMethod) (path : String) (body : Option (List (String × Json)))
    (sendSigned : Bool) : String :=
  Json.dumpsSorted (.obj [("method", .str method.upper), ("path", .str path),
    ("body", .obj (body.getD [])), ("sendSigned", .bool sendSigned)])

/-- The `code` texts of the steps of a route. -/
def routeCodes (steps : List Json) : List String :=
  steps.filterMap fun step =>
    match step with
    | .obj fields =>
        match Json.field fields "code" with
        | some (.str c) => some c
        | _ => none
    | _ => none

/-- A member that is kept only when it is text. -/
def strMember (fields : List (String × Json)) (name : String) : Option String :=
  match Json.field fields name with
  | some (.str s) => some s
  | _ => none

/-- `_meta_from_body`: the source and target codes of a body. -/
def metaFromBody (body : Option (List (String × Json))) : Option String × Option String :=
  match body with
  | none | some [] => (none, none)
  | some fields =>
      let target := match Json.field fields "targetRoute" with
        | some (.arr steps) =>
            if routeCodes steps = [] then none else some (" → ".intercalate (routeCodes steps))
        | some (.obj route) => strMember route "targetCode"
        | _ => none
      (strMember fields "sourceCode", target <|> strMember fields "targetCode")

/-! ### The idempotency cache -/

/-- What `_lookup_idempotency` makes of a document it finds under the key. -/
def readRawEnvelope (key : String) (request : RcsRawSubmitRequest) (document : Json) :
    Except PyExc RcsRawSubmitResult := do
  let path ← normalizeRcsPath request.path
  let stored ← dictGet document "fingerprint"
  let expected := rawFingerprint request.method path request.body request.sendSigned
  if Json.eqStr stored expected then
    RcsRawSubmitResult.modelValidate (Json.orEmpty (← dictGet document "result"))
  else
    throw (.app (.mk' .duplicateTaskError
      (some "Idempotency-Key reused with a different RCS request.") none
      (some [("idempotency_key", .str key)])))

/-- What a lookup makes of the entry it reads. -/
def readRawCached (key : String) (request : RcsRawSubmitRequest) (raw : Option RedisValue) :
    Except PyExc (Option RcsRawSubmitResult) :=
  match cachedDocument raw with
  | none => .ok none
  | some document => (readRawEnvelope key request document).map some

/-- `_lookup_idempotency`. -/
def lookupRaw (key : String) (request : RcsRawSubmitRequest) : M (Option RcsRawSubmitResult) := do
  let raw ← perform (.redisGet (idemKey key))
  Prog.ofExcept (readRawCached key request raw)

/-- The document `_save_idempotency` stores. -/
def rawEnvelope (request : RcsRawSubmitRequest) (normalizedPath : String)
    (result : RcsRawSubmitResult) : Json :=
  .obj [("fingerprint", .str (rawFingerprint request.method normalizedPath request.body
    request.sendSigned)), ("result", result.modelDump)]

/-- `_save_idempotency`. -/
def saveRaw (key : String) (request : RcsRawSubmitRequest) (normalizedPath : String)
    (result : RcsRawSubmitResult) : M Unit :=
  perform (.redisSetex (idemKey key) idempotencyKeyTtlSeconds
    (.json (rawEnvelope request normalizedPath result)))

/-! ### `submit_raw` -/

/-- The call of the client a raw submit makes. -/
def rawCall (request : RcsRawSubmitRequest) (path : String) : RcsCall :=
  let body := if request.method = .post then request.body else none
  if request.sendSigned then .signedRequest request.method path body
  else .plainRequest request.method path body

/-- The row of a raw submit that RCS gave a code. -/
def rawRow (request : RcsRawSubmitRequest) (idempotencyKey : Option String) (code : String) :
    TaskHistory where
  robotTaskCode := code
  status := .pending
  sourceCode := (metaFromBody request.body).1
  targetCode := (metaFromBody request.body).2
  idempotencyKey := idempotencyKey

/-- The result of a raw submit.  A response that gave `taskCodeOf` a value is an object. -/
def rawResult (code : Option String) (persisted : Bool) (rcsResponse : Json) :
    RcsRawSubmitResult where
  robotTaskCode := code
  status := code.map fun _ => TaskStatus.pending.value
  cached := false
  persisted := persisted
  rcs := match rcsResponse with
    | .obj fields => fields
    | _ => []

/-- Build the result and cache it. -/
def finishRaw (request : RcsRawSubmitRequest) (path : String) (idempotencyKey : Option String)
    (result : RcsRawSubmitResult) : M RcsRawSubmitResult :=
  match truthy idempotencyKey with
  | some key => do
      saveRaw key request path result
      return result
  | none => return result

/-- Persist the task, when the request asks for it and RCS gave a code. -/
def recordRaw (request : RcsRawSubmitRequest) (path : String) (idempotencyKey : Option String)
    (rcsResponse : Json) : M RcsRawSubmitResult := do
  let code ← Prog.ofExcept (taskCodeOf rcsResponse)
  match request.persistTask, code with
  | true, some code => do
      persistTask (rawRow request idempotencyKey code)
      finishRaw request path idempotencyKey (rawResult (some code) true rcsResponse)
  | _, _ => finishRaw request path idempotencyKey (rawResult code false rcsResponse)

/-- The `except` clauses around the call: what is no `RCSClientError` is made one. -/
def rawCallError (request : RcsRawSubmitRequest) (path : String) (e : PyExc) : PyExc :=
  if e.isRCSClientError then e
  else rcsClientError ("RCS connection failed: " ++ e.text) (some "RCS_NETWORK_ERROR")
    (some [("path", .str path), ("method", .str request.method.upper)])

/-- Call RCS and go on with its answer. -/
def sendRaw (request : RcsRawSubmitRequest) (path : String) (idempotencyKey : Option String) :
    M RcsRawSubmitResult := do
  let rcsResponse ← Prog.tryCatch (perform (.rcs (rawCall request path)))
    fun e => throw (rawCallError request path e)
  recordRaw request path idempotencyKey rcsResponse

/-- `RcsSubmitService.submit_raw`. -/
def submitRaw (request : RcsRawSubmitRequest) (idempotencyKey : Option String) :
    M RcsRawSubmitResult := do
  let path ← Prog.ofExcept (rawSubmitPath request.path)
  match truthy idempotencyKey with
  | some key => do
      match ← lookupRaw key request with
      | some cached => return cached
      | none => sendRaw request path idempotencyKey
  | none => sendRaw request path idempotencyKey

/-! ### The two submit endpoints -/

/-- A request on one of the two submit endpoints. -/
inductive Submission where
  | create (request : TaskCreateRequest)
  | raw (request : RcsRawSubmitRequest)

/-- The request, served in a session of its own; what it answers is dropped. -/
def Submission.serve (submission : Submission) (idempotencyKey : Option String) : M Unit :=
  match submission with
  | .create request => (withSession (createTask request idempotencyKey)).discard
  | .raw request => (withSession (submitRaw request idempotencyKey)).discard

end Rcs

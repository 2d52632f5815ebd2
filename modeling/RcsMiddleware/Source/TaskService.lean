import RcsMiddleware.Source.World

/-!
# Source — TaskService

`services/task_service.py`: creating a task from a robot type, with the idempotency cache.  The
body of `create_task` is cut into the parts between two of its operations, so that each place a
call can stand at has a name: `createTask` (the lookup), `createUncached`, `submitTask`,
`recordTask`, `finishTask`.
-/

namespace Rcs

open Support Support.Text

def idempotencyKeyTtlSeconds : Nat := 86400

/-- `utils.redis_helper.idempotency_key`. -/
def idempotencyKey (key : String) : String := "idempotency:" ++ key

/-- `_fingerprint`. -/
def fingerprint (request : TaskCreateRequest) : String := request.modelDump.dumpsSorted

/-- `_build_target_route`. -/
def buildTargetRoute (request : TaskCreateRequest) : Json :=
  .obj [("targetCode", .str request.targetCode), ("priority", .int request.priority)]

/-- `_build_submit_payload`. -/
def buildSubmitPayload (request : TaskCreateRequest) (rcsTaskType : String) :
    List (String × Json) :=
  [("taskTyp", .str rcsTaskType), ("sourceCode", .str request.sourceCode),
    ("targetRoute", buildTargetRoute request), ("priority", .int request.priority)]

/-- `data.get("robotTaskCode") or rcs_response.get("robotTaskCode")`, with
`data = rcs_response.get("data") or {}`: the code, when there is one. -/
def taskCodeOf (rcsResponse : Json) : Except PyExc (Option String) := do
  let data := Json.orEmpty (← dictGet rcsResponse "data")
  let inner ← dictGet data "robotTaskCode"
  let outer ← dictGet rcsResponse "robotTaskCode"
  let code := if inner.any Json.truthy then inner else outer
  return (code.filter Json.truthy).map Json.pyStr

/-- `TaskService._extract_task_code`. -/
def extractTaskCode (rcsResponse : Json) : Except PyExc String := do
  match ← taskCodeOf rcsResponse with
  | some code => return code
  | none => throw (rcsClientError "RCS submit response missing robotTaskCode"
      (some "RCS_MALFORMED_RESPONSE") (some [("response", rcsResponse)]))

/-! ### The idempotency cache -/

/-- `d["name"]` of the cached response, as a `str` field of the model it fills. -/
def cachedStr (data : Json) (name : String) : Except PyExc String :=
  match data with
  | .obj fields =>
      match Json.field fields name with
      | some (.str s) => .ok s
      | some _ => .error (.validationError name)
      | none => .error (.keyError name)
  | v => .error (.typeError ("'" ++ v.typeName ++ "' object is not subscriptable"))

/-- What `_lookup_idempotency` makes of a document it finds under the key. -/
def readEnvelope (key : String) (request : TaskCreateRequest) (cached : Json) :
    Except PyExc TaskCreateResponseData := do
  let stored ← dictGet cached "request_fingerprint"
  if Json.eqStr stored (fingerprint request) then
    let data := Json.orEmpty (← dictGet cached "response")
    let robotTaskCode ← cachedStr data "robotTaskCode"
    let status ← cachedStr data "status"
    return { robotTaskCode, status, cached := true }
  else
    throw (.app (.mk' .duplicateTaskError
      (some "Idempotency-Key reused with a different payload.") none
      (some [("idempotency_key", .str key)])))

/-- The document an entry of an idempotency cache holds; `none` where the lookup goes on as if
there were no entry. -/
def cachedDocument (cachedRaw : Option RedisValue) : Option Json :=
  match cachedRaw with
  | some raw => if raw.truthy then raw.loads else none
  | none => none

/-- What a lookup makes of the entry it reads. -/
def readCached (key : String) (request : TaskCreateRequest) (cachedRaw : Option RedisValue) :
    Except PyExc (Option TaskCreateResponseData) :=
  match cachedDocument cachedRaw with
  | none => .ok none
  | some cached => (readEnvelope key request cached).map some

/-- `_lookup_idempotency`. -/
def lookupIdempotency (key : String) (request : TaskCreateRequest) :
    M (Option TaskCreateResponseData) := do
  let cachedRaw ← perform (.redisGet (idempotencyKey key))
  Prog.ofExcept (readCached key request cachedRaw)

/-- The document `_save_idempotency` stores. -/
def envelope (request : TaskCreateRequest) (result : TaskCreateResponseData) : Json :=
  .obj [("request_fingerprint", .str (fingerprint request)), ("response", result.modelDump)]

/-- `_save_idempotency`. -/
def saveIdempotency (key : String) (request : TaskCreateRequest)
    (result : TaskCreateResponseData) : M Unit :=
  perform (.redisSetex (idempotencyKey key) idempotencyKeyTtlSeconds
    (.json (envelope request result)))

/-! ### `create_task` -/

/-- `_tasks.create(…)` and `commit()`, rolled back and re-raised when one fails. -/
def persistTask (row : TaskHistory) : M Unit :=
  Prog.tryCatch (do perform (.insertTask row); perform (.commit []))
    fun e => do perform .rollback; throw e

/-- The row of a created task. -/
def createdRow (request : TaskCreateRequest) (idempotencyKey : Option String) (code : String) :
    TaskHistory where
  robotTaskCode := code
  status := .pending
  sourceCode := some request.sourceCode
  targetCode := some request.targetCode
  idempotencyKey := idempotencyKey

/-- Step 6 of `create_task`: cache the response. -/
def finishTask (request : TaskCreateRequest) (idempotencyKey : Option String) (code : String) :
    M TaskCreateResponseData := do
  let result : TaskCreateResponseData :=
    { robotTaskCode := code, status := TaskStatus.pending.value, cached := false }
  match truthy idempotencyKey with
  | some key => do
      saveIdempotency key request result
      return result
  | none => return result

/-- Step 5: persist the task RCS has accepted. -/
def recordTask (request : TaskCreateRequest) (idempotencyKey : Option String)
    (rcsResponse : Json) : M TaskCreateResponseData := do
  let code ← Prog.ofExcept (extractTaskCode rcsResponse)
  persistTask (createdRow request idempotencyKey code)
  finishTask request idempotencyKey code

/-- Steps 3 and 4: build the payload and call RCS. -/
def submitTask (request : TaskCreateRequest) (idempotencyKey : Option String)
    (robotType : Option RobotType) : M TaskCreateResponseData :=
  match robotType with
  | none => throw (.app (.mk' .robotTypeNotFoundError
      (some ("Robot type '" ++ request.robotType ++ "' not found.")) none
      (some [("robotType", .str request.robotType)])))
  | some robotType => do
      let payload := buildSubmitPayload request robotType.rcsTaskType
      let rcsResponse ← perform (.rcs (.submitTask payload))
      recordTask request idempotencyKey rcsResponse

/-- Step 2: resolve the robot type. -/
def createUncached (request : TaskCreateRequest) (idempotencyKey : Option String) :
    M TaskCreateResponseData := do
  let robotType ← perform (.selectRobotType request.robotType)
  submitTask request idempotencyKey robotType

/-- `TaskService.create_task`. -/
def createTask (request : TaskCreateRequest) (idempotencyKey : Option String) :
    M TaskCreateResponseData :=
  match truthy idempotencyKey with
  | some key => do
      match ← lookupIdempotency key request with
      | some cached => return cached
      | none => createUncached request idempotencyKey
  | none => createUncached request idempotencyKey

end Rcs

import RcsMiddleware.Source.Exceptions

/-!
# Source — Schemas

The pydantic models of `app/schemas` the services exchange.  The bounds a schema checks are
fields of its type, so a request that validation would have refused cannot be built.
-/

namespace Rcs

open Support

/-- A JSON value for `str | None`. -/
def jsonOpt : Option String → Json
  | some s => .str s
  | none => .null

/-! ### Tasks -/

/-- `TaskCreateRequest`. -/
structure TaskCreateRequest where
  robotType : String
  sourceCode : String
  targetCode : String
  priority : Nat
  robotType_length : 1 ≤ robotType.length ∧ robotType.length ≤ 50
  sourceCode_length : 1 ≤ sourceCode.length ∧ sourceCode.length ≤ 100
  targetCode_length : 1 ≤ targetCode.length ∧ targetCode.length ≤ 100
  priority_range : 1 ≤ priority ∧ priority ≤ 100
  deriving DecidableEq

/-- `request.model_dump(by_alias=True)`. -/
def TaskCreateRequest.modelDump (r : TaskCreateRequest) : Json :=
  .obj [("robotType", .str r.robotType), ("sourceCode", .str r.sourceCode),
    ("targetCode", .str r.targetCode), ("priority", .int r.priority)]

/-- `TaskCreateResponseData`. -/
structure TaskCreateResponseData where
  robotTaskCode : String
  status : String
  cached : Bool
  deriving DecidableEq, Repr

/-- `result.model_dump(by_alias=True)`. -/
def TaskCreateResponseData.modelDump (d : TaskCreateResponseData) : Json :=
  .obj [("robotTaskCode", .str d.robotTaskCode), ("status", .str d.status),
    ("cached", .bool d.cached)]

inductive HttpMethod where
  | get
  | post
  deriving DecidableEq, Repr

/-- The method's name in upper case. -/
def HttpMethod.upper : HttpMethod → String
  | .get => "GET"
  | .post => "POST"

/-- `RcsRawSubmitRequest`. -/
structure RcsRawSubmitRequest where
  method : HttpMethod := .post
  path : String
  body : Option (List (String × Json)) := none
  sendSigned : Bool := false
  persistTask : Bool := true
  path_nonempty : path ≠ ""

/-- `RcsRawSubmitResult`. -/
structure RcsRawSubmitResult where
  robotTaskCode : Option String
  status : Option String
  cached : Bool
  persisted : Bool
  rcs : List (String × Json)

/-- `result.model_dump(by_alias=True)`. -/
def RcsRawSubmitResult.modelDump (r : RcsRawSubmitResult) : Json :=
  .obj [("robotTaskCode", jsonOpt r.robotTaskCode), ("status", jsonOpt r.status),
    ("cached", .bool r.cached), ("persisted", .bool r.persisted), ("rcsResponse", .obj r.rcs)]

/-- An `Optional[str]` member, `None` when it is absent. -/
def validateOptStr (fields : List (String × Json)) (name : String) :
    Except PyExc (Option String) :=
  match Json.field fields name with
  | none | some .null => .ok none
  | some (.str s) => .ok (some s)
  | some _ => .error (.validationError name)

/-- A `bool` member, `False` when it is absent.  The values pydantic would coerce to a `bool`
are never written under this name and are refused here. -/
def validateBool (fields : List (String × Json)) (name : String) : Except PyExc Bool :=
  match Json.field fields name with
  | none => .ok false
  | some (.bool b) => .ok b
  | some _ => .error (.validationError name)

/-- `RcsRawSubmitResult.model_validate(data)`. -/
def RcsRawSubmitResult.modelValidate : Json → Except PyExc RcsRawSubmitResult
  | .obj fields => do
      let robotTaskCode ← validateOptStr fields "robotTaskCode"
      let status ← validateOptStr fields "status"
      let cached ← validateBool fields "cached"
      let persisted ← validateBool fields "persisted"
      match Json.field fields "rcsResponse" with
      | some (.obj rcs) => return { robotTaskCode, status, cached, persisted, rcs }
      | _ => .error (.validationError "rcsResponse")
  | _ => .error (.validationError "RcsRawSubmitResult")

/-! ### Webhooks -/

/-- `TaskFeedbackPayload`: the declared members, and the others `extra="allow"` keeps. -/
structure TaskFeedbackPayload where
  robotTaskCode : String
  method : String
  x : Option PyFloat := none
  y : Option PyFloat := none
  amrCode : Option String := none
  errorMsg : Option String := none
  extra : List (String × Json) := []
  robotTaskCode_nonempty : robotTaskCode ≠ ""
  method_nonempty : method ≠ ""

/-- `WebhookAck`. -/
structure WebhookAck where
  acknowledged : Bool := true
  duplicate : Bool := false
  deriving DecidableEq, Repr

/-! ### System settings -/

/-- `ConnectionSettingsUpdate`. -/
structure ConnectionSettingsUpdate where
  rcsIp : String
  rcsPort : Int
  deriving DecidableEq, Repr

/-- What `get_connection_settings` returns. -/
structure ConnectionSettings where
  rcsIp : Option String
  rcsPort : Option Int
  rcsBaseUrl : String
  deriving DecidableEq, Repr

/-! ### The RCS client -/

/-- A call of the client's public operations. -/
inductive RcsCall where
  | submitTask (payload : List (String × Json))
  | getRobotStatus (robotCode : String)
  | cancelTask (robotTaskCode : String)
  | signedRequest (method : HttpMethod) (path : String) (body : Option (List (String × Json)))
  | plainRequest (method : HttpMethod) (path : String) (body : Option (List (String × Json)))

/-- What a signing strategy returns: the headers to send and the value of `?sign=`. -/
structure SignedRequest where
  headers : List (String × String)
  sign : String
  nonce : String
  timestamp : String
  requestId : String
  traceId : String

/-- An outgoing HTTP request. -/
structure HttpRequest where
  method : HttpMethod
  url : String
  content : Option String
  params : List (String × String)
  headers : List (String × String)

/-- What `response.json()` does with the body: a value, or one of the exceptions of
`json.loads` on bytes. -/
inductive JsonBody where
  | value (v : Json)
  | jsonDecodeError
  | unicodeDecodeError
  /-- A `ValueError` that is no `JSONDecodeError`, as an integer literal too long to convert. -/
  | valueError
  | recursionError

/-- What `response.text` does with the body: a text, or an exception of the decoder that the charset
of the answer names. -/
inductive ResponseText where
  | value (text : String)
  /-- Of `utf-16` and `utf-32` without a byte order mark, of `undefined`, `idna` and `punycode`. -/
  | unicodeError (message : String)
  /-- Of the codecs from bytes to bytes, as `hex` and `base64`. -/
  | assertionError
  /-- Of `rot13`. -/
  | typeError (message : String)

/-- An HTTP answer.  Its value is read from the bytes of the body, its text with the decoder of its
charset; neither says anything about the other. -/
structure HttpResponse where
  statusCode : Nat
  json : JsonBody
  text : ResponseText

/-- An answer with a JSON value, in UTF-8. -/
def HttpResponse.ofJson (statusCode : Nat) (v : Json) : HttpResponse :=
  ⟨statusCode, .value v, .value v.dumps⟩

/-- `response.text`. -/
def HttpResponse.readText (r : HttpResponse) : Except PyExc String :=
  match r.text with
  | .value text => .ok text
  | .unicodeError message => .error (.unicodeError message)
  | .assertionError => .error .assertionError
  | .typeError message => .error (.typeError message)

/-- `response.json()`. -/
def HttpResponse.readJson (r : HttpResponse) : Except PyExc Json :=
  match r.json with
  | .value v => .ok v
  | .jsonDecodeError => .error (.jsonDecodeError "Expecting value")
  | .unicodeDecodeError => .error (.unicodeDecodeError "invalid start byte")
  | .valueError => .error (.valueError "Exceeds the limit for integer string conversion")
  | .recursionError => .error .recursionError

end Rcs

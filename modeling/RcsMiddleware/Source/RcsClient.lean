import RcsMiddleware.Source.RcsPath
import RcsMiddleware.Source.SystemConfig
import RcsMiddleware.Support.Retrying

/-!
# Source — RcsClient

`clients/rcs2000_client.py`: the public requests of `RCS2000Client`, the retries of the idempotent
ones, and the reading of an answer.  The signing strategy and the HTTP client are operations; a
body is the list of the members of a `dict`.
-/

namespace Rcs

open Support Support.Text

/-! ### The reading of an answer -/

/-- `code in (0, "0", "0x00000000", "Success", "OK", "success", True)`. -/
def isSuccessCode (code : Json) : Bool :=
  code.eqNat 0 ||
    ["0", "0x00000000", "Success", "OK", "success"].any (fun s => Json.eqStr (some code) s) ||
    code.eqNat 1

/-- The exception `_raise_business_error` raises. -/
def businessError (code message : String) (payload : Json) : PyExc :=
  let details := [("rcs_code", .str code), ("payload", payload)]
  if code = "Err_TaskNotStart" then
    .app (.mk' .taskNotStartedError (some message) none (some details))
  else rcsClientError message (some ("RCS_" ++ code)) (some details)

/-- `str(data.get(key, default))`. -/
def textMember (data : Json) (key default : String) : Except PyExc String := do
  return ((← dictGet data key).map Json.pyStr).getD default

/-- The part of `_parse_response` about `envelope_code`, below 400. -/
def checkCode (data : Json) : Option Json → Except PyExc Json
  | none => return data
  | some code => do
      if code.truthy && !isSuccessCode code then
        let message ← textMember data "message" "RCS error"
        throw (businessError code.pyStr message data)
      return data

/-- The part of `_parse_response` after the body has been read. -/
def checkEnvelope (statusCode : Nat) (data : Json) : Except PyExc Json := do
  if 400 ≤ statusCode then
    let code ← textMember data "code" ("HTTP_" ++ toString statusCode)
    let message ← textMember data "message" "RCS error"
    throw (businessError code message data)
  let code ← dictGet data "code"
  checkCode data code

/-- What `_parse_response` makes of an exception of `response.json()`. -/
def unreadable (statusCode : Nat) : PyExc → PyExc
  | .jsonDecodeError _ =>
      rcsClientError ("RCS returned non-JSON body (status=" ++ toString statusCode ++ ")")
  | e => e

/-- The part of `_parse_response` below 500. -/
def readBody (statusCode : Nat) : Except PyExc Json → Except PyExc Json
  | .error e => .error (unreadable statusCode e)
  | .ok data => checkEnvelope statusCode data

/-- The part of `_parse_response` after the answer has been logged. -/
def readAnswer (response : HttpResponse) (path : String) : Except PyExc Json :=
  if 500 ≤ response.statusCode then
    .error (.retryableUpstream ("RCS 5xx " ++ toString response.statusCode ++ " on " ++ path))
  else readBody response.statusCode response.readJson

/-- `_parse_response`. -/
def parseResponse (response : HttpResponse) (path : String) : Except PyExc Json := do
  -- The log of the answer asks for the first 512 characters of its text.
  let _ ← response.readText
  readAnswer response path

/-! ### The requests -/

/-- The `details` of the errors about the connection. -/
def requestDetails (method : HttpMethod) (path : String) : Option (List (String × Json)) :=
  some [("path", .str path), ("method", .str method.upper)]

/-- What `_do_request` and `plain_request` make of an exception of the HTTP client. -/
def httpFailure (method : HttpMethod) (path : String) (preserveRetryable : Bool) : PyExc → PyExc
  | .httpx kind message =>
      if kind.retryable then
        if preserveRetryable then .httpx kind message
        else rcsClientError ("RCS network error: " ++ message) (some "RCS_NETWORK_ERROR")
          (requestDetails method path)
      else rcsClientError ("HTTP error: " ++ message)
  | e => e

/-- The exceptions `_request` retries. -/
def retriedException : PyExc → Bool
  | .retryableUpstream _ => true
  | .httpx kind _ => kind.retryable
  | _ => false

/-- What `_request` makes of the exception of the last attempt. -/
def afterRetries (method : HttpMethod) (path : String) : PyExc → PyExc
  | .httpx kind message =>
      if kind.retryable then
        rcsClientError ("RCS network error after retries: " ++ message) (some "RCS_NETWORK_ERROR")
          (requestDetails method path)
      else .httpx kind message
  | .retryableUpstream message =>
      rcsClientError message (some "RCS_UPSTREAM_5XX") (requestDetails method path)
  | e => e

/-- `json.dumps(body, separators=(",", ":"))` of a body that is there and not empty. -/
def bodyText (body : Option (List (String × Json))) : String :=
  match body with
  | none | some [] => ""
  | some fields => (Json.obj fields).dumps

/-- The check of the method in `signed_request` and `plain_request`, on ASCII letters. -/
def supportedMethod (method : String) : Except PyExc HttpMethod :=
  if method.toUpper = "GET" then .ok .get
  else if method.toUpper = "POST" then .ok .post
  else .error (.valueError ("Unsupported HTTP method: " ++ method))

/-- `RCS2000Client`, with its `_base_url`. -/
structure RCS2000Client where
  baseUrl : String

namespace RCS2000Client

variable (client : RCS2000Client)

/-- One HTTP request, and what is made of its answer. -/
def exchange (request : HttpRequest) (path : String) (preserveRetryable : Bool) : M Json := do
  let response ← (perform (.http request)).tryCatch fun e =>
    .raise (httpFailure request.method path preserveRetryable e)
  Prog.ofExcept (parseResponse response path)

/-- `_do_request`. -/
def doRequest (method : HttpMethod) (path : String) (body : Option (List (String × Json)))
    (params : List (String × String)) (preserveRetryable : Bool) : M Json := do
  let signed ← perform (.sign method path (bodyText body))
  let url ← resolveFullUrl client.baseUrl path
  exchange { method := method, url := url, content := truthy (some (bodyText body)),
             params := params ++ [("sign", signed.sign)], headers := signed.headers }
    path preserveRetryable

/-- `_request`; an idempotent one makes at most three attempts. -/
def request (method : HttpMethod) (path : String) (body : Option (List (String × Json)))
    (idempotent : Bool) (params : List (String × String)) : M Json :=
  if idempotent then
    ((client.doRequest method path body params true).retry retriedException 2).tryCatch fun e =>
      .raise (afterRetries method path e)
  else client.doRequest method path body params false

/-- `submit_task`. -/
def submitTask (payload : List (String × Json)) : M Json :=
  client.request .post (rcsPathPrefix ++ rcsTaskSubmitPath) (some payload) false []

/-- `get_robot_status`. -/
def getRobotStatus (robotCode : String) : M Json :=
  client.request .get (rcsPathPrefix ++ rcsRobotStatusPath) none true [("robotCode", robotCode)]

/-- `cancel_task`. -/
def cancelTask (robotTaskCode : String) : M Json :=
  client.request .post (rcsPathPrefix ++ rcsTaskCancelPath)
    (some [("robotTaskCode", .str robotTaskCode)]) true []

/-- `signed_request`: a `GET` is retried, and has no body. -/
def signedRequest (method : String) (path : String) (body : Option (List (String × Json))) :
    M Json := do
  let method ← Prog.ofExcept (supportedMethod method)
  client.request method path (if method = .post then body else none) (method = .get) []

/-- The headers of `plain_request`. -/
def plainHeaders (now : DateTime) : List (String × String) :=
  [("Content-Type", "application/json"), ("X-LR-REQUEST-ID", now.toMinute), ("Accept", "*/*"),
    ("Accept-Encoding", "gzip, deflate, br"), ("Connection", "keep-alive"),
    ("User-Agent", "PostmanRuntime/7.51.1")]

/-- `plain_request`. -/
def plainRequest (method : String) (path : String) (body : Option (List (String × Json))) :
    M Json := do
  let method ← Prog.ofExcept (supportedMethod method)
  let url ← resolveFullUrl client.baseUrl path
  let now ← perform .now
  exchange { method := method, url := url, content := truthy (some (bodyText body)), params := [],
             headers := plainHeaders now } path false

/-- A call of the client. -/
def call : RcsCall → M Json
  | .submitTask payload => client.submitTask payload
  | .getRobotStatus robotCode => client.getRobotStatus robotCode
  | .cancelTask robotTaskCode => client.cancelTask robotTaskCode
  | .signedRequest method path body => client.signedRequest method.upper path body
  | .plainRequest method path body => client.plainRequest method.upper path body

end RCS2000Client

end Rcs

import RcsMiddleware.Support.Json

/-!
# Source — Exceptions

The exceptions the modelled code raises: the domain errors of `core/exceptions.py`, and the
exceptions of Python and its libraries that reach them or escape beside them.
-/

namespace Rcs

open Support

/-- The subclasses of `BaseAppError`. -/
inductive AppErrorClass where
  | rcsClientError
  | taskNotStartedError
  | robotTypeNotFoundError
  | taskNotFoundError
  | duplicateTaskError
  | webhookSignatureError
  | invalidRcsPathError
  | authenticationError
  deriving DecidableEq, Repr

namespace AppErrorClass

/-- The class attribute `http_status`. -/
def httpStatus : AppErrorClass → Nat
  | .rcsClientError => 502
  | .taskNotStartedError | .duplicateTaskError => 409
  | .robotTypeNotFoundError | .taskNotFoundError => 404
  | .webhookSignatureError | .authenticationError => 401
  | .invalidRcsPathError => 422

/-- The class attribute `code`. -/
def code : AppErrorClass → String
  | .rcsClientError => "RCS_UPSTREAM_ERROR"
  | .taskNotStartedError => "TASK_NOT_STARTED"
  | .robotTypeNotFoundError => "ROBOT_TYPE_NOT_FOUND"
  | .taskNotFoundError => "TASK_NOT_FOUND"
  | .duplicateTaskError => "DUPLICATE_TASK"
  | .webhookSignatureError => "WEBHOOK_SIGNATURE_INVALID"
  | .invalidRcsPathError => "INVALID_RCS_PATH"
  | .authenticationError => "UNAUTHORIZED"

/-- The class attribute `message`. -/
def message : AppErrorClass → String
  | .rcsClientError => "Upstream RCS-2000 returned an error."
  | .taskNotStartedError => "RCS reports the task has not started yet."
  | .robotTypeNotFoundError => "Robot type not found."
  | .taskNotFoundError => "Task not found."
  | .duplicateTaskError => "A task with the same Idempotency-Key already exists."
  | .webhookSignatureError => "Webhook signature is missing or invalid."
  | .invalidRcsPathError => "RCS path must start with /rcs/rtas and must not contain '..'."
  | .authenticationError => "Missing or invalid API key."

end AppErrorClass

/-- An instance of a subclass of `BaseAppError`. -/
structure AppError where
  cls : AppErrorClass
  message : String
  code : String
  httpStatus : Nat
  details : Option (List (String × Json))
  deriving Repr

/-- `BaseAppError.__init__`: an argument that is absent or empty leaves the class attribute. -/
def AppError.mk' (cls : AppErrorClass) (message code : Option String)
    (details : Option (List (String × Json))) : AppError where
  cls := cls
  message := (Text.truthy message).getD cls.message
  code := (Text.truthy code).getD cls.code
  httpStatus := cls.httpStatus
  details := details

/-- The kinds of `httpx.HTTPError`.  The first four are `_RETRYABLE_HTTP_EXC`. -/
inductive HttpxKind where
  | connectError
  | readTimeout
  | connectTimeout
  | remoteProtocolError
  | other
  deriving DecidableEq, Repr

def HttpxKind.retryable : HttpxKind → Bool
  | .other => false
  | _ => true

/-- The exceptions that can pass through the modelled code. -/
inductive PyExc where
  | app (e : AppError)
  /-- `_RetryableUpstreamError`, the client's marker for a 5xx answer. -/
  | retryableUpstream (message : String)
  | httpx (kind : HttpxKind) (message : String)
  /-- A unique or primary key constraint is violated. -/
  | integrityError (column : String)
  /-- The database, Redis or the broker fails. -/
  | storeError (message : String)
  | attributeError (message : String)
  | typeError (message : String)
  | keyError (key : String)
  | valueError (message : String)
  /-- `json.JSONDecodeError`, a `ValueError`. -/
  | jsonDecodeError (message : String)
  /-- `UnicodeDecodeError`, a `ValueError`. -/
  | unicodeDecodeError (message : String)
  /-- `UnicodeError`, a `ValueError`, of the decoder of a text. -/
  | unicodeError (message : String)
  | assertionError
  | recursionError
  /-- `pydantic.ValidationError`. -/
  | validationError (field : String)
  deriving Repr

namespace PyExc

/-- `str(exc)`. -/
def text : PyExc → String
  | .app e => e.message
  | .retryableUpstream m | .httpx _ m | .integrityError m | .storeError m | .attributeError m
  | .typeError m | .valueError m | .jsonDecodeError m | .unicodeDecodeError m | .unicodeError m
  | .validationError m => m
  | .keyError key => Json.reprStr key
  | .recursionError => "maximum recursion depth exceeded"
  | .assertionError => ""

/-- `isinstance(exc, RCSClientError)`. -/
def isRCSClientError : PyExc → Bool
  | .app e => e.cls = .rcsClientError || e.cls = .taskNotStartedError
  | _ => false

end PyExc

/-- `v.get(key)`, which only a `dict` has. -/
def dictGet (v : Json) (key : String) : Except PyExc (Option Json) :=
  match v with
  | .obj fields => .ok (Json.field fields key)
  | v => .error (.attributeError ("'" ++ v.typeName ++ "' object has no attribute 'get'"))

@[simp] theorem dictGet_obj (fields : List (String × Json)) (key : String) :
    dictGet (.obj fields) key = .ok (Json.field fields key) := rfl

/-- `RCSClientError(message=…, code=…, details=…)`. -/
def rcsClientError (message : String) (code : Option String := none)
    (details : Option (List (String × Json)) := none) : PyExc :=
  .app (.mk' .rcsClientError (some message) code details)

@[simp] theorem isRCSClientError_rcsClientError (message : String) (code : Option String)
    (details : Option (List (String × Json))) :
    (rcsClientError message code details).isRCSClientError = true := rfl

end Rcs

import RcsMiddleware.Source.Exceptions
import RcsMiddleware.Support.Url

/-!
# Source — RcsPath

The normalization of the path of a raw submit (`utils/rcs_path.py`) and its check
(`_validate_rcs_path`), with the paths of the RCS API.
-/

namespace Rcs

open Support Support.Text

def rcsPathPrefix : String := "/rcs/rtas"

def rcsTaskSubmitPath : String := "/api/robot/controller/task/submit"

def rcsTaskCancelPath : String := "/api/robot/controller/task/cancel"

def rcsRobotStatusPath : String := "/api/robot/controller/robot/status"

/-- `normalize_rcs_path`: the scheme and host of a full URL are dropped, and the query. -/
def normalizeRcsPath (pathOrUrl : String) : Except PyExc String := do
  let raw := strip pathOrUrl
  if raw = "" then return ""
  let path ←
    if startsWith raw "http://" || startsWith raw "https://" then
      match Url.path raw with
      | .ok path => pure (if path = "" then "/" else path)
      | .error message => throw (.valueError message)
    else pure (if startsWith raw "/" then raw else "/" ++ raw)
  return before '?' path

/-- `_validate_rcs_path`. -/
def validateRcsPath (path : String) : Except PyExc Unit :=
  if hasSub path ".." || !startsWith path rcsPathPrefix then
    .error (.app (.mk' .invalidRcsPathError
      (some ("Path must start with '" ++ rcsPathPrefix ++ "' and must not contain '..'.")) none
      (some [("path", .str path)])))
  else .ok ()

/-- The path a raw submit sends: the three lines before the idempotency lookup. -/
def rawSubmitPath (pathOrUrl : String) : Except PyExc String := do
  let path ← normalizeRcsPath pathOrUrl
  if path = "" then
    throw (.app (.mk' .invalidRcsPathError (some "Path is empty.") none (some [])))
  validateRcsPath path
  return path

example : (rawSubmitPath " https://h/rcs/rtas/x?y=1 ").toOption = some "/rcs/rtas/x" := by
  decide

end Rcs

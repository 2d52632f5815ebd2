import RcsMiddleware.Source.World

/-!
# Source — Worker

`workers/tasks.py`: the Celery task that processes a feedback.  Its payload is what
`TaskFeedbackPayload.model_dump` gives.
-/

namespace Rcs

open Support Support.Text

def robotStateTtlSeconds : Nat := 300

/-- `utils.redis_helper.robot_state_key`. -/
def robotStateKey (amrCode : String) : String := "robot:" ++ amrCode ++ ":state"

/-- `TASK_METHOD_TO_STATUS`. -/
def taskMethodToStatus : List (String × TaskStatus) :=
  [("start", .running), ("outbin", .running), ("end", .completed)]

/-- The status a feedback's method stands for; an unknown method fails the task. -/
def targetStatus (method : String) : TaskStatus := (taskMethodToStatus.lookup method).getD .failed

/-- What `process_task_feedback` returns. -/
structure FeedbackResult where
  updated : Bool
  cacheUpdated : Option Bool := none
  reason : Option String := none
  deriving DecidableEq, Repr

/-- The arguments of `update_status` for a row that is not in a terminal status. -/
def statusUpdate (existing : TaskHistory) (method : String) (target : TaskStatus)
    (amrCode errorMsg : Option String) (now : DateTime) : StatusUpdate where
  status := target
  startTime := if method = "start" ∧ existing.startTime = none then some now else none
  endTime := if target.terminal then some now else none
  errorMsg := errorMsg
  robotCode := amrCode

/-- The part of `_update_task_history` after its `SELECT`. -/
def applyFeedback (existing : Option TaskHistory) (robotTaskCode method : String)
    (target : TaskStatus) (amrCode errorMsg : Option String) (now : DateTime) : M Bool :=
  match existing with
  | none => return false
  | some existing =>
      if existing.status.terminal then return false
      else do
        let rowcount ← perform (.updateTask robotTaskCode
          (statusUpdate existing method target amrCode errorMsg now))
        perform (.commit [])
        return 0 < rowcount

/-- `_update_task_history`. -/
def updateTaskHistory (robotTaskCode method : String) (target : TaskStatus)
    (amrCode errorMsg : Option String) (now : DateTime) : M Bool :=
  withSession do
    let existing ← perform (.selectTask robotTaskCode)
    applyFeedback existing robotTaskCode method target amrCode errorMsg now

/-- A JSON value for `float | None`. -/
def jsonFloat : Option PyFloat → Json
  | some f => .float f
  | none => .null

/-- The document `_update_robot_state` stores. -/
def statePayload (payload : TaskFeedbackPayload) (amrCode : String) (target : TaskStatus)
    (now : DateTime) : Json :=
  .obj [("amrCode", .str amrCode), ("x", jsonFloat payload.x), ("y", jsonFloat payload.y),
    ("state", .str target.value), ("lastTaskCode", .str payload.robotTaskCode),
    ("updatedAt", .str now.isoformat)]

/-- `_update_robot_state`. -/
def updateRobotState (payload : TaskFeedbackPayload) (target : TaskStatus) (now : DateTime) :
    M Bool :=
  match truthy payload.amrCode with
  | none => return false
  | some amrCode => do
      perform (.redisSetex (robotStateKey amrCode) robotStateTtlSeconds
        (.json (statePayload payload amrCode target now)))
      return true

/-- `_process_task_feedback_async`, which `process_task_feedback` runs. -/
def processTaskFeedback (payload : TaskFeedbackPayload) : M FeedbackResult :=
  let robotTaskCode := strip payload.robotTaskCode
  let method := strip payload.method
  if robotTaskCode = "" ∨ method = "" then
    return { updated := false, reason := some "missing_fields" }
  else do
    let target := targetStatus method
    let now ← perform .now
    let dbUpdated ← updateTaskHistory robotTaskCode method target payload.amrCode
      payload.errorMsg now
    let cacheUpdated ← updateRobotState payload target now
    return { updated := dbUpdated, cacheUpdated := some cacheUpdated }

end Rcs

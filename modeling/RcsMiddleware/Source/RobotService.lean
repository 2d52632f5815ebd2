import RcsMiddleware.Source.WebhookRouter

/-!
# Source — RobotService

`services/robot_service.py`: the list of robot states, read from Redis.  Its loop over `SCAN` takes
the keys as an argument; `Scans` says which keys Redis yields while nothing changes.  What pydantic
and `datetime` read are parameters.
-/

namespace Rcs

open Support Support.Text

/-- `REDIS_ROBOT_STATE_SCAN_PATTERN`. -/
def robotStateScanPattern : String := "robot:*:state"

/-- `RobotStatusResponse`. -/
structure RobotStatusResponse where
  amrCode : String
  x : Option PyFloat
  y : Option PyFloat
  state : Option String
  updatedAt : Option DateTime
  deriving DecidableEq, Repr

/-- `_extract_amr_code`. -/
def extractAmrCode (key : String) : String :=
  match key.toList.splitOn ':' with
  | _ :: part :: _ => .ofList part
  | _ => key

/-- `_decode`. -/
def decodeState (raw : RedisValue) : Option (List (String × Json)) :=
  match raw.loads with
  | some (.obj fields) => some fields
  | _ => none

/-- `payload.get("amrCode") or _extract_amr_code(key)`, as a `str` field. -/
def validateAmrCode (key : String) (fields : List (String × Json)) : Except PyExc String :=
  match Json.field fields "amrCode" with
  | some v =>
      if v.truthy then
        match v with
        | .str amrCode => .ok amrCode
        | _ => .error (.validationError "amrCode")
      else .ok (extractAmrCode key)
  | none => .ok (extractAmrCode key)

/-- `RobotService`, with what it reads a document by. -/
structure RobotService where
  /-- How pydantic reads a JSON value as a `float`. -/
  floatOf : Json → Option PyFloat
  /-- `datetime.fromisoformat`; `none` where it raises `ValueError`.  Of a value with an offset only
  the date and the time are kept. -/
  fromIsoformat : String → Option DateTime

namespace RobotService

variable (service : RobotService)

/-- `datetime.fromisoformat` of a member that is text; `None` for any other. -/
def readUpdatedAt (fields : List (String × Json)) : Except PyExc (Option DateTime) :=
  match Json.field fields "updatedAt" with
  | some (.str s) =>
      match service.fromIsoformat s with
      | some d => .ok (some d)
      | none => .error (.valueError "Invalid isoformat string")
  | _ => .ok none

/-- `_to_schema`. -/
def toSchema (key : String) (payload : List (String × Json)) : Except PyExc RobotStatusResponse := do
  let updatedAt ← service.readUpdatedAt payload
  let amrCode ← validateAmrCode key payload
  let x ← validateOptFloat service.floatOf payload "x"
  let y ← validateOptFloat service.floatOf payload "y"
  let state ← validateOptStr payload "state"
  return { amrCode, x, y, state, updatedAt }

/-- What the loop makes of one key: nothing where the entry is gone, cannot be decoded or does not
fit the schema. -/
def robotStatus? (key : String) (raw : Option RedisValue) : Option RobotStatusResponse :=
  match raw with
  | none => none
  | some raw =>
      if raw.truthy then
        match decodeState raw with
        | none | some [] => none
        | some payload => (service.toSchema key payload).toOption
      else none

/-- `RobotService.list_robot_states`, over the keys `SCAN` yields. -/
def listRobotStates : List String → M (List RobotStatusResponse)
  | [] => return []
  | key :: keys => do
      let raw ← perform (.redisGet key)
      let results ← listRobotStates keys
      return (service.robotStatus? key raw).toList ++ results

end RobotService

/-- The keys `SCAN` yields for a pattern: each one that has an entry, once. -/
structure Scans {ι : Type} (w : World ι) (pattern : String) (keys : List String) : Prop where
  nodup : keys.Nodup
  mem_iff : ∀ key, key ∈ keys ↔
    globMatch pattern.toList key.toList = true ∧ (w.redis key).isSome = true

end Rcs

import RcsMiddleware.Source.TaskService
import RcsMiddleware.Source.Worker
import RcsMiddleware.Support.JsonLoads

/-!
# Source — Texts

The stores as they are, which hold texts: Redis, whose documents `json.dumps` writes and `json.loads`
reads, and the Celery broker, whose messages are JSON too.  The tables are as in `World.lean`.

A message is read by `kombu`, whose `object_hook` decodes each object with exactly the members
`__type__` and `__value__` into something else, or refuses the message.  The model has no hook: it is
about payloads that have no such object among their extra members.

* `TextWorld`, `TextWorld.respond`: what an operation answers and leaves behind.
* `processMessage`: `_process_task_feedback_async` on the `dict` of a message.
-/

namespace Rcs

open Support Support.Text

/-! ### Entries -/

/-- The text of a value: a document is written by `json.dumps(v)`. -/
def RedisValue.stored : RedisValue → String
  | .text s => s
  | .json v => v.dumpsDefault

/-- The prefixes of the keys whose values are parsed: `_lookup_idempotency`, of both services, and
`RobotService._decode`. -/
def documentPrefixes : List String := ["idempotency:", "robot:"]

def isDocumentKey (key : String) : Bool := documentPrefixes.any (startsWith key)

/-- What a reader of the key makes of its text. -/
def readStored (read : String → PyFloat) (key raw : String) : RedisValue :=
  if isDocumentKey key then
    match Json.loads? read raw with
    | some v => .json v
    | none => .text raw
  else .text raw

/-! ### Messages -/

namespace TaskFeedbackPayload

/-- The declared members, under their aliases. -/
def declared (payload : TaskFeedbackPayload) : List (String × Json) :=
  [("robotTaskCode", .str payload.robotTaskCode), ("method", .str payload.method),
    ("x", jsonFloat payload.x), ("y", jsonFloat payload.y), ("amrCode", jsonOpt payload.amrCode),
    ("errorMsg", jsonOpt payload.errorMsg)]

/-- `payload.model_dump(by_alias=True)`. -/
def modelDump (payload : TaskFeedbackPayload) : Json := .obj (payload.declared ++ payload.extra)

/-- The text of the payload in a message.  What `kombu` would decode by its hook is excluded. -/
def message (payload : TaskFeedbackPayload) : String := payload.modelDump.dumpsDefault

end TaskFeedbackPayload

/-- `str(payload.get(key, ""))`. -/
def messageStr (payload : List (String × Json)) (key : String) : String :=
  ((Json.field payload key).getD (.str "")).pyStr

/-- `payload.get(key)` as the value of a text column, which takes text and `None` only. -/
def messageText (payload : List (String × Json)) (key : String) : Except PyExc (Option String) :=
  match Json.field payload key with
  | none | some .null => .ok none
  | some (.str s) => .ok (some s)
  | some v => .error (.typeError ("expected str, got " ++ v.typeName))

/-- `state_payload`. -/
def stateMessage (payload : List (String × Json)) (amrCode : String) (target : TaskStatus)
    (now : DateTime) : Json :=
  .obj [("amrCode", .str amrCode), ("x", (Json.field payload "x").getD .null),
    ("y", (Json.field payload "y").getD .null), ("state", .str target.value),
    ("lastTaskCode", (Json.field payload "robotTaskCode").getD .null),
    ("updatedAt", .str now.isoformat)]

/-- `_update_robot_state`, on the `dict` of a message. -/
def updateRobotStateOf (payload : List (String × Json)) (amrCode : Option String)
    (target : TaskStatus) (now : DateTime) : M Bool :=
  match truthy amrCode with
  | none => return false
  | some amrCode => do
      perform (.redisSetex (robotStateKey amrCode) robotStateTtlSeconds
        (.json (stateMessage payload amrCode target now)))
      return true

/-- `_process_task_feedback_async`, on the `dict` of a message. -/
def processMessage (payload : List (String × Json)) : M FeedbackResult :=
  let robotTaskCode := strip (messageStr payload "robotTaskCode")
  let method := strip (messageStr payload "method")
  if robotTaskCode = "" ∨ method = "" then
    return { updated := false, reason := some "missing_fields" }
  else do
    let target := targetStatus method
    let now ← perform .now
    let amrCode ← Prog.ofExcept (messageText payload "amrCode")
    let errorMsg ← Prog.ofExcept (messageText payload "errorMsg")
    let dbUpdated ← updateTaskHistory robotTaskCode method target amrCode errorMsg now
    let cacheUpdated ← updateRobotStateOf payload amrCode target now
    return { updated := dbUpdated, cacheUpdated := some cacheUpdated }

/-- What a worker does with the text of a message, which has nothing for `kombu`'s hook. -/
def receive (read : String → PyFloat) (text : String) : M FeedbackResult :=
  match Json.loads? read text with
  | some (.obj payload) => processMessage payload
  | _ => throw (.jsonDecodeError "Expecting value")

/-! ### The stores -/

/-- The texts in Redis, the messages of the broker, and the rest of the world. -/
structure TextWorld (ι : Type) where
  texts : String → Option String := fun _ => none
  messages : List (ι × String) := []
  rest : World ι := {}

namespace TextWorld

variable {ι : Type}

def setText (w : TextWorld ι) (key text : String) : TextWorld ι :=
  { w with texts := Function.update w.texts key (some text) }

def dropText (w : TextWorld ι) (key : String) : TextWorld ι :=
  { w with texts := Function.update w.texts key none }

/-- What an operation of process `i` answers and leaves behind. -/
def respond [DecidableEq ι] (read : String → PyFloat) (i : ι) (env : Env) :
    (o : Op) → TextWorld ι → Except PyExc (Ret o) × TextWorld ι
  | .redisGet key, w => env.fault.strike w (.ok ((w.texts key).map (readStored read key)), w)
  | .redisSet key value, w => env.fault.strike w (.ok (), w.setText key value.stored)
  | .redisSetNx key value _, w =>
      env.fault.strike w (if (w.texts key).isNone then (.ok true, w.setText key value.stored)
        else (.ok false, w))
  | .redisSetex key _ value, w => env.fault.strike w (.ok (), w.setText key value.stored)
  | .delay payload, w =>
      env.fault.strike w (.ok (), { w with messages := w.messages ++ [(i, payload.message)] })
  | o, w => ((Rcs.respond i env o w.rest).1, { w with rest := (Rcs.respond i env o w.rest).2 })

end TextWorld

end Rcs

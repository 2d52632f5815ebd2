import RcsMiddleware.System.Jobs

/-!
# System — Routines

The routines from which the programs of several jobs are made, by what they perform.  None of them
takes a lock, goes to RCS or adds to the log; so what is true of every operation that does nothing of
the kind (`Op.Plain`) is true of all that a routine performs, and the routine is walked through once.

* `withSession_only`, `getDbSession_only`, `authorized_only`: what a request runs in.
* `configSet_only`, `getConnectionSettings_only`, `listRobotStates_only`, and so on: the routines.
-/

namespace Rcs

open Support
open Support.Prog (Only)

/-- A change of the settings. -/
def Write.OfSettings : Write → Prop
  | .insertConfig _ _ | .updateConfig _ _ _ => True
  | _ => False

/-- An operation that takes no lock, does not go to RCS and adds nothing to the log. -/
def Op.Plain : Op → Prop
  | .redisGet _ | .redisSet _ _ | .redisSetex _ _ _ | .selectRobotType _ | .selectTask _
  | .selectConfig _ | .rollback | .close | .now => True
  | .commit pending => ∀ write ∈ pending, write.OfSettings
  | _ => False

variable {α : Type} {P : Op → Prop}

/-! ### What a request runs in -/

section Wrapped

variable {p : M α}

theorem withSession_only (hclose : P .close) (hp : Only P p) : Only P (withSession p) :=
  .tryFinally hp (.perform hclose)

theorem getDbSession_only (hclose : P .close) (hrollback : P .rollback) (hp : Only P p) :
    Only P (getDbSession p) :=
  withSession_only hclose (.tryCatch hp fun e => .bind (.perform hrollback) fun _ => .raise e)

theorem authorized_only {site : Deployment} {apiKey : Option String} (hp : Only P p) :
    Only P (site.authorized apiKey p) := by
  rw [Deployment.authorized]
  cases requireApiKey site.apiKey apiKey with
  | ok key => exact hp.bind fun _ => .ret ()
  | error e => exact .raise e

end Wrapped

/-! ### The routines -/

section Routines

variable (hP : ∀ o : Op, o.Plain → P o)

include hP

theorem plain_only {o : Op} (ho : o.Plain) : Only P (perform o) := .perform (hP o ho)

theorem lookupIdempotency_only (key : String) (request : TaskCreateRequest) :
    Only P (lookupIdempotency key request) :=
  .bind (plain_only hP trivial) fun _ => .ofExcept _

theorem finishTask_only (request : TaskCreateRequest) (header : Option String) (code : String) :
    Only P (finishTask request header code) := by
  rw [finishTask]
  split
  · exact .bind (plain_only hP trivial) fun _ => .ret _
  · exact .ret _

theorem lookupRaw_only (key : String) (request : RcsRawSubmitRequest) :
    Only P (lookupRaw key request) :=
  .bind (plain_only hP trivial) fun _ => .ofExcept _

theorem finishRaw_only (request : RcsRawSubmitRequest) (path : String) (header : Option String)
    (result : RcsRawSubmitResult) : Only P (finishRaw request path header result) := by
  rw [finishRaw]
  split
  · exact .bind (plain_only hP trivial) fun _ => .ret _
  · exact .ret _

theorem configGet_only (key : String) : Only P (configGet key) := by
  refine .bind (plain_only hP trivial) fun cached => ?_
  cases cachedText cached with
  | some cached => exact .ret _
  | none =>
      refine .bind (plain_only hP trivial) fun row => ?_
      rcases row with _ | _ | value
      · exact .ret _
      · exact .ret _
      · exact .bind (plain_only hP trivial) fun _ => .ret _

theorem getConnectionSettings_only (rcsBaseUrl : String) :
    Only P (getConnectionSettings rcsBaseUrl) :=
  .bind (configGet_only hP _) fun _ => .bind (configGet_only hP _) fun _ => .ofExcept _

theorem configSet_only (key value : String) : Only P (configSet key value) := by
  refine .bind (plain_only hP (o := .selectConfig key) trivial) fun row => ?_
  refine .bind (plain_only hP (o := .commit [configWrite key value row]) ?_) fun _ => ?_
  · intro write hm
    rw [List.mem_singleton.mp hm]
    cases row <;> exact trivial
  · exact plain_only hP (o := .redisSet (sysconfigKey key) (.text value)) trivial

theorem updateSystemConfig_only (rcsBaseUrl : String) (payload : ConnectionSettingsUpdate) :
    Only P (updateSystemConfig rcsBaseUrl payload) :=
  withSession_only (hP .close trivial) (.bind (configSet_only hP _ _) fun _ =>
    .bind (configSet_only hP _ _) fun _ => getConnectionSettings_only hP rcsBaseUrl)

theorem listRobotStates_only (service : RobotService) (keys : List String) :
    Only P (service.listRobotStates keys) := by
  induction keys with
  | nil => exact .ret _
  | cons key keys ih => exact .bind (plain_only hP trivial) fun _ => .bind ih fun _ => .ret _

theorem updateRobotState_only (payload : TaskFeedbackPayload) (target : TaskStatus) (now : DateTime) :
    Only P (updateRobotState payload target now) := by
  rw [updateRobotState]
  split
  · exact .ret _
  · exact .bind (plain_only hP trivial) fun _ => .ret _

end Routines

end Rcs

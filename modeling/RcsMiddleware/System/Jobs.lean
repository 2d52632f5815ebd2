import RcsMiddleware.Source.RcsSubmitService
import RcsMiddleware.Source.RobotService
import RcsMiddleware.Source.SystemConfig
import RcsMiddleware.Source.Worker

/-!
# System — Jobs

What the processes of the middleware run: the requests of its endpoints, each behind its check of the
credentials, and the feedbacks its Celery workers process.  A worker runs a payload that is in the
queue, in any order, any number of times and long after others (`brokered`).

The list of the robots takes the keys its `SCAN` yields.  The preview of a submit and the reading of
the settings do the same with the stores, and are one job.
-/

namespace Rcs

open Support Support.Text

/-- `require_api_key`: two strings are compared by their UTF-8 bytes. -/
def requireApiKey (expected : String) (apiKey : Option String) : Except PyExc String :=
  match truthy apiKey with
  | some key =>
      if key.toUTF8.data = expected.toUTF8.data then .ok key
      else .error (.app (.mk' .authenticationError none none none))
  | none => .error (.app (.mk' .authenticationError none none none))

/-- **The API key** is the only text the check accepts, and the empty key accepts none. -/
theorem requireApiKey_eq_ok {expected : String} {apiKey : Option String} {key : String} :
    requireApiKey expected apiKey = .ok key ↔ apiKey = some expected ∧ expected ≠ "" ∧ key = expected := by
  unfold requireApiKey
  constructor
  · intro h
    split at h
    · next found hfound =>
      split at h
      · next heq =>
        obtain ⟨hkey, hne⟩ := truthy_eq_some.mp hfound
        have he : found = expected := String.toByteArray_inj.mp (ByteArray.ext heq)
        cases h
        exact ⟨he ▸ hkey, he ▸ hne, he⟩
      · cases h
    · cases h
  · rintro ⟨rfl, hne, rfl⟩
    rw [truthy_some hne]
    exact if_pos rfl

/-- The settings of a deployment the jobs depend on, what the endpoint of the webhook does, and what
the list of the robots reads. -/
structure Deployment where
  apiKey : String
  rcsBaseUrl : String
  webhook : WebhookRouter
  robots : RobotService

/-- A request of one of the endpoints, or a payload a worker takes from the queue. -/
inductive Job where
  | create (apiKey : Option String) (request : TaskCreateRequest) (idempotencyKey : Option String)
  | raw (apiKey : Option String) (request : RcsRawSubmitRequest) (idempotencyKey : Option String)
  | configure (apiKey : Option String) (payload : ConnectionSettingsUpdate)
  | settings (apiKey : Option String)
  | robots (apiKey : Option String) (keys : List String)
  | deliver (requestId : String) (rawBody : ByteArray) (signature : Option String)
  | process (payload : TaskFeedbackPayload)

/-- `p`, behind `Depends(require_api_key)`. -/
def Deployment.authorized {α : Type} (site : Deployment) (apiKey : Option String) (p : M α) : M Unit :=
  match requireApiKey site.apiKey apiKey with
  | .ok _ => p.discard
  | .error e => throw e

/-- The program of a job; what it answers is dropped. -/
def Job.serve (site : Deployment) : Job → M Unit
  | .create apiKey request idempotencyKey =>
      site.authorized apiKey (getDbSession (createTask request idempotencyKey))
  | .raw apiKey request idempotencyKey =>
      site.authorized apiKey (getDbSession (submitRaw request idempotencyKey))
  | .configure apiKey payload => site.authorized apiKey (updateSystemConfig site.rcsBaseUrl payload)
  | .settings apiKey => site.authorized apiKey (getDbSession (getConnectionSettings site.rcsBaseUrl))
  | .robots apiKey keys => site.authorized apiKey (site.robots.listRobotStates keys)
  | .deliver requestId rawBody signature =>
      (getDbSession (site.webhook.taskFeedback requestId rawBody signature)).discard
  | .process payload => (processTaskFeedback payload).discard

variable {ι : Type}

/-- The payload has been enqueued. -/
def World.Queued (w : World ι) (payload : TaskFeedbackPayload) : Prop :=
  ∃ i, (i, payload) ∈ w.queue

/-- The middleware with its broker: a worker takes a step only on a payload that has been enqueued. -/
def brokered [DecidableEq ι] (jobs : ι → Job) (expires : String → Prop) :
    System ι Op Ret PyExc (World ι) where
  exec i o w r w' := Exec i o w r w' ∧ ∀ payload, jobs i = .process payload → w.Queued payload
  env := (system expires).env

/-- All jobs at their start. -/
def launch (site : Deployment) (jobs : ι → Job) (w : World ι) :
    Config ι Op Ret PyExc Unit (World ι) :=
  .start w fun i => (jobs i).serve site

end Rcs

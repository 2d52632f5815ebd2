import RcsMiddleware.Source.Worker
import RcsMiddleware.Submit.Concurrent
import RcsMiddleware.Submit.Recorded

/-!
# Submit — Entries

The two submit services and the worker keep to the discipline of `Recorded.lean`: they save an entry
after the commit of the row it names, and answer from the cache with what was saved.

* `createTask_keeps`, `submitRaw_keeps`, `processTaskFeedback_keeps`: each of the programs.
* `entries_name_recorded_tasks`: beside any others, what is cached and what is answered names a task
  with a committed row.
-/

namespace Rcs

open Support Support.Text

variable {ι : Type} [DecidableEq ι] {codes : Set String}

/-! ### The programs -/

theorem recording_allows_mono {codes codes' : Set String} {o : Op} (hle : codes ≤ codes')
    (h : recording.allows codes o) : recording.allows codes' o :=
  fun value hvalue => (h value hvalue).mono hle

theorem RcsRawSubmitResult.NamesRecorded.mono {codes codes' : Set String}
    {result : RcsRawSubmitResult} (h : result.NamesRecorded codes) (hle : codes ⊆ codes') :
    result.NamesRecorded codes' := by
  intro hp
  obtain ⟨code, hcode, hresult⟩ := h hp
  exact ⟨code, hle hcode, hresult⟩

variable {inserted : Set String}

theorem perform_keeps {o : Op} {Q : Set String → Ret o → Prop} (ho : recording.allows codes o)
    (h : ∀ a codes' inserted', codes ≤ codes' → recording.learns codes' inserted o (.ok a) inserted' →
      Q codes' a) : Keeps recording Q codes inserted (perform o) := .perform ho h

/-- An operation that stores nothing. -/
theorem perform_silent {o : Op} (ho : o.stored? = none) :
    Keeps recording (fun _ _ => True) codes inserted (perform o) :=
  perform_keeps (fun value hvalue => by rw [ho] at hvalue; cases hvalue) fun _ _ _ _ _ => trivial

/-- A value that may be stored. -/
theorem setex_keeps {key : String} {ttl : Nat} {value : RedisValue} (h : SavedValue codes value) :
    Keeps recording (fun _ _ => True) codes inserted (perform (.redisSetex key ttl value)) :=
  perform_keeps (fun _ hvalue => Option.some.inj hvalue ▸ h) fun _ _ _ _ _ => trivial

/-- The row is inserted and then committed, or the program raises. -/
theorem persistTask_keeps (row : TaskHistory) :
    Keeps recording (fun codes _ => row.robotTaskCode ∈ codes) codes inserted
      (persistTask row) := by
  refine .tryCatch (.op nofun fun r codes₁ inserted₁ _ hnote => ?_) fun e codes' inserted' _ => ?_
  · cases r with
    | error e => exact .raise e
    | ok u =>
        refine .op nofun fun r' codes₂ inserted₂ _ hnote' => ?_
        cases r' with
        | error e => exact .raise e
        | ok u' =>
            obtain ⟨hcommitted, -⟩ := hnote'
            rw [show inserted₁ = {row.robotTaskCode} from hnote] at hcommitted
            exact .ret (hcommitted rfl)
  · exact .bind (perform_silent (o := .rollback) rfl) fun _ _ _ _ _ => .raise e

/-- What a lookup finds is consistent with what is recorded. -/
theorem redisGet_keeps (key : String) :
    Keeps recording (fun codes raw => ∀ value ∈ raw, SavedValue codes value) codes inserted
      (perform (.redisGet key)) :=
  perform_keeps nofun fun _ _ _ _ hnote => hnote.1

theorem cachedDocument_eq_some {raw : Option RedisValue} {doc : Json}
    (h : cachedDocument raw = some doc) : raw = some (.json doc) := by
  rcases raw with _ | s | doc'
  · cases h
  · simp [cachedDocument, RedisValue.loads] at h
  · cases h
    rfl

theorem readCached_recorded {key : String} {request : TaskCreateRequest} {raw : Option RedisValue}
    (h : ∀ value ∈ raw, SavedValue codes value) {result : TaskCreateResponseData}
    (hr : readCached key request raw = .ok (some result)) : result.robotTaskCode ∈ codes := by
  rw [readCached] at hr
  cases hd : cachedDocument raw with
  | none =>
      rw [hd] at hr
      cases hr
  | some doc =>
      have hdoc : Saved codes doc := h _ (cachedDocument_eq_some hd)
      cases he : readEnvelope key request doc with
      | error e =>
          rw [hd] at hr
          dsimp only at hr
          rw [he] at hr
          cases hr
      | ok found =>
          rw [hd] at hr
          dsimp only at hr
          rw [he] at hr
          cases hr
          exact hdoc.readEnvelope he

theorem readRawCached_recorded {key : String} {request : RcsRawSubmitRequest}
    {raw : Option RedisValue} (h : ∀ value ∈ raw, SavedValue codes value)
    {result : RcsRawSubmitResult} (hr : readRawCached key request raw = .ok (some result)) :
    result.NamesRecorded codes := by
  rw [readRawCached] at hr
  cases hd : cachedDocument raw with
  | none =>
      rw [hd] at hr
      cases hr
  | some doc =>
      have hdoc : Saved codes doc := h _ (cachedDocument_eq_some hd)
      cases he : readRawEnvelope key request doc with
      | error e =>
          rw [hd] at hr
          dsimp only at hr
          rw [he] at hr
          cases hr
      | ok found =>
          rw [hd] at hr
          dsimp only at hr
          rw [he] at hr
          cases hr
          exact hdoc.readRawEnvelope he

/-! ### `create_task` -/

/-- A created task is recorded. -/
def CreatedRecorded (codes : Set String) (result : TaskCreateResponseData) : Prop :=
  result.robotTaskCode ∈ codes

theorem finishTask_keeps (request : TaskCreateRequest) (header : Option String) {code : String}
    (h : code ∈ codes) :
    Keeps recording CreatedRecorded codes inserted (finishTask request header code) := by
  rw [finishTask]
  split
  · exact .bind (setex_keeps (Saved.create request h)) fun _ _ _ hle _ => .ret (hle h)
  · exact .ret h

theorem recordTask_keeps (request : TaskCreateRequest) (header : Option String) (v : Json) :
    Keeps recording CreatedRecorded codes inserted (recordTask request header v) := by
  refine .bind (Q := fun _ _ => True) (.ofExcept fun _ _ => trivial) fun code _ _ _ _ => ?_
  refine .bind (persistTask_keeps _) fun _ _ _ _ hcode => ?_
  exact finishTask_keeps request header hcode

theorem createUncached_keeps (request : TaskCreateRequest) (header : Option String) :
    Keeps recording CreatedRecorded codes inserted (createUncached request header) := by
  refine .bind (perform_silent rfl) fun robotType _ _ _ _ => ?_
  cases robotType with
  | none => exact .raise _
  | some robotType =>
      exact .bind (perform_silent rfl) fun v _ _ _ _ => recordTask_keeps request header v

/-- What `create_task` answers, from the cache or not, is recorded. -/
theorem createTask_keeps (request : TaskCreateRequest) (header : Option String) :
    Keeps recording CreatedRecorded codes inserted (createTask request header) := by
  rw [createTask]
  split
  · next key _ =>
    refine .bind (Q := fun codes found => ∀ result ∈ found, CreatedRecorded codes result) ?_
      fun found _ _ _ hfound => ?_
    · refine .bind (redisGet_keeps _) fun raw _ _ _ hraw => .ofExcept fun found hr => ?_
      rintro result rfl
      exact readCached_recorded hraw hr
    · cases found with
      | some result => exact .ret (hfound result rfl)
      | none => exact createUncached_keeps request header
  · exact createUncached_keeps request header

/-! ### `submit_raw` -/

/-- A raw submit that says it is recorded is. -/
def RawRecorded (codes : Set String) (result : RcsRawSubmitResult) : Prop :=
  result.NamesRecorded codes

theorem finishRaw_keeps (request : RcsRawSubmitRequest) (path : String) (header : Option String)
    {result : RcsRawSubmitResult} (h : result.NamesRecorded codes) :
    Keeps recording RawRecorded codes inserted (finishRaw request path header result) := by
  rw [finishRaw]
  split
  · exact .bind (setex_keeps (Saved.raw request path h)) fun _ _ _ hle _ => .ret (h.mono hle)
  · exact .ret h

theorem recordRaw_keeps (request : RcsRawSubmitRequest) (path : String) (header : Option String)
    (v : Json) : Keeps recording RawRecorded codes inserted (recordRaw request path header v) := by
  refine .bind (Q := fun _ _ => True) (.ofExcept fun _ _ => trivial) fun code _ _ _ _ => ?_
  split
  · refine .bind (persistTask_keeps _) fun _ _ _ _ hcode => ?_
    exact finishRaw_keeps request path header fun _ => ⟨_, hcode, rfl⟩
  · exact finishRaw_keeps request path header fun hp => by cases hp

theorem sendRaw_keeps (request : RcsRawSubmitRequest) (path : String) (header : Option String) :
    Keeps recording RawRecorded codes inserted (sendRaw request path header) := by
  refine .bind (.tryCatch (perform_silent rfl) fun _ _ _ _ => .raise _) fun v _ _ _ _ => ?_
  exact recordRaw_keeps request path header v

theorem submitRaw_keeps (request : RcsRawSubmitRequest) (header : Option String) :
    Keeps recording RawRecorded codes inserted (submitRaw request header) := by
  refine .bind (Q := fun _ _ => True) (.ofExcept fun _ _ => trivial) fun path _ _ _ _ => ?_
  split
  · next key _ =>
    refine .bind (Q := fun codes found => ∀ result ∈ found, RawRecorded codes result) ?_
      fun found _ _ _ hfound => ?_
    · refine .bind (redisGet_keeps _) fun raw _ _ _ hraw => .ofExcept fun found hr => ?_
      rintro result rfl
      exact readRawCached_recorded hraw hr
    · cases found with
      | some result => exact .ret (hfound result rfl)
      | none => exact sendRaw_keeps request path header
  · exact sendRaw_keeps request path header

/-! ### `process_task_feedback` -/

theorem withSession_keeps {α : Type} {Q : Set String → α → Prop} {p : M α}
    (hp : Keeps recording Q codes inserted p)
    (hQ : ∀ {codes codes' : Set String} {a}, codes ≤ codes' → Q codes a → Q codes' a) :
    Keeps recording Q codes inserted (withSession p) :=
  .tryFinally hp hQ fun _ _ _ => perform_silent (o := .close) rfl

theorem applyFeedback_keeps (existing : Option TaskHistory) (code method : String)
    (target : TaskStatus) (amrCode errorMsg : Option String) (now : DateTime) :
    Keeps recording (fun _ _ => True) codes inserted
      (applyFeedback existing code method target amrCode errorMsg now) := by
  cases existing with
  | none => exact .ret trivial
  | some existing =>
      rw [applyFeedback]
      split
      · exact .ret trivial
      · refine .bind (perform_silent rfl) fun _ _ _ _ _ => ?_
        exact .bind (perform_silent (o := .commit []) rfl) fun _ _ _ _ _ => .ret trivial

/-- The state of a robot is no entry of a cache. -/
theorem updateRobotState_keeps (payload : TaskFeedbackPayload) (target : TaskStatus)
    (now : DateTime) :
    Keeps recording (fun _ _ => True) codes inserted (updateRobotState payload target now) := by
  rw [updateRobotState]
  split
  · exact .ret trivial
  · have hother : ∀ amrCode, Saved codes (statePayload payload amrCode target now) :=
      fun amrCode => .other rfl rfl
    exact .bind (setex_keeps (hother _)) fun _ _ _ _ _ => .ret trivial

theorem processTaskFeedback_keeps (payload : TaskFeedbackPayload) :
    Keeps recording (fun _ _ => True) codes inserted (processTaskFeedback payload) := by
  rw [processTaskFeedback]
  dsimp only
  split
  · exact .ret trivial
  · refine .bind (perform_silent rfl) fun now _ _ _ _ => ?_
    refine .bind (withSession_keeps (.bind (perform_silent rfl) fun existing _ _ _ _ => ?_)
      fun _ _ => trivial) fun _ _ _ _ _ => ?_
    · exact applyFeedback_keeps existing _ _ _ _ _ now
    · exact .bind (updateRobotState_keeps payload _ now) fun _ _ _ _ _ => .ret trivial

/-! ### Any of them beside the others -/

/-- A request on one of the submit endpoints, or a feedback to process. -/
inductive Work where
  | create (request : TaskCreateRequest) (idempotencyKey : Option String)
  | raw (request : RcsRawSubmitRequest) (idempotencyKey : Option String)
  | feedback (payload : TaskFeedbackPayload)

/-- What the work returns. -/
inductive Reply where
  | created (result : TaskCreateResponseData)
  | submitted (result : RcsRawSubmitResult)
  | processed (result : FeedbackResult)

/-- The work, in sessions of its own. -/
def Work.serve : Work → M Reply
  | .create request idempotencyKey =>
      return .created (← withSession (createTask request idempotencyKey))
  | .raw request idempotencyKey =>
      return .submitted (← withSession (submitRaw request idempotencyKey))
  | .feedback payload => return .processed (← processTaskFeedback payload)

/-- What a reply says is recorded is. -/
def Reply.NamesRecorded (codes : Set String) : Reply → Prop
  | .created result => result.robotTaskCode ∈ codes
  | .submitted result => result.NamesRecorded codes
  | .processed _ => True

theorem Reply.NamesRecorded.mono {codes codes' : Set String} {reply : Reply} (hle : codes ≤ codes')
    (h : reply.NamesRecorded codes) : reply.NamesRecorded codes' := by
  cases reply with
  | created result => exact hle h
  | submitted result => exact RcsRawSubmitResult.NamesRecorded.mono h hle
  | processed result => trivial

theorem Work.serve_keeps (work : Work) :
    Keeps recording Reply.NamesRecorded codes inserted work.serve := by
  cases work with
  | create request header =>
      refine .bind (withSession_keeps (createTask_keeps request header) fun hle h => hle h)
        fun _ _ _ _ h => .ret h
  | raw request header =>
      refine .bind (withSession_keeps (submitRaw_keeps request header) fun hle h => h.mono hle)
        fun _ _ _ _ h => .ret h
  | feedback payload =>
      exact .bind (processTaskFeedback_keeps payload) fun _ _ _ _ _ => .ret trivial

omit [DecidableEq ι] in
theorem mem_recorded {w : World ι} {code : String} :
    code ∈ recorded w ↔ ∃ row, w.db.tasks.find? code = some row := Option.isSome_iff_exists

/-- **Entries name recorded tasks.**  Any calls of the two submit endpoints and any feedbacks run
beside each other, whatever fails, whatever expires and wherever they stop.  Then each entry that
`create_task` has saved, and each one of `submit_raw` with `persisted`, names a task with a committed
row; and so does each such answer, whether or not it is replayed from an entry. -/
theorem entries_name_recorded_tasks {expires : String → Prop}
    {G : Guard ι Op Ret PyExc Reply (World ι)} {w : World ι} (hw : Consistent w) {work : ι → Work}
    {c : Config ι Op Ret PyExc Reply (World ι)}
    (h : Run (system expires) G (.start w fun i => (work i).serve) c) :
    (∀ key request result, c.shared.redis key = some (.json (envelope request result)) →
      ∃ row, c.shared.db.tasks.find? result.robotTaskCode = some row) ∧
    (∀ key request path result,
      c.shared.redis key = some (.json (rawEnvelope request path result)) →
      result.persisted = true →
      ∃ code row, result.robotTaskCode = some code ∧ c.shared.db.tasks.find? code = some row) ∧
    (∀ i result, c.procs i = .ret (.created result) →
      ∃ row, c.shared.db.tasks.find? result.robotTaskCode = some row) ∧
    ∀ i result, c.procs i = .ret (.submitted result) → result.persisted = true →
      ∃ code row, result.robotTaskCode = some code ∧ c.shared.db.tasks.find? code = some row := by
  obtain ⟨hredis, hprocs⟩ := Run.keeps (Q := Reply.NamesRecorded) (recording_governs expires)
    recording_allows_mono Reply.NamesRecorded.mono h hw
    fun i => ⟨∅, .empty w i, (work i).serve_keeps⟩
  have hraw : ∀ {result : RcsRawSubmitResult}, result.NamesRecorded (recorded c.shared) →
      result.persisted = true →
      ∃ code row, result.robotTaskCode = some code ∧ c.shared.db.tasks.find? code = some row := by
    intro result hresult hp
    obtain ⟨code, hcode, heq⟩ := hresult hp
    obtain ⟨row, hrow⟩ := mem_recorded.mp hcode
    exact ⟨code, row, heq, hrow⟩
  have hreply : ∀ {i reply}, c.procs i = .ret reply → reply.NamesRecorded (recorded c.shared) := by
    intro i reply hi
    obtain ⟨inserted, -, hkeep⟩ := hprocs i
    rw [hi] at hkeep
    cases hkeep with
    | ret hQ => exact hQ
  refine ⟨fun key request result hkey => ?_, fun key request path result hkey => ?_,
    fun i result hi => mem_recorded.mp (hreply hi), fun i result hi => hraw (hreply hi)⟩
  · exact mem_recorded.mp (Saved.of_envelope (hredis key _ hkey))
  · exact hraw (Saved.of_rawEnvelope (hredis key _ hkey))

/-- The first call runs to its end, and the second one replays its answer. -/
def replayed : List (Bool × Env) :=
  [(false, {}), (false, {}), (false, accepted "T1"), (false, {}), (false, {}), (false, {}),
    (false, {}), (true, {}), (true, {})]

/-- The task a call has answered with. -/
def createdOf : M Reply → Option TaskCreateResponseData
  | .ret (.created result) => some result
  | _ => none

theorem eq_ret_of_createdOf {p : M Reply} {result : TaskCreateResponseData}
    (h : createdOf p = some result) : p = .ret (.created result) := by
  unfold createdOf at h
  split at h
  · cases h
    rfl
  · cases h

theorem entries_name_recorded_tasks_replayed :
    ∃ c, Run (system fun _ => True) unguarded (.start { db := sampleTables } fun _ : Bool =>
        (Work.create sampleRequest (some "k")).serve) c ∧
      c.procs true = .ret (.created ⟨"T1", "pending", true⟩) ∧
        ∃ row, c.shared.db.tasks.find? "T1" = some row := by
  obtain ⟨c, hc, hdone⟩ : ∃ c, Run (system fun _ => True) unguarded (.start { db := sampleTables }
      fun _ : Bool => (Work.create sampleRequest (some "k")).serve) c ∧
      createdOf (c.procs true) = some ⟨"T1", "pending", true⟩ :=
    run_of_schedule replayed (by decide)
  have hreply := eq_ret_of_createdOf hdone
  refine ⟨c, hc, hreply, ?_⟩
  exact (entries_name_recorded_tasks (fun key value hkey => by cases hkey) hc).2.2.1 true _ hreply

end Rcs

import RcsMiddleware.Source.RcsSubmitService

/-!
# Submit — Sequential

Submit requests that run one after the other.  `Answers` says how RCS and each store answer one
request, and `p.run a.respond w` runs it in the world `w`.  The lemmas say where each part of a
request leaves the world.

* `Answers.available`: the stores at their best, which still refuse a row that does not fit.
* `persist_ok`, `persist_fails`: the row is inserted and committed, or the request raises.
* `createTask_of_hit`, `createTask_of_miss`, and so on: what `create_task` comes to, by what its
  lookup finds and what RCS answers; likewise for `submit_raw`.
-/

namespace Rcs

open Support Support.Text Support.Prog

/-- How RCS, and each store after the call of RCS, answer one request.  That a row does not fit its
columns is a fault of its flush. -/
structure Answers where
  rcs : Except PyExc Json
  flush : TaskHistory → Fault := fun _ => .none
  commit : Fault := .none
  rollback : Fault := .none
  setex : Fault := .none

/-- The answers, by operation. -/
def Answers.env (a : Answers) : Op → Env
  | .rcs _ => { rcs := a.rcs }
  | .insertTask row => { fault := a.flush row }
  | .commit _ => { fault := a.commit }
  | .rollback => { fault := a.rollback }
  | .redisSetex _ _ _ => { fault := a.setex }
  | _ => {}

/-- How one operation of a request is answered. -/
def Answers.respond (a : Answers) (o : Op) (w : World Unit) : Except PyExc (Ret o) × World Unit :=
  Rcs.respond () (a.env o) o w

variable {α : Type} {a : Answers} {w : World Unit}
  {h : (o : Op) → World Unit → Except PyExc (Ret o) × World Unit}

@[simp] theorem Answers.respond_rcs (call : RcsCall) :
    a.respond (.rcs call) w = (a.rcs, w.logRcs () call a.rcs) := rfl

@[simp] theorem Answers.respond_redisGet (key : String) :
    a.respond (.redisGet key) w = (.ok (w.redis key), w) := rfl

/-- A database operation leaves Redis and RCS alone. -/
theorem Answers.respond_sql {o : Op} (ho : o.Sql) :
    (a.respond o w).2.redis = w.redis ∧ (a.respond o w).2.rcsLog = w.rcsLog :=
  ⟨(Rcs.respond_sql _ _ _ ho).1, (Rcs.respond_sql _ _ _ ho).2.1⟩

/-- The session is closed at the end of a request. -/
theorem withSession_world (p : M α) :
    ((withSession p).run a.respond w).2 = (p.run a.respond w).2.setSession () [] := by
  rw [withSession, Prog.tryFinally, run_bind, run_tryCatch]
  rcases p.run a.respond w with ⟨e | x, w'⟩
  · rfl
  · rfl

/-- No program changes the robot types. -/
theorem run_robotTypes (p : M α) (w : World Unit) :
    (p.run a.respond w).2.db.robotTypes = w.db.robotTypes := by
  induction p generalizing w with
  | ret x => rfl
  | raise e => rfl
  | op o k ih => exact (ih _ _).trans (respond_robotTypes () (a.env o) o w)

/-! ### Persisting the row -/

/-- No store fails while the row is persisted. -/
def Answers.Persists (a : Answers) (row : TaskHistory) : Prop :=
  a.flush row = .none ∧ a.commit = .none

/-- The rollback of a request that has failed with `e`. -/
def rollBack (e : PyExc) : M Unit := (perform .rollback).bind fun _ => .raise e

theorem rollBack_error (e : PyExc) : ∃ e', ((rollBack e).run a.respond w).1 = .error e' := by
  rw [rollBack, run_bind, run_perform]
  rcases a.respond .rollback w with ⟨e' | u, w'⟩
  · exact ⟨e', rfl⟩
  · exact ⟨e, rfl⟩

theorem persist_run (row : TaskHistory) :
    (persistTask row).run h w =
      onError (onOk (h (.insertTask row) w) fun _ => h (.commit []))
        fun e => (rollBack e).run h := by
  rw [persistTask, run_tryCatch, bind_eq, run_bind, run_perform]
  rcases h (.insertTask row) w with ⟨e | u, w'⟩
  · rfl
  · rw [onOk_ok, onOk_ok, run_perform]
    rfl

/-- The row is in the table and the session is empty. -/
theorem persist_ok {row : TaskHistory} (hs : w.sessions () = []) (ha : a.Persists row)
    (hv : w.db.tasks.violated? row = none) :
    (persistTask row).run a.respond w =
      (.ok (), { w with db := { w.db with tasks := w.db.tasks.insert row hv } }) := by
  obtain ⟨hf, hc⟩ := ha
  have hinsert : a.respond (.insertTask row) w = (.ok (), w.setSession () [.insertTask row]) := by
    simp [Answers.respond, Answers.env, respond, Fault.strike, hf, hv, hs]
  have hcommit : a.respond (.commit []) (w.setSession () [.insertTask row]) =
      (.ok (), { w with db := { w.db with tasks := w.db.tasks.insert row hv } }) := by
    have hu : Function.update w.sessions () [] = w.sessions := by
      rw [← hs, Function.update_eq_self]
    simp [Answers.respond, Answers.env, respond, Fault.strike, hc, World.commit, Write.run,
      TaskTable.insert?_of_not_violated hv, World.setSession, hu]
  rw [persist_run, hinsert, onOk_ok, hcommit, onError_ok]

/-- Otherwise the request raises. -/
theorem persist_fails {row : TaskHistory}
    (h : ¬ (a.Persists row ∧ w.db.tasks.violated? row = none)) :
    ∃ e, ((persistTask row).run a.respond w).1 = .error e := by
  rw [persist_run]
  rcases hi : a.respond (.insertTask row) w with ⟨e | u, w₁⟩
  · exact rollBack_error e
  rw [onOk_ok]
  -- The insert went through, so it is the commit that fails.
  rcases hc : a.respond (.commit []) w₁ with ⟨e | u, w₂⟩
  · exact rollBack_error e
  refine absurd ⟨⟨?_, ?_⟩, ?_⟩ h
  · cases hf : a.flush row with
    | none => rfl
    | before e | after e => simp [Answers.respond, Answers.env, respond, Fault.strike, hf] at hi
  · cases hf : a.commit with
    | none => rfl
    | before e | after e => simp [Answers.respond, Answers.env, respond, Fault.strike, hf] at hc
  · cases hv : w.db.tasks.violated? row with
    | none => rfl
    | some column =>
        cases hf : a.flush row <;>
          simp [Answers.respond, Answers.env, respond, Fault.strike, hf, hv] at hi

/-- A row that is refused leaves the tables as they were. -/
theorem persist_rejected {row : TaskHistory} {e : PyExc}
    (hinsert : a.respond (.insertTask row) w = (.error e, w)) :
    ((persistTask row).run a.respond w).2.db = w.db := by
  rw [persist_run, hinsert, onOk_error, onError_error, rollBack, run_bind, run_perform]
  cases hr : a.rollback <;> simp [Answers.respond, Answers.env, respond, Fault.strike, hr]

/-- What would follow a row that is refused does not run. -/
theorem persist_onOk_rejected {β : Type} {row : TaskHistory} {e : PyExc}
    {f : Unit → World Unit → Except PyExc β × World Unit}
    (hinsert : a.respond (.insertTask row) w = (.error e, w)) :
    (onOk ((persistTask row).run a.respond w) f).2.db = w.db := by
  have hdb := persist_rejected hinsert
  obtain ⟨e', he'⟩ : ∃ e', ((persistTask row).run a.respond w).1 = .error e' := by
    rw [persist_run, hinsert, onOk_error, onError_error]
    exact rollBack_error e
  rcases hrun : (persistTask row).run a.respond w with ⟨e'' | u, w'⟩
  · rw [hrun] at hdb
    exact hdb
  · rw [hrun] at he'
    cases he'

section Performed

variable {P : Op → Prop}

/-- What is true of the insert, the commit and the rollback is true of all that persisting
performs. -/
theorem persistTask_only {row : TaskHistory} (hinsert : P (.insertTask row))
    (hcommit : P (.commit [])) (hrollback : P .rollback) : Only P (persistTask row) := by
  refine .tryCatch (.bind (.perform hinsert) fun _ => .perform hcommit) fun e => ?_
  exact .bind (.perform hrollback) fun _ => .raise e

/-- Recording a raw submit persists its row, when it has one, and finishes. -/
theorem recordRaw_only {request : RcsRawSubmitRequest} {path : String} {header : Option String}
    {v : Json} (hpersist : ∀ code, Only P (persistTask (rawRow request header code)))
    (hfinish : ∀ code persisted, Only P (finishRaw request path header (rawResult code persisted v))) :
    Only P (recordRaw request path header v) := by
  refine .bind (.ofExcept _) fun code => ?_
  split
  · exact (hpersist _).bind fun _ => hfinish _ _
  · exact hfinish _ _

theorem persistTask_sql (row : TaskHistory) : Only Op.Sql (persistTask row) :=
  persistTask_only trivial trivial trivial

end Performed

/-- Persisting, however it ends, leaves Redis and RCS alone. -/
theorem persist_frame (row : TaskHistory) :
    ((persistTask row).run a.respond w).2.redis = w.redis ∧
      ((persistTask row).run a.respond w).2.rcsLog = w.rcsLog := by
  refine (persistTask_sql row).run_preserves
    (I := fun w' : World Unit => w'.redis = w.redis ∧ w'.rcsLog = w.rcsLog) ?_ ⟨rfl, rfl⟩
  rintro o w' ho ⟨hredis, hlog⟩
  obtain ⟨hr, hl⟩ := Answers.respond_sql (a := a) (w := w') ho
  exact ⟨hr.trans hredis, hl.trans hlog⟩

/-! ### The stores are available -/

/-- The stores are available, and RCS answers `rcs`.  A value too long for its column is refused, as
MySQL does in its strict mode; the constraints refuse what they do; and nothing else fails. -/
def Answers.available (rcs : Except PyExc Json) : Answers where
  rcs := rcs
  flush row := if row.Fits then .none else .before (.storeError "Data too long for column")

section Available

variable {rcs : Except PyExc Json} {row : TaskHistory}

theorem available_persists (h : row.Fits) : (Answers.available rcs).Persists row :=
  ⟨if_pos h, rfl⟩

/-- A row that does not fit, or that a constraint rejects, is refused by the database. -/
theorem available_refuses (rcs : Except PyExc Json)
    (h : ¬ (row.Fits ∧ w.db.tasks.violated? row = none)) :
    ∃ e, (Answers.available rcs).respond (.insertTask row) w = (.error e, w) ∧
      ∀ a, e ≠ .app a := by
  by_cases hfit : row.Fits
  · cases hv : w.db.tasks.violated? row with
    | none => exact absurd ⟨hfit, hv⟩ h
    | some column =>
        refine ⟨.integrityError column, ?_, fun _ ha => by cases ha⟩
        simp [Answers.respond, Answers.env, Answers.available, respond, Fault.strike, hfit, hv]
  · refine ⟨.storeError "Data too long for column", ?_, fun _ ha => by cases ha⟩
    simp [Answers.respond, Answers.env, Answers.available, respond, Fault.strike, hfit]

end Available

/-! ### `create_task` -/

/-- The lookup misses, or there is no key to look up. -/
def Misses (redisKey : String → String) (header : Option String) (w : World Unit) : Prop :=
  ∀ key, truthy header = some key → cachedDocument (w.redis (redisKey key)) = none

/-- The robot type of the request, when the database knows it. -/
def robotTypeOf (request : TaskCreateRequest) (db : Tables) : Option RobotType :=
  db.robotTypes.find? fun t => t.name = request.robotType

theorem misses_none (redisKey : String → String) : Misses redisKey none w := fun key hkey => by
  cases hkey

theorem misses_some {redisKey : String → String} {key : String}
    (h : cachedDocument (w.redis (redisKey key)) = none) : Misses redisKey (some key) w := by
  intro key' hkey'
  obtain ⟨he, -⟩ := truthy_eq_some.mp hkey'
  cases he
  exact h

theorem respond_setex_db {key : String} {ttl : Nat} {v : RedisValue} :
    (a.respond (.redisSetex key ttl v) w).2.db = w.db := by
  cases hf : a.setex <;> simp [Answers.respond, Answers.env, respond, Fault.strike, hf]

section Create

variable {request : TaskCreateRequest} {header : Option String} {key : String}

theorem lookup_run (key : String) :
    (lookupIdempotency key request).run a.respond w =
      (readCached key request (w.redis (idempotencyKey key)), w) := by
  rw [lookupIdempotency, bind_eq, run_bind, run_perform, Answers.respond_redisGet, onOk_ok]
  exact run_ofExcept _ _

/-- A lookup that finds a document ends the call. -/
theorem createTask_of_hit (hkey : key ≠ "")
    (hd : cachedDocument (w.redis (idempotencyKey key)) ≠ none) :
    ((createTask request (some key)).run a.respond w).2 = w := by
  obtain ⟨document, hd⟩ := Option.ne_none_iff_exists'.mp hd
  rw [createTask, truthy_some hkey]
  simp only [bind_eq, run_bind, lookup_run, readCached, hd]
  cases readEnvelope key request document <;> rfl

theorem createTask_of_miss (hm : Misses idempotencyKey header w) :
    (createTask request header).run a.respond w =
      (createUncached request header).run a.respond w := by
  rw [createTask]
  cases ht : truthy header with
  | none => rfl
  | some key => simp only [bind_eq, run_bind, lookup_run, readCached, hm key ht, onOk_ok]

theorem createUncached_run :
    (createUncached request header).run a.respond w =
      (submitTask request header (robotTypeOf request w.db)).run a.respond w := by
  rw [createUncached, bind_eq, run_bind, run_perform]
  rfl

theorem submitTask_of_known (robotType : RobotType) :
    (submitTask request header (some robotType)).run a.respond w =
      onOk (a.rcs,
          w.logRcs () (.submitTask (buildSubmitPayload request robotType.rcsTaskType)) a.rcs)
        fun v => (recordTask request header v).run a.respond := by
  rw [submitTask, bind_eq, run_bind, run_perform, Answers.respond_rcs]

theorem recordTask_of_no_code {v : Json} {e : PyExc} (hv : extractTaskCode v = .error e) :
    (recordTask request header v).run h w = (.error e, w) := by
  rw [recordTask, hv]
  rfl

theorem recordTask_of_code {v : Json} {code : String} (hv : extractTaskCode v = .ok code) :
    (recordTask request header v).run h w =
      onOk ((persistTask (createdRow request header code)).run h w)
        fun _ => (finishTask request header code).run h := by
  rw [recordTask, hv, bind_eq, run_bind, run_ofExcept, onOk_ok, bind_eq, run_bind]

/-- The end of a call with a key: the entry is stored. -/
theorem finishTask_of_key (hkey : key ≠ "") (code : String) :
    ((finishTask request (some key) code).run a.respond w).2 =
      (a.respond (.redisSetex (idempotencyKey key) idempotencyKeyTtlSeconds
        (.json (envelope request ⟨code, TaskStatus.pending.value, false⟩))) w).2 := by
  rw [finishTask, truthy_some hkey]
  simp only [saveIdempotency, bind_eq, run_bind]
  rw [run_perform]
  rcases a.respond _ w with ⟨e | u, w'⟩ <;> rfl

theorem finishTask_db (code : String) :
    ((finishTask request header code).run a.respond w).2.db = w.db := by
  cases ht : truthy header with
  | none =>
      rw [finishTask, ht]
      rfl
  | some key =>
      obtain ⟨rfl, hkey⟩ := truthy_eq_some.mp ht
      rw [finishTask_of_key hkey]
      exact respond_setex_db

end Create

/-! ### `submit_raw` -/

section Raw

variable {request : RcsRawSubmitRequest} {header : Option String} {key path : String}

theorem lookupRaw_run (key : String) :
    (lookupRaw key request).run a.respond w =
      (readRawCached key request (w.redis (idemKey key)), w) := by
  rw [lookupRaw, bind_eq, run_bind, run_perform, Answers.respond_redisGet, onOk_ok]
  exact run_ofExcept _ _

theorem submitRaw_of_no_path {e : PyExc} (hp : rawSubmitPath request.path = .error e) :
    (submitRaw request header).run a.respond w = (.error e, w) := by
  rw [submitRaw, hp]
  rfl

/-- A lookup that finds a document ends the call. -/
theorem submitRaw_of_hit (hp : rawSubmitPath request.path = .ok path) (hkey : key ≠ "")
    (hd : cachedDocument (w.redis (idemKey key)) ≠ none) :
    ((submitRaw request (some key)).run a.respond w).2 = w := by
  obtain ⟨document, hd⟩ := Option.ne_none_iff_exists'.mp hd
  rw [submitRaw, hp, bind_eq, run_bind, run_ofExcept, onOk_ok, truthy_some hkey]
  simp only [bind_eq, run_bind, lookupRaw_run, readRawCached, hd]
  cases readRawEnvelope key request document <;> rfl

theorem submitRaw_of_miss (hp : rawSubmitPath request.path = .ok path)
    (hm : Misses idemKey header w) :
    (submitRaw request header).run a.respond w = (sendRaw request path header).run a.respond w := by
  rw [submitRaw, hp, bind_eq, run_bind, run_ofExcept, onOk_ok]
  cases ht : truthy header with
  | none => rfl
  | some key => simp only [bind_eq, run_bind, lookupRaw_run, readRawCached, hm key ht, onOk_ok]

theorem sendRaw_run :
    (sendRaw request path header).run a.respond w =
      onOk (onError (a.rcs, w.logRcs () (rawCall request path) a.rcs) fun e w' =>
        (.error (rawCallError request path e), w'))
        fun v => (recordRaw request path header v).run a.respond := by
  rw [sendRaw, bind_eq, run_bind, run_tryCatch, run_perform, Answers.respond_rcs]
  rfl

theorem finishRaw_db (result : RcsRawSubmitResult) :
    ((finishRaw request path header result).run a.respond w).2.db = w.db := by
  rw [finishRaw]
  cases truthy header with
  | none => rfl
  | some key =>
      simp only [saveRaw, bind_eq, run_bind]
      rw [run_perform]
      rcases hs : a.respond _ w with ⟨e | u, w'⟩
      · exact (congrArg (fun r => r.2.db) hs).symm.trans respond_setex_db
      · exact (congrArg (fun r => r.2.db) hs).symm.trans respond_setex_db

/-- A call that asks for no row leaves the tables as they were. -/
theorem recordRaw_of_no_row {v : Json} (h : ∀ code, taskCodeOf v = .ok (some code) →
    request.persistTask = false) :
    ((recordRaw request path header v).run a.respond w).2.db = w.db := by
  rw [recordRaw]
  rcases hv : taskCodeOf v with e | (- | code)
  · rfl
  · rw [bind_eq, run_bind, run_ofExcept, onOk_ok]
    cases request.persistTask <;> exact finishRaw_db _
  · rw [bind_eq, run_bind, run_ofExcept, onOk_ok, h code hv]
    exact finishRaw_db _

theorem recordRaw_of_row {v : Json} {code : String} (hv : taskCodeOf v = .ok (some code))
    (hp : request.persistTask = true) :
    (recordRaw request path header v).run h w =
      onOk ((persistTask (rawRow request header code)).run h w)
        fun _ => (finishRaw request path header (rawResult (some code) true v)).run h := by
  rw [recordRaw, hv, bind_eq, run_bind, run_ofExcept, onOk_ok, hp]
  exact run_bind _ _ _

end Raw

end Rcs

import Mathlib.Data.Fintype.Defs
import RcsMiddleware.Source.Schemas
import RcsMiddleware.Source.Tables
import RcsMiddleware.Support.Observers

/-!
# Source — World

The stores the middleware works on, and the operations its code performs on them: Redis, the
database with one session per process, the RCS platform, the Celery broker, the clock.  An
`await` of the source that reaches one of them is one operation; code between two of them is pure.

* `perform`: what an operation answers and leaves behind, given how its environment behaves
  (`Env`): whether the store fails, and what RCS, an HTTP server or the clock answers.
* `Blocked`: the operations that wait for another session's row locks.
* `Exec`, `system`: an operation beside others, and the system they make, in which Redis entries
  may disappear.  `exec_store` says what a store can do, `exec_rcs` what RCS can.

A store that fails does so before or after the operation took effect (`Fault`).  Of the database is
assumed:

* A plain `SELECT` reads the rows committed last and takes no lock.  (At InnoDB's default isolation,
  REPEATABLE READ, the later ones of a transaction read what the first one could.)
* `=` and the unique constraints compare texts exactly, as a binary collation does.
* That a value is too long for its column (for `error_msg`, a `TEXT`, the limit of the server) is a
  fault of the step that writes it.  Where the database is to be available, `Answers.available` says
  which rows it refuses: those with more characters than a column has, as in MySQL's strict mode.
-/

namespace Rcs

open Support

/-- A value stored in Redis: raw text, or the text `json.dumps` gives for a value. -/
inductive RedisValue where
  | text (s : String)
  | json (v : Json)

namespace RedisValue

/-- `if raw:`; `json.dumps` never gives the empty text. -/
def truthy : RedisValue → Bool
  | .text s => s != ""
  | .json _ => true

/-- `json.loads(raw)`; `none` where it raises.  Raw text is only written under keys whose values
are never parsed. -/
def loads : RedisValue → Option Json
  | .text _ => none
  | .json v => some v

/-- A value read as a plain string; documents are never read so. -/
def asText : RedisValue → Option String
  | .text s => some s
  | .json _ => none

end RedisValue

/-- The operations of the middleware on the world outside it. -/
inductive Op where
  | redisGet (key : String)
  | redisSet (key : String) (value : RedisValue)
  /-- `SET key value NX EX ttl`. -/
  | redisSetNx (key : String) (value : RedisValue) (ttl : Nat)
  | redisSetex (key : String) (ttl : Nat) (value : RedisValue)
  | selectRobotType (name : String)
  | selectTask (robotTaskCode : String)
  /-- `session.add(row)` and `session.flush()`. -/
  | insertTask (row : TaskHistory)
  /-- The `UPDATE` of `update_status`; answers its row count. -/
  | updateTask (robotTaskCode : String) (u : StatusUpdate)
  | selectConfig (key : String)
  /-- `session.commit()`, which first flushes the pending changes. -/
  | commit (pending : List Write)
  | rollback
  /-- The end of `async with AsyncSessionLocal()`. -/
  | close
  /-- One call of the RCS client, as a service sees it. -/
  | rcs (call : RcsCall)
  | sign (method : HttpMethod) (path : String) (body : String)
  | http (request : HttpRequest)
  /-- `process_task_feedback.delay(payload)`. -/
  | delay (payload : TaskFeedbackPayload)
  | now

/-- The answer of each operation. -/
@[reducible] def Ret : Op → Type
  | .redisGet _ => Option RedisValue
  | .redisSet _ _ => Unit
  | .redisSetNx _ _ _ => Bool
  | .redisSetex _ _ _ => Unit
  | .selectRobotType _ => Option RobotType
  | .selectTask _ => Option TaskHistory
  | .insertTask _ => Unit
  | .updateTask _ _ => Nat
  | .selectConfig _ => Option (Option String)
  | .commit _ => Unit
  | .rollback => Unit
  | .close => Unit
  | .rcs _ => Json
  | .sign _ _ _ => SignedRequest
  | .http _ => HttpResponse
  | .delay _ => Unit
  | .now => DateTime

/-- A program of the middleware. -/
abbrev M := Prog Op Ret PyExc

/-- One operation as a program. -/
def perform (o : Op) : M (Ret o) := Prog.perform o

@[simp] theorem run_perform {σ : Type} (h : (o : Op) → σ → Except PyExc (Ret o) × σ) (o : Op)
    (s : σ) : Prog.run h (perform o) s = h o s := Prog.run_perform o s

/-- `p` inside `async with AsyncSessionLocal()`, as every request and every worker runs. -/
def withSession {α : Type} (p : M α) : M α := p.tryFinally (perform .close)

/-- Redis, the committed tables, the uncommitted changes of each process's session, the calls
RCS has received (newest first), the payloads enqueued so far and by whom. -/
structure World (ι : Type) where
  redis : String → Option RedisValue := fun _ => none
  db : Tables := {}
  sessions : ι → List Write := fun _ => []
  rcsLog : List (ι × RcsCall × Except PyExc Json) := []
  queue : List (ι × TaskFeedbackPayload) := []

/-- Whether a store fails: not at all, without effect, or after taking effect. -/
inductive Fault where
  | none
  | before (e : PyExc)
  | after (e : PyExc)

/-- An operation's outcome under a fault. -/
def Fault.strike {σ α : Type} (f : Fault) (s : σ) (outcome : Except PyExc α × σ) :
    Except PyExc α × σ :=
  match f with
  | .none => outcome
  | .before e => (.error e, s)
  | .after e => (.error e, outcome.2)

/-- A fault strikes two stores alike. -/
theorem Fault.strike_alike {σ τ α : Type} {R : σ → τ → Prop} (f : Fault) {s : σ} {t : τ}
    {x : Except PyExc α × σ} {y : Except PyExc α × τ} (hs : R s t) (hanswer : x.1 = y.1)
    (hend : R x.2 y.2) : (f.strike s x).1 = (f.strike t y).1 ∧ R (f.strike s x).2 (f.strike t y).2 := by
  cases f with
  | none => exact ⟨hanswer, hend⟩
  | before e => exact ⟨rfl, hs⟩
  | after e => exact ⟨rfl, hend⟩

/-- How the world outside answers one operation. -/
structure Env where
  fault : Fault := .none
  rcs : Except PyExc Json := .ok (.obj [])
  http : Except PyExc HttpResponse := .ok (.ofJson 200 (.obj []))
  signed : SignedRequest := ⟨[], "", "", "", "", ""⟩
  now : DateTime := ⟨2026, 1, 1, 0, 0, 0, 0⟩

namespace World

variable {ι : Type}

def setRedis (w : World ι) (key : String) (value : RedisValue) : World ι :=
  { w with redis := Function.update w.redis key (some value) }

/-- The entry is gone: it expired or was evicted. -/
def dropRedis (w : World ι) (key : String) : World ι :=
  { w with redis := Function.update w.redis key none }

/-- RCS has received a call of process `i`. -/
def logRcs (w : World ι) (i : ι) (call : RcsCall) (r : Except PyExc Json) : World ι :=
  { w with rcsLog := (i, call, r) :: w.rcsLog }

@[simp] theorem setRedis_redis (w : World ι) (key : String) (value : RedisValue) :
    (w.setRedis key value).redis = Function.update w.redis key (some value) := rfl

@[simp] theorem setRedis_db (w : World ι) (key : String) (value : RedisValue) :
    (w.setRedis key value).db = w.db := rfl

@[simp] theorem setRedis_rcsLog (w : World ι) (key : String) (value : RedisValue) :
    (w.setRedis key value).rcsLog = w.rcsLog := rfl

@[simp] theorem setRedis_sessions (w : World ι) (key : String) (value : RedisValue) :
    (w.setRedis key value).sessions = w.sessions := rfl

@[simp] theorem setRedis_queue (w : World ι) (key : String) (value : RedisValue) :
    (w.setRedis key value).queue = w.queue := rfl

@[simp] theorem dropRedis_redis (w : World ι) (key : String) :
    (w.dropRedis key).redis = Function.update w.redis key none := rfl

@[simp] theorem dropRedis_db (w : World ι) (key : String) : (w.dropRedis key).db = w.db := rfl

@[simp] theorem dropRedis_rcsLog (w : World ι) (key : String) :
    (w.dropRedis key).rcsLog = w.rcsLog := rfl

@[simp] theorem dropRedis_sessions (w : World ι) (key : String) :
    (w.dropRedis key).sessions = w.sessions := rfl

variable [DecidableEq ι]

/-- Process `i`'s session with these uncommitted changes. -/
def setSession (w : World ι) (i : ι) (writes : List Write) : World ι :=
  { w with sessions := Function.update w.sessions i writes }

@[simp] theorem setSession_redis (w : World ι) (i : ι) (ws : List Write) :
    (w.setSession i ws).redis = w.redis := rfl

@[simp] theorem setSession_db (w : World ι) (i : ι) (ws : List Write) :
    (w.setSession i ws).db = w.db := rfl

@[simp] theorem setSession_rcsLog (w : World ι) (i : ι) (ws : List Write) :
    (w.setSession i ws).rcsLog = w.rcsLog := rfl

@[simp] theorem setSession_self (w : World ι) (i : ι) (ws : List Write) :
    (w.setSession i ws).sessions i = ws := Function.update_self _ _ _

@[simp] theorem setSession_sessions (w : World ι) (i : ι) (ws : List Write) :
    (w.setSession i ws).sessions = Function.update w.sessions i ws := rfl

theorem setSession_setSession (w : World ι) (i : ι) (ws ws' : List Write) :
    (w.setSession i ws).setSession i ws' = w.setSession i ws' := by
  rw [setSession, setSession, setSession, Function.update_idem]

theorem setSession_of_empty {w : World ι} {i : ι} (h : w.sessions i = []) :
    w.setSession i [] = w := by
  rw [setSession, ← h, Function.update_eq_self]

/-- `COMMIT` of the session's changes and `pending`: all of them, or none when a constraint
rejects one.  Either way the session starts afresh. -/
def commit (w : World ι) (i : ι) (pending : List Write) : Except PyExc Unit × World ι :=
  match (w.sessions i ++ pending).foldlM Write.run w.db with
  | .ok db => (.ok (), { w with db := db, sessions := Function.update w.sessions i [] })
  | .error column => (.error (.integrityError column), w.setSession i [])

end World

open World in
/-- What an operation of process `i` answers and leaves behind. -/
def respond {ι : Type} [DecidableEq ι] (i : ι) (env : Env) :
    (o : Op) → World ι → Except PyExc (Ret o) × World ι
  | .redisGet key, w => env.fault.strike w (.ok (w.redis key), w)
  | .redisSet key value, w => env.fault.strike w (.ok (), w.setRedis key value)
  | .redisSetNx key value _, w =>
      env.fault.strike w (if (w.redis key).isNone then (.ok true, w.setRedis key value)
        else (.ok false, w))
  | .redisSetex key _ value, w => env.fault.strike w (.ok (), w.setRedis key value)
  | .selectRobotType name, w =>
      env.fault.strike w (.ok (w.db.robotTypes.find? fun t => t.name = name), w)
  | .selectTask code, w => env.fault.strike w (.ok (w.db.tasks.find? code), w)
  -- That a value of the row is too long for its column is a fault.
  | .insertTask row, w =>
      env.fault.strike w (match w.db.tasks.violated? row with
        | some column => (.error (.integrityError column), w)
        | none => (.ok (), w.setSession i (w.sessions i ++ [.insertTask row])))
  | .updateTask code u, w =>
      env.fault.strike w (.ok (if (w.db.tasks.find? code).isSome then 1 else 0),
        w.setSession i (w.sessions i ++ [.updateTask code u]))
  | .selectConfig key, w => env.fault.strike w (.ok (w.db.configs key), w)
  | .commit pending, w => env.fault.strike w (w.commit i pending)
  -- A rollback or close that fails has lost its connection, so the server rolls back.
  | .rollback, w => env.fault.strike (w.setSession i []) (.ok (), w.setSession i [])
  | .close, w => env.fault.strike (w.setSession i []) (.ok (), w.setSession i [])
  | .rcs call, w => (env.rcs, w.logRcs i call env.rcs)
  | .sign _ _ _, w => (.ok env.signed, w)
  | .http _, w => (env.http, w)
  | .delay payload, w => env.fault.strike w (.ok (), { w with queue := w.queue ++ [(i, payload)] })
  | .now, w => (.ok env.now, w)

/-! ### Beside other processes -/

/-- The change locks the row of the task with this code. -/
def Write.Locks (code : String) : Write → Prop
  | .insertTask row => row.robotTaskCode = code
  | .updateTask code' _ => code' = code
  | _ => False

/-- The change is a row that a unique constraint keeps apart from this one. -/
def Write.Clashes (row : TaskHistory) : Write → Prop
  | .insertTask old => old.Clash row
  | _ => False

instance (code : String) : (write : Write) → Decidable (write.Locks code)
  | .insertTask row => inferInstanceAs (Decidable (row.robotTaskCode = code))
  | .updateTask code' _ => inferInstanceAs (Decidable (code' = code))
  | .insertConfig _ _ | .updateConfig _ _ _ | .insertLog _ => inferInstanceAs (Decidable False)

instance (row : TaskHistory) : (write : Write) → Decidable (write.Clashes row)
  | .insertTask old => inferInstanceAs (Decidable (old.Clash row))
  | .updateTask _ _ | .insertConfig _ _ | .updateConfig _ _ _ | .insertLog _ =>
      inferInstanceAs (Decidable False)

/-- The operation waits for a lock that another session holds. -/
def Blocked {ι : Type} (i : ι) : Op → World ι → Prop
  | .insertTask row, w => ∃ j, j ≠ i ∧ ∃ write ∈ w.sessions j, write.Clashes row
  | .updateTask code _, w => ∃ j, j ≠ i ∧ ∃ write ∈ w.sessions j, write.Locks code
  | _, _ => False

instance {ι : Type} [Fintype ι] [DecidableEq ι] (i : ι) (w : World ι) :
    (o : Op) → Decidable (Blocked i o w)
  | .insertTask row => inferInstanceAs
      (Decidable (∃ j, j ≠ i ∧ ∃ write ∈ w.sessions j, write.Clashes row))
  | .updateTask code _ => inferInstanceAs
      (Decidable (∃ j, j ≠ i ∧ ∃ write ∈ w.sessions j, write.Locks code))
  | .redisGet _ | .redisSet _ _ | .redisSetNx _ _ _ | .redisSetex _ _ _ | .selectRobotType _
  | .selectTask _ | .selectConfig _ | .commit _ | .rollback | .close | .rcs _ | .sign _ _ _
  | .http _ | .delay _ | .now => inferInstanceAs (Decidable False)

/-- The operations that go to RCS, to the clock or to chance, and not to a store. -/
def Op.Outside : Op → Prop
  | .rcs _ | .sign _ _ _ | .http _ | .now => True
  | _ => False

variable {ι : Type} [DecidableEq ι]

/-- Operation `o` of process `i` is answered by `r` and leaves `w'`. -/
def Exec (i : ι) (o : Op) (w : World ι) (r : Except PyExc (Ret o)) (w' : World ι) : Prop :=
  ¬ Blocked i o w ∧ ∃ env, respond i env o w = (r, w')

/-- The middleware, where the Redis entries in `expires` may disappear at any time. -/
def system (expires : String → Prop) : System ι Op Ret PyExc (World ι) where
  exec := Exec
  env w w' := ∃ key, expires key ∧ w' = w.dropRedis key

@[simp] theorem system_exec (expires : String → Prop) :
    (system expires : System ι Op Ret PyExc (World ι)).exec = Exec := rfl

/-- An operation that is not blocked, answered as `env` says. -/
def exec? [Fintype ι] (i : ι) (env : Env) (o : Op) (w : World ι) :
    Option (Except PyExc (Ret o) × World ι) :=
  if Blocked i o w then none else some (respond i env o w)

theorem Exec.of_exec? [Fintype ι] {i : ι} {env : Env} {o : Op} {w w' : World ι}
    {r : Except PyExc (Ret o)} (h : exec? i env o w = some (r, w')) : Exec i o w r w' := by
  unfold exec? at h
  split at h
  · cases h
  · next hb => exact ⟨hb, env, Option.some.inj h⟩

/-- A schedule that leads to `P` is a run to `P`. -/
theorem run_of_schedule [Fintype ι] {α : Type} {expires : String → Prop}
    {G : Guard ι Op Ret PyExc α (World ι)} [∀ c e c', Decidable (G c e c')]
    {P : Config ι Op Ret PyExc α (World ι) → Prop} [DecidablePred P] (schedule : List (ι × Env))
    {c : Config ι Op Ret PyExc α (World ι)}
    (h : (replay exec? G schedule c).any (fun d => P d) = true) :
    ∃ d, Run (system expires) G c d ∧ P d :=
  Run.of_replay_any Exec.of_exec? h

/-- A schedule that leads to `P`, under an observer, is a run to `P`. -/
theorem watched_run_of_schedule [Fintype ι] {α Γ : Type} {expires : String → Prop}
    {O : Observer ι Op Ret PyExc (World ι) Γ} {G : Guard ι Op Ret PyExc α (World ι × Γ)}
    [∀ c e c', Decidable (G c e c')] {P : Config ι Op Ret PyExc α (World ι × Γ) → Prop}
    [DecidablePred P] (schedule : List (ι × Env)) {c : Config ι Op Ret PyExc α (World ι × Γ)}
    (h : (replay (O.exec? exec?) G schedule c).any (fun d => P d) = true) :
    ∃ d, Run ((system expires).watch O) G c d ∧ P d :=
  Run.of_replay_any (Observer.of_exec? Exec.of_exec?) h

/-- What a store can do: its operation goes through, or ends in an exception with or without
having taken effect. -/
theorem respond_store (i : ι) (env : Env) {o : Op} (w : World ι) (ho : ¬ o.Outside) :
    respond i env o w = respond i {} o w ∨
      ∃ e, (respond i env o w).1 = .error e ∧
        ((respond i env o w).2 = w ∨ (respond i env o w).2 = (respond i {} o w).2) := by
  cases o with
  | rcs _ | sign _ _ _ | http _ | now => exact absurd trivial ho
  | _ =>
      cases hf : env.fault with
      | none => exact .inl (by simp only [respond, hf])
      | before e =>
          exact .inr ⟨e, by simp only [respond, hf, Fault.strike],
            by simp only [respond, hf, Fault.strike, true_or, or_true]⟩
      | after e =>
          exact .inr ⟨e, by simp only [respond, hf, Fault.strike],
            by simp only [respond, hf, Fault.strike, or_true]⟩

/-- **What a store can do** beside others. -/
theorem exec_store {i : ι} {o : Op} {w w' : World ι} {r : Except PyExc (Ret o)}
    (h : Exec i o w r w') (ho : ¬ o.Outside) :
    (r, w') = respond i {} o w ∨
      ∃ e, r = .error e ∧ (w' = w ∨ w' = (respond i {} o w).2) := by
  obtain ⟨-, env, henv⟩ := h
  have hs := respond_store i env w ho
  rw [henv] at hs
  exact hs

/-- A store's operation that succeeds has its documented answer and effect. -/
theorem exec_ok {i : ι} {o : Op} {w w' : World ι} {r : Ret o} (h : Exec i o w (.ok r) w')
    (ho : ¬ o.Outside) : respond i {} o w = (.ok r, w') := by
  rcases exec_store h ho with h | ⟨e, he, -⟩
  · exact h.symm
  · cases he

/-- The text an operation stores in Redis. -/
def Op.redisSetText? : Op → Option String
  | .redisSet _ (.text v) => some v
  | _ => none

def Op.isCommit : Op → Bool
  | .commit _ => true
  | _ => false

/-- The operations on the database. -/
def Op.Sql : Op → Prop
  | .selectRobotType _ | .selectTask _ | .insertTask _ | .updateTask _ _ | .selectConfig _
  | .commit _ | .rollback | .close => True
  | _ => False

theorem Op.Sql.not_outside {o : Op} (h : o.Sql) : ¬ o.Outside := fun h' => by
  cases o with
  | rcs _ | sign _ _ _ | http _ | now => exact h.elim
  | _ => exact h'.elim

/-- An operation on the database leaves Redis, the calls RCS has received and the queue alone. -/
theorem respond_sql (i : ι) (env : Env) {o : Op} (w : World ι) (ho : o.Sql) :
    (respond i env o w).2.redis = w.redis ∧ (respond i env o w).2.rcsLog = w.rcsLog ∧
      (respond i env o w).2.queue = w.queue := by
  have hbase : (respond i {} o w).2.redis = w.redis ∧ (respond i {} o w).2.rcsLog = w.rcsLog ∧
      (respond i {} o w).2.queue = w.queue := by
    cases o with
    | redisGet _ | redisSet _ _ | redisSetNx _ _ _ | redisSetex _ _ _ | rcs _ | sign _ _ _
    | http _ | delay _ | now => exact ho.elim
    | insertTask row =>
        simp only [respond, Fault.strike]
        cases w.db.tasks.violated? row <;> exact ⟨rfl, rfl, rfl⟩
    | commit pending =>
        simp only [respond, Fault.strike, World.commit]
        cases (w.sessions i ++ pending).foldlM Write.run w.db <;> exact ⟨rfl, rfl, rfl⟩
    | selectRobotType _ | selectTask _ | updateTask _ _ | selectConfig _ | rollback | close =>
        exact ⟨rfl, rfl, rfl⟩
  rcases respond_store i env w ho.not_outside with h | ⟨-, -, h | h⟩
  · rw [h]
    exact hbase
  · rw [h]
    exact ⟨rfl, rfl, rfl⟩
  · rw [h]
    exact hbase

theorem exec_sql {i : ι} {o : Op} {w w' : World ι} {r : Except PyExc (Ret o)}
    (h : Exec i o w r w') (ho : o.Sql) :
    w'.redis = w.redis ∧ w'.rcsLog = w.rcsLog ∧ w'.queue = w.queue := by
  obtain ⟨-, env, henv⟩ := h
  have hs := respond_sql i env w ho
  rw [henv] at hs
  exact hs

/-- Only a commit changes the tables. -/
theorem respond_db (i : ι) (env : Env) {o : Op} (w : World ι)
    (ho : ∀ pending, o ≠ .commit pending) :
    (respond i env o w).2.db = w.db := by
  by_cases hout : o.Outside
  · cases o with
    | rcs _ | sign _ _ _ | http _ | now => rfl
    | _ => exact hout.elim
  have hbase : (respond i {} o w).2.db = w.db := by
    cases o with
    | commit pending => exact absurd rfl (ho pending)
    | redisSetNx key value ttl =>
        simp only [respond, Fault.strike]
        split <;> rfl
    | insertTask row =>
        simp only [respond, Fault.strike]
        cases w.db.tasks.violated? row <;> rfl
    | _ => rfl
  rcases respond_store i env w hout with h | ⟨-, -, h | h⟩
  · rw [h, hbase]
  · rw [h]
  · rw [h, hbase]

/-- An operation of `i` leaves the other sessions alone. -/
theorem respond_sessions_other (i : ι) (env : Env) (o : Op) (w : World ι) {j : ι} (hj : j ≠ i) :
    (respond i env o w).2.sessions j = w.sessions j := by
  by_cases hout : o.Outside
  · cases o with
    | rcs _ | sign _ _ _ | http _ | now => rfl
    | _ => exact hout.elim
  have hset : ∀ ws, (w.setSession i ws).sessions j = w.sessions j := fun ws =>
    Function.update_of_ne hj _ _
  have hbase : (respond i {} o w).2.sessions j = w.sessions j := by
    cases o with
    | redisSetNx key value ttl =>
        simp only [respond, Fault.strike]
        split <;> rfl
    | insertTask row =>
        simp only [respond, Fault.strike]
        cases w.db.tasks.violated? row <;> first | rfl | exact hset _
    | updateTask _ _ | rollback | close => exact hset _
    | commit pending =>
        simp only [respond, Fault.strike, World.commit]
        split <;> exact hset []
    | _ => rfl
  rcases respond_store i env w hout with h | ⟨-, -, h | h⟩
  · rw [h, hbase]
  · rw [h]
  · rw [h, hbase]

theorem Exec.sessions_other {i : ι} {o : Op} {w w' : World ι} {r : Except PyExc (Ret o)}
    (h : Exec i o w r w') {j : ι} (hj : j ≠ i) : w'.sessions j = w.sessions j := by
  obtain ⟨-, env, henv⟩ := h
  have hs := respond_sessions_other i env o w hj
  rwa [henv] at hs

theorem Exec.db {i : ι} {o : Op} {w w' : World ι} {r : Except PyExc (Ret o)}
    (h : Exec i o w r w') (ho : ∀ pending, o ≠ .commit pending) : w'.db = w.db := by
  obtain ⟨-, env, henv⟩ := h
  have hs := respond_db i env w ho
  rwa [henv] at hs

/-- No operation changes the robot types. -/
theorem respond_robotTypes (i : ι) (env : Env) (o : Op) (w : World ι) :
    (respond i env o w).2.db.robotTypes = w.db.robotTypes := by
  by_cases ho : ∀ pending, o ≠ .commit pending
  · rw [respond_db i env w ho]
  obtain ⟨pending, rfl⟩ : ∃ pending, o = .commit pending := by simpa using ho
  have hbase : (respond i {} (.commit pending) w).2.db.robotTypes = w.db.robotTypes := by
    simp only [respond, Fault.strike, World.commit]
    split
    · next db h => exact foldlM_robotTypes h
    · rfl
  rcases respond_store i env w (o := .commit pending) id with h | ⟨-, -, h | h⟩
  · rw [h, hbase]
  · rw [h]
  · rw [h, hbase]

/-- What RCS can do: answer anything, and only its own log shows the call. -/
theorem exec_rcs {i : ι} {call : RcsCall} {w w' : World ι} {r : Except PyExc Json}
    (h : Exec i (.rcs call) w r w') : w' = w.logRcs i call r := by
  obtain ⟨-, env, henv⟩ := h
  simp only [respond, Prod.mk.injEq] at henv
  obtain ⟨rfl, rfl⟩ := henv
  rfl

/-- What a read can do: answer, or fail. -/
theorem exec_read {i : ι} {o : Op} {w w' : World ι} {r : Except PyExc (Ret o)}
    (h : Exec i o w r w') (ho : ¬ o.Outside) {v : Ret o} (hread : respond i {} o w = (.ok v, w)) :
    w' = w ∧ (r = .ok v ∨ ∃ e, r = .error e) := by
  rcases exec_store h ho with hr | ⟨e, rfl, hr | hr⟩
  · obtain ⟨rfl, rfl⟩ := Prod.mk.inj (hr.trans hread)
    exact ⟨rfl, .inl rfl⟩
  · exact ⟨hr, .inr ⟨e, rfl⟩⟩
  · rw [hread] at hr
    exact ⟨hr, .inr ⟨e, rfl⟩⟩

/-- What `SET` can do: take effect, and its answer may be lost; or fail. -/
theorem exec_redisSet {i : ι} {key : String} {value : RedisValue} {w w' : World ι}
    {r : Except PyExc Unit} (h : Exec i (.redisSet key value) w r w') :
    (w' = w ∧ ∃ e, r = .error e) ∨ w' = w.setRedis key value := by
  rcases exec_store h id with hr | ⟨e, rfl, hr | hr⟩
  · exact .inr (Prod.mk.inj hr).2
  · exact .inl ⟨hr, e, rfl⟩
  · exact .inr hr

/-- What `SET NX` can do: on a key that is taken, nothing; on a free one, take it, and its answer
may be lost; or fail. -/
theorem exec_redisSetNx {i : ι} {key : String} {value : RedisValue} {ttl : Nat} {w w' : World ι}
    {r : Except PyExc Bool} (h : Exec i (.redisSetNx key value ttl) w r w') :
    (w' = w ∧ (∃ e, r = .error e)) ∨
      (w' = w ∧ r = .ok false ∧ (w.redis key).isSome = true) ∨
      (w' = w.setRedis key value ∧ (r = .ok true ∨ ∃ e, r = .error e) ∧ w.redis key = none) := by
  have hrun : respond i {} (.redisSetNx key value ttl) w =
      if (w.redis key).isNone then (.ok true, w.setRedis key value) else (.ok false, w) := rfl
  cases hkey : w.redis key with
  | none =>
      rw [hkey, if_pos (by rfl)] at hrun
      rcases exec_store h id with hr | ⟨e, rfl, hr | hr⟩
      · obtain ⟨rfl, rfl⟩ := Prod.mk.inj (hr.trans hrun)
        exact .inr (.inr ⟨rfl, .inl rfl, rfl⟩)
      · exact .inl ⟨hr, e, rfl⟩
      · rw [hrun] at hr
        exact .inr (.inr ⟨hr, .inr ⟨e, rfl⟩, rfl⟩)
  | some v =>
      rw [hkey, if_neg (by simp)] at hrun
      rcases exec_store h id with hr | ⟨e, rfl, hr | hr⟩
      · obtain ⟨rfl, rfl⟩ := Prod.mk.inj (hr.trans hrun)
        exact .inr (.inl ⟨rfl, rfl, rfl⟩)
      · exact .inl ⟨hr, e, rfl⟩
      · rw [hrun] at hr
        exact .inl ⟨hr, e, rfl⟩

/-- What an enqueue can do: enqueue the payload, and its answer may be lost; or fail. -/
theorem exec_delay {i : ι} {payload : TaskFeedbackPayload} {w w' : World ι}
    {r : Except PyExc Unit} (h : Exec i (.delay payload) w r w') :
    (w' = w ∧ ∃ e, r = .error e) ∨ w' = { w with queue := w.queue ++ [(i, payload)] } := by
  rcases exec_store h id with hr | ⟨e, rfl, hr | hr⟩
  · exact .inr (Prod.mk.inj hr).2
  · exact .inl ⟨hr, e, rfl⟩
  · exact .inr hr

/-! ### Steps that go through -/

variable {α : Type} {c c' : Config ι Op Ret PyExc α (World ι)} {e : Event ι Op Ret PyExc}
  {expires : String → Prop}

/-- The step goes through: its operation is answered, and the process does not raise. -/
def Succeeds : Guard ι Op Ret PyExc α (World ι) := fun _ e c' =>
  e.answer.isOk ∧ ∀ x, c'.procs e.pid ≠ .raise x

instance (c : Config ι Op Ret PyExc α (World ι)) (e : Event ι Op Ret PyExc)
    (c' : Config ι Op Ret PyExc α (World ι)) : Decidable (Succeeds c e c') :=
  inferInstanceAs (Decidable (_ ∧ _))

/-- A step that goes through, of a process whose program is at `o`. -/
theorem Succeeds.inv_at {o : Op} {k : Except PyExc (Ret o) → M α} (hG : Succeeds c e c')
    (hs : Step (system expires) c e c') (hp : c.procs e.pid = .op o k) :
    ∃ v w', e = ⟨e.pid, o, .ok v⟩ ∧ Exec e.pid o c.shared (.ok v) w' ∧
      (∀ x, k (.ok v) ≠ .raise x) ∧
      c' = ⟨w', Function.update c.procs e.pid (k (.ok v)), ⟨e.pid, o, .ok v⟩ :: c.trace⟩ := by
  obtain ⟨r, w', he, hx, rfl⟩ := hs.inv_at hp
  obtain ⟨hok, hraise⟩ := hG
  rw [he] at hok
  cases r with
  | error x => exact absurd hok Bool.false_ne_true
  | ok v =>
      refine ⟨v, w', he, hx, fun x hx' => hraise x ?_, rfl⟩
      exact (Function.update_self _ _ _).trans hx'

end Rcs

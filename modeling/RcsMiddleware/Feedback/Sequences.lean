import Mathlib.Data.List.Pairwise
import RcsMiddleware.Feedback.Executions
import RcsMiddleware.Support.Latch

/-!
# Feedback — Sequences

Executions of `process_task_feedback` that run one after the other.  A `Processing` is an execution
with its clock and with what the stores make of it; `p.after w` is the world it leaves, and
`afterAll w ps` the world a sequence leaves.

* `Processing.after_rows`: an execution maps `p.onRow` over the rows of `task_history`.
* `Processing.after_redis`: an execution that goes through writes at most the robot's entry.
* `afterAll_rows`: a sequence maps the composition of its executions over the rows.
-/

namespace Rcs

open Support Support.Text Support.Prog

/-- The fault leaves the operation its effect. -/
def Fault.takesEffect : Fault → Bool
  | .before _ => false
  | .none | .after _ => true

def Fault.isNone : Fault → Bool
  | .none => true
  | .before _ | .after _ => false

theorem Fault.isNone_iff {f : Fault} : f.isNone = true ↔ f = .none := by
  cases f with
  | none => exact ⟨fun _ => rfl, fun _ => rfl⟩
  | before e | after e => exact ⟨fun h => (by cases h), fun h => (by cases h)⟩

/-- One execution of `process_task_feedback`: its payload, its clock, and how the database and
Redis answer it. -/
structure Processing where
  payload : TaskFeedbackPayload
  clock : DateTime := ⟨2026, 1, 1, 0, 0, 0, 0⟩
  select : Fault := .none
  update : Fault := .none
  commit : Fault := .none
  close : Fault := .none
  setex : Fault := .none

namespace Processing

/-- The answers, by operation. -/
def env (p : Processing) : Op → Env
  | .now => { now := p.clock }
  | .selectTask _ => { fault := p.select }
  | .updateTask _ _ => { fault := p.update }
  | .commit _ => { fault := p.commit }
  | .close => { fault := p.close }
  | .redisSetex _ _ _ => { fault := p.setex }
  | _ => {}

/-- How one operation of the execution is answered. -/
def respond (p : Processing) (o : Op) (w : World Unit) : Except PyExc (Ret o) × World Unit :=
  Rcs.respond () (p.env o) o w

/-- What the execution returns or raises, and the world it leaves. -/
def outcome (p : Processing) (w : World Unit) : Except PyExc FeedbackResult × World Unit :=
  (processTaskFeedback p.payload).run p.respond w

/-- The world after the execution. -/
def after (p : Processing) (w : World Unit) : World Unit := (p.outcome w).2

/-- The task the feedback is about. -/
def code (p : Processing) : String := strip p.payload.robotTaskCode

def method (p : Processing) : String := strip p.payload.method

/-- The status the feedback asks for. -/
def target (p : Processing) : TaskStatus := targetStatus p.method

/-- The feedback names no task or no method. -/
def Blank (p : Processing) : Prop := p.code = "" ∨ p.method = ""

instance (p : Processing) : Decidable p.Blank := inferInstanceAs (Decidable (_ ∨ _))

/-- No store fails. -/
def clean (p : Processing) : Bool :=
  p.select.isNone && p.update.isNone && p.commit.isNone && p.close.isNone && p.setex.isNone

theorem clean_iff {p : Processing} : p.clean = true ↔ p.select = .none ∧ p.update = .none ∧
    p.commit = .none ∧ p.close = .none ∧ p.setex = .none := by
  simp only [clean, Bool.and_eq_true, Fault.isNone_iff, and_assoc]

/-- The database takes the change the execution makes. -/
def commits (p : Processing) : Bool := p.select.isNone && p.update.isNone && p.commit.takesEffect

/-- The feedback is about this task, and the database takes its change. -/
def Reaches (code : String) (p : Processing) : Prop :=
  ¬ p.Blank ∧ p.code = code ∧ p.commits = true

instance (code : String) (p : Processing) : Decidable (p.Reaches code) :=
  inferInstanceAs (Decidable (_ ∧ _))

/-- The `UPDATE` of a row that is not in a terminal status. -/
def statusUpdate (p : Processing) (row : TaskHistory) : StatusUpdate :=
  Rcs.statusUpdate row p.method p.target p.payload.amrCode p.payload.errorMsg p.clock

@[simp] theorem statusUpdate_status (p : Processing) (row : TaskHistory) :
    (p.statusUpdate row).status = p.target := by
  rw [statusUpdate, Rcs.statusUpdate]

@[simp] theorem statusUpdate_startTime (p : Processing) (row : TaskHistory) :
    (p.statusUpdate row).startTime =
      if p.method = "start" ∧ row.startTime = none then some p.clock else none := by
  rw [statusUpdate, Rcs.statusUpdate]

@[simp] theorem statusUpdate_endTime (p : Processing) (row : TaskHistory) :
    (p.statusUpdate row).endTime = if p.target.terminal then some p.clock else none := by
  rw [statusUpdate, Rcs.statusUpdate]

@[simp] theorem statusUpdate_errorMsg (p : Processing) (row : TaskHistory) :
    (p.statusUpdate row).errorMsg = p.payload.errorMsg := rfl

@[simp] theorem statusUpdate_robotCode (p : Processing) (row : TaskHistory) :
    (p.statusUpdate row).robotCode = p.payload.amrCode := rfl

/-- What the execution makes of a row. -/
def onRow (p : Processing) (row : TaskHistory) : TaskHistory :=
  if p.Reaches row.robotTaskCode ∧ row.status.terminal = false then (p.statusUpdate row).set row
  else row

/-- What the execution makes of the table. -/
def onTable (p : Processing) (t : TaskTable) : TaskTable :=
  match t.find? p.code with
  | some row =>
      if row.status.terminal = false ∧ p.commits = true then t.update p.code (p.statusUpdate row)
      else t
  | none => t

/-- What an execution that goes through makes of Redis. -/
def onRedis (p : Processing) (redis : String → Option RedisValue) : String → Option RedisValue :=
  match truthy p.payload.amrCode with
  | some amrCode =>
      if p.Blank then redis
      else Function.update redis (robotStateKey amrCode)
        (some (.json (statePayload p.payload amrCode p.target p.clock)))
  | none => redis

end Processing

/-- The world after a sequence of executions. -/
def afterAll (w : World Unit) (ps : List Processing) : World Unit :=
  ps.foldl (fun w p => p.after w) w

@[simp] theorem afterAll_nil (w : World Unit) : afterAll w [] = w := rfl

@[simp] theorem afterAll_cons (w : World Unit) (p : Processing) (ps : List Processing) :
    afterAll w (p :: ps) = afterAll (p.after w) ps := by
  rw [afterAll, afterAll, List.foldl_cons]

theorem afterAll_append (w : World Unit) (ps qs : List Processing) :
    afterAll w (ps ++ qs) = afterAll (afterAll w ps) qs := List.foldl_append

/-! ### Rows with a code -/

/-- The table has one row with a code. -/
theorem TaskTable.find?_eq_some {t : TaskTable} {row : TaskHistory} {code : String} :
    t.find? code = some row ↔ row ∈ t.rows ∧ row.robotTaskCode = code := by
  constructor
  · intro h
    exact ⟨List.mem_of_find?_eq_some h, by simpa using List.find?_some h⟩
  · rintro ⟨hm, rfl⟩
    obtain ⟨old, hold⟩ : ∃ old, t.find? row.robotTaskCode = some old := by
      rw [← Option.isSome_iff_exists, TaskTable.find?, List.find?_isSome]
      exact ⟨row, hm, decide_eq_true rfl⟩
    have hold' : old ∈ t.rows := List.mem_of_find?_eq_some hold
    have hcode : old.robotTaskCode = row.robotTaskCode := by simpa using List.find?_some hold
    have hsymm : Std.Symm fun a b : TaskHistory => ¬ a.Clash b := ⟨fun _ _ h h' => h h'.symm⟩
    by_cases he : old = row
    · rw [hold, he]
    · exact absurd (Or.inl hcode) (t.unique.forall hold' hm he)

/-- A change of the rows that keeps their codes. -/
theorem TaskTable.find?_of_rows {t t' : TaskTable} {f : TaskHistory → TaskHistory}
    (hcode : ∀ row, (f row).robotTaskCode = row.robotTaskCode) (h : t'.rows = t.rows.map f)
    (code : String) : t'.find? code = (t.find? code).map f := by
  simp only [TaskTable.find?, h, List.find?_map, Function.comp_def, hcode]

/-! ### One execution -/

namespace Processing

variable {p : Processing} {w : World Unit}

theorem onRow_robotTaskCode (row : TaskHistory) :
    (p.onRow row).robotTaskCode = row.robotTaskCode := by
  rw [onRow]
  split <;> rfl

theorem onRow_of_reaches {row : TaskHistory} (h : p.Reaches row.robotTaskCode)
    (ht : row.status.terminal = false) : p.onRow row = (p.statusUpdate row).set row := if_pos ⟨h, ht⟩

theorem onRow_of_terminal {row : TaskHistory} (ht : row.status.terminal = true) :
    p.onRow row = row := if_neg fun h => by rw [ht] at h; cases h.2

theorem onRow_of_not_reaches {row : TaskHistory} (h : ¬ p.Reaches row.robotTaskCode) :
    p.onRow row = row := if_neg fun h' => h h'.1

theorem onTable_of_missing {t : TaskTable} (h : t.find? p.code = none) : p.onTable t = t := by
  rw [onTable, h]

theorem onTable_of_terminal {t : TaskTable} {row : TaskHistory} (h : t.find? p.code = some row)
    (ht : row.status.terminal = true) : p.onTable t = t := by
  rw [onTable, h]
  exact if_neg fun h' => by rw [ht] at h'; cases h'.1

theorem onTable_of_found {t : TaskTable} {row : TaskHistory} (h : t.find? p.code = some row)
    (ht : row.status.terminal = false) :
    p.onTable t = if p.commits then t.update p.code (p.statusUpdate row) else t := by
  rw [onTable, h]
  simp only [ht, true_and]

theorem onTable_of_not_commits (h : p.commits = false) (t : TaskTable) : p.onTable t = t := by
  rw [onTable]
  cases t.find? p.code with
  | none => rfl
  | some row => exact if_neg fun h' => by rw [h] at h'; cases h'.2

theorem onTable_rows (hb : ¬ p.Blank) (t : TaskTable) :
    (p.onTable t).rows = t.rows.map p.onRow := by
  have hkeep : (∀ row ∈ t.rows, p.onRow row = row) → t.rows = t.rows.map p.onRow := fun h =>
    (List.map_id _).symm.trans (List.map_congr_left fun row hm => (h row hm).symm)
  rw [onTable]
  cases hf : t.find? p.code with
  | none =>
      refine hkeep fun row hm => onRow_of_not_reaches fun h => ?_
      rw [TaskTable.find?_eq_some.mpr ⟨hm, h.2.1.symm⟩] at hf
      cases hf
  | some old =>
      -- The only row with the code is the one that was selected.
      have hold : ∀ row ∈ t.rows, p.code = row.robotTaskCode → row = old := fun row hm hc => by
        rw [TaskTable.find?_eq_some.mpr ⟨hm, hc.symm⟩] at hf
        exact Option.some.inj hf
      dsimp only
      split_ifs with hu
      · refine List.map_congr_left fun row hm => ?_
        by_cases hc : row.robotTaskCode = p.code
        · rw [if_pos hc, ← hold row hm hc.symm]
          exact (onRow_of_reaches ⟨hb, hc.symm, hu.2⟩ (hold row hm hc.symm ▸ hu.1)).symm
        · rw [if_neg hc, onRow_of_not_reaches fun h => hc h.2.1.symm]
      · refine hkeep fun row hm => if_neg fun h => hu ⟨?_, h.1.2.2⟩
        rw [← hold row hm h.1.2.1]
        exact h.2

/-- The session of an execution is closed, whether or not that fails. -/
theorem respond_close : (p.respond .close w).2 = w.setSession () [] := by
  simp only [respond, env, Rcs.respond]
  cases p.close <;> rfl

/-- The world with the row of the task updated. -/
def updated (p : Processing) (row : TaskHistory) (w : World Unit) : World Unit :=
  { w with db := { w.db with tasks := w.db.tasks.update p.code (p.statusUpdate row) } }

theorem respond_update (row : TaskHistory) (hs : w.sessions () = []) :
    p.respond (.updateTask p.code (p.statusUpdate row)) w =
      p.update.strike w (.ok (if (w.db.tasks.find? p.code).isSome then 1 else 0),
        w.setSession () [.updateTask p.code (p.statusUpdate row)]) := by
  simp only [respond, env, Rcs.respond, hs, List.nil_append]

theorem respond_commit (row : TaskHistory) (hs : w.sessions () = []) :
    p.respond (.commit []) (w.setSession () [.updateTask p.code (p.statusUpdate row)]) =
      p.commit.strike (w.setSession () [.updateTask p.code (p.statusUpdate row)])
        (.ok (), p.updated row w) := by
  have hsessions : Function.update w.sessions () [] = w.sessions := by
    rw [← hs, Function.update_eq_self]
  have hdone := commit_update (World.setSession_self w () [.updateTask p.code (p.statusUpdate row)])
  rw [World.setSession_sessions, Function.update_idem, hsessions] at hdone
  exact congrArg (p.commit.strike _) hdone

/-- `_update_task_history` on a row that is not in a terminal status, its `SELECT` aside. -/
theorem applyFeedback_run {row : TaskHistory} (hrow : row.status.terminal = false) :
    (applyFeedback (some row) p.code p.method p.target p.payload.amrCode p.payload.errorMsg
        p.clock).run p.respond w =
      onOk (p.respond (.updateTask p.code (p.statusUpdate row)) w) fun rowcount w' =>
        onOk (p.respond (.commit []) w') fun _ w'' => (.ok (decide (0 < rowcount)), w'') := by
  have hterminal : ¬ row.status.terminal = true := by rw [hrow]; exact Bool.false_ne_true
  rw [applyFeedback, if_neg hterminal, bind_eq, run_bind, run_perform]
  refine congrArg (onOk _) ?_
  funext rowcount w'
  rw [bind_eq, run_bind, run_perform]
  rfl

theorem applyFeedback_world {row : TaskHistory} (hs : w.sessions () = [])
    (hrow : row.status.terminal = false) :
    ((applyFeedback (some row) p.code p.method p.target p.payload.amrCode p.payload.errorMsg
        p.clock).run p.respond w).2.setSession () [] =
      if p.update.isNone && p.commit.takesEffect then p.updated row w else w := by
  have hempty := World.setSession_of_empty hs
  have hpending : (w.setSession () [.updateTask p.code (p.statusUpdate row)]).setSession () [] =
      w := by rw [World.setSession_setSession, hempty]
  have hupdated : (p.updated row w).setSession () [] = p.updated row w :=
    World.setSession_of_empty hs
  rw [applyFeedback_run hrow, respond_update row hs]
  cases hu : p.update with
  | before e => exact hempty
  | after e => exact hpending
  | none =>
      rw [Fault.strike, onOk_ok, respond_commit row hs]
      cases hc : p.commit with
      | before e => exact hpending
      | after e => exact hupdated
      | none => exact hupdated

/-- What `_update_task_history` leaves. -/
theorem updateTaskHistory_world (hs : w.sessions () = []) :
    ((updateTaskHistory p.code p.method p.target p.payload.amrCode p.payload.errorMsg
        p.clock).run p.respond w).2 =
      { w with db := { w.db with tasks := p.onTable w.db.tasks } } := by
  have hempty := World.setSession_of_empty hs
  rw [updateTaskHistory, withSession, run_tryFinally, run_perform]
  -- The session is closed, and nothing follows.
  have hclose : ∀ (w' : World Unit) (r : Except PyExc Bool),
      (onOk (p.respond .close w') fun _ s => (r, s)).2 = w'.setSession () [] := by
    intro w' r
    rw [← respond_close (p := p)]
    rcases p.respond .close w' with ⟨e | u, s⟩ <;> rfl
  rw [hclose, bind_eq, run_bind, run_perform]
  have hselect : p.respond (.selectTask p.code) w =
      p.select.strike w (.ok (w.db.tasks.find? p.code), w) := rfl
  rw [hselect]
  cases hsel : p.select with
  | before e | after e =>
      rw [onTable_of_not_commits (by simp [commits, hsel, Fault.isNone])]
      exact hempty
  | none =>
      rw [Fault.strike, onOk_ok]
      cases hf : w.db.tasks.find? p.code with
      | none =>
          rw [onTable_of_missing hf]
          exact hempty
      | some row =>
          cases ht : row.status.terminal with
          | true =>
              rw [onTable_of_terminal hf ht, applyFeedback, if_pos ht]
              exact hempty
          | false =>
              have hcommits : p.commits = (p.update.isNone && p.commit.takesEffect) := by
                rw [commits, hsel]
                rfl
              rw [onTable_of_found hf ht, applyFeedback_world hs ht, hcommits]
              split <;> rfl

/-- `_update_task_history` returns, when no store fails. -/
theorem updateTaskHistory_ok (hs : w.sessions () = []) (hc : p.clean = true) :
    ∃ dbUpdated, ((updateTaskHistory p.code p.method p.target p.payload.amrCode
      p.payload.errorMsg p.clock).run p.respond w).1 = .ok dbUpdated := by
  obtain ⟨hselect, hupdate, hcommit, hclose, -⟩ := clean_iff.mp hc
  have hclosed : ∀ w' : World Unit, p.respond .close w' = (.ok (), w'.setSession () []) := by
    intro w'
    simp only [respond, env, Rcs.respond, hclose, Fault.strike]
  have hselected : p.respond (.selectTask p.code) w = (.ok (w.db.tasks.find? p.code), w) := by
    simp only [respond, env, Rcs.respond, hselect, Fault.strike]
  rw [updateTaskHistory, withSession, run_tryFinally, run_perform, hclosed, onOk_ok, bind_eq,
    run_bind, run_perform, hselected, onOk_ok]
  cases w.db.tasks.find? p.code with
  | none => exact ⟨_, rfl⟩
  | some row =>
      cases ht : row.status.terminal with
      | true =>
          rw [applyFeedback, if_pos ht]
          exact ⟨_, rfl⟩
      | false =>
          rw [applyFeedback_run ht, respond_update row hs, hupdate, Fault.strike, onOk_ok,
            respond_commit row hs, hcommit]
          exact ⟨_, rfl⟩

/-- An execution with a task code and a method, by its two parts. -/
theorem outcome_of_named (hb : ¬ p.Blank) :
    p.outcome w =
      onOk ((updateTaskHistory p.code p.method p.target p.payload.amrCode p.payload.errorMsg
        p.clock).run p.respond w) fun dbUpdated w' =>
        onOk ((updateRobotState p.payload p.target p.clock).run p.respond w')
          fun cacheUpdated w'' =>
            (.ok { updated := dbUpdated, cacheUpdated := some cacheUpdated }, w'') := by
  have hnamed : ¬ (strip p.payload.robotTaskCode = "" ∨ strip p.payload.method = "") := hb
  rw [outcome, processTaskFeedback, if_neg hnamed, bind_eq, run_bind, run_perform]
  show run _ _ w = _
  simp only [bind_eq, run_bind, pure_eq, run_ret]
  rfl

theorem after_of_blank (hb : p.Blank) : p.after w = w := by
  rw [after, outcome, processTaskFeedback_blank hb]
  rfl

/-- The robot's entry is all that `_update_robot_state` touches. -/
theorem updateRobotState_frame (payload : TaskFeedbackPayload) (target : TaskStatus)
    (now : DateTime) :
    ((updateRobotState payload target now).run p.respond w).2.db = w.db ∧
      ((updateRobotState payload target now).run p.respond w).2.sessions = w.sessions := by
  rw [updateRobotState]
  cases truthy payload.amrCode with
  | none => exact ⟨rfl, rfl⟩
  | some amrCode =>
      dsimp only
      rw [bind_eq, run_bind, run_perform]
      simp only [respond, env, Rcs.respond]
      cases p.setex <;> exact ⟨rfl, rfl⟩

/-- An execution leaves the table `p.onTable` makes of it, and its session empty. -/
theorem after_db (hs : w.sessions () = []) (hb : ¬ p.Blank) :
    (p.after w).db = { w.db with tasks := p.onTable w.db.tasks } ∧
      (p.after w).sessions = w.sessions := by
  have hworld := updateTaskHistory_world (p := p) hs
  rw [after, outcome_of_named hb]
  rcases hrun : (updateTaskHistory p.code p.method p.target p.payload.amrCode p.payload.errorMsg
    p.clock).run p.respond w with ⟨e | dbUpdated, w'⟩
  · rw [hrun] at hworld
    rw [onOk_error]
    dsimp only at hworld ⊢
    rw [hworld]
    exact ⟨rfl, rfl⟩
  · rw [hrun] at hworld
    obtain ⟨hdb, hsessions⟩ := updateRobotState_frame (p := p) (w := w') p.payload p.target p.clock
    rw [onOk_ok]
    dsimp only at hworld
    rcases hstate : (updateRobotState p.payload p.target p.clock).run p.respond w' with
      ⟨e | cacheUpdated, w''⟩ <;>
    · rw [hstate] at hdb hsessions
      dsimp only [onOk_ok, onOk_error] at hdb hsessions ⊢
      rw [hdb, hsessions, hworld]
      exact ⟨rfl, rfl⟩

/-- **What an execution does to `task_history`.** -/
theorem after_rows (hs : w.sessions () = []) :
    (p.after w).db.tasks.rows = w.db.tasks.rows.map p.onRow := by
  by_cases hb : p.Blank
  · rw [after_of_blank hb]
    have hkeep : ∀ row ∈ w.db.tasks.rows, row = p.onRow row := fun row _ =>
      (onRow_of_not_reaches fun h => h.1 hb).symm
    exact (List.map_id _).symm.trans (List.map_congr_left hkeep)
  · rw [(after_db hs hb).1]
    exact onTable_rows hb w.db.tasks

theorem after_session (hs : w.sessions () = []) : (p.after w).sessions () = [] := by
  by_cases hb : p.Blank
  · rwa [after_of_blank hb]
  · rwa [(after_db hs hb).2]

theorem onRedis_of_blank (hb : p.Blank) (redis : String → Option RedisValue) :
    p.onRedis redis = redis := by
  rw [onRedis]
  cases truthy p.payload.amrCode with
  | none => rfl
  | some amrCode => exact if_pos hb

/-- **What an execution that goes through does to Redis.** -/
theorem after_redis (hs : w.sessions () = []) (hc : p.clean = true) :
    (p.after w).redis = p.onRedis w.redis := by
  by_cases hb : p.Blank
  · rw [after_of_blank hb, onRedis_of_blank hb]
  have hworld := updateTaskHistory_world (p := p) hs
  obtain ⟨dbUpdated, hok⟩ := updateTaskHistory_ok hs hc
  rw [after, outcome_of_named hb]
  rcases hrun : (updateTaskHistory p.code p.method p.target p.payload.amrCode p.payload.errorMsg
    p.clock).run p.respond w with ⟨r, w'⟩
  rw [hrun] at hworld hok
  dsimp only at hworld hok
  rw [hok, onOk_ok, updateRobotState, onRedis, hworld]
  cases truthy p.payload.amrCode with
  | none => rfl
  | some amrCode =>
      dsimp only
      rw [bind_eq, run_bind, run_perform, if_neg hb]
      simp only [respond, env, Rcs.respond, (clean_iff.mp hc).2.2.2.2, Fault.strike]
      rfl

end Processing

/-! ### A sequence of executions -/

/-- What a sequence of executions makes of a row. -/
def rowAfter (ps : List Processing) (row : TaskHistory) : TaskHistory :=
  ps.foldl (fun row p => p.onRow row) row

@[simp] theorem rowAfter_nil (row : TaskHistory) : rowAfter [] row = row := rfl

@[simp] theorem rowAfter_cons (p : Processing) (ps : List Processing) (row : TaskHistory) :
    rowAfter (p :: ps) row = rowAfter ps (p.onRow row) := by
  rw [rowAfter, rowAfter, List.foldl_cons]

theorem rowAfter_append (ps qs : List Processing) (row : TaskHistory) :
    rowAfter (ps ++ qs) row = rowAfter qs (rowAfter ps row) := List.foldl_append

variable {w : World Unit} {ps : List Processing}

theorem rowAfter_robotTaskCode (row : TaskHistory) :
    (rowAfter ps row).robotTaskCode = row.robotTaskCode := by
  induction ps generalizing row with
  | nil => rfl
  | cons p ps ih => rw [rowAfter_cons, ih, Processing.onRow_robotTaskCode]

theorem afterAll_session (hs : w.sessions () = []) : (afterAll w ps).sessions () = [] := by
  induction ps generalizing w with
  | nil => exact hs
  | cons p ps ih =>
      rw [afterAll_cons]
      exact ih (Processing.after_session hs)

/-- **What a sequence does to `task_history`.** -/
theorem afterAll_rows (hs : w.sessions () = []) :
    (afterAll w ps).db.tasks.rows = w.db.tasks.rows.map (rowAfter ps) := by
  induction ps generalizing w with
  | nil => exact (List.map_id _).symm
  | cons p ps ih =>
      rw [afterAll_cons, ih (Processing.after_session hs), Processing.after_rows hs, List.map_map]
      rfl

theorem afterAll_find? (hs : w.sessions () = []) (code : String) :
    (afterAll w ps).db.tasks.find? code = (w.db.tasks.find? code).map (rowAfter ps) :=
  TaskTable.find?_of_rows rowAfter_robotTaskCode (afterAll_rows hs) code

/-- **What a sequence that goes through does to Redis.** -/
theorem afterAll_redis (hs : w.sessions () = []) (hc : ∀ p ∈ ps, p.clean = true) :
    (afterAll w ps).redis = ps.foldl (fun redis p => p.onRedis redis) w.redis := by
  induction ps generalizing w with
  | nil => rfl
  | cons p ps ih =>
      rw [afterAll_cons, ih (Processing.after_session hs) fun q hq => hc q (List.mem_cons_of_mem _ hq),
        Processing.after_redis hs (hc p List.mem_cons_self)]
      rfl

end Rcs

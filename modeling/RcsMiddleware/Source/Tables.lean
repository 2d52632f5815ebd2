import RcsMiddleware.Support.DateTime
import RcsMiddleware.Support.Json

/-!
# Source — Tables

The rows of the database (`app/models`) and the statements the repositories run on them.  The
unique constraints of `task_history` are part of the table's type: a `TaskTable` in which two
rows share a task code, or a key that is not `NULL`, cannot be built.  Columns no modelled
function reads (`id`, the server timestamps, `raw_payload`) are left out.

* `TaskTable.insert?`, `TaskTable.update`: an `INSERT` of one row, the `UPDATE` of `update_status`.
* `find?_insert`, `find?_update`: what a `SELECT` by task code finds after each.
-/

namespace Rcs

open Support

inductive TaskStatus where
  | pending
  | running
  | completed
  | failed
  | cancelled
  deriving DecidableEq, Repr

namespace TaskStatus

def value : TaskStatus → String
  | .pending => "pending"
  | .running => "running"
  | .completed => "completed"
  | .failed => "failed"
  | .cancelled => "cancelled"

/-- `status in (completed, cancelled, failed)`. -/
def terminal : TaskStatus → Bool
  | .completed | .cancelled | .failed => true
  | .pending | .running => false

end TaskStatus

/-- A row of `task_history`. -/
structure TaskHistory where
  robotTaskCode : String
  status : TaskStatus
  robotCode : Option String := none
  sourceCode : Option String := none
  targetCode : Option String := none
  idempotencyKey : Option String := none
  startTime : Option DateTime := none
  endTime : Option DateTime := none
  errorMsg : Option String := none
  deriving DecidableEq, Repr

/-- Every value is short enough for its column.  `error_msg` is a `TEXT`, which has no width; what
the database refuses for the limit it sets to one is a fault. -/
def TaskHistory.Fits (row : TaskHistory) : Prop :=
  row.robotTaskCode.length ≤ 100 ∧ (∀ c ∈ row.robotCode, c.length ≤ 50) ∧
    (∀ c ∈ row.sourceCode, c.length ≤ 100) ∧ (∀ c ∈ row.targetCode, c.length ≤ 100) ∧
    ∀ key ∈ row.idempotencyKey, key.length ≤ 255

instance (row : TaskHistory) : Decidable row.Fits := inferInstanceAs (Decidable (_ ∧ _))

/-- The arguments of `update_status`. -/
structure StatusUpdate where
  status : TaskStatus
  startTime : Option DateTime := none
  endTime : Option DateTime := none
  errorMsg : Option String := none
  robotCode : Option String := none
  deriving DecidableEq, Repr

/-- The `SET` clause of `update_status`: an argument that is `None` leaves its column. -/
def StatusUpdate.set (u : StatusUpdate) (row : TaskHistory) : TaskHistory :=
  { row with
    status := u.status
    startTime := u.startTime <|> row.startTime
    endTime := u.endTime <|> row.endTime
    errorMsg := u.errorMsg <|> row.errorMsg
    robotCode := u.robotCode <|> row.robotCode }

@[simp] theorem StatusUpdate.set_status (u : StatusUpdate) (row : TaskHistory) :
    (u.set row).status = u.status := rfl

@[simp] theorem StatusUpdate.set_startTime (u : StatusUpdate) (row : TaskHistory) :
    (u.set row).startTime = (u.startTime <|> row.startTime) := rfl

@[simp] theorem StatusUpdate.set_endTime (u : StatusUpdate) (row : TaskHistory) :
    (u.set row).endTime = (u.endTime <|> row.endTime) := rfl

@[simp] theorem StatusUpdate.set_errorMsg (u : StatusUpdate) (row : TaskHistory) :
    (u.set row).errorMsg = (u.errorMsg <|> row.errorMsg) := rfl

@[simp] theorem StatusUpdate.set_robotCode (u : StatusUpdate) (row : TaskHistory) :
    (u.set row).robotCode = (u.robotCode <|> row.robotCode) := rfl

@[simp] theorem StatusUpdate.set_robotTaskCode (u : StatusUpdate) (row : TaskHistory) :
    (u.set row).robotTaskCode = row.robotTaskCode := rfl

@[simp] theorem StatusUpdate.set_idempotencyKey (u : StatusUpdate) (row : TaskHistory) :
    (u.set row).idempotencyKey = row.idempotencyKey := rfl

/-- Two rows that a unique constraint of `task_history` keeps apart: one task code, or one key
that is not `NULL`. -/
def TaskHistory.Clash (a b : TaskHistory) : Prop :=
  a.robotTaskCode = b.robotTaskCode ∨
    (a.idempotencyKey.isSome ∧ a.idempotencyKey = b.idempotencyKey)

instance (a b : TaskHistory) : Decidable (a.Clash b) := inferInstanceAs (Decidable (_ ∨ _))

theorem TaskHistory.Clash.symm {a b : TaskHistory} (h : a.Clash b) : b.Clash a := by
  rcases h with h | ⟨hs, h⟩
  · exact .inl h.symm
  · exact .inr ⟨h ▸ hs, h.symm⟩

/-- `task_history`, in the order of insertion. -/
structure TaskTable where
  rows : List TaskHistory
  unique : rows.Pairwise fun a b => ¬ a.Clash b

namespace TaskTable

def empty : TaskTable := ⟨[], .nil⟩

/-- `SELECT … WHERE robot_task_code = code`. -/
def find? (t : TaskTable) (code : String) : Option TaskHistory :=
  t.rows.find? fun row => row.robotTaskCode = code

/-- The column whose unique constraint the row violates. -/
def violated? (t : TaskTable) (row : TaskHistory) : Option String :=
  if t.rows.any fun old => old.robotTaskCode = row.robotTaskCode then some "robot_task_code"
  else if row.idempotencyKey.isSome && t.rows.any fun old => old.idempotencyKey = row.idempotencyKey
    then some "idempotency_key"
  else none

theorem violated?_eq_none {t : TaskTable} {row : TaskHistory} :
    t.violated? row = none ↔ ∀ old ∈ t.rows, ¬ old.Clash row := by
  unfold violated? TaskHistory.Clash
  split_ifs with hc hk
  · obtain ⟨old, hm, ho⟩ := List.any_eq_true.mp hc
    simp only [false_iff]
    exact fun h => h old hm (.inl (of_decide_eq_true ho))
  · simp only [Bool.and_eq_true, List.any_eq_true, decide_eq_true_eq] at hk
    obtain ⟨hs, old, hm, ho⟩ := hk
    simp only [false_iff]
    exact fun h => h old hm (.inr ⟨ho ▸ hs, ho⟩)
  · simp only [Bool.and_eq_true, List.any_eq_true, decide_eq_true_eq, not_exists, not_and] at hc hk
    refine ⟨fun _ old hm h => ?_, fun _ => rfl⟩
    rcases h with h | ⟨hs, h⟩
    · exact hc old hm h
    · exact hk (h ▸ hs) old hm h

/-- `INSERT` of a row no constraint rejects. -/
def insert (t : TaskTable) (row : TaskHistory) (h : t.violated? row = none) : TaskTable where
  rows := t.rows ++ [row]
  unique := List.pairwise_append.mpr ⟨t.unique, List.pairwise_singleton _ _, fun old hm new hn => by
    rw [List.mem_singleton] at hn
    exact hn ▸ violated?_eq_none.mp h old hm⟩

/-- `INSERT`: the table with the row, or the column whose constraint rejects it. -/
def insert? (t : TaskTable) (row : TaskHistory) : Except String TaskTable :=
  match h : t.violated? row with
  | none => .ok (t.insert row h)
  | some column => .error column

theorem insert?_of_violated {t : TaskTable} {row : TaskHistory} {column : String}
    (h : t.violated? row = some column) : t.insert? row = .error column := by
  unfold insert?
  split
  · next h' => rw [h] at h'; cases h'
  · next c h' => rw [h] at h'; cases h'; rfl

theorem insert?_of_not_violated {t : TaskTable} {row : TaskHistory} (h : t.violated? row = none) :
    t.insert? row = .ok (t.insert row h) := by
  unfold insert?
  split
  · rfl
  · next c h' => rw [h] at h'; cases h'

/-- `UPDATE … SET … WHERE robot_task_code = code`. -/
def update (t : TaskTable) (code : String) (u : StatusUpdate) : TaskTable where
  rows := t.rows.map fun row => if row.robotTaskCode = code then u.set row else row
  unique := by
    have keep : ∀ row : TaskHistory,
        (if row.robotTaskCode = code then u.set row else row).robotTaskCode = row.robotTaskCode ∧
        (if row.robotTaskCode = code then u.set row else row).idempotencyKey =
          row.idempotencyKey := fun row => by split <;> exact ⟨rfl, rfl⟩
    refine List.pairwise_map.mpr (t.unique.imp fun {a b} hab h => hab ?_)
    simpa only [TaskHistory.Clash, (keep a).1, (keep a).2, (keep b).1, (keep b).2] using h

/-! ### What a `SELECT` finds -/

theorem find?_insert {t : TaskTable} {row : TaskHistory} (h : t.violated? row = none)
    (code : String) :
    (t.insert row h).find? code =
      if row.robotTaskCode = code then some row else t.find? code := by
  have hnew : ∀ old ∈ t.rows, old.robotTaskCode ≠ row.robotTaskCode := fun old hm e =>
    violated?_eq_none.mp h old hm (.inl e)
  unfold find? insert
  rw [List.find?_append]
  split_ifs with hc
  · have hn : t.rows.find? (fun r => r.robotTaskCode = code) = none :=
      List.find?_eq_none.mpr fun old hm => by simpa using hc ▸ hnew old hm
    simp [hn, hc]
  · cases t.rows.find? (fun r => r.robotTaskCode = code) <;> simp [hc]

theorem find?_update (t : TaskTable) (code : String) (u : StatusUpdate) (code' : String) :
    (t.update code u).find? code' =
      if code = code' then (t.find? code').map u.set else t.find? code' := by
  have hcode : (fun row : TaskHistory =>
      decide ((if row.robotTaskCode = code then u.set row else row).robotTaskCode = code')) =
      fun row => decide (row.robotTaskCode = code') := by
    funext row; split <;> rfl
  have hfind : (t.update code u).find? code' =
      (t.find? code').map fun row => if row.robotTaskCode = code then u.set row else row := by
    simp only [find?, update, List.find?_map, Function.comp_def, hcode]
  rw [hfind]
  cases h : t.find? code' with
  | none => simp
  | some row =>
      have hr : row.robotTaskCode = code' := by simpa using List.find?_some h
      split_ifs with hc
      · simp [hr, hc]
      · simp [hr, Ne.symm hc]

end TaskTable

/-- A row of `robot_types`. -/
structure RobotType where
  name : String
  rcsTaskType : String
  deriving DecidableEq, Repr

/-- A row of `webhook_logs`. -/
structure WebhookLog where
  robotTaskCode : String
  method : String
  amrCode : Option String
  x : Option PyFloat
  y : Option PyFloat
  signatureValid : Bool
  duplicate : Bool
  deriving DecidableEq, Repr

/-- The committed contents of the database.  A row of `system_config` has a nullable value. -/
structure Tables where
  tasks : TaskTable := .empty
  robotTypes : List RobotType := []
  configs : String → Option (Option String) := fun _ => none
  logs : List WebhookLog := []

/-- An uncommitted change of a session. -/
inductive Write where
  | insertTask (row : TaskHistory)
  | updateTask (code : String) (u : StatusUpdate)
  | insertConfig (key value : String)
  /-- A new value for a row read as `old`: the unit of work emits no `UPDATE` when they are
  equal. -/
  | updateConfig (key : String) (old : Option String) (value : String)
  | insertLog (row : WebhookLog)

/-- One change of a transaction, applied to the tables; `error` names the violated column. -/
def Write.run (db : Tables) : Write → Except String Tables
  | .insertTask row => return { db with tasks := ← db.tasks.insert? row }
  | .updateTask code u => .ok { db with tasks := db.tasks.update code u }
  | .insertConfig key value =>
      if (db.configs key).isSome then .error "key"
      else .ok { db with configs := Function.update db.configs key (some (some value)) }
  | .updateConfig key old value =>
      if old = some value then .ok db
      else .ok { db with configs := Function.update db.configs key (some (some value)) }
  | .insertLog row => .ok { db with logs := db.logs ++ [row] }

theorem Write.run_robotTypes {db db' : Tables} {write : Write} (h : write.run db = .ok db') :
    db'.robotTypes = db.robotTypes := by
  cases write with
  | insertTask row =>
      simp only [Write.run] at h
      cases ht : db.tasks.insert? row with
      | error column => rw [ht] at h; cases h
      | ok tasks => rw [ht] at h; cases h; rfl
  | updateTask _ _ | insertLog _ => cases h; rfl
  | insertConfig _ _ | updateConfig _ _ _ =>
      simp only [Write.run] at h
      split at h <;> cases h <;> rfl

theorem foldlM_robotTypes {writes : List Write} {db db' : Tables}
    (h : writes.foldlM Write.run db = .ok db') : db'.robotTypes = db.robotTypes := by
  induction writes generalizing db with
  | nil => cases h; rfl
  | cons write rest ih =>
      rw [List.foldlM_cons] at h
      cases hw : write.run db with
      | error column => rw [hw] at h; cases h
      | ok db₁ =>
          rw [hw] at h
          exact (ih h).trans (Write.run_robotTypes hw)

end Rcs

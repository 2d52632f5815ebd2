import RcsMiddleware.Source.Tables
import RcsMiddleware.Support.Descending
import RcsMiddleware.Support.Like

/-!
# Source — Listings

The two endpoints that list a table page by page: the task history (`api/v1/routers/tasks.py`) and
the webhook logs (`api/v1/routers/webhook_logs.py`, `repositories/webhook_log_repository.py`).  The
rows carry the columns the database sets.  In what order the database answers rows of one time is
an argument (`DescOrder`), and so is its collation.
-/

namespace Rcs

open Support Support.Text
open Support.Descending (DescOrder)

/-- A row of `task_history`, with the columns the database sets. -/
structure TaskRow where
  id : Nat
  createdAt : DateTime
  updatedAt : DateTime
  task : TaskHistory
  deriving DecidableEq, Repr

/-- A row of `webhook_logs`, with the columns the database sets. -/
structure WebhookLogRow where
  id : Nat
  createdAt : DateTime
  log : WebhookLog
  deriving DecidableEq, Repr

/-- The contents of a table with a primary key. -/
structure StoredRows {α : Type} (id : α → Nat) where
  rows : List α
  unique : (rows.map id).Nodup

/-- A page, as the two parameters ask for it. -/
structure PageQuery where
  page : Nat
  pageSize : Nat
  page_pos : 1 ≤ page
  pageSize_range : 1 ≤ pageSize ∧ pageSize ≤ 100

/-- The `data` of the response. -/
structure Listing (α : Type) where
  items : List α
  total : Nat
  page : Nat
  pageSize : Nat
  totalPages : Nat

/-- The rows of a page: `query.offset((page - 1) * page_size).limit(page_size)`. -/
def pageRows {α : Type} (answered : List α) (query : PageQuery) : List α :=
  (answered.drop ((query.page - 1) * query.pageSize)).take query.pageSize

/-- The response about the rows a query selects, in the order it answers them. -/
def listing {α β : Type} (item : α → β) (selected answered : List α) (query : PageQuery) :
    Listing β where
  items := (pageRows answered query).map item
  total := selected.length
  page := query.page
  pageSize := query.pageSize
  totalPages :=
    if 0 < selected.length then (selected.length + query.pageSize - 1) / query.pageSize else 0

/-! ### The task history -/

/-- `TaskStatus(value)`. -/
def TaskStatus.ofValue? (value : String) : Option TaskStatus :=
  [.pending, .running, .completed, .failed, .cancelled].find? fun status => status.value = value

/-- `TaskHistoryItem`. -/
structure TaskHistoryItem where
  robotTaskCode : String
  status : String
  robotCode : Option String
  sourceCode : Option String
  targetCode : Option String
  errorMsg : Option String
  deriving DecidableEq, Repr

def taskHistoryItem (r : TaskRow) : TaskHistoryItem where
  robotTaskCode := r.task.robotTaskCode
  status := r.task.status.value
  robotCode := r.task.robotCode
  sourceCode := r.task.sourceCode
  targetCode := r.task.targetCode
  errorMsg := r.task.errorMsg

/-- `order_by(desc(TaskHistory.created_at))`. -/
def TaskRow.createdKey (r : TaskRow) : List Nat := r.createdAt.parts

/-- The rows of the query: an invalid status is ignored. -/
def selectTasks (table : StoredRows TaskRow.id) (statusFilter : Option String) : List TaskRow :=
  match (truthy statusFilter).bind TaskStatus.ofValue? with
  | some status => table.rows.filter fun r => r.task.status = status
  | none => table.rows

/-- `list_task_history`. -/
def listTaskHistory (table : StoredRows TaskRow.id) (statusFilter : Option String)
    (query : PageQuery) (answer : DescOrder TaskRow.createdKey (selectTasks table statusFilter)) :
    Listing TaskHistoryItem :=
  listing taskHistoryItem (selectTasks table statusFilter) answer.list query

/-! ### The webhook logs -/

/-- `WebhookLogItem`. -/
structure WebhookLogItem where
  id : Nat
  robotTaskCode : String
  method : String
  amrCode : Option String
  x : Option PyFloat
  y : Option PyFloat
  signatureValid : Bool
  duplicate : Bool
  createdAt : DateTime
  deriving DecidableEq, Repr

def webhookLogItem (r : WebhookLogRow) : WebhookLogItem where
  id := r.id
  robotTaskCode := r.log.robotTaskCode
  method := r.log.method
  amrCode := r.log.amrCode
  x := r.log.x
  y := r.log.y
  signatureValid := r.log.signatureValid
  duplicate := r.log.duplicate
  createdAt := r.createdAt

/-- `order_by(desc(WebhookLog.created_at))`. -/
def WebhookLogRow.createdKey (r : WebhookLogRow) : List Nat := r.createdAt.parts

/-- The rows of the query of `list_recent`. -/
def selectLogs (collation : Collation) (table : StoredRows WebhookLogRow.id)
    (taskCode : Option String) : List WebhookLogRow :=
  match truthy taskCode with
  | some code => table.rows.filter fun r => collation.likeContains code r.log.robotTaskCode
  | none => table.rows

/-- `list_webhook_logs`. -/
def listWebhookLogs (collation : Collation) (table : StoredRows WebhookLogRow.id)
    (taskCode : Option String) (query : PageQuery)
    (answer : DescOrder WebhookLogRow.createdKey (selectLogs collation table taskCode)) :
    Listing WebhookLogItem :=
  listing webhookLogItem (selectLogs collation table taskCode) answer.list query

end Rcs

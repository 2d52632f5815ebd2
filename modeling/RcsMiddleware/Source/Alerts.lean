import RcsMiddleware.Source.Listings

/-!
# Source — Alerts

The endpoint of the dashboard's alerts (`api/v1/routers/alerts.py`): the newest failed or cancelled
tasks and the newest webhooks with an invalid signature, in one list.
-/

namespace Rcs

open Support Support.Text
open Support.Descending (DescOrder)

/-- An element of `alerts`. -/
structure Alert where
  type : String
  severity : String
  message : String
  details : String
  robotTaskCode : String
  timestamp : Option String
  deriving DecidableEq, Repr

/-- `alerts.append({…})`, for a task. -/
def taskAlert (r : TaskRow) : Alert where
  type := if r.task.status = .failed then "task_failed" else "task_cancelled"
  severity := if r.task.status = .failed then "error" else "warning"
  message := "Görev " ++ r.task.robotTaskCode ++ " " ++
    if r.task.status = .failed then "başarısız" else "iptal edildi"
  details := (truthy r.task.errorMsg).getD ""
  robotTaskCode := r.task.robotTaskCode
  timestamp := some r.updatedAt.isoformat

/-- `alerts.append({…})`, for a webhook. -/
def signatureAlert (r : WebhookLogRow) : Alert where
  type := "webhook_signature_invalid"
  severity := "error"
  message := "Geçersiz webhook imzası: " ++ r.log.robotTaskCode ++ " (" ++ r.log.method ++ ")"
  details := ""
  robotTaskCode := r.log.robotTaskCode
  timestamp := some r.createdAt.isoformat

/-- `order_by(desc(TaskHistory.updated_at))`. -/
def TaskRow.updatedKey (r : TaskRow) : List Nat := r.updatedAt.parts

/-- `where(TaskHistory.status.in_([TaskStatus.failed, TaskStatus.cancelled]))`. -/
def failedTasks (tasks : StoredRows TaskRow.id) : List TaskRow :=
  tasks.rows.filter fun r => r.task.status ∈ [TaskStatus.failed, TaskStatus.cancelled]

/-- `where(WebhookLog.signature_valid == False)`. -/
def invalidSignatures (logs : StoredRows WebhookLogRow.id) : List WebhookLogRow :=
  logs.rows.filter fun r => r.log.signatureValid = false

/-- `lambda a: a.get("timestamp") or ""`. -/
def Alert.sortKey (alert : Alert) : String := (truthy alert.timestamp).getD ""

/-- `alerts.sort(key=…, reverse=True)`: alerts with equal keys keep their order. -/
def sortAlerts (alerts : List Alert) : List Alert :=
  alerts.mergeSort fun a b => decide (b.sortKey ≤ a.sortKey)

/-- The `data` of the response. -/
structure RecentAlerts where
  items : List Alert
  total : Nat

/-- The rows of the two queries, as alerts. -/
def collectedAlerts {tasks : StoredRows TaskRow.id} {logs : StoredRows WebhookLogRow.id}
    (limit : Nat) (failed : DescOrder TaskRow.updatedKey (failedTasks tasks))
    (invalid : DescOrder WebhookLogRow.createdKey (invalidSignatures logs)) : List Alert :=
  (failed.list.take limit).map taskAlert ++ (invalid.list.take limit).map signatureAlert

/-- `recent_alerts`. -/
def recentAlerts {tasks : StoredRows TaskRow.id} {logs : StoredRows WebhookLogRow.id}
    (limit : Nat) (failed : DescOrder TaskRow.updatedKey (failedTasks tasks))
    (invalid : DescOrder WebhookLogRow.createdKey (invalidSignatures logs)) : RecentAlerts where
  items := (sortAlerts (collectedAlerts limit failed invalid)).take limit
  total := (collectedAlerts limit failed invalid).length

end Rcs

import RcsMiddleware.Source.Alerts
import RcsMiddleware.Support.IsoOrder

/-!
# Dashboard — Alerts

What the endpoint says of the failed and cancelled tasks and of the webhooks with an invalid
signature, whichever of the rows of one time the two queries answer first.

* `recentAlerts_newest`: the alerts are the newest ones, although each source is cut before the two
  are merged, and the texts of the dates are compared.
* `total_iff`: the total is the number of all alerts exactly when each source fits into the limit.
-/

namespace Rcs

open Support Support.Text
open Support.Descending (DescOrder)

/-- What an alert is about. -/
inductive AlertSource where
  | task (r : TaskRow)
  | signature (r : WebhookLogRow)
  deriving DecidableEq

namespace AlertSource

def alert : AlertSource → Alert
  | .task r => taskAlert r
  | .signature r => signatureAlert r

/-- When it happened. -/
def time : AlertSource → DateTime
  | .task r => r.updatedAt
  | .signature r => r.createdAt

def timeKey (source : AlertSource) : List Nat := source.time.parts

end AlertSource

/-- The failed or cancelled tasks and the webhooks with an invalid signature. -/
def alertSources (tasks : StoredRows TaskRow.id) (logs : StoredRows WebhookLogRow.id) :
    List AlertSource :=
  (failedTasks tasks).map .task ++ (invalidSignatures logs).map .signature

variable {tasks : StoredRows TaskRow.id} {logs : StoredRows WebhookLogRow.id} {limit : Nat}
  (failed : DescOrder TaskRow.updatedKey (failedTasks tasks))
  (invalid : DescOrder WebhookLogRow.createdKey (invalidSignatures logs))

/-! ### The alerts -/

/-- A text that `isoformat` writes is not empty. -/
theorem truthy_isoformat (d : DateTime) : truthy (some d.isoformat) = some d.isoformat := by
  refine truthy_some ?_
  intro hempty
  have hlist := d.toList_isoformat
  rw [hempty] at hlist
  simp at hlist

theorem AlertSource.sortKey_alert (source : AlertSource) :
    source.alert.sortKey = source.time.isoformat := by
  cases source with
  | task r => exact congrArg (fun t => t.getD "") (truthy_isoformat r.updatedAt)
  | signature r => exact congrArg (fun t => t.getD "") (truthy_isoformat r.createdAt)

/-- The tasks the first query answers. -/
def taskSources : DescOrder AlertSource.timeKey ((failedTasks tasks).map .task) :=
  failed.map AlertSource.task fun _ => rfl

/-- The webhooks the second query answers. -/
def signatureSources : DescOrder AlertSource.timeKey ((invalidSignatures logs).map .signature) :=
  invalid.map AlertSource.signature fun _ => rfl

/-- What the two queries answer within the limit. -/
def collectedSources (limit : Nat) : List AlertSource :=
  (taskSources failed).list.take limit ++ (signatureSources invalid).list.take limit

/-- The same, the newest first. -/
def mergedSources (limit : Nat) :
    DescOrder AlertSource.timeKey (collectedSources failed invalid limit) :=
  .stable _ _

theorem collectedAlerts_eq (limit : Nat) :
    collectedAlerts limit failed invalid =
      (collectedSources failed invalid limit).map AlertSource.alert := by
  simp only [collectedAlerts, collectedSources, taskSources, signatureSources, DescOrder.map,
    List.map_append, List.map_take, List.map_map]
  rfl

theorem mem_alertSources_of_mem_collected {source : AlertSource}
    (h : source ∈ collectedSources failed invalid limit) : source ∈ alertSources tasks logs := by
  rcases List.mem_append.mp h with h | h
  · exact List.mem_append_left _ ((taskSources failed).perm.subset (List.mem_of_mem_take h))
  · exact List.mem_append_right _
      ((signatureSources invalid).perm.subset (List.mem_of_mem_take h))

/-- The order of the texts is that of the dates. -/
theorem sortAlerts_collected (hvalid : ∀ source ∈ alertSources tasks logs, source.time.Valid) :
    sortAlerts (collectedAlerts limit failed invalid) =
      (mergedSources failed invalid limit).list.map AlertSource.alert := by
  rw [collectedAlerts_eq, sortAlerts, mergedSources, DescOrder.stable]
  refine (List.map_mergeSort ?_).symm
  intro a ha b hb
  have ha' := hvalid a (mem_alertSources_of_mem_collected failed invalid ha)
  have hb' := hvalid b (mem_alertSources_of_mem_collected failed invalid hb)
  rw [AlertSource.sortKey_alert, AlertSource.sortKey_alert, decide_eq_decide,
    DateTime.isoformat_le_iff hb' ha']
  exact Iff.rfl

/-- **The newest alerts**: the items are those of the failed or cancelled tasks and of the webhooks
with an invalid signature that happened last, as many as the limit allows, the newest first. -/
theorem recentAlerts_newest (limit : Nat)
    (hvalid : ∀ source ∈ alertSources tasks logs, source.time.Valid) :
    ∃ shown hidden : List AlertSource,
      (recentAlerts limit failed invalid).items = shown.map AlertSource.alert ∧
      (shown ++ hidden).Perm (alertSources tasks logs) ∧
      shown.length = min limit (alertSources tasks logs).length ∧
      shown.Pairwise (fun a b => b.time ≤ a.time) ∧
      ∀ left ∈ hidden, ∀ source ∈ shown, left.time ≤ source.time := by
  let merged := mergedSources failed invalid limit
  obtain ⟨hidden, hperm, hlength, hnewer⟩ :=
    Descending.firsts_of_firsts (taskSources failed) (signatureSources invalid) merged
  have hitems : (recentAlerts limit failed invalid).items =
      (merged.list.take limit).map AlertSource.alert := by
    rw [recentAlerts, sortAlerts_collected failed invalid hvalid, List.map_take]
  exact ⟨merged.list.take limit, hidden, hitems, hperm, hlength,
    merged.sorted.sublist (List.take_sublist _ _), hnewer⟩

/-- Two tasks that failed within a second. -/
def tasksOfOneSecond : StoredRows TaskRow.id where
  rows :=
    [⟨1, ⟨2026, 1, 31, 12, 0, 0, 0⟩, ⟨2026, 1, 31, 12, 5, 0, 0⟩,
      { robotTaskCode := "T-1", status := .failed }⟩,
    ⟨2, ⟨2026, 1, 31, 12, 0, 0, 0⟩, ⟨2026, 1, 31, 12, 5, 0, 120⟩,
      { robotTaskCode := "T-2", status := .cancelled }⟩]
  unique := by decide

/-- A webhook with an invalid signature. -/
def forgedLog : StoredRows WebhookLogRow.id where
  rows := [⟨1, ⟨2026, 1, 31, 11, 0, 0, 0⟩, ⟨"T-1", "end", none, none, none, false, false⟩⟩]
  unique := by decide

/-- The newest two of three. -/
theorem recentAlerts_newest_sample :
    ∃ shown hidden : List AlertSource,
      (recentAlerts 2 (.stable _ (failedTasks tasksOfOneSecond))
        (.stable _ (invalidSignatures forgedLog))).items = shown.map AlertSource.alert ∧
      (shown ++ hidden).Perm (alertSources tasksOfOneSecond forgedLog) ∧
      shown.length = min 2 (alertSources tasksOfOneSecond forgedLog).length ∧
      shown.Pairwise (fun a b => b.time ≤ a.time) ∧
      ∀ left ∈ hidden, ∀ source ∈ shown, left.time ≤ source.time :=
  recentAlerts_newest (.stable _ _) (.stable _ _) 2 (by decide)

/-! ### The total -/

theorem total_eq (limit : Nat) :
    (recentAlerts limit failed invalid).total =
      min limit (failedTasks tasks).length + min limit (invalidSignatures logs).length := by
  rw [recentAlerts, collectedAlerts, List.length_append, List.length_map, List.length_map,
    List.length_take, List.length_take, failed.perm.length_eq, invalid.perm.length_eq]

/-- **The total** is the number of all alerts, under each of two limits, exactly when the tasks fit
into both limits and the webhooks do. -/
theorem total_iff (limit limit' : Nat)
    (failed failed' : DescOrder TaskRow.updatedKey (failedTasks tasks))
    (invalid invalid' : DescOrder WebhookLogRow.createdKey (invalidSignatures logs)) :
    ((recentAlerts limit failed invalid).total = (recentAlerts limit' failed' invalid').total ∧
      (recentAlerts limit failed invalid).total =
        (failedTasks tasks).length + (invalidSignatures logs).length) ↔
      ((failedTasks tasks).length ≤ limit ∧ (failedTasks tasks).length ≤ limit') ∧
        (invalidSignatures logs).length ≤ limit ∧ (invalidSignatures logs).length ≤ limit' := by
  rw [total_eq, total_eq]
  omega

/-- **The badge of the dashboard** asks for one alert and counts one of the two tasks. -/
theorem total_of_badge :
    (recentAlerts 1 (.stable _ (failedTasks tasksOfOneSecond))
      (.stable _ (invalidSignatures forgedLog))).total = 2 ∧
    (recentAlerts 30 (.stable _ (failedTasks tasksOfOneSecond))
      (.stable _ (invalidSignatures forgedLog))).total = 3 ∧
    (failedTasks tasksOfOneSecond).length + (invalidSignatures forgedLog).length = 3 := by
  refine ⟨?_, ?_, ?_⟩
  · rw [total_eq]
    decide
  · rw [total_eq]
    decide
  · decide

end Rcs

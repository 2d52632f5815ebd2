import RcsMiddleware.Source.Listings

/-!
# Dashboard — Pages

The pages of the two listings.  Each page is a query of its own, ordered by a time that several rows
can have, and the database may order such rows anew for each.

* `pagesComplete_iff`: the pages of a listing have every row once exactly when the query selects the
  rows that are asked for, and no page ends within a group of rows of one time.
* `listings_complete_iff`: the two endpoints; the webhook logs are moreover searched with `LIKE`.
-/

namespace Rcs

open Support Support.Text
open Support.Descending (DescOrder Unsplit)

/-! ### A listing -/

section Listing

variable {α β : Type} {key : α → List Nat} {selected matching : List α} {item : α → β} {size : Nat}

/-- The query for the page after `k` others. -/
def queryAfter (size : Nat) (hsize : 1 ≤ size ∧ size ≤ 100) (k : Nat) : PageQuery :=
  ⟨k + 1, size, Nat.succ_pos k, hsize⟩

/-- Every page that is counted, read one by one: they have the rows that are asked for, each once,
as many as the total says, and each but the last is full. -/
structure PagesComplete (matching : List α) (rows : Nat → List α) (pages : Nat → Listing β)
    (size : Nat) : Prop where
  rows : ((List.range (pages 0).totalPages).flatMap rows).Perm matching
  items : ((List.range (pages 0).totalPages).flatMap fun k => (pages k).items).length =
    (pages 0).total
  full : ∀ k, k + 1 < (pages 0).totalPages → (pages k).items.length = size
  counts : ∀ k, (pages k).total = (pages 0).total ∧ (pages k).totalPages = (pages 0).totalPages

/-- The pages of a listing, where each is answered in an order of its own. -/
def ListingComplete (item : α → β) (matching : List α) (size : Nat)
    (hsize : 1 ≤ size ∧ size ≤ 100) (answers : Nat → DescOrder key selected) : Prop :=
  PagesComplete matching (fun k => pageRows (answers k).list (queryAfter size hsize k))
    (fun k => listing item selected (answers k).list (queryAfter size hsize k)) size

theorem totalPages_eq (answered : List α) (query : PageQuery) :
    (listing item selected answered query).totalPages =
      Descending.pageCount selected.length query.pageSize := by
  rw [listing, Descending.pageCount]
  split_ifs with h
  · rfl
  · have hpos := query.pageSize_range.1
    rw [Nat.eq_zero_of_not_pos h, Nat.zero_add, Nat.div_eq_of_lt (by omega)]

/-- The rows of all pages. -/
theorem rows_perm_iff (answers : Nat → DescOrder key selected) (hsize : 1 ≤ size ∧ size ≤ 100)
    (wanted : List α) :
    ((List.range
        (listing item selected (answers 0).list (queryAfter size hsize 0)).totalPages).flatMap
          fun k => pageRows (answers k).list (queryAfter size hsize k)).Perm wanted ↔
      ((List.range (Descending.pageCount selected.length size)).flatMap fun k =>
        Descending.page (answers k).list size k).Perm wanted := by
  rw [totalPages_eq]
  exact Iff.rfl

/-- **The pages of a listing** have every row once, however rows of one time are ordered, exactly
when the query selects the rows that are asked for and no page ends within such rows. -/
theorem pagesComplete_iff (hnodup : selected.Nodup) (hsize : 1 ≤ size ∧ size ≤ 100) :
    (∀ answers : Nat → DescOrder key selected, ListingComplete item matching size hsize answers) ↔
      selected.Perm matching ∧ ∀ k, Unsplit key selected (k * size) := by
  constructor
  · intro h
    have hperm : selected.Perm matching := by
      -- One answer for all pages has the rows of the query.
      let answer := DescOrder.stable key selected
      have hpages := (rows_perm_iff (fun _ => answer) hsize matching).mp (h fun _ => answer).rows
      rw [Descending.flatMap_page, List.take_of_length_le (by
        rw [answer.perm.length_eq]
        exact Descending.le_pageCount hsize.1 _)] at hpages
      exact answer.perm.symm.trans hpages
    refine ⟨hperm, (Descending.pages_perm_iff hnodup hsize.1).mp ?_⟩
    intro answers
    exact ((rows_perm_iff answers hsize matching).mp (h answers).rows).trans hperm.symm
  · rintro ⟨hperm, hunsplit⟩ answers
    have hpages := (Descending.pages_perm_iff hnodup hsize.1).mpr hunsplit answers
    refine ⟨(rows_perm_iff answers hsize matching).mpr (hpages.trans hperm), ?_, ?_, ?_⟩
    · rw [totalPages_eq]
      have hlength := Descending.length_pages hsize.1 answers
      simp only [List.length_flatMap, listing, List.length_map] at hlength ⊢
      exact hlength
    · intro k hk
      rw [totalPages_eq] at hk
      rw [listing, List.length_map]
      exact Descending.length_page_of_not_last hsize.1 (answers k) hk
    · exact fun k => ⟨rfl, rfl⟩

end Listing

/-! ### The two endpoints -/

variable {size : Nat}

/-- The row has the status that is asked for; a text that is no status asks for none. -/
def TaskRow.Asked (statusFilter : Option String) (r : TaskRow) : Prop :=
  ∀ given ∈ truthy statusFilter, (TaskStatus.ofValue? given).isSome → r.task.status.value = given

/-- The code of the task contains the text. -/
def WebhookLogRow.Asked (taskCode : Option String) (r : WebhookLogRow) : Prop :=
  ∀ code ∈ taskCode, hasSub r.log.robotTaskCode code = true

instance (statusFilter : Option String) (r : TaskRow) : Decidable (r.Asked statusFilter) :=
  inferInstanceAs (Decidable (∀ given ∈ truthy statusFilter, _))

instance (taskCode : Option String) (r : WebhookLogRow) : Decidable (r.Asked taskCode) :=
  inferInstanceAs (Decidable (∀ code ∈ taskCode, _))

/-- The text is searched for as it is: `LIKE` finds it in the codes of the table that contain it,
and in no others. -/
def SearchedAsText (collation : Collation) (taskCode : Option String)
    (logs : StoredRows WebhookLogRow.id) : Prop :=
  ∀ code ∈ taskCode, ∀ r ∈ logs.rows,
    collation.likeContains code r.log.robotTaskCode = hasSub r.log.robotTaskCode code

/-- The pages of the task history. -/
def TasksComplete (tasks : StoredRows TaskRow.id) (statusFilter : Option String) (size : Nat)
    (hsize : 1 ≤ size ∧ size ≤ 100)
    (answers : Nat → DescOrder TaskRow.createdKey (selectTasks tasks statusFilter)) : Prop :=
  PagesComplete (tasks.rows.filter fun r => r.Asked statusFilter)
    (fun k => pageRows (answers k).list (queryAfter size hsize k))
    (fun k => listTaskHistory tasks statusFilter (queryAfter size hsize k) (answers k)) size

/-- The pages of the webhook logs. -/
def LogsComplete (collation : Collation) (logs : StoredRows WebhookLogRow.id)
    (taskCode : Option String) (size : Nat) (hsize : 1 ≤ size ∧ size ≤ 100)
    (answers : Nat → DescOrder WebhookLogRow.createdKey (selectLogs collation logs taskCode)) :
    Prop :=
  PagesComplete (logs.rows.filter fun r => r.Asked taskCode)
    (fun k => pageRows (answers k).list (queryAfter size hsize k))
    (fun k => listWebhookLogs collation logs taskCode (queryAfter size hsize k) (answers k)) size

theorem StoredRows.nodup {α : Type} {id : α → Nat} (table : StoredRows id) : table.rows.Nodup :=
  List.Nodup.of_map id table.unique

theorem TaskStatus.ofValue?_eq_some {given : String} {status : TaskStatus} :
    TaskStatus.ofValue? given = some status ↔ status.value = given := by
  constructor
  · intro h
    simpa using List.find?_some h
  · rintro rfl
    cases status <;> rfl

/-- What is asked for is the status the query is about, if it is about one. -/
theorem TaskRow.asked_iff {statusFilter : Option String} {r : TaskRow} :
    r.Asked statusFilter ↔
      ∀ status ∈ (truthy statusFilter).bind TaskStatus.ofValue?, r.task.status = status := by
  constructor
  · intro h status hstatus
    obtain ⟨given, hgiven, hof⟩ := Option.bind_eq_some_iff.mp hstatus
    have hvalue := h given hgiven (by rw [hof]; rfl)
    rw [← hvalue, TaskStatus.ofValue?_eq_some.mpr rfl] at hof
    exact Option.some.inj hof
  · intro h given hgiven hsome
    obtain ⟨status, hof⟩ := Option.isSome_iff_exists.mp hsome
    rw [h status (Option.bind_eq_some_iff.mpr ⟨given, hgiven, hof⟩)]
    exact TaskStatus.ofValue?_eq_some.mp hof

/-- The query of the task history selects the rows that are asked for. -/
theorem selectTasks_eq (tasks : StoredRows TaskRow.id) (statusFilter : Option String) :
    selectTasks tasks statusFilter = tasks.rows.filter fun r => r.Asked statusFilter := by
  simp only [selectTasks, TaskRow.asked_iff]
  cases (truthy statusFilter).bind TaskStatus.ofValue? with
  | none => simp
  | some status => simp

/-- `LIKE` finds the rows that are asked for, as far as it searches for the text as it is. -/
theorem selectLogs_perm_iff (collation : Collation) (logs : StoredRows WebhookLogRow.id)
    (taskCode : Option String) :
    (selectLogs collation logs taskCode).Perm (logs.rows.filter fun r => r.Asked taskCode) ↔
      SearchedAsText collation taskCode logs := by
  have hempty : ∀ text, collation.likeContains "" text = hasSub text "" :=
    Collation.likeContains_eq_hasSub (by simp)
  have hall : ∀ text, hasSub text "" = true := by
    intro text
    exact any_tails_iff.mpr ⟨[], text.toList, rfl, rfl⟩
  cases taskCode with
  | none => simp [selectLogs, WebhookLogRow.Asked, SearchedAsText, truthy]
  | some code =>
      by_cases hcode : code = ""
      · simp [selectLogs, WebhookLogRow.Asked, SearchedAsText, truthy, hcode, hempty, hall]
      · simp only [selectLogs, truthy_some hcode, WebhookLogRow.Asked, SearchedAsText,
          Option.mem_some_iff, forall_eq']
        constructor
        · intro hperm r hr
          have hmem := hperm.mem_iff (a := r)
          simp only [List.mem_filter, hr, true_and] at hmem
          exact Bool.eq_iff_iff.mpr (by simpa using hmem)
        · intro hsame
          refine List.Perm.of_eq (List.filter_congr ?_)
          intro r hr
          rw [hsame r hr]
          simp

/-- The pages of the task history, with the rows the query selects. -/
theorem tasksComplete_iff (tasks : StoredRows TaskRow.id) (statusFilter : Option String)
    (hsize : 1 ≤ size ∧ size ≤ 100) :
    (∀ answers, TasksComplete tasks statusFilter size hsize answers) ↔
      ∀ k, Unsplit TaskRow.createdKey (tasks.rows.filter fun r => r.Asked statusFilter)
        (k * size) := by
  have hlisting : (∀ answers, TasksComplete tasks statusFilter size hsize answers) ↔
      ∀ answers : Nat → DescOrder TaskRow.createdKey (selectTasks tasks statusFilter),
        ListingComplete taskHistoryItem (tasks.rows.filter fun r => r.Asked statusFilter) size
          hsize answers := Iff.rfl
  have hselect := selectTasks_eq tasks statusFilter
  rw [hlisting, pagesComplete_iff (hselect ▸ tasks.nodup.filter _) hsize, hselect]
  exact ⟨fun h => h.2, fun h => ⟨List.Perm.refl _, h⟩⟩

/-- The pages of the webhook logs, with the rows `LIKE` finds. -/
theorem logsComplete_iff (collation : Collation) (logs : StoredRows WebhookLogRow.id)
    (taskCode : Option String) (hsize : 1 ≤ size ∧ size ≤ 100) :
    (∀ answers, LogsComplete collation logs taskCode size hsize answers) ↔
      SearchedAsText collation taskCode logs ∧
        ∀ k, Unsplit WebhookLogRow.createdKey (logs.rows.filter fun r => r.Asked taskCode)
          (k * size) := by
  have hlisting : (∀ answers, LogsComplete collation logs taskCode size hsize answers) ↔
      ∀ answers : Nat → DescOrder WebhookLogRow.createdKey (selectLogs collation logs taskCode),
        ListingComplete webhookLogItem (logs.rows.filter fun r => r.Asked taskCode) size hsize
          answers := Iff.rfl
  have hnodup : (selectLogs collation logs taskCode).Nodup := by
    unfold selectLogs
    split
    · exact logs.nodup.filter _
    · exact logs.nodup
  rw [hlisting, pagesComplete_iff hnodup hsize, ← selectLogs_perm_iff]
  exact and_congr_right fun hperm => forall_congr' fun k => Descending.unsplit_congr hperm

/-- A text of characters that stand for themselves is searched for as it is. -/
theorem searchedAsText_of_literal {collation : Collation} {taskCode : Option String}
    (h : ∀ code ∈ taskCode, ∀ c ∈ code.toList, collation.Literal c)
    (logs : StoredRows WebhookLogRow.id) : SearchedAsText collation taskCode logs :=
  fun code hcode r _ => Collation.likeContains_eq_hasSub (h code hcode) r.log.robotTaskCode

/-- **The pages of the two listings** have the rows that are asked for, each once, exactly when no
page ends within rows of one time, and, for the webhook logs, the text is searched for as it is. -/
theorem listings_complete_iff (collation : Collation) (tasks : StoredRows TaskRow.id)
    (logs : StoredRows WebhookLogRow.id) (statusFilter taskCode : Option String) (size : Nat)
    (hsize : 1 ≤ size ∧ size ≤ 100) :
    ((∀ answers, TasksComplete tasks statusFilter size hsize answers) ↔
      ∀ k, Unsplit TaskRow.createdKey (tasks.rows.filter fun r => r.Asked statusFilter)
        (k * size)) ∧
    ((∀ answers, LogsComplete collation logs taskCode size hsize answers) ↔
      SearchedAsText collation taskCode logs ∧
        ∀ k, Unsplit WebhookLogRow.createdKey (logs.rows.filter fun r => r.Asked taskCode)
          (k * size)) :=
  ⟨tasksComplete_iff tasks statusFilter hsize, logsComplete_iff collation logs taskCode hsize⟩

/-- Two tasks that were created at one time. -/
def tasksOfOneTime : StoredRows TaskRow.id where
  rows :=
    [⟨1, ⟨2026, 1, 31, 12, 0, 0, 0⟩, ⟨2026, 1, 31, 12, 5, 0, 0⟩,
      { robotTaskCode := "T-1", status := .pending }⟩,
    ⟨2, ⟨2026, 1, 31, 12, 0, 0, 0⟩, ⟨2026, 1, 31, 12, 6, 0, 0⟩,
      { robotTaskCode := "T-2", status := .completed }⟩]
  unique := by decide

/-- A log of one task. -/
def logOfOneTask : StoredRows WebhookLogRow.id where
  rows := [⟨1, ⟨2026, 1, 31, 12, 0, 0, 0⟩, ⟨"TA1", "end", none, none, none, true, false⟩⟩]
  unique := by decide

/-- Both tasks are on the first page, and the log is found by a text without special characters. -/
theorem listings_complete_sample :
    (∀ answers, TasksComplete tasksOfOneTime none 2 ⟨by decide, by decide⟩ answers) ∧
      ∀ answers, LogsComplete .exact logOfOneTask (some "TA") 2 ⟨by decide, by decide⟩ answers := by
  have hsize : 1 ≤ 2 ∧ 2 ≤ 100 := ⟨by decide, by decide⟩
  obtain ⟨htasks, hlogs⟩ :=
    listings_complete_iff .exact tasksOfOneTime logOfOneTask none (some "TA") 2 hsize
  refine ⟨htasks.mpr ?_, hlogs.mpr ⟨?_, ?_⟩⟩
  · exact fun k => Descending.unsplit_of_length_le (by decide) k
  · refine searchedAsText_of_literal ?_ logOfOneTask
    intro code hcode
    obtain rfl := Option.mem_some_iff.mp hcode
    exact Collation.exact_literal (by simp)
  · exact fun k => Descending.unsplit_of_length_le (by decide) k

/-- **A row that is on no page**, and one that does not have the text: the two pages of one task
each are answered in different orders, and `T_1` is searched for as a pattern. -/
theorem listings_not_complete :
    (∃ answers, ¬ TasksComplete tasksOfOneTime none 1 ⟨by decide, by decide⟩ answers) ∧
      ∃ answers, ¬ LogsComplete .exact logOfOneTask (some "T_1") 1 ⟨by decide, by decide⟩ answers :=
    by
  constructor
  · refine ⟨fun k => if k = 0 then ⟨tasksOfOneTime.rows, List.Perm.refl _, by decide⟩ else
      ⟨tasksOfOneTime.rows.reverse, List.reverse_perm _, by decide⟩, ?_⟩
    intro h
    exact absurd h.rows (by decide)
  · refine ⟨fun _ => ⟨logOfOneTask.rows, List.Perm.of_eq (by decide), by decide⟩, ?_⟩
    intro h
    exact absurd h.rows (by decide)

end Rcs

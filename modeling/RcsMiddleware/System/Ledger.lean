import RcsMiddleware.System.Progress

/-!
# System — Ledger

Who has added which row to the audit log.  The rows do not say so: an observer notes which job has
committed which row, and which jobs have had an operation fail.

* `exec_logs`: what one operation adds to the log.
* `auditing`: what a job may add, as a typestate whose states are notes of what it has done so far.
* `auditing_governs`: the stores and the observer show these notes.
-/

namespace Rcs

open Support Support.Text

/-! ### The rows an operation adds -/

/-- The row of the audit log a change inserts. -/
def Write.logRow? : Write → Option WebhookLog
  | .insertLog row => some row
  | _ => none

/-- The rows of the audit log an operation commits itself. -/
def Op.logRows : Op → List WebhookLog
  | .commit pending => pending.filterMap Write.logRow?
  | _ => []

theorem Write.run_logs {db db' : Tables} {write : Write} (h : write.run db = .ok db') :
    db'.logs = db.logs ++ write.logRow?.toList := by
  cases write with
  | insertTask row =>
      simp only [Write.run] at h
      cases ht : db.tasks.insert? row with
      | error column =>
          rw [ht] at h
          cases h
      | ok tasks =>
          rw [ht] at h
          cases h
          exact (List.append_nil _).symm
  | updateTask _ _ =>
      cases h
      exact (List.append_nil _).symm
  | insertLog row =>
      cases h
      rfl
  | insertConfig _ _ | updateConfig _ _ _ =>
      simp only [Write.run] at h
      split at h <;> cases h <;> exact (List.append_nil _).symm

theorem foldlM_logs {writes : List Write} {db db' : Tables}
    (h : writes.foldlM Write.run db = .ok db') :
    db'.logs = db.logs ++ writes.filterMap Write.logRow? := by
  induction writes generalizing db with
  | nil =>
      cases h
      exact (List.append_nil _).symm
  | cons write rest ih =>
      rw [List.foldlM_cons] at h
      cases hw : write.run db with
      | error column =>
          rw [hw] at h
          cases h
      | ok db₁ =>
          rw [hw] at h
          rw [ih h, Write.run_logs hw, List.append_assoc]
          cases hrow : write.logRow? with
          | none => rw [List.filterMap_cons_none hrow]; rfl
          | some row => rw [List.filterMap_cons_some hrow]; rfl

variable {ι : Type}

section Steps

variable [DecidableEq ι] {i : ι} {o : Op} {w w' : World ι} {r : Except PyExc (Ret o)}

/-- An operation adds the rows it commits, or none; and if it goes through, it adds them. -/
theorem exec_logs (h : Exec i o w r w') (hs : (w.sessions i).filterMap Write.logRow? = []) :
    ∃ added, w'.db.logs = w.db.logs ++ added ∧ (added = [] ∨ added = o.logRows) ∧
      (r.isOk = true → added = o.logRows) := by
  by_cases ho : ∀ pending, o ≠ .commit pending
  · have hrows : o.logRows = [] := by
      cases o with
      | commit pending => exact absurd rfl (ho pending)
      | _ => rfl
    refine ⟨[], ?_, .inl rfl, fun _ => hrows.symm⟩
    rw [h.db ho, List.append_nil]
  obtain ⟨pending, rfl⟩ : ∃ pending, o = .commit pending := by simpa using ho
  have hnone : ∀ {v : World ι}, v.db = w.db → v.db.logs = w.db.logs ++ [] := fun hv => by
    rw [hv, List.append_nil]
  have hcommit : respond i {} (.commit pending) w = w.commit i pending := rfl
  -- Only a commit writes rows: all of the session and its own, or none.
  cases hdb : (w.sessions i ++ pending).foldlM Write.run w.db with
  | error column =>
      rw [World.commit, hdb] at hcommit
      rcases exec_store h id with hok | ⟨e, rfl, rfl | rfl⟩
      · rw [hcommit] at hok
        obtain ⟨rfl, rfl⟩ := Prod.mk.inj hok
        exact ⟨[], hnone rfl, .inl rfl, fun hok => (by cases hok)⟩
      · exact ⟨[], hnone rfl, .inl rfl, fun hok => (by cases hok)⟩
      · rw [hcommit]
        exact ⟨[], hnone rfl, .inl rfl, fun hok => (by cases hok)⟩
  | ok db =>
      have hlogs : db.logs = w.db.logs ++ Op.logRows (.commit pending) := by
        rw [foldlM_logs hdb, List.filterMap_append, hs]
        rfl
      rw [World.commit, hdb] at hcommit
      rcases exec_store h id with hok | ⟨e, rfl, rfl | rfl⟩
      · rw [hcommit] at hok
        obtain ⟨rfl, rfl⟩ := Prod.mk.inj hok
        exact ⟨_, hlogs, .inr rfl, fun _ => rfl⟩
      · exact ⟨[], hnone rfl, .inl rfl, fun hok => (by cases hok)⟩
      · rw [hcommit]
        exact ⟨_, hlogs, .inr rfl, fun hok => (by cases hok)⟩

/-- Rows of the audit log are added by a commit of their own. -/
theorem exec_session_logs (h : Exec i o w r w') (hs : (w.sessions i).filterMap Write.logRow? = []) :
    (w'.sessions i).filterMap Write.logRow? = [] := by
  refine List.eq_nil_iff_forall_not_mem.mpr fun row hrow => ?_
  obtain ⟨write, hwrite, hlog⟩ := List.mem_filterMap.mp hrow
  have hold : write ∉ w.sessions i := fun hm => by
    have hmem : row ∈ (w.sessions i).filterMap Write.logRow? := List.mem_filterMap.mpr ⟨_, hm, hlog⟩
    rw [hs] at hmem
    cases hmem
  cases o with
  | insertTask row' | updateTask code u =>
      rcases exec_sessions h hwrite with hm | ⟨-, hm⟩
      · exact hold hm
      · rw [List.mem_singleton.mp hm] at hlog
        cases hlog
  | commit pending =>
      rcases h.sessions_of_commit with hempty | ⟨hsame, -⟩
      · rw [hempty] at hwrite
        cases hwrite
      · exact hold (hsame ▸ hwrite)
  | _ =>
      rcases exec_sessions h hwrite with hm | ⟨-, hm⟩
      · exact hold hm
      · cases hm

theorem exec_queue_mem (h : Exec i o w r w') {x : ι × TaskFeedbackPayload} (hx : x ∈ w.queue) :
    x ∈ w'.queue := by
  rcases exec_queue h with heq | ⟨payload, -, heq⟩
  · exact heq ▸ hx
  · rw [heq]
    exact List.mem_append_left _ hx

end Steps

/-! ### The observer -/

/-- The rows committed so far, with the jobs that committed them, and the jobs that have had an
operation fail. -/
structure Ledger (ι : Type) where
  rows : List (ι × WebhookLog) := []
  failed : List ι := []

/-- Who adds which row, and whose operations fail. -/
def auditor : Observer ι Op Ret PyExc (World ι) (Ledger ι) where
  step ledger i _ w r w' :=
    { rows := ledger.rows ++ (w'.db.logs.drop w.db.logs.length).map (i, ·)
      failed := if r.isOk then ledger.failed else i :: ledger.failed }
  env ledger _ _ := ledger

/-- What a job has done so far: whether it has tried to log, the row it has logged, the payload it
has enqueued, and whether one of its operations has failed. -/
structure AuditNote (ι : Type) where
  pid : ι
  tried : Bool := false
  logged : Option WebhookLog := none
  sent : Option TaskFeedbackPayload := none
  failed : Bool := false

/-- The note after an answer. -/
def AuditNote.after (n : AuditNote ι) : (o : Op) → Except PyExc (Ret o) → AuditNote ι
  | .commit [.insertLog row], .ok _ => { n with tried := true, logged := some row }
  | .commit [.insertLog _], .error _ => { n with tried := true, failed := true }
  | .delay payload, .ok _ => { n with sent := some payload }
  | _, .ok _ => n
  | _, .error _ => { n with failed := true }

section Jobs

variable (site : Deployment) (jobs : ι → Job)

/-- The delivery of job `i` is logged as this row, which says whether its signature was valid. -/
def LoggedBy (i : ι) (row : WebhookLog) : Prop :=
  ∃ requestId rawBody signature payload duplicate,
    jobs i = .deliver requestId rawBody signature ∧ site.webhook.payloadOf rawBody = .ok payload ∧
    row = webhookLogOf payload
      (site.webhook.service.verifyWebhookSignature rawBody signature).isOk duplicate

/-- A job logs at most once, and its own delivery. -/
def auditing : Typestate Op Ret PyExc (AuditNote ι) where
  allows n o := o.logRows = [] ∨
    n.tried = false ∧ ∃ row, o = .commit [.insertLog row] ∧ LoggedBy site jobs n.pid row
  next n o r n' := n' = n.after o r

/-- What the stores and the observer show of a note. -/
structure Shown [DecidableEq ι] (s : World ι × Ledger ι) (i : ι) (n : AuditNote ι) : Prop where
  pid : n.pid = i
  session : (s.1.sessions i).filterMap Write.logRow? = []
  rows : ∀ row, (i, row) ∈ s.2.rows → n.tried = true ∧ LoggedBy site jobs i row
  once : (s.2.rows.map Prod.fst).count i ≤ 1
  logged : ∀ row ∈ n.logged, (i, row) ∈ s.2.rows
  sent : ∀ payload ∈ n.sent, (i, payload) ∈ s.1.queue
  failed : n.failed = true → i ∈ s.2.failed

end Jobs

section Governs

variable {n : AuditNote ι} {o : Op} {r : Except PyExc (Ret o)}

@[simp] theorem AuditNote.after_pid : (n.after o r).pid = n.pid := by
  unfold AuditNote.after
  split <;> rfl

/-- An operation that logs nothing. -/
theorem AuditNote.after_quiet (h : o.logRows = []) :
    (n.after o r).tried = n.tried ∧ (n.after o r).logged = n.logged := by
  unfold AuditNote.after
  split
  · cases h
  · cases h
  · exact ⟨rfl, rfl⟩
  · exact ⟨rfl, rfl⟩
  · exact ⟨rfl, rfl⟩

theorem AuditNote.after_failed (h : (n.after o r).failed = true) :
    n.failed = true ∨ r.isOk = false := by
  unfold AuditNote.after at h
  split at h
  · exact .inl h
  · exact .inr rfl
  · exact .inl h
  · exact .inl h
  · exact .inr rfl

theorem AuditNote.after_sent {payload : TaskFeedbackPayload} (h : payload ∈ (n.after o r).sent) :
    payload ∈ n.sent ∨ o = .delay payload ∧ r.isOk = true := by
  unfold AuditNote.after at h
  split at h
  · exact .inl h
  · exact .inl h
  · cases h
    exact .inr ⟨rfl, rfl⟩
  · exact .inl h
  · exact .inl h

end Governs

section Watched

variable [DecidableEq ι] {site : Deployment} {jobs : ι → Job} {expires : String → Prop}
  {i j : ι} {o : Op} {r : Except PyExc (Ret o)} {w w' : World ι} {γ γ' : Ledger ι} {n : AuditNote ι}
  {added : List WebhookLog}

omit [DecidableEq ι] in
/-- The observer notes the added rows as those of the job that made the step. -/
theorem auditor_rows (γ : Ledger ι) (hlogs : w'.db.logs = w.db.logs ++ added) :
    (auditor.step γ i o w r w').rows = γ.rows ++ added.map (i, ·) := by
  simp only [auditor, hlogs, List.drop_left]

theorem count_added (hrows : γ'.rows = γ.rows ++ added.map (i, ·)) :
    (γ'.rows.map Prod.fst).count j =
      (γ.rows.map Prod.fst).count j + if j = i then added.length else 0 := by
  have hfst : (added.map (i, ·)).map Prod.fst = List.replicate added.length i := by
    rw [List.map_map]
    exact List.map_const' ..
  rw [hrows, List.map_append, List.count_append, hfst, List.count_replicate]
  by_cases hj : j = i
  · simp [hj]
  · simp [hj, Ne.symm hj]

omit [DecidableEq ι] in
theorem mem_added (hrows : γ'.rows = γ.rows ++ added.map (i, ·)) {row : WebhookLog} :
    (j, row) ∈ γ'.rows ↔ (j, row) ∈ γ.rows ∨ j = i ∧ row ∈ added := by
  rw [hrows, List.mem_append]
  refine or_congr_right ⟨fun h => ?_, ?_⟩
  · obtain ⟨row', hrow', heq⟩ := List.mem_map.mp h
    cases heq
    exact ⟨rfl, hrow'⟩
  · rintro ⟨rfl, hrow⟩
    exact List.mem_map_of_mem hrow

omit [DecidableEq ι] in
theorem auditor_failed (h : j ∈ γ.failed ∨ j = i ∧ r.isOk = false) :
    j ∈ (auditor.step γ i o w r w').failed := by
  rcases h with h | ⟨rfl, hr⟩
  · simp only [auditor]
    split
    · exact h
    · exact List.mem_cons_of_mem _ h
  · simp [auditor, hr]

/-- A step of another job shows the same of this one. -/
theorem Shown.other (hn : Shown site jobs (w, γ) j n) (hx : Exec i o w r w') (hj : j ≠ i)
    (hlogs : w'.db.logs = w.db.logs ++ added) :
    Shown site jobs (w', auditor.step γ i o w r w') j n := by
  have hrows := auditor_rows γ (i := i) (r := r) hlogs
  have hmem : ∀ row, (j, row) ∈ (auditor.step γ i o w r w').rows ↔ (j, row) ∈ γ.rows := fun row => by
    simp [mem_added hrows, hj]
  refine ⟨hn.pid, ?_, fun row h => hn.rows row ((hmem row).mp h), ?_,
    fun row h => (hmem row).mpr (hn.logged row h), fun p h => exec_queue_mem hx (hn.sent p h),
    fun h => auditor_failed (.inl (hn.failed h))⟩
  · show (w'.sessions j).filterMap Write.logRow? = []
    rw [hx.sessions_other hj]
    exact hn.session
  · show ((auditor.step γ i o w r w').rows.map Prod.fst).count j ≤ 1
    rw [count_added hrows, if_neg hj]
    exact hn.once

/-- What a step of the job shows of what it has enqueued. -/
theorem Shown.sent_after (hn : Shown site jobs (w, γ) i n) (hx : Exec i o w r w')
    {payload : TaskFeedbackPayload} (h : payload ∈ (n.after o r).sent) : (i, payload) ∈ w'.queue := by
  rcases AuditNote.after_sent h with hold | ⟨rfl, hok⟩
  · exact exec_queue_mem hx (hn.sent payload hold)
  · rcases exec_delay hx with ⟨-, e, rfl⟩ | rfl
    · cases hok
    · exact List.mem_append_right _ (List.mem_singleton_self _)

theorem Shown.failed_after (hn : Shown site jobs (w, γ) i n) (h : (n.after o r).failed = true) :
    i ∈ (auditor.step γ i o w r w').failed := by
  rcases AuditNote.after_failed h with hold | hnot
  · exact auditor_failed (.inl (hn.failed hold))
  · exact auditor_failed (.inr ⟨rfl, hnot⟩)

/-- A step of the job that logs nothing. -/
theorem Shown.quiet (hn : Shown site jobs (w, γ) i n) (hx : Exec i o w r w') (ho : o.logRows = [])
    (hlogs : w'.db.logs = w.db.logs ++ []) :
    Shown site jobs (w', auditor.step γ i o w r w') i (n.after o r) := by
  have hrows := auditor_rows γ (i := i) (r := r) hlogs
  obtain ⟨htried, hlogged⟩ := AuditNote.after_quiet (n := n) (r := r) ho
  refine ⟨?_, exec_session_logs hx hn.session, fun row hrow => ?_, ?_, fun row hrow => ?_,
    fun p h => hn.sent_after hx h, hn.failed_after⟩
  · simp [hn.pid]
  · rw [htried]
    exact hn.rows row (by simpa [mem_added hrows] using hrow)
  · show ((auditor.step γ i o w r w').rows.map Prod.fst).count i ≤ 1
    rw [count_added hrows, if_pos rfl]
    exact hn.once
  · rw [hlogged] at hrow
    exact (mem_added hrows).mpr (.inl (hn.logged row hrow))

/-- The step in which the job logs its delivery. -/
theorem Shown.logs {row : WebhookLog} {r : Except PyExc Unit} (hn : Shown site jobs (w, γ) i n)
    (hx : Exec i (.commit [.insertLog row]) w r w') (hfresh : n.tried = false)
    (hrow : LoggedBy site jobs i row) (hlogs : w'.db.logs = w.db.logs ++ added)
    (hadded : added = [] ∨ added = [row]) (hok : r.isOk = true → added = [row]) :
    Shown site jobs (w', auditor.step γ i (.commit [.insertLog row]) w r w') i
      (n.after (.commit [.insertLog row]) r) := by
  have hrows := auditor_rows γ (i := i) (o := .commit [.insertLog row]) (r := r) hlogs
  -- Before its only try, the process has logged nothing.
  have hnothing : ∀ row, (i, row) ∉ γ.rows := fun row hm => by
    have htried := (hn.rows row hm).1
    rw [hfresh] at htried
    cases htried
  have hzero : (γ.rows.map Prod.fst).count i = 0 := by
    refine List.count_eq_zero.mpr fun hm => ?_
    obtain ⟨⟨_, row⟩, hmem, rfl⟩ := List.mem_map.mp hm
    exact hnothing row hmem
  have htried : (n.after (.commit [.insertLog row]) r).tried = true := by
    cases r <;> rfl
  refine ⟨?_, exec_session_logs hx hn.session, fun row' hrow' => ⟨htried, ?_⟩, ?_, fun row' hrow' => ?_,
    fun p h => hn.sent_after hx h, hn.failed_after⟩
  · simp [hn.pid]
  · rcases (mem_added hrows).mp hrow' with h | ⟨-, h⟩
    · exact absurd h (hnothing row')
    · rcases hadded with rfl | rfl
      · cases h
      · rw [List.mem_singleton.mp h]
        exact hrow
  · show ((auditor.step γ i (.commit [.insertLog row]) w r w').rows.map Prod.fst).count i ≤ 1
    rw [count_added hrows, hzero, if_pos rfl]
    rcases hadded with rfl | rfl <;> simp
  · cases r with
    | error e => exact absurd (hn.logged row' hrow') (hnothing row')
    | ok u =>
        cases hrow'
        refine (mem_added hrows).mpr (.inr ⟨rfl, ?_⟩)
        rw [hok rfl]
        exact List.mem_singleton_self _

/-- The stores and the observer show the notes of the jobs. -/
theorem auditing_governs :
    (auditing site jobs).Governs ((brokered jobs expires).watch auditor) (Shown site jobs) where
  step := by
    rintro i o ⟨w, γ⟩ r ⟨w', γ'⟩ n ⟨⟨hx, -⟩, hγ⟩ hn hallows
    dsimp only at hx hγ
    subst hγ
    obtain ⟨added, hlogs, hadded, hok⟩ := exec_logs hx hn.session
    refine ⟨⟨n.after o r, ?_, rfl⟩, fun j m hj hm => hm.other hx hj hlogs⟩
    rcases hallows with hquiet | ⟨hfresh, row, rfl, hrow⟩
    · have hnone : added = [] := hadded.elim id fun h => h.trans hquiet
      subst hnone
      exact hn.quiet hx hquiet hlogs
    · exact hn.logs hx hfresh (hn.pid ▸ hrow) hlogs hadded hok
  env := by
    rintro ⟨w, γ⟩ ⟨w', γ'⟩ j n ⟨⟨key, -, hw⟩, hγ⟩ hn
    dsimp only at hw hγ
    subst hw hγ
    exact ⟨hn.pid, hn.session, hn.rows, hn.once, hn.logged, hn.sent, hn.failed⟩

end Watched

end Rcs

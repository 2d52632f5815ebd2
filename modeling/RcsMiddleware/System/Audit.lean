import RcsMiddleware.Submit.Sequential
import RcsMiddleware.Support.Paths
import RcsMiddleware.System.Ledger

/-!
# System — Audit

The audit log as a record of the deliveries.

* `AuditNote.Complete`: what an undisturbed delivery has logged, and enqueued, at its end.
* `createTask_within`, `submitRaw_within`: what a submit performs, in terms of what it asks RCS for.
* `serve_audited`: every job logs what it may, and leaves its note complete.
* `audit_log_accounts`: **the log of a run** is the log of its beginning and one row at most of each
  delivery, and exactly one of each delivery that nothing has disturbed.
-/

namespace Rcs

open Support Support.Text

variable {ι : Type}

/-! ### The jobs -/

section Programs

variable (site : Deployment) (jobs : ι → Job)

/-- The signature is valid, or is refused as a signature. -/
def Deployment.Judges (rawBody : ByteArray) (signature : Option String) : Prop :=
  ∀ e, site.webhook.service.verifyWebhookSignature rawBody signature = .error e →
    e.isWebhookSignatureError = true

/-- If nothing of the job has failed, its delivery is logged; and it is enqueued, unless it is logged
as a duplicate or as not validly signed. -/
def AuditNote.Complete (n : AuditNote ι) : Prop :=
  n.failed = false → ∀ requestId rawBody signature payload,
    jobs n.pid = .deliver requestId rawBody signature → site.webhook.payloadOf rawBody = .ok payload →
    site.Judges rawBody signature →
    ∃ duplicate, n.logged = some (webhookLogOf payload
        (site.webhook.service.verifyWebhookSignature rawBody signature).isOk duplicate) ∧
      (site.webhook.service.verifyWebhookSignature rawBody signature = .ok () →
        duplicate = false → n.sent = some payload)

/-- The program does with the log what the job may, and leaves the note complete. -/
abbrev Audited {α : Type} (n : AuditNote ι) (p : M α) : Prop :=
  Adheres (auditing site jobs) (AuditNote.Complete site jobs) (AuditNote.Complete site jobs) n p

/-- An operation that logs nothing. -/
def Op.Unlogged (o : Op) : Prop := o.logRows = []

variable {site jobs} {i : ι} {n : AuditNote ι} {α : Type}

/-- Nothing is asked of a job that is no delivery. -/
theorem AuditNote.complete_of_other (h : ∀ requestId rawBody signature,
    jobs n.pid ≠ .deliver requestId rawBody signature) : n.Complete site jobs :=
  fun _ _ _ _ _ hjob => absurd hjob (h _ _ _)

theorem AuditNote.complete_of_failed (h : n.failed = true) : n.Complete site jobs := fun hnot => by
  rw [h] at hnot
  cases hnot

/-- An operation that neither logs nor enqueues leaves a complete note complete. -/
theorem AuditNote.Complete.after {o : Op} (h : n.Complete site jobs) (ho : o.logRows = [])
    (hdelay : ∀ payload, o ≠ .delay payload) (r : Except PyExc (Ret o)) :
    (n.after o r).Complete site jobs := by
  cases r with
  | error e =>
      refine complete_of_failed ?_
      unfold AuditNote.after
      split
      · next heq => cases heq
      · rfl
      · next heq => cases heq
      · next heq => cases heq
      · rfl
  | ok v =>
      have hsame : n.after o (.ok v) = n := by
        unfold AuditNote.after
        split
        · cases ho
        · next heq => cases heq
        · exact absurd rfl (hdelay _)
        · rfl
        · next heq => cases heq
      rw [hsame]
      exact h

/-- A program of a job that is no delivery. -/
theorem audited_of_unlogged {p : M α} (hp : Prog.Only Op.Unlogged p)
    (h : ∀ requestId rawBody signature, jobs n.pid ≠ .deliver requestId rawBody signature) :
    Audited site jobs n p := by
  have hallows : ∀ (m : AuditNote ι) o, m.pid = n.pid → Op.Unlogged o →
      (auditing site jobs).allows m o := fun _ _ _ ho => .inl ho
  have hother : ∀ m : AuditNote ι, m.pid = n.pid → m.Complete site jobs := fun m hm =>
    AuditNote.complete_of_other fun _ _ _ => hm ▸ h _ _ _
  refine (Adheres.of_only hp hallows (fun m o r m' hm _ hnext => ?_) rfl).mono hother hother
  rw [show m' = m.after o r from hnext, AuditNote.after_pid, hm]

/-- An operation that neither logs nor enqueues, at the end of a job. -/
theorem perform_audited {o : Op} (ho : o.logRows = []) (hdelay : ∀ payload, o ≠ .delay payload)
    (hn : n.Complete site jobs) : Audited site jobs n (perform o) :=
  .perform (.inl ho) (fun v _ h => h ▸ hn.after ho hdelay (.ok v))
    fun e _ h => h ▸ hn.after ho hdelay (.error e)

/-- The session of a request: a rollback and the close change no note but by failing. -/
theorem getDbSession_audited {p : M α} (hp : Audited site jobs n p) :
    Audited site jobs n (getDbSession p) := by
  refine .tryFinally (E := AuditNote.Complete site jobs) (.tryCatch hp fun e m hm => ?_) (fun m hm => ?_)
    fun _ h => h
  · exact .bind (perform_audited (o := .rollback) rfl (fun _ => nofun) hm) fun _ _ hm' => .raise hm'
  · exact perform_audited (o := .close) rfl (fun _ => nofun) (hm.elim id id)

section Deliver

variable {requestId : String} {rawBody : ByteArray} {signature : Option String}
  {payload : TaskFeedbackPayload}

/-- What `_log_event` leaves of a note that has logged nothing. -/
theorem logEvent_audited (hjob : jobs i = .deliver requestId rawBody signature)
    (hpayload : site.webhook.payloadOf rawBody = .ok payload) {sigValid : Bool}
    (hsig : (site.webhook.service.verifyWebhookSignature rawBody signature).isOk = sigValid)
    (duplicate : Bool) :
    Adheres (auditing site jobs)
      (fun m => m.failed = false →
        m = ⟨i, true, some (webhookLogOf payload sigValid duplicate), none, false⟩)
      (fun m => m.failed = true) { pid := i }
      (site.webhook.service.logEvent payload sigValid duplicate) := by
  subst hsig
  have hrow : LoggedBy site jobs i (webhookLogOf payload
      (site.webhook.service.verifyWebhookSignature rawBody signature).isOk duplicate) :=
    ⟨requestId, rawBody, signature, payload, duplicate, hjob, hpayload, rfl⟩
  rw [WebhookService.logEvent]
  refine .tryCatch (E := fun m => m.failed = true) (.perform (.inr ⟨rfl, _, rfl, hrow⟩)
    (fun _ m h _ => h) fun e m h => ?_) fun e m hm => ?_
  · rw [show m = _ from h]
    rfl
  · refine .perform (.inl rfl) (fun _ m' h hnot => ?_) fun e m' h => ?_
    · rw [show m' = m from h, hm] at hnot
      cases hnot
    · rw [show m' = _ from h]
      rfl

/-- A note that says of the delivery what it must, if nothing has failed. -/
theorem AuditNote.complete_of_logged (hjob : jobs i = .deliver requestId rawBody signature)
    (hpayload : site.webhook.payloadOf rawBody = .ok payload) (duplicate : Bool)
    (h : n.failed = false → n.pid = i ∧ n.logged = some (webhookLogOf payload
      (site.webhook.service.verifyWebhookSignature rawBody signature).isOk duplicate) ∧
      (site.webhook.service.verifyWebhookSignature rawBody signature = .ok () →
        duplicate = false → n.sent = some payload)) : n.Complete site jobs := by
  intro hfailed requestId' rawBody' signature' payload' hjob' hpayload' _
  obtain ⟨hpid, hlogged, hsent⟩ := h hfailed
  rw [hpid, hjob] at hjob'
  cases hjob'
  rw [hpayload] at hpayload'
  cases hpayload'
  exact ⟨duplicate, hlogged, hsent⟩

theorem handleVerified_audited (hjob : jobs i = .deliver requestId rawBody signature)
    (hpayload : site.webhook.payloadOf rawBody = .ok payload)
    (hsig : site.webhook.service.verifyWebhookSignature rawBody signature = .ok ()) :
    Audited site jobs { pid := i } (site.webhook.service.handleVerified payload) := by
  have hok : (site.webhook.service.verifyWebhookSignature rawBody signature).isOk = true := by
    rw [hsig]
    rfl
  have hlog := fun duplicate => (logEvent_audited (i := i) hjob hpayload hok duplicate).mono
    (fun _ h => h) fun m (h : m.failed = true) =>
      (AuditNote.complete_of_failed h : m.Complete site jobs)
  have hclaim : Adheres (auditing site jobs) (fun m => m = { pid := i }) (AuditNote.Complete site jobs)
      { pid := i } (perform (.redisSetNx (webhookDedupeKey payload.robotTaskCode payload.method)
        (.text "1") webhookDedupeTtlSeconds)) := by
    refine .perform (.inl rfl) (fun _ m h => h) fun e m h => ?_
    rw [show m = _ from h]
    exact AuditNote.complete_of_failed rfl
  refine .bind hclaim fun first m hm => ?_
  subst hm
  -- The marker decides what is logged: an event, or a duplicate.
  cases first with
  | true =>
      refine .bind (hlog false) fun _ m hm => .bind (.perform (.inl rfl) (fun _ m' h => ?_)
        fun e m' h => ?_) fun _ _ h => .ret h
      · rw [show m' = _ from h]
        refine AuditNote.complete_of_logged hjob hpayload false fun hfailed => ?_
        rw [hm hfailed, hok]
        exact ⟨rfl, rfl, fun _ _ => rfl⟩
      · rw [show m' = _ from h]
        exact AuditNote.complete_of_failed rfl
  | false =>
      refine .bind (hlog true) fun _ m hm => .ret ?_
      refine AuditNote.complete_of_logged hjob hpayload true fun hfailed => ?_
      rw [hm hfailed, hok]
      exact ⟨rfl, rfl, nofun⟩

theorem taskFeedback_audited (hjob : jobs i = .deliver requestId rawBody signature) :
    Audited site jobs { pid := i } (site.webhook.taskFeedback requestId rawBody signature) := by
  rw [WebhookRouter.taskFeedback]
  cases hpayload : site.webhook.payloadOf rawBody with
  | error e =>
      -- A body that is no payload is not logged.
      refine .raise fun _ _ rawBody' _ _ hjob' hpayload' _ => ?_
      rw [hjob] at hjob'
      cases hjob'
      rw [hpayload] at hpayload'
      cases hpayload'
  | ok payload =>
      show Audited site jobs _ (Prog.bind (site.webhook.service.handleTaskFeedback _) _)
      refine .bind ?_ fun _ _ hm => .ret hm
      rw [WebhookService.handleTaskFeedback]
      split
      · next e he =>
        split
        · have hnot : (site.webhook.service.verifyWebhookSignature rawBody signature).isOk = false := by
            rw [show site.webhook.service.verifyWebhookSignature rawBody signature = .error e from he]
            rfl
          refine .bind ((logEvent_audited hjob hpayload hnot false).mono
            (fun _ h => h) fun _ h => AuditNote.complete_of_failed h) fun _ m hm => .raise ?_
          · refine AuditNote.complete_of_logged hjob hpayload false fun hfailed => ?_
            rw [hm hfailed, show site.webhook.service.verifyWebhookSignature rawBody signature =
              .error e from he]
            exact ⟨rfl, rfl, fun hvalid => (by cases hvalid)⟩
        · next hnot =>
          refine .raise fun _ _ rawBody' _ _ hjob' _ hjudges => ?_
          rw [hjob] at hjob'
          cases hjob'
          exact absurd (hjudges e he) hnot
      · next u he => exact handleVerified_audited hjob hpayload he

end Deliver

/-! ### The other jobs -/

/-- An operation that logs nothing, and does not go to RCS. -/
def Op.Inside : Op → Prop
  | .rcs _ | .sign _ _ _ | .http _ => False
  | o => o.logRows = []

theorem inside_of_plain (o : Op) (ho : o.Plain) : o.Inside := by
  cases o with
  | commit pending =>
      refine List.filterMap_eq_nil_iff.mpr fun write hm => ?_
      have hsettings := ho write hm
      cases write with
      | insertLog row => exact hsettings.elim
      | _ => rfl
  | redisSetNx _ _ _ | insertTask _ | updateTask _ _ | rcs _ | sign _ _ _ | http _ | delay _ =>
      exact ho.elim
  | _ => rfl

theorem Op.Inside.unlogged {o : Op} (h : o.Inside) : o.Unlogged := by
  cases o with
  | rcs _ | sign _ _ _ | http _ => exact h.elim
  | _ => exact h

theorem inside_perform {o : Op} (ho : o.Inside) : Prog.Only Op.Inside (perform o) := .perform ho

/-! ### The two submits -/

theorem persistTask_inside (row : TaskHistory) : Prog.Only Op.Inside (persistTask row) :=
  persistTask_only rfl rfl rfl

theorem recordTask_inside (request : TaskCreateRequest) (header : Option String) (v : Json) :
    Prog.Only Op.Inside (recordTask request header v) :=
  .bind (.ofExcept _) fun code => .bind (persistTask_inside _) fun _ =>
    finishTask_only inside_of_plain request header code

theorem recordRaw_inside (request : RcsRawSubmitRequest) (path : String) (header : Option String)
    (v : Json) : Prog.Only Op.Inside (recordRaw request path header v) :=
  recordRaw_only (fun _ => persistTask_inside _) fun _ _ =>
    finishRaw_only inside_of_plain request path header _

section Submits

variable {A : (o : Op) → Except PyExc (Ret o) → Prop} {P : Op → Prop} {w : Op → Nat} {k : Nat}
  (hinside : ∀ o : Op, o.Inside → P o ∧ w o = 0)

include hinside

/-- Beside the stores, `create_task` makes one call, for the robot type it has read. -/
theorem createTask_within (request : TaskCreateRequest) (header : Option String)
    (hcall : ∀ robotType, A (.selectRobotType request.robotType) (.ok (some robotType)) →
      P (.rcs (.submitTask (buildSubmitPayload request robotType.rcsTaskType))) ∧
        w (.rcs (.submitTask (buildSubmitPayload request robotType.rcsTaskType))) ≤ k) :
    Within A P w k (createTask request header) := by
  have huncached : Within A P w k (createUncached request header) := by
    have hselect : Within A P w 0 (perform (.selectRobotType request.robotType)) :=
      .of_only ((inside_perform (o := .selectRobotType request.robotType) rfl).mono hinside)
    refine .after hselect fun robotType hread => ?_
    -- The call is made for a robot type that was read.
    cases robotType with
    | none => exact .raise k _
    | some robotType =>
        obtain ⟨hcall, hcost⟩ := hcall robotType hread.of_perform
        refine .seq (.perform hcall hcost) fun v _ => .of_only ?_
        exact (recordTask_inside request header v).mono hinside
  rw [createTask]
  split
  · next key _ =>
    have hlookup := lookupIdempotency_only inside_of_plain key request
    refine .after (.of_only (hlookup.mono hinside)) fun found _ => ?_
    cases found with
    | some result => exact .ret k _
    | none => exact huncached
  · exact huncached

/-- Beside the stores, `submit_raw` makes one call, of a path that passes the check. -/
theorem submitRaw_within (request : RcsRawSubmitRequest) (header : Option String)
    (hcall : ∀ path, rawSubmitPath request.path = .ok path →
      P (.rcs (rawCall request path)) ∧ w (.rcs (rawCall request path)) ≤ k) :
    Within A P w k (submitRaw request header) := by
  refine .after (.ofExcept _) fun path hread => ?_
  -- The path is checked before anything is performed.
  have hsend : Within A P w k (sendRaw request path header) := by
    obtain ⟨hcall, hcost⟩ := hcall path hread.of_ofExcept
    refine .seq (.caught (.perform hcall hcost) fun e _ => .raise 0 _) fun v _ => .of_only ?_
    exact (recordRaw_inside request path header v).mono hinside
  split
  · next key _ =>
    have hlookup := lookupRaw_only inside_of_plain key request
    refine .after (.of_only (hlookup.mono hinside)) fun found _ => ?_
    cases found with
    | some result => exact .ret k _
    | none => exact hsend
  · exact hsend

end Submits

theorem createTask_unlogged (request : TaskCreateRequest) (header : Option String) :
    Prog.Only Op.Unlogged (createTask request header) := by
  have hwithin : Within (fun _ _ => True) Op.Unlogged (fun _ => 0) 0 (createTask request header) :=
    createTask_within (fun _ ho => ⟨ho.unlogged, rfl⟩) request header fun _ _ => ⟨rfl, le_rfl⟩
  exact hwithin.only

theorem submitRaw_unlogged (request : RcsRawSubmitRequest) (header : Option String) :
    Prog.Only Op.Unlogged (submitRaw request header) := by
  have hwithin : Within (fun _ _ => True) Op.Unlogged (fun _ => 0) 0 (submitRaw request header) :=
    submitRaw_within (fun _ ho => ⟨ho.unlogged, rfl⟩) request header fun _ _ => ⟨rfl, le_rfl⟩
  exact hwithin.only

/-! ### The jobs that are no delivery -/

theorem processTaskFeedback_inside (payload : TaskFeedbackPayload) :
    Prog.Only Op.Inside (processTaskFeedback payload) := by
  rw [processTaskFeedback]
  dsimp only
  split
  · exact .ret _
  · refine .bind (inside_perform rfl) fun now => .bind (withSession_only rfl
      (.bind (inside_perform rfl) fun existing => ?_)) fun _ => .bind ?_ fun _ => .ret _
    · cases existing with
      | none => exact .ret _
      | some existing =>
          rw [applyFeedback]
          split
          · exact .ret _
          · refine .bind (inside_perform rfl) fun _ => ?_
            exact .bind (inside_perform (o := .commit []) rfl) fun _ => .ret _
    · exact updateRobotState_only inside_of_plain payload _ now

theorem audited_of_inside {p : M α} (hp : Prog.Only Op.Inside p)
    (h : ∀ requestId rawBody signature, jobs n.pid ≠ .deliver requestId rawBody signature) :
    Audited site jobs n p :=
  audited_of_unlogged (hp.mono fun _ => Op.Inside.unlogged) h

/-- **Every job** logs what it may, and leaves its note complete. -/
theorem serve_audited (i : ι) : Audited site jobs { pid := i } ((jobs i).serve site) := by
  cases hjob : jobs i with
  | deliver requestId rawBody signature =>
      exact (getDbSession_audited (taskFeedback_audited hjob)).discard
  | create apiKey request header =>
      exact audited_of_unlogged (authorized_only (getDbSession_only rfl rfl
        (createTask_unlogged request header))) (by simp [hjob])
  | raw apiKey request header =>
      exact audited_of_unlogged (authorized_only (getDbSession_only rfl rfl
        (submitRaw_unlogged request header))) (by simp [hjob])
  | configure apiKey payload =>
      exact audited_of_inside (authorized_only (updateSystemConfig_only inside_of_plain _ payload))
        (by simp [hjob])
  | settings apiKey =>
      exact audited_of_inside (authorized_only (getDbSession_only rfl rfl
        (getConnectionSettings_only inside_of_plain _))) (by simp [hjob])
  | robots apiKey keys =>
      exact audited_of_inside (authorized_only (listRobotStates_only inside_of_plain _ keys))
        (by simp [hjob])
  | process payload =>
      exact audited_of_inside ((processTaskFeedback_inside payload).bind fun _ => .ret ()) (by simp [hjob])

end Programs

/-! ### Runs -/

section Runs

variable [DecidableEq ι] {site : Deployment} {jobs : ι → Job} {expires : String → Prop}
  {G : Guard ι Op Ret PyExc Unit (World ι)} {w : World ι} {c : Config ι Op Ret PyExc Unit (World ι)}

/-- No operation of the job has failed. -/
def Undisturbed (c : Config ι Op Ret PyExc Unit (World ι)) (i : ι) : Prop :=
  ∀ e ∈ c.trace, e.pid = i → e.answer.isOk = true

/-- The log is that of the beginning and what the observer has noted, and who is noted as failed has
failed. -/
structure Booked (old : World ι) (c : Config ι Op Ret PyExc Unit (World ι × Ledger ι)) : Prop where
  logs : c.shared.1.db.logs = old.db.logs ++ c.shared.2.rows.map Prod.snd
  failed : ∀ i ∈ c.shared.2.failed, ∃ e ∈ c.trace, e.pid = i ∧ e.answer.isOk = false

theorem run_booked {G : Guard ι Op Ret PyExc Unit (World ι × Ledger ι)}
    {c : Config ι Op Ret PyExc Unit (World ι × Ledger ι)} (hsessions : ∀ i, w.sessions i = [])
    (h : Run ((brokered jobs expires).watch auditor) G ((launch site jobs w).watch {}) c) :
    Booked w c ∧ ∀ i, ∃ n, Shown site jobs c.shared i n ∧
      Audited site jobs n (c.procs i) := by
  have hnotes : ∀ {c}, Run ((brokered jobs expires).watch auditor) G
      ((launch site jobs w).watch {}) c → ∀ i, ∃ n, Shown site jobs c.shared i n ∧
      Audited site jobs n (c.procs i) := fun h =>
    Run.adheres auditing_governs h fun i => ⟨{ pid := i }, ⟨rfl, by simp [Config.watch, launch,
      Config.start, hsessions], nofun, Nat.zero_le _, nofun, nofun, nofun⟩, serve_audited i⟩
  refine ⟨?_, hnotes h⟩
  induction h with
  | refl => exact ⟨(List.append_nil _).symm, nofun⟩
  | @tail d c hrun hm ih =>
      cases hm with
      | act e hs hG =>
          obtain @⟨i, o, k, r, ⟨w', γ'⟩, hp, ⟨hx, -⟩, hγ⟩ := hs
          dsimp only at hx hγ
          subst hγ
          obtain ⟨n, hn, -⟩ := hnotes hrun i
          -- The observer notes the rows the operation adds, whoever performs it.
          obtain ⟨added, hlogs, -, -⟩ := exec_logs hx hn.session
          refine ⟨?_, fun j hj => ?_⟩
          · have hrows := auditor_rows d.shared.2 (i := i) (r := r) hlogs
            show w'.db.logs = _
            rw [hlogs, ih.logs, hrows, List.map_append, List.append_assoc, List.map_map]
            simp [Function.comp_def]
          · have hfail : j ∈ d.shared.2.failed ∨ j = i ∧ r.isOk = false := by
              simp only [auditor] at hj
              cases hr : r.isOk with
              | true => exact .inl (by simpa [hr] using hj)
              | false => simpa [hr, or_comm] using hj
            rcases hfail with hold | ⟨rfl, hr⟩
            · obtain ⟨e, he, hpid, hanswer⟩ := ih.failed j hold
              exact ⟨e, List.mem_cons_of_mem _ he, hpid, hanswer⟩
            · exact ⟨_, List.mem_cons_self, rfl, hr⟩
      | env hs =>
          rename_i s'
          obtain ⟨w', γ'⟩ := s'
          obtain ⟨⟨key, -, hw⟩, hγ⟩ := hs
          dsimp only at hw hγ
          subst hw hγ
          exact ⟨ih.logs, ih.failed⟩

/-- **The audit log accounts for the deliveries.**  Any jobs run beside each other, whatever fails,
whatever expires and wherever they stop.  The log is what it was at the beginning, and rows that each
belong to a delivery, which says whether its signature was valid; no delivery has two.  And a delivery
that has ended, none of whose operations has failed, whose body is a payload and whose signature is
valid or refused as one, has a row; where that says that it was valid and no duplicate, the delivery
has enqueued its payload. -/
theorem audit_log_accounts (hsessions : ∀ i, w.sessions i = [])
    (h : Run (brokered jobs expires) G (launch site jobs w) c) :
    ∃ entries : List (ι × WebhookLog),
      c.shared.db.logs = w.db.logs ++ entries.map Prod.snd ∧ (entries.map Prod.fst).Nodup ∧
      (∀ i row, (i, row) ∈ entries → LoggedBy site jobs i row) ∧
      ∀ i requestId rawBody signature payload, jobs i = .deliver requestId rawBody signature →
        site.webhook.payloadOf rawBody = .ok payload → site.Judges rawBody signature →
        (c.procs i).Ended → Undisturbed c i →
        ∃ duplicate, (i, webhookLogOf payload
            (site.webhook.service.verifyWebhookSignature rawBody signature).isOk duplicate) ∈ entries ∧
          (site.webhook.service.verifyWebhookSignature rawBody signature = .ok () →
            duplicate = false → (i, payload) ∈ c.shared.queue) := by
  obtain ⟨γ, hγ⟩ := Run.watch (O := auditor) h {}
  obtain ⟨hbooked, hnotes⟩ := run_booked hsessions hγ
  refine ⟨γ.rows, hbooked.logs, ?_, fun i row hrow => ?_, ?_⟩
  · refine List.nodup_iff_count_le_one.mpr fun i => ?_
    obtain ⟨n, hn, -⟩ := hnotes i
    exact hn.once
  · obtain ⟨n, hn, -⟩ := hnotes i
    exact (hn.rows row hrow).2
  · intro i requestId rawBody signature payload hjob hpayload hjudges hended hquiet
    obtain ⟨n, hn, hp⟩ := hnotes i
    -- At its end the program has left its note complete.
    have hcomplete : n.Complete site jobs := by
      have hended' : ((c.watch γ).procs i).Ended := hended
      generalize (c.watch γ).procs i = p at hp hended'
      cases hp with
      | ret hl => exact hl
      | raise hl => exact hl
      | op _ _ => exact absurd rfl (hended' _ _)
    -- The note would say so, had an operation failed.
    have hok : n.failed = false := by
      by_contra hfailed
      obtain ⟨e, he, hpid, hanswer⟩ := hbooked.failed i (hn.failed (by simpa using hfailed))
      have hgood := hquiet e he hpid
      rw [hanswer] at hgood
      cases hgood
    obtain ⟨duplicate, hlogged, hsent⟩ := hcomplete hok requestId rawBody signature payload
      (hn.pid.symm ▸ hjob) hpayload hjudges
    refine ⟨duplicate, hn.logged _ hlogged, fun hvalid hdup => hn.sent payload (hsent hvalid hdup)⟩

/-- The event of `sampleDelivery`, with its signature and with a made-up one. -/
def genuineAndForged : Bool → Job
  | false => .deliver "r1" sampleDelivery.rawBody sampleDelivery.signature
  | true => .deliver "r2" sampleDelivery.rawBody (some "00")

/-- The program has no operation left. -/
def atEnd : M Unit → Bool
  | .op _ _ => false
  | _ => true

theorem ended_of_atEnd {p : M Unit} (h : atEnd p = true) : p.Ended := by
  rintro o k rfl
  cases h

theorem audit_log_accounts_forged :
    ∃ c, Run (brokered genuineAndForged fun _ => False) unguarded
        (launch sampleSite genuineAndForged {}) c ∧
      ∃ entries : List (Bool × WebhookLog), c.shared.db.logs = entries.map Prod.snd ∧
        (∃ duplicate, (false, webhookLogOf sampleDelivery.payload true duplicate) ∈ entries) ∧
        ∃ duplicate, (true, webhookLogOf sampleDelivery.payload false duplicate) ∈ entries := by
  obtain ⟨c, hc, hended, hok⟩ : ∃ c, Run (system fun _ => False) unguarded
      (launch sampleSite genuineAndForged {}) c ∧ (∀ i, atEnd (c.procs i) = true) ∧
      (c.trace.all fun e => e.answer.isOk) = true :=
    run_of_schedule [(false, {}), (false, {}), (false, {}), (false, {}), (true, {}), (true, {}),
      (true, {})] (by decide)
  have hrun := brokered_of_queued genuineAndForged (fun i _ hi => by cases i <;> cases hi) hc
  have hquiet : ∀ i, Undisturbed c i := fun i e he _ => List.all_eq_true.mp hok e he
  obtain ⟨entries, hlogs, -, -, hall⟩ := audit_log_accounts (fun _ => rfl) hrun
  obtain ⟨d, hgenuine, -⟩ := hall false "r1" _ _ sampleDelivery.payload rfl rfl
    (fun e he => by cases sampleDelivery_valid.symm.trans he) (ended_of_atEnd (hended _)) (hquiet _)
  obtain ⟨d', hforged, -⟩ := hall true "r2" _ (some "00") sampleDelivery.payload rfl rfl
    (fun e he => by cases he; rfl) (ended_of_atEnd (hended _)) (hquiet _)
  exact ⟨c, hrun, entries, hlogs, ⟨d, hgenuine⟩, d', hforged⟩

end Runs

end Rcs

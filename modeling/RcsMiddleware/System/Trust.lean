import RcsMiddleware.Feedback.RobotStates
import RcsMiddleware.Feedback.Sequences
import RcsMiddleware.Feedback.Terminal
import RcsMiddleware.Redis.Families
import RcsMiddleware.System.Provenance
import RcsMiddleware.Webhook.Endpoint

/-!
# System — Trust

What can change what, over every run of any jobs beside each other.  A row goes back to an initial
row or to an accepted request whose call RCS has answered, and what feedbacks have made of it goes
back to validly signed deliveries.  So those who know neither the API key nor the secret of the webhook
change the audit log only, and those who do change the task, and the robot, their feedback names.

* `rows_have_origins`: where a committed row comes from.
* `task_changes_only_by_its_feedbacks`: a task, and a robot, nobody has reported on.
* `untrusted_change_only_the_log`: requests without credentials.
-/

namespace Rcs

open Support Support.Text
open Relation (ReflTransGen)

variable {ι : Type}

/-! ### What feedbacks make of a row -/

/-- The two rows are of one task: they agree in the columns no feedback sets. -/
def TaskHistory.SameTask (a b : TaskHistory) : Prop :=
  a.robotTaskCode = b.robotTaskCode ∧ a.sourceCode = b.sourceCode ∧ a.targetCode = b.targetCode ∧
    a.idempotencyKey = b.idempotencyKey

theorem FeedStep.sameTask {known : Witnessed ι} {row row' : TaskHistory} (h : FeedStep known row row') :
    row.SameTask row' := by
  obtain ⟨u, -, rfl⟩ := h
  exact ⟨rfl, rfl, rfl, rfl⟩

theorem Fed.sameTask {known : Witnessed ι} {row row' : TaskHistory} (h : Fed known row row') :
    row.SameTask row' := by
  induction h with
  | refl => exact ⟨rfl, rfl, rfl, rfl⟩
  | tail _ hs ih =>
      obtain ⟨hcode, hsource, htarget, hkey⟩ := hs.sameTask
      exact ⟨ih.1.trans hcode, ih.2.1.trans hsource, ih.2.2.1.trans htarget, ih.2.2.2.trans hkey⟩

/-- A column that each feedback leaves or sets holds what it held, or what some feedback gives. -/
theorem Fed.column {known : Witnessed ι} {row row' : TaskHistory} {β : Type} (column : TaskHistory → β)
    (gives : TaskFeedbackPayload → β → Prop)
    (hstep : ∀ payload existing now row, let row' := (statusUpdate existing (strip payload.method)
        (targetStatus (strip payload.method)) payload.amrCode payload.errorMsg now).set row
      column row' = column row ∨ gives payload (column row'))
    (h : Fed known row row') : column row' = column row ∨ ∃ payload ∈ known.2,
      strip payload.robotTaskCode = row.robotTaskCode ∧ gives payload (column row') := by
  induction h with
  | refl => exact .inl rfl
  | tail hfed hs ih =>
      obtain ⟨u, ⟨payload, hpayload, existing, now, hcode, -, -, -, rfl⟩, rfl⟩ := hs
      rcases hstep payload existing now _ with heq | hgives
      · rw [heq]
        exact ih
      · exact .inr ⟨payload, hpayload, hcode.trans (Fed.sameTask hfed).1.symm, hgives⟩

/-- A row no feedback is about stays as it is. -/
theorem Fed.eq_of_silent {known : Witnessed ι} {row row' : TaskHistory} (h : Fed known row row')
    (hsilent : ∀ payload ∈ known.2, strip payload.robotTaskCode ≠ row.robotTaskCode) : row' = row := by
  rcases ReflTransGen.cases_head h with rfl | ⟨_, ⟨u, ⟨payload, hpayload, _, _, hcode, -⟩, -⟩, -⟩
  · rfl
  · exact absurd hcode (hsilent payload hpayload)

/-- An argument of `update_status` that is `None` leaves its column. -/
theorem orElse_cases {β : Type} (a b : Option β) : (a <|> b) = b ∨ (a <|> b) = a ∧ a.isSome := by
  cases a with
  | none => exact .inl rfl
  | some a => exact .inr ⟨rfl, rfl⟩

section Runs

variable [DecidableEq ι] {site : Deployment} {jobs : ι → Job} {expires : String → Prop}
  {G : Guard ι Op Ret PyExc Unit (World ι)} {w : World ι} {c : Config ι Op Ret PyExc Unit (World ι)}

/-- The payload was enqueued before the run, or a job of the run delivers it with a valid
signature. -/
def Heard (site : Deployment) (jobs : ι → Job) (w : World ι) (payload : TaskFeedbackPayload) : Prop :=
  w.Queued payload ∨ Delivered site jobs payload

omit [DecidableEq ι] in
theorem Accounted.heard {old : World ι} (h : Accounted site jobs old w)
    {payload : TaskFeedbackPayload} (hp : payload ∈ w.known.2) : Heard site jobs old payload := by
  obtain ⟨i, hi⟩ := hp
  obtain ⟨added, hqueue, hadded⟩ := h.queue
  rw [hqueue] at hi
  rcases List.mem_append.mp hi with hi | hi
  · exact .inl ⟨i, hi⟩
  · exact .inr (hadded _ hi)

omit [DecidableEq ι] in
/-- What a row holds in a column that feedbacks set. -/
theorem Accounted.column {old : World ι} (h : Accounted site jobs old w) {origin row : TaskHistory}
    (hfed : Fed w.known origin row) {β : Type} (column : TaskHistory → β)
    (gives : TaskFeedbackPayload → β → Prop)
    (hstep : ∀ payload existing now row, let row' := (statusUpdate existing (strip payload.method)
        (targetStatus (strip payload.method)) payload.amrCode payload.errorMsg now).set row
      column row' = column row ∨ gives payload (column row')) :
    column row = column origin ∨ ∃ payload, Heard site jobs old payload ∧
      strip payload.robotTaskCode = row.robotTaskCode ∧ gives payload (column row) := by
  rcases hfed.column column gives hstep with heq | ⟨payload, hpayload, hcode, hgives⟩
  · exact .inl heq
  · exact .inr ⟨payload, h.heard hpayload, hcode.trans hfed.sameTask.1, hgives⟩

/-- Where workers run only what is in the queue anyway, the broker holds nobody back. -/
theorem brokered_of_queued (jobs : ι → Job)
    (hq : ∀ i payload, jobs i = .process payload → w.Queued payload)
    {p : ι → M Unit} (h : Run (system expires) G (.start w p) c) :
    Run (brokered jobs expires) G (.start w p) c := by
  suffices hboth : Run (brokered jobs expires) G (.start w p) c ∧ w.known ≤ c.shared.known from
    hboth.1
  induction h with
  | refl => exact ⟨.refl, le_rfl⟩
  | tail _ hm ih =>
      obtain ⟨hrun, hle⟩ := ih
      cases hm with
      | act e hs hG =>
          obtain ⟨hp, hx⟩ := hs
          refine ⟨hrun.tail (.act _ (.mk hp ⟨hx, fun payload hjob => ?_⟩) hG),
            hle.trans (exec_known hx)⟩
          exact hle.2 (hq _ payload hjob)
      | env hs =>
          refine ⟨hrun.tail (.env hs), hle.trans ?_⟩
          obtain ⟨key, -, rfl⟩ := hs
          exact le_rfl

/-- **Where a committed row comes from.**  Any jobs run beside each other, whatever fails, whatever
expires and wherever they stop, the workers on what is in the queue.  Each committed row goes back to a
row of the beginning, or to an accepted request whose call RCS has answered with the row's task code;
it agrees with that origin in the columns no feedback sets; and its status, its robot and its error
are the origin's, or those a feedback about the task gives that was in the queue before or was
delivered with a valid signature. -/
theorem rows_have_origins (hsessions : ∀ i, w.sessions i = [])
    (h : Run (brokered jobs expires) G (launch site jobs w) c) {row : TaskHistory}
    (hrow : row ∈ c.shared.db.tasks.rows) :
    ∃ origin, (origin ∈ w.db.tasks.rows ∨ Submitted site jobs w c.shared.known origin) ∧
      origin.SameTask row ∧
      (row.status = origin.status ∨ ∃ payload, Heard site jobs w payload ∧
        strip payload.robotTaskCode = row.robotTaskCode ∧
        row.status = targetStatus (strip payload.method)) ∧
      (row.robotCode = origin.robotCode ∨ ∃ payload, Heard site jobs w payload ∧
        strip payload.robotTaskCode = row.robotTaskCode ∧ row.robotCode = payload.amrCode) ∧
      (row.errorMsg = origin.errorMsg ∨ ∃ payload, Heard site jobs w payload ∧
        strip payload.robotTaskCode = row.robotTaskCode ∧ row.errorMsg = payload.errorMsg) := by
  have hacc := run_accounted hsessions h
  obtain ⟨kept, added, hrows, hkept, hadded⟩ := hacc.db.tasks
  -- A row is one of the beginning or one that was inserted, changed by feedbacks since.
  obtain ⟨origin, horigin, hfed⟩ : ∃ origin, (origin ∈ w.db.tasks.rows ∨
      Submitted site jobs w c.shared.known origin) ∧ Fed c.shared.known origin row := by
    rw [hrows] at hrow
    rcases List.mem_append.mp hrow with hrow | hrow
    · obtain ⟨origin, hmem, hfed⟩ := exists_of_forall₂ hkept hrow
      exact ⟨origin, .inl hmem, hfed⟩
    · obtain ⟨origin, hsub, hfed⟩ := hadded row hrow
      exact ⟨origin, .inr hsub, hfed⟩
  refine ⟨origin, horigin, hfed.sameTask, ?_, ?_, ?_⟩
  · exact hacc.column hfed TaskHistory.status (fun payload status =>
      status = targetStatus (strip payload.method)) fun _ _ _ _ => .inr rfl
  · exact hacc.column hfed TaskHistory.robotCode (fun payload robotCode =>
      robotCode = payload.amrCode) fun _ _ _ _ => (orElse_cases _ _).imp_right And.left
  · exact hacc.column hfed TaskHistory.errorMsg (fun payload errorMsg =>
      errorMsg = payload.errorMsg) fun _ _ _ _ => (orElse_cases _ _).imp_right And.left

/-! ### The deployment of a run -/

/-- A deployment whose API key is `k`, with the secret of `sampleService`. -/
def sampleSite : Deployment where
  apiKey := "k"
  rcsBaseUrl := "http://rcs"
  webhook := sampleRouter
  robots := ⟨sampleRouter.floatOf, DateTime.fromIsoformat⟩

/-- A request that creates the task `T1`, and a worker on the feedback that ends it. -/
def createAndEnd : Bool → Job
  | false => .create (some "k") sampleRequest none
  | true => .process (startAndEnd true)

/-- A feedback about `T1` is in the queue, and RCS knows the robot type of `sampleRequest`. -/
def endQueued : World Bool :=
  { db := sampleTables, queue := [(true, startAndEnd true)] }

/-- The request is accepted as `T1` and runs to its end, and then the worker does. -/
def createThenEnd : List (Bool × Env) :=
  [(false, {}), (false, accepted "T1"), (false, {}), (false, {}), (false, {}), (true, {}), (true, {}),
    (true, {}), (true, {}), (true, {})]

theorem endQueued_queued (i : Bool) (payload : TaskFeedbackPayload)
    (h : createAndEnd i = .process payload) : endQueued.Queued payload := by
  cases i with
  | false => cases h
  | true =>
      cases h
      exact ⟨true, List.mem_singleton_self _⟩

theorem rows_have_origins_completed :
    ∃ c, Run (brokered createAndEnd fun _ => False) unguarded
        (launch sampleSite createAndEnd endQueued) c ∧
      ∃ row ∈ c.shared.db.tasks.rows, row.status = .completed ∧
        ∃ origin, Submitted sampleSite createAndEnd endQueued c.shared.known origin ∧
          origin.SameTask row := by
  obtain ⟨c, hc, hrows⟩ : ∃ c, Run (system fun _ => False) unguarded
      (launch sampleSite createAndEnd endQueued) c ∧
      c.shared.db.tasks.rows.map TaskHistory.status = [.completed] :=
    run_of_schedule createThenEnd (by decide)
  have hrun := brokered_of_queued createAndEnd endQueued_queued hc
  obtain ⟨row, hrow, hstatus⟩ := List.map_eq_singleton_iff.mp hrows
  have hmem : row ∈ c.shared.db.tasks.rows := by
    rw [hrow]
    exact List.mem_singleton_self row
  obtain ⟨origin, hold | hsub, hsame, -⟩ := rows_have_origins (fun _ => rfl) hrun hmem
  · cases hold
  · exact ⟨c, hrun, row, hmem, hstatus, origin, hsub, hsame⟩

/-! ### Tasks and robots nobody has reported on -/

/-- Only the keys of the two submits are alike. -/
theorem RedisKey.family_eq {a b : RedisKey} (hcreate : a.family ≠ .createIdempotency)
    (hraw : a.family ≠ .rawIdempotency) (h : a.text = b.text) : a.family = b.family := by
  by_contra hne
  cases a with
  | createIdempotency _ => exact hcreate rfl
  | rawIdempotency _ => exact hraw rfl
  | _ =>
      rcases (RedisKey.text_eq_iff hne).mp h with hs | hs
      · exact hs
      · cases b <;> exact hs

omit [DecidableEq ι] in
/-- The state of a robot was there before, or comes from a feedback that names the robot. -/
theorem Stored.of_robot {known : Witnessed ι} {amrCode : String} {value : RedisValue}
    (h : Stored site jobs w known (robotStateKey amrCode) value) :
    ∃ payload ∈ known.2, truthy payload.amrCode = some amrCode := by
  generalize hkey : robotStateKey amrCode = key at h
  have hfamily : ∀ k : RedisKey, k.text = key → k.family = .robotState := fun k hk =>
    (RedisKey.family_eq (a := .robotState amrCode) nofun nofun (hkey.trans hk.symm)).symm
  cases h with
  | @created _ _ _ _ k => cases hfamily (.createIdempotency k) rfl
  | @submitted _ _ _ _ k => cases hfamily (.rawIdempotency k) rfl
  | @setting k => cases hfamily (.sysconfig k) rfl
  | @marker payload => cases hfamily (.webhookDedupe payload.robotTaskCode payload.method) rfl
  | robot hpayload hamr now =>
      obtain rfl : amrCode = _ := robotStateKey_injective hkey
      exact ⟨_, hpayload, hamr⟩

/-- **A task changes only by its feedbacks.**  Any jobs run beside each other, as above.  Where no
payload about a task was in the queue before and none is delivered with a valid signature, its row stays
as it was, or as the request that created it made it; and the state of a robot that no such payload
names stays as it was, or expires. -/
theorem task_changes_only_by_its_feedbacks (hsessions : ∀ i, w.sessions i = [])
    (h : Run (brokered jobs expires) G (launch site jobs w) c) :
    (∀ code, (∀ payload, Heard site jobs w payload → strip payload.robotTaskCode ≠ code) →
      (∀ row, w.db.tasks.find? code = some row → c.shared.db.tasks.find? code = some row) ∧
      ∀ row, c.shared.db.tasks.find? code = some row →
        w.db.tasks.find? code = some row ∨ Submitted site jobs w c.shared.known row) ∧
    ∀ amrCode, (∀ payload, Heard site jobs w payload → truthy payload.amrCode ≠ some amrCode) →
      ∀ value, c.shared.redis (robotStateKey amrCode) = some value →
        w.redis (robotStateKey amrCode) = some value := by
  have hacc := run_accounted hsessions h
  obtain ⟨kept, added, hrows, hkept, hadded⟩ := hacc.db.tasks
  refine ⟨fun code hsilent => ⟨fun row hrow => ?_, fun row hrow => ?_⟩, fun amrCode hsilent value hkey => ?_⟩
  · obtain ⟨hmem, rfl⟩ := TaskTable.find?_eq_some.mp hrow
    obtain ⟨row', hmem', hfed⟩ := exists_of_forall₂ hkept.flip hmem
    -- No feedback for the task has been heard, so none has changed its row.
    obtain rfl := Fed.eq_of_silent hfed fun payload hp => hsilent payload (hacc.heard hp)
    refine TaskTable.find?_eq_some.mpr ⟨?_, rfl⟩
    rw [hrows]
    exact List.mem_append_left _ hmem'
  · obtain ⟨hmem, rfl⟩ := TaskTable.find?_eq_some.mp hrow
    rw [hrows] at hmem
    rcases List.mem_append.mp hmem with hmem | hmem
    · obtain ⟨origin, horigin, hfed⟩ := exists_of_forall₂ hkept hmem
      obtain rfl := hfed.eq_of_silent fun payload hp => by
        rw [hfed.sameTask.1]
        exact hsilent payload (hacc.heard hp)
      exact .inl (TaskTable.find?_eq_some.mpr ⟨horigin, rfl⟩)
    · obtain ⟨origin, horigin, hfed⟩ := hadded row hmem
      obtain rfl := hfed.eq_of_silent fun payload hp => by
        rw [hfed.sameTask.1]
        exact hsilent payload (hacc.heard hp)
      exact .inr horigin
  · rcases hacc.redis _ value hkey with hold | hstored
    · exact hold
    · obtain ⟨payload, hp, hamr⟩ := hstored.of_robot
      exact absurd hamr (hsilent payload (hacc.heard hp))

/-- The task `T9` was pending before, and nobody reports on it. -/
def besideT9 : World Bool :=
  { endQueued with
    db := { sampleTables with
      tasks := ⟨[{ robotTaskCode := "T9", status := .pending }], List.pairwise_singleton _ _⟩ } }

theorem task_changes_only_by_its_feedbacks_beside :
    ∃ c, Run (brokered createAndEnd fun _ => False) unguarded
        (launch sampleSite createAndEnd besideT9) c ∧
      (c.shared.db.tasks.find? "T1").map TaskHistory.status = some .completed ∧
      c.shared.db.tasks.find? "T9" = some { robotTaskCode := "T9", status := .pending } := by
  obtain ⟨c, hc, hdone⟩ : ∃ c, Run (system fun _ => False) unguarded
      (launch sampleSite createAndEnd besideT9) c ∧
      (c.shared.db.tasks.find? "T1").map TaskHistory.status = some .completed :=
    run_of_schedule createThenEnd (by decide)
  have hrun := brokered_of_queued createAndEnd (w := besideT9) endQueued_queued hc
  refine ⟨c, hrun, hdone, ?_⟩
  refine ((task_changes_only_by_its_feedbacks (fun _ => rfl) hrun).1 "T9" ?_).1 _ rfl
  rintro payload (⟨i, hi⟩ | ⟨i, _, _, _, hi, -⟩)
  · rw [show payload = startAndEnd true from
      congrArg Prod.snd (List.mem_singleton.mp hi)]
    decide
  · cases i <;> cases hi

/-! ### Requests without credentials -/

/-- The request shows the API key, or is a feedback with a valid signature. -/
def Job.Trusted (site : Deployment) : Job → Prop
  | .create apiKey _ _ | .raw apiKey _ _ | .configure apiKey _ | .settings apiKey | .robots apiKey _ =>
      site.Accepts apiKey
  | .deliver _ rawBody signature =>
      site.webhook.service.verifyWebhookSignature rawBody signature = .ok ()
  | .process _ => False

section Untrusted

omit [DecidableEq ι]

variable {known : Witnessed ι}

theorem Delivered.trusted {payload : TaskFeedbackPayload} (h : Delivered site jobs payload) :
    ∃ i, (jobs i).Trusted site := by
  obtain ⟨i, _, _, _, hi, -, hsig⟩ := h
  refine ⟨i, ?_⟩
  rw [hi]
  exact hsig

theorem Requested.trusted {call : RcsCall} (h : Requested site jobs w call) :
    ∃ i, (jobs i).Trusted site := by
  cases h with
  | @create i _ _ _ _ hi hkey | @raw i _ _ _ _ hi hkey =>
      refine ⟨i, ?_⟩
      rw [hi]
      exact hkey

theorem Submitted.trusted {row : TaskHistory} (h : Submitted site jobs w known row) :
    ∃ i, (jobs i).Trusted site := by
  cases h with
  | create hi hkey htype hname =>
      have hcall : Requested site jobs w _ := .create hi hkey htype hname
      exact hcall.trusted
  | raw hi hkey _ hpath =>
      have hcall : Requested site jobs w _ := .raw hi hkey hpath
      exact hcall.trusted

theorem Configured.trusted {key value : String} (h : Configured site jobs key value) :
    ∃ i, (jobs i).Trusted site := by
  obtain ⟨i, _, _, hi, hkey, -⟩ := h
  refine ⟨i, ?_⟩
  rw [hi]
  exact hkey

theorem ReadsSettings.trusted (h : ReadsSettings site jobs) : ∃ i, (jobs i).Trusted site := by
  obtain ⟨i, _, hi | ⟨_, hi⟩, hkey⟩ := h <;> refine ⟨i, ?_⟩ <;> rw [hi] <;> exact hkey

/-- An entry goes back to credentials, or to a payload in the queue. -/
theorem Stored.trusted {key : String} {value : RedisValue} (h : Stored site jobs w known key value) :
    (∃ i, (jobs i).Trusted site) ∨ ∃ payload, payload ∈ known.2 := by
  cases h with
  | @created i _ _ _ _ _ _ _ hi hkey | @submitted i _ _ _ _ _ _ _ hi hkey =>
      refine .inl ⟨i, ?_⟩
      rw [hi]
      exact hkey
  | setting hread _ => exact .inl hread.trusted
  | marker hd => exact .inl hd.trusted
  | robot hp => exact .inr ⟨_, hp⟩

theorem Accounted.tasks_eq {old : World ι} (h : Accounted site jobs old w)
    (hsub : ∀ row, ¬ Submitted site jobs old w.known row) (hqueue : ∀ payload, payload ∉ w.known.2) :
    w.db.tasks.rows = old.db.tasks.rows := by
  obtain ⟨kept, added, hrows, hkept, hadded⟩ := h.db.tasks
  have hnone : added = [] := List.eq_nil_iff_forall_not_mem.mpr fun row hrow => by
    obtain ⟨origin, horigin, -⟩ := hadded row hrow
    exact hsub origin horigin
  have hsame : List.Forall₂ Eq old.db.tasks.rows kept := hkept.imp fun _ _ hfed =>
    (hfed.eq_of_silent fun payload hp => absurd hp (hqueue payload)).symm
  rw [hrows, hnone, List.append_nil, List.forall₂_eq_eq_eq.le _ _ hsame]

end Untrusted

/-- **Requests without credentials change the audit log only.**  Any jobs run beside each other, none
of which shows the API key or a valid signature, with nothing in the queue.  Wherever they stand, the
tasks, the settings and the robot types are as before, RCS has received no further call, nothing
has been enqueued and Redis holds no entry it did not hold; and the log has been given rows that
say that their signature is not valid. -/
theorem untrusted_change_only_the_log (hsessions : ∀ i, w.sessions i = []) (hqueue : w.queue = [])
    (huntrusted : ∀ i, ¬ (jobs i).Trusted site)
    (h : Run (brokered jobs expires) G (launch site jobs w) c) :
    c.shared.db.tasks.rows = w.db.tasks.rows ∧ c.shared.db.configs = w.db.configs ∧
      c.shared.db.robotTypes = w.db.robotTypes ∧ c.shared.rcsLog = w.rcsLog ∧ c.shared.queue = [] ∧
      (∀ key value, c.shared.redis key = some value → w.redis key = some value) ∧
      ∃ added, c.shared.db.logs = w.db.logs ++ added ∧ ∀ row ∈ added, row.signatureValid = false := by
  have hacc := run_accounted hsessions h
  have hnobody : ¬ ∃ i, (jobs i).Trusted site := not_exists.mpr huntrusted
  -- Without a trusted job nothing is enqueued, so no feedback is known.
  have hknown : ∀ payload, payload ∉ c.shared.known.2 := by
    intro payload hp
    rcases hacc.heard hp with ⟨i, hi⟩ | hd
    · rw [hqueue] at hi
      cases hi
    · exact hnobody hd.trusted
  refine ⟨hacc.tasks_eq (fun _ hrow => hnobody hrow.trusted) hknown, funext fun key => ?_,
    hacc.db.robotTypes, ?_, ?_, fun key value hkey => ?_, ?_⟩
  · rcases hacc.db.configs key with heq | ⟨value, -, hset⟩
    · exact heq
    · exact absurd hset.trusted hnobody
  · obtain ⟨made, hlog, hmade⟩ := hacc.calls
    have hnone : made = [] := List.eq_nil_iff_forall_not_mem.mpr fun x hx =>
      hnobody (hmade x hx).trusted
    rw [hlog, hnone, List.nil_append]
  · exact List.eq_nil_iff_forall_not_mem.mpr fun p hp => hknown p.2 ⟨p.1, hp⟩
  · rcases hacc.redis key value hkey with hold | hstored
    · exact hold
    · rcases hstored.trusted with ht | ⟨payload, hp⟩
      · exact absurd ht hnobody
      · exact absurd hp (hknown payload)
  · obtain ⟨added, hlogs, hadded⟩ := hacc.db.logs
    refine ⟨added, hlogs, fun row hrow => ?_⟩
    obtain ⟨i, requestId, rawBody, signature, payload, duplicate, hi, -, rfl⟩ := hadded row hrow
    have hsig : site.webhook.service.verifyWebhookSignature rawBody signature ≠ .ok () := fun hv =>
      huntrusted i (by rw [hi]; exact hv)
    show (site.webhook.service.verifyWebhookSignature rawBody signature).isOk = false
    generalize site.webhook.service.verifyWebhookSignature rawBody signature = verdict at hsig
    cases verdict with
    | ok u => exact absurd rfl hsig
    | error e => rfl

/-- A request that shows another key, and the event of `sampleDelivery` with a made-up signature. -/
def withoutCredentials : Bool → Job
  | false => .create (some "guess") sampleRequest (some "k1")
  | true => .deliver "r1" sampleDelivery.rawBody (some "00")

theorem untrusted_change_only_the_log_forged :
    ∃ c, Run (brokered withoutCredentials fun _ => False) unguarded
        (launch sampleSite withoutCredentials { db := sampleTables }) c ∧
      c.shared.db.logs.length = 1 ∧ c.shared.db.tasks.rows = [] ∧ c.shared.queue = [] := by
  obtain ⟨c, hc, hlogs⟩ : ∃ c, Run (system fun _ => False) unguarded
      (launch sampleSite withoutCredentials { db := sampleTables }) c ∧ c.shared.db.logs.length = 1 :=
    run_of_schedule [(true, {}), (true, {}), (true, {})] (by decide)
  have hrun := brokered_of_queued withoutCredentials (fun i payload hi => by
    cases i <;> cases hi) hc
  have huntrusted : ∀ i, ¬ (withoutCredentials i).Trusted sampleSite := by
    rintro (_ | _) ht
    · obtain ⟨key, hkey⟩ := ht
      exact absurd (requireApiKey_eq_ok.mp hkey).1 (by decide)
    · cases ht
  obtain ⟨hrows, -, -, -, hqueue, -⟩ := untrusted_change_only_the_log (fun _ => rfl) rfl huntrusted hrun
  exact ⟨c, hrun, hlogs, hrows, hqueue⟩

end Runs

end Rcs

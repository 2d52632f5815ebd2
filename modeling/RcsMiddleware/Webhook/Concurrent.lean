import RcsMiddleware.Webhook.Windows

/-!
# Webhook — Concurrent

Deliveries of one event at the same time.  The atomic `SET NX` lets one of them through; the others
find its marker.  Whether a row of the audit log is written changes nothing of this: a failed commit
is rolled back and the delivery goes on.

* `Race`: nobody has claimed the key, or one delivery has and the others are duplicates.
* `deliveries_canMove`: no delivery waits for another.
* `one_delivery_enqueues`: when all have ended, one has enqueued its payload and the others have
  been acknowledged as duplicates.
-/

namespace Rcs

open Support Support.Text

variable {ι : Type} [DecidableEq ι]

/-- The acknowledgement of a delivery that has enqueued its payload. -/
def enqueuedAck : WebhookAck := { acknowledged := true, duplicate := false }

def duplicateAck : WebhookAck := { acknowledged := true, duplicate := true }

/-- The end of a delivery that has claimed its key. -/
def publish (payload : TaskFeedbackPayload) : M WebhookAck := do
  perform (.delay payload)
  return enqueuedAck

theorem publish_eq (payload : TaskFeedbackPayload) :
    ∃ k, publish payload = .op (.delay payload) k ∧ k (.ok ()) = .ret enqueuedAck :=
  ⟨_, rfl, rfl⟩

/-- The program works on the audit log, whether or not its commit fails, and then is `rest`. -/
inductive Logs (rest : M WebhookAck) : M WebhookAck → Prop where
  | done : Logs rest rest
  | commit {pending : List Write} {k : Except PyExc Unit → M WebhookAck}
      (hk : ∀ r, Logs rest (k r)) : Logs rest (.op (.commit pending) k)
  | rollback {k : Except PyExc Unit → M WebhookAck} (hok : Logs rest (k (.ok ()))) :
      Logs rest (.op .rollback k)

/-- Every step but a commit goes through. -/
def OnlyCommitsFail : Guard ι Op Ret PyExc WebhookAck (World ι) := fun _ e _ =>
  e.op.isCommit = true ∨ e.answer.isOk = true

instance (c : Config ι Op Ret PyExc WebhookAck (World ι)) (e : Event ι Op Ret PyExc)
    (c' : Config ι Op Ret PyExc WebhookAck (World ι)) : Decidable (OnlyCommitsFail c e c') :=
  inferInstanceAs (Decidable (_ ∨ _))

theorem logEvent_logs (service : WebhookService) (payload : TaskFeedbackPayload)
    (sigValid duplicate : Bool) (f : Unit → M WebhookAck) :
    Logs (f ()) ((service.logEvent payload sigValid duplicate).bind f) := by
  rw [WebhookService.logEvent]
  split
  · refine .commit fun r => ?_
    cases r with
    | ok u => exact .done
    | error e => exact .rollback .done
  · exact .done

/-- A verified delivery claims its key; then it logs, and enqueues or is a duplicate. -/
theorem handleVerified_shape (service : WebhookService) (payload : TaskFeedbackPayload) :
    ∃ k, service.handleVerified payload =
        .op (.redisSetNx payload.dedupeKey (.text "1") webhookDedupeTtlSeconds) k ∧
      Logs (publish payload) (k (.ok true)) ∧ Logs (.ret duplicateAck) (k (.ok false)) :=
  ⟨_, rfl, logEvent_logs service payload true false fun _ => publish payload,
    logEvent_logs service payload true true fun _ => .ret duplicateAck⟩

/-! ### The race for the key -/

/-- What is left of a delivery that has claimed its key: it has enqueued nothing yet, or it has
ended and its payload is the last one enqueued. -/
def Winning (before : List (ι × TaskFeedbackPayload)) (i : ι) (payload : TaskFeedbackPayload)
    (queue : List (ι × TaskFeedbackPayload)) (p : M WebhookAck) : Prop :=
  (Logs (publish payload) p ∧ queue = before) ∨
    (p = .ret enqueuedAck ∧ queue = before ++ [(i, payload)])

/-- Nobody has claimed the key; or `i` has, and the others are yet to try, or are duplicates. -/
inductive Race (key : String) (before : List (ι × TaskFeedbackPayload))
    (payload : ι → TaskFeedbackPayload) (start : ι → M WebhookAck)
    (c : Config ι Op Ret PyExc WebhookAck (World ι)) : Prop where
  | unclaimed (hkey : c.shared.redis key = none) (hqueue : c.shared.queue = before)
      (hp : ∀ i, c.procs i = start i)
  | claimed (i : ι) (hkey : (c.shared.redis key).isSome = true)
      (hi : Winning before i (payload i) c.shared.queue (c.procs i))
      (hother : ∀ j, j ≠ i → c.procs j = start j ∨ Logs (.ret duplicateAck) (c.procs j))

/-- A delivery that begins by claiming the key. -/
def Claims (key : String) (payload : TaskFeedbackPayload) (p : M WebhookAck) : Prop :=
  ∃ k, p = .op (.redisSetNx key (.text "1") webhookDedupeTtlSeconds) k ∧
    Logs (publish payload) (k (.ok true)) ∧ Logs (.ret duplicateAck) (k (.ok false))

variable {key : String} {before : List (ι × TaskFeedbackPayload)}
  {payload : ι → TaskFeedbackPayload} {start : ι → M WebhookAck}
  {c c' : Config ι Op Ret PyExc WebhookAck (World ι)} {e : Event ι Op Ret PyExc}
  {expires : String → Prop}

omit [DecidableEq ι] in
theorem OnlyCommitsFail.ok {o : Op} {r : Except PyExc (Ret o)} (hG : OnlyCommitsFail c e c')
    (he : e = ⟨e.pid, o, r⟩) (ho : o.isCommit = false) : ∃ v, r = .ok v := by
  rw [he] at hG
  rcases hG with hG | hG
  · rw [ho] at hG
    cases hG
  · cases r with
    | ok v => exact ⟨v, rfl⟩
    | error x => cases hG

/-- A delivery that works on the audit log goes on to what follows, and touches nothing else. -/
theorem Logs.step {rest : M WebhookAck} (h : Logs rest (c.procs e.pid))
    (hrest : c.procs e.pid ≠ rest) (hG : OnlyCommitsFail c e c') (hs : Step (system expires) c e c') :
    Logs rest (c'.procs e.pid) ∧ c'.shared.redis = c.shared.redis ∧
      c'.shared.queue = c.shared.queue ∧ ∀ j, j ≠ e.pid → c'.procs j = c.procs j := by
  generalize hp : c.procs e.pid = p at h hrest
  cases h with
  | done => exact absurd rfl hrest
  | commit hk =>
      obtain ⟨r, -, hx, hself, hother⟩ := hs.moved hp
      obtain ⟨hredis, -, hqueue⟩ := exec_sql hx trivial
      exact ⟨hself ▸ hk r, hredis, hqueue, hother⟩
  | rollback hok =>
      obtain ⟨r, he, hx, hself, hother⟩ := hs.moved hp
      obtain ⟨v, rfl⟩ := hG.ok he rfl
      obtain ⟨hredis, -, hqueue⟩ := exec_sql hx trivial
      exact ⟨hself ▸ hok, hredis, hqueue, hother⟩

/-- A delivery tries to claim the key. -/
theorem Race.step_claim (h : Race key before payload start c)
    (hstart : ∀ i, Claims key (payload i) (start i)) (hG : OnlyCommitsFail c e c')
    (hs : Step (system expires) c e c') (hp : c.procs e.pid = start e.pid) :
    Race key before payload start c' := by
  obtain ⟨k, hk, htrue, hfalse⟩ := hstart e.pid
  obtain ⟨r, he, hx, hself, hother⟩ := hs.moved (hp.trans hk)
  obtain ⟨v, rfl⟩ := hG.ok he rfl
  rcases exec_redisSetNx hx with ⟨-, x, hx'⟩ | ⟨hw, hv, hkey⟩ | ⟨hw, hv, hkey⟩
  · cases hx'
  · -- The marker is there, so another delivery has set it.
    cases hv
    cases h with
    | unclaimed hnone _ _ =>
        rw [hnone] at hkey
        cases hkey
    | claimed i hsome hi hothers =>
        have hne : i ≠ e.pid := by
          rintro rfl
          rw [hp, hk] at hi
          rcases hi with ⟨hlogs, -⟩ | ⟨hret, -⟩
          · cases hlogs
          · cases hret
        refine .claimed i (hw ▸ hkey) ?_ fun j hj => ?_
        · rw [hother i hne, hw]
          exact hi
        · by_cases hje : j = e.pid
          · rw [hje, hself]
            exact .inr hfalse
          · rw [hother j hje]
            exact hothers j hj
  · cases h with
    | unclaimed _ hqueue hprocs =>
        rcases hv with hv | ⟨x, hv⟩ <;> cases hv
        refine .claimed e.pid ?_ (.inl ⟨hself ▸ htrue, ?_⟩) fun j hj => .inl ?_
        · rw [hw, World.setRedis_redis, Function.update_self]
          rfl
        · rw [hw]
          exact hqueue
        · rw [hother j hj]
          exact hprocs j
    | claimed i hsome _ _ =>
        rw [hkey] at hsome
        cases hsome

/-- **One step of the race.** -/
theorem Race.step (h : Race key before payload start c)
    (hstart : ∀ i, Claims key (payload i) (start i)) (hG : OnlyCommitsFail c e c')
    (hs : Step (system expires) c e c') : Race key before payload start c' := by
  by_cases hp : c.procs e.pid = start e.pid
  · exact h.step_claim hstart hG hs hp
  cases h with
  | unclaimed _ _ hprocs => exact absurd (hprocs e.pid) hp
  | claimed i hkey hi hothers =>
      by_cases hie : e.pid = i
      · subst hie
        rcases hi with ⟨hlogs, hqueue⟩ | ⟨hret, -⟩
        · by_cases hpub : c.procs e.pid = publish (payload e.pid)
          · obtain ⟨k, hk, hok⟩ := publish_eq (payload e.pid)
            obtain ⟨r, he, hx, hself, hother⟩ := hs.moved (hpub.trans hk)
            obtain ⟨v, rfl⟩ := hG.ok he rfl
            rcases exec_delay hx with ⟨-, x, hx'⟩ | hw
            · cases hx'
            · refine .claimed e.pid (hw ▸ hkey) (.inr ⟨hself.trans hok, ?_⟩) fun j hj => ?_
              · rw [hw, ← hqueue]
              · rw [hother j hj]
                exact hothers j hj
          · obtain ⟨hlogs', hredis, hqueue', hother⟩ := hlogs.step hpub hG hs
            refine .claimed e.pid (hredis ▸ hkey) (.inl ⟨hlogs', hqueue'.trans hqueue⟩) fun j hj => ?_
            rw [hother j hj]
            exact hothers j hj
        · exact absurd hret hs.not_ret
      · have hlogs := (hothers e.pid hie).resolve_left hp
        have hnot : c.procs e.pid ≠ .ret duplicateAck := hs.not_ret
        obtain ⟨hlogs', hredis, hqueue', hother⟩ := hlogs.step hnot hG hs
        refine .claimed i (hredis ▸ hkey) ?_ fun j hj => ?_
        · rw [hother i (Ne.symm hie), hqueue']
          exact hi
        · by_cases hje : j = e.pid
          · rw [hje]
            exact .inr hlogs'
          · rw [hother j hje]
            exact hothers j hj

/-- A validly signed delivery begins by claiming the key of its event. -/
theorem handleTaskFeedback_claims {service : WebhookService} {delivery : Delivery}
    (h : service.verifyWebhookSignature delivery.rawBody delivery.signature = .ok ()) :
    Claims delivery.payload.dedupeKey delivery.payload (service.handleTaskFeedback delivery) := by
  rw [WebhookService.handleTaskFeedback, h]
  exact handleVerified_shape service delivery.payload

/-! ### Deliveries that have ended -/

theorem Logs.ended {rest p : M WebhookAck} (h : Logs rest p) (hp : p.Ended) : p = rest := by
  cases h with
  | done => rfl
  | commit _ | rollback _ => exact absurd rfl (hp _ _)

omit [DecidableEq ι] in
theorem Winning.ended {i : ι} {f : TaskFeedbackPayload} {queue : List (ι × TaskFeedbackPayload)}
    {p : M WebhookAck} (h : Winning before i f queue p) (hp : p.Ended) :
    p = .ret enqueuedAck ∧ queue = before ++ [(i, f)] := by
  rcases h with ⟨hlogs, -⟩ | h
  · obtain ⟨k, hk, -⟩ := publish_eq f
    exact absurd ((hlogs.ended hp).trans hk) (hp _ _)
  · exact h

theorem Claims.not_ended {f : TaskFeedbackPayload} {p : M WebhookAck} (h : Claims key f p) :
    ¬ p.Ended := fun hp => by
  obtain ⟨k, hk, -⟩ := h
  exact hp _ _ hk

omit [DecidableEq ι] in
/-- When a delivery has ended, one has won the race: this one, or one beside which it is a
duplicate. -/
theorem Race.ended (h : Race key before payload start c)
    (hstart : ∀ i, Claims key (payload i) (start i)) {i : ι} (hi : (c.procs i).Ended) :
    ∃ j, ((c.procs j).Ended → c.procs j = .ret enqueuedAck ∧
        c.shared.queue = before ++ [(j, payload j)]) ∧
      ∀ k, k ≠ j → (c.procs k).Ended → c.procs k = .ret duplicateAck := by
  cases h with
  | unclaimed _ _ hprocs => exact absurd (hprocs i ▸ hi) (hstart i).not_ended
  | claimed j _ hj hothers =>
      refine ⟨j, hj.ended, fun k hk hended => ?_⟩
      rcases hothers k hk with hstart' | hlogs
      · exact absurd (hstart' ▸ hended) (hstart k).not_ended
      · exact hlogs.ended hended

/-! ### Deliveries that go on -/

omit [DecidableEq ι] in
theorem Op.OfDelivery.not_blocked {o : Op} (ho : o.OfDelivery) (i : ι) (w : World ι) :
    ¬ Blocked i o w := by
  cases o with
  | redisSetNx _ _ _ | commit _ | rollback | delay _ => exact id
  | _ => exact ho.elim

/-- Without a fault, every operation of a delivery but a commit is answered. -/
theorem Op.OfDelivery.answered {o : Op} (ho : o.OfDelivery) (i : ι) (w : World ι) :
    o.isCommit = true ∨ (respond i {} o w).1.isOk = true := by
  cases o with
  | redisSetNx key value ttl =>
      refine .inr ?_
      simp only [respond, Fault.strike]
      split <;> rfl
  | commit _ => exact .inl rfl
  | rollback | delay _ => exact .inr rfl
  | _ => exact ho.elim

/-- **No delivery waits for another.** -/
theorem deliveries_canMove (i : ι) :
    CanMove (system expires) OnlyCommitsFail
      (fun d => ∀ j, Prog.Only Op.OfDelivery (d.procs j)) i := by
  intro d hd hi
  have honly := hd i
  cases hp : d.procs i with
  | ret a => exact absurd (hp ▸ Prog.ended_ret a) hi
  | raise x => exact absurd (hp ▸ Prog.ended_raise x) hi
  | op o k =>
      rw [hp] at honly
      cases honly with
      | op ho _ =>
          have hs : Step (system expires) d _ _ := .mk hp ⟨ho.not_blocked i d.shared, {}, rfl⟩
          exact ⟨_, _, rfl, hs, ho.answered i d.shared, hs.only hd⟩

/-- **One delivery enqueues.**  Any number of validly signed deliveries of one event run beside
each other, whose key is free and does not expire, and no step but a commit of the audit log fails.
None of them raises; when all have ended, one has enqueued its payload, which is all that has been
enqueued, and each other one has been acknowledged as a duplicate; and wherever the run stands, it
can go on until all have ended. -/
theorem one_delivery_enqueues [Nonempty ι] {service : ι → WebhookService} {delivery : ι → Delivery}
    (hvalid : ∀ i, (service i).verifyWebhookSignature (delivery i).rawBody (delivery i).signature =
      .ok ())
    {robotTaskCode method : String}
    (hevent : ∀ i, (delivery i).payload.robotTaskCode = robotTaskCode ∧
      (delivery i).payload.method = method)
    {w : World ι} (hfree : w.redis (webhookDedupeKey robotTaskCode method) = none)
    (hexpires : ¬ expires (webhookDedupeKey robotTaskCode method))
    (h : Run (system expires) OnlyCommitsFail
      (.start w fun i => (service i).handleTaskFeedback (delivery i)) c) :
    (∀ i x, c.procs i ≠ .raise x) ∧ ((∀ i, (c.procs i).Ended) →
      ∃ i, c.procs i = .ret { acknowledged := true, duplicate := false } ∧
        c.shared.queue = w.queue ++ [(i, (delivery i).payload)] ∧
        ∀ j, j ≠ i → c.procs j = .ret { acknowledged := true, duplicate := true }) ∧
    (Finite ι → ∃ c', Run (system expires) OnlyCommitsFail c c' ∧ ∀ i, (c'.procs i).Ended) := by
  have hstart : ∀ i, Claims (webhookDedupeKey robotTaskCode method) (delivery i).payload
      ((service i).handleTaskFeedback (delivery i)) := by
    intro i
    have hclaims := handleTaskFeedback_claims (hvalid i)
    rwa [TaskFeedbackPayload.dedupeKey, (hevent i).1, (hevent i).2] at hclaims
  have hrace : Race (webhookDedupeKey robotTaskCode method) w.queue (fun i => (delivery i).payload)
      (fun i => (service i).handleTaskFeedback (delivery i)) c := by
    refine Run.invariant h (fun d d' e hd hG hs => hd.step hstart hG hs) ?_
      (.unclaimed hfree rfl fun _ => rfl)
    rintro d w' hd ⟨other, hother, rfl⟩
    have hne : webhookDedupeKey robotTaskCode method ≠ other := fun he => hexpires (he ▸ hother)
    cases hd with
    | unclaimed hkey hqueue hprocs =>
        refine .unclaimed ?_ hqueue hprocs
        rw [World.dropRedis_redis, Function.update_of_ne hne]
        exact hkey
    | claimed i hkey hi hothers =>
        refine .claimed i ?_ hi hothers
        rw [World.dropRedis_redis, Function.update_of_ne hne]
        exact hkey
  have honly : ∀ i, Prog.Only Op.OfDelivery (c.procs i) :=
    h.only fun i => handleTaskFeedback_only (service i) (delivery i)
  refine ⟨fun i x hx => ?_, fun hended => ?_, fun _ => Run.exists_ended deliveries_canMove honly⟩
  · have hi : (c.procs i).Ended := fun o k hop => by cases hx.symm.trans hop
    obtain ⟨j, hj, hothers⟩ := hrace.ended hstart hi
    by_cases hij : i = j
    · subst hij
      cases hx.symm.trans (hj hi).1
    · cases hx.symm.trans (hothers i hij hi)
  · obtain ⟨i⟩ := ‹Nonempty ι›
    obtain ⟨j, hj, hothers⟩ := hrace.ended hstart (hended i)
    obtain ⟨hret, hqueue⟩ := hj (hended j)
    exact ⟨j, hret, hqueue, fun k hk => hothers k hk (hended k)⟩

/-- The first of two deliveries takes the key and the second finds it; the log row of the first is
refused and rolled back. -/
def logRefused : List (Bool × Env) :=
  [(false, {}), (true, {}), (false, { fault := .before (.storeError "log") }), (false, {}),
    (true, {}), (false, {})]

theorem one_delivery_enqueues_logRefused :
    ∃ c, Run (system fun _ => False) OnlyCommitsFail
        (.start {} fun _ : Bool => sampleService.handleTaskFeedback sampleDelivery) c ∧
      ∃ i, c.procs i = .ret { acknowledged := true, duplicate := false } ∧
        c.shared.queue = [(i, sampleDelivery.payload)] ∧
        ∀ j, j ≠ i → c.procs j = .ret { acknowledged := true, duplicate := true } := by
  obtain ⟨c, hc, hdone⟩ : ∃ c, Run (system fun _ => False) OnlyCommitsFail
      (.start {} fun _ : Bool => sampleService.handleTaskFeedback sampleDelivery) c ∧
      ∀ i, (c.procs i).returned = true := run_of_schedule logRefused (by decide)
  have hended : ∀ i, (c.procs i).Ended := fun i => Prog.ended_of_returned (hdone i)
  obtain ⟨-, hone, -⟩ := one_delivery_enqueues (fun _ => sampleDelivery_valid) (fun _ => ⟨rfl, rfl⟩)
    rfl not_false hc
  exact ⟨c, hc, hone hended⟩

end Rcs

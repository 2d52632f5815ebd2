import RcsMiddleware.Webhook.Windows

/-!
# Webhook — Forgeries

Deliveries that come one after the other, some of them forged.  A forged delivery is refused with
`WebhookSignatureError` before it reaches Redis, so it leaves a row in the audit log and nothing
else; and no operation of a delivery reads the audit log.

* `respond_withLogs`: an operation answers the same whatever the audit log holds.
* `Arrival.outcome_refused`: a refused delivery changes the audit log only.
* `forgeries_change_logs_only`: without the refused deliveries, the others are answered as before
  and the world differs in its audit log at most.
-/

namespace Rcs

open Support Support.Text Support.Prog

/-! ### The audit log -/

/-- The world with another audit log. -/
def World.withLogs {ι : Type} (w : World ι) (logs : List WebhookLog) : World ι :=
  { w with db := { w.db with logs := logs } }

/-- A change of a transaction reads no audit log. -/
theorem Write.run_withLogs (db : Tables) (logs : List WebhookLog) (write : Write) :
    (∃ column, write.run db = .error column ∧ write.run { db with logs := logs } = .error column) ∨
      ∃ db' logs', write.run db = .ok db' ∧
        write.run { db with logs := logs } = .ok { db' with logs := logs' } := by
  cases write with
  | insertTask row =>
      simp only [Write.run]
      cases db.tasks.insert? row with
      | error column => exact .inl ⟨column, rfl, rfl⟩
      | ok tasks => exact .inr ⟨_, logs, rfl, rfl⟩
  | updateTask code u => exact .inr ⟨_, logs, rfl, rfl⟩
  | insertConfig key value =>
      simp only [Write.run]
      split
      · exact .inl ⟨_, rfl, rfl⟩
      · exact .inr ⟨_, logs, rfl, rfl⟩
  | updateConfig key old value =>
      simp only [Write.run]
      split
      · exact .inr ⟨_, logs, rfl, rfl⟩
      · exact .inr ⟨_, logs, rfl, rfl⟩
  | insertLog row => exact .inr ⟨_, logs ++ [row], rfl, rfl⟩

theorem foldlM_withLogs (writes : List Write) (db : Tables) (logs : List WebhookLog) :
    (∃ column, writes.foldlM Write.run db = .error column ∧
        writes.foldlM Write.run { db with logs := logs } = .error column) ∨
      ∃ db' logs', writes.foldlM Write.run db = .ok db' ∧
        writes.foldlM Write.run { db with logs := logs } = .ok { db' with logs := logs' } := by
  induction writes generalizing db logs with
  | nil => exact .inr ⟨db, logs, rfl, rfl⟩
  | cons write rest ih =>
      rw [List.foldlM_cons, List.foldlM_cons]
      rcases write.run_withLogs db logs with ⟨column, h, h'⟩ | ⟨db', logs', h, h'⟩
      · rw [h, h']
        exact .inl ⟨column, rfl, rfl⟩
      · rw [h, h']
        exact ih db' logs'

/-- The worlds differ in their audit logs at most. -/
def SameButLogs {ι : Type} (w w' : World ι) : Prop := ∃ logs, w' = w.withLogs logs

variable {ι : Type} [DecidableEq ι]

omit [DecidableEq ι] in
theorem SameButLogs.refl (w : World ι) : SameButLogs w w := ⟨w.db.logs, rfl⟩

omit [DecidableEq ι] in
theorem SameButLogs.trans {w w' w'' : World ι} (h : SameButLogs w w') (h' : SameButLogs w' w'') :
    SameButLogs w w'' := by
  obtain ⟨logs, rfl⟩ := h
  obtain ⟨logs', rfl⟩ := h'
  exact ⟨logs', rfl⟩

omit [DecidableEq ι] in
theorem SameButLogs.symm {w w' : World ι} (h : SameButLogs w w') : SameButLogs w' w := by
  obtain ⟨logs, rfl⟩ := h
  exact ⟨w.db.logs, rfl⟩

/-- **The audit log is never read.**  An operation answers alike in worlds that differ in their
audit logs, and leaves worlds that differ in no more. -/
theorem respond_withLogs (i : ι) (env : Env) (o : Op) {w w' : World ι} (h : SameButLogs w w') :
    (respond i env o w).1 = (respond i env o w').1 ∧
      SameButLogs (respond i env o w).2 (respond i env o w').2 := by
  obtain ⟨logs, rfl⟩ := h
  have hw : SameButLogs w (w.withLogs logs) := ⟨logs, rfl⟩
  cases o with
  | redisGet _ | selectRobotType _ | selectTask _ | selectConfig _ =>
      exact env.fault.strike_alike hw rfl hw
  | redisSet _ _ | redisSetex _ _ _ | updateTask _ _ | delay _ =>
      exact env.fault.strike_alike hw rfl ⟨logs, rfl⟩
  | redisSetNx key value ttl =>
      by_cases hfree : (w.redis key).isNone = true
      · have hfree' : ((w.withLogs logs).redis key).isNone = true := hfree
        rw [respond, respond, if_pos hfree, if_pos hfree']
        exact env.fault.strike_alike hw rfl ⟨logs, rfl⟩
      · have hfree' : ¬ ((w.withLogs logs).redis key).isNone = true := hfree
        rw [respond, respond, if_neg hfree, if_neg hfree']
        exact env.fault.strike_alike hw rfl hw
  | insertTask row =>
      refine env.fault.strike_alike hw ?_ ?_
      · simp only [World.withLogs]
        cases w.db.tasks.violated? row <;> rfl
      · simp only [World.withLogs]
        cases w.db.tasks.violated? row <;> exact ⟨logs, rfl⟩
  | commit pending =>
      refine env.fault.strike_alike hw ?_ ?_
      · simp only [World.commit, World.withLogs]
        rcases foldlM_withLogs (w.sessions i ++ pending) w.db logs with
          ⟨column, h, h'⟩ | ⟨db', logs', h, h'⟩ <;> rw [h, h']
      · simp only [World.commit, World.withLogs]
        rcases foldlM_withLogs (w.sessions i ++ pending) w.db logs with
          ⟨column, h, h'⟩ | ⟨db', logs', h, h'⟩
        · rw [h, h']
          exact ⟨logs, rfl⟩
        · rw [h, h']
          exact ⟨logs', rfl⟩
  | rollback | close =>
      exact env.fault.strike_alike (R := SameButLogs) ⟨logs, rfl⟩ rfl ⟨logs, rfl⟩
  | rcs _ | sign _ _ _ | http _ | now => exact ⟨rfl, logs, rfl⟩

/-! ### One delivery -/

/-- The exception a failing store raises. -/
def Fault.error? : Fault → Option PyExc
  | .none => Option.none
  | .before e | .after e => some e

theorem Fault.error_of_strike {σ α : Type} {f : Fault} {s : σ} {outcome : Except PyExc α × σ}
    {e : PyExc} (h : (f.strike s outcome).1 = .error e) :
    f.error? = some e ∨ outcome.1 = .error e := by
  cases f with
  | none => exact .inr h
  | before e' | after e' => exact .inl (congrArg some (Except.error.inj h))

/-- A delivery at the endpoint, and how the stores answer it.  No store raises the webhook
service's own error. -/
structure Arrival where
  service : WebhookService
  delivery : Delivery
  env : Op → Env := fun _ => {}
  fault_error : ∀ o e, (env o).fault.error? = some e → e.isWebhookSignatureError = false

namespace Arrival

/-- How one operation of the delivery is answered. -/
def respond (a : Arrival) (o : Op) (w : World Unit) : Except PyExc (Ret o) × World Unit :=
  Rcs.respond () (a.env o) o w

/-- What the delivery is answered with, and the world it leaves. -/
def outcome (a : Arrival) (w : World Unit) : Except PyExc WebhookAck × World Unit :=
  (a.service.handleTaskFeedback a.delivery).run a.respond w

end Arrival

/-- The answer to a delivery that has raised `WebhookSignatureError`. -/
def isRefusal : Except PyExc WebhookAck → Bool
  | .ok _ => false
  | .error e => e.isWebhookSignatureError

variable {a : Arrival} {w : World Unit}

/-- No store raises `WebhookSignatureError` during a delivery. -/
theorem Arrival.respond_error {o : Op} {e : PyExc} (ho : o.OfDelivery)
    (h : (a.respond o w).1 = .error e) : e.isWebhookSignatureError = false := by
  have hfault : ∀ {x : Except PyExc (Ret o) × World Unit} {s : World Unit},
      ((a.env o).fault.strike s x).1 = .error e →
      (x.1 = .error e → e.isWebhookSignatureError = false) → e.isWebhookSignatureError = false := by
    intro x s hs hx
    rcases Fault.error_of_strike hs with hf | hok
    · exact a.fault_error o e hf
    · exact hx hok
  cases o with
  | redisSetNx key value ttl =>
      refine hfault h fun hx => ?_
      split at hx <;> cases hx
  | commit pending =>
      refine hfault h fun hx => ?_
      rw [World.commit] at hx
      split at hx
      · cases hx
      · cases hx
        rfl
  | rollback | delay _ => exact hfault h fun hx => by cases hx
  | _ => exact ho.elim

/-- Between two deliveries the session is empty. -/
theorem Arrival.respond_sessions {o : Op} (ho : o.OfDelivery) (hs : w.sessions () = []) :
    (a.respond o w).2.sessions () = [] := by
  have hbase : (Rcs.respond () {} o w).2.sessions () = [] := by
    cases o with
    | redisSetNx key value ttl =>
        simp only [Rcs.respond, Fault.strike]
        split <;> exact hs
    | commit pending =>
        simp only [Rcs.respond, Fault.strike, World.commit]
        split <;> exact World.setSession_self w () []
    | rollback => exact World.setSession_self w () []
    | delay payload => exact hs
    | _ => exact ho.elim
  have hout : ¬ o.Outside := fun h' => by
    cases o with
    | redisSetNx _ _ _ | commit _ | rollback | delay _ => exact h'
    | _ => exact ho.elim
  rcases respond_store () (a.env o) w hout with h | ⟨-, -, h | h⟩
  · rw [respond, h]
    exact hbase
  · rw [respond, h]
    exact hs
  · rw [respond, h]
    exact hbase

theorem Arrival.outcome_sessions (hs : w.sessions () = []) : (a.outcome w).2.sessions () = [] :=
  (handleTaskFeedback_only a.service a.delivery).run_preserves
    (I := fun w : World Unit => w.sessions () = []) (fun _ _ ho h => respond_sessions ho h) hs

/-- A log row is committed, or is not. -/
theorem Arrival.respond_commitLog (row : WebhookLog) (hs : w.sessions () = []) :
    SameButLogs w (a.respond (.commit [.insertLog row]) w).2 := by
  have hcommit : w.commit () [.insertLog row] = (.ok (), w.withLogs (w.db.logs ++ [row])) := by
    have hsessions : Function.update w.sessions () [] = w.sessions := by
      rw [← hs, Function.update_eq_self]
    rw [World.commit, hs, hsessions]
    rfl
  rw [respond, Rcs.respond, hcommit]
  cases (a.env (.commit [.insertLog row])).fault with
  | none | after _ => exact ⟨_, rfl⟩
  | before _ => exact .refl w

theorem Arrival.respond_rollback (hs : w.sessions () = []) :
    SameButLogs w (a.respond .rollback w).2 := by
  rw [respond, Rcs.respond, World.setSession_of_empty hs]
  cases (a.env .rollback).fault with
  | none | before _ | after _ => exact .refl w

/-- Logging a delivery changes the audit log only. -/
theorem Arrival.logEvent_sameButLogs (service : WebhookService) (payload : TaskFeedbackPayload)
    (sigValid duplicate : Bool) (hs : w.sessions () = []) :
    SameButLogs w ((service.logEvent payload sigValid duplicate).run a.respond w).2 := by
  rw [WebhookService.logEvent]
  split
  · rw [run_tryCatch, run_perform]
    have hlog := a.respond_commitLog (webhookLogOf payload sigValid duplicate) hs
    have hsessions : (a.respond (.commit [.insertLog (webhookLogOf payload sigValid duplicate)])
        w).2.sessions () = [] := respond_sessions trivial hs
    generalize a.respond (.commit _) w = r at hlog hsessions ⊢
    obtain ⟨e | u, w'⟩ := r
    · rw [onError_error, run_perform]
      exact hlog.trans (a.respond_rollback hsessions)
    · exact hlog
  · exact .refl w

/-- **A refused delivery** changes the audit log only. -/
theorem Arrival.outcome_refused (hs : w.sessions () = [])
    (h : isRefusal (a.outcome w).1 = true) : SameButLogs w (a.outcome w).2 := by
  rw [outcome, WebhookService.handleTaskFeedback] at h ⊢
  split
  · split
    · rw [bind_eq, run_bind]
      have hlog := a.logEvent_sameButLogs a.service a.delivery.payload false false hs
      generalize (a.service.logEvent a.delivery.payload false false).run a.respond w = r at hlog ⊢
      obtain ⟨e | u, w'⟩ := r
      · exact hlog
      · exact hlog
    · exact .refl w
  · next hok =>
    -- A verified delivery can only raise what a store raises.
    rw [hok] at h
    cases hrun : ((a.service.handleVerified a.delivery.payload).run a.respond w).1 with
    | ok ack =>
        rw [hrun] at h
        cases h
    | error e =>
        rw [hrun] at h
        have he : e.isWebhookSignatureError = false :=
          (handleVerified_raises a.service a.delivery.payload _).run
            (fun _ _ _ ho hx => a.respond_error ho hx) hrun
        rw [isRefusal, he] at h
        cases h

/-! ### A sequence of deliveries -/

/-- What happens at the endpoint: a delivery comes, or a Redis entry expires. -/
inductive HookEvent where
  | deliver (a : Arrival)
  | expire (redisKey : String)

/-- The answers to the deliveries, in their order. -/
def hookAnswers (w : World Unit) : List HookEvent → List (Except PyExc WebhookAck)
  | [] => []
  | .deliver a :: later => (a.outcome w).1 :: hookAnswers (a.outcome w).2 later
  | .expire redisKey :: later => hookAnswers (w.dropRedis redisKey) later

/-- The world after a sequence of events. -/
def hookWorld (w : World Unit) : List HookEvent → World Unit
  | [] => w
  | .deliver a :: later => hookWorld (a.outcome w).2 later
  | .expire redisKey :: later => hookWorld (w.dropRedis redisKey) later

/-- The events without the deliveries that are refused when all of them happen in `w`. -/
def withoutRefused (w : World Unit) : List HookEvent → List HookEvent
  | [] => []
  | .deliver a :: later =>
      if isRefusal (a.outcome w).1 then withoutRefused (a.outcome w).2 later
      else .deliver a :: withoutRefused (a.outcome w).2 later
  | .expire redisKey :: later => .expire redisKey :: withoutRefused (w.dropRedis redisKey) later

/-- A delivery answers alike in worlds that differ in their audit logs. -/
theorem Arrival.outcome_withLogs {w' : World Unit} (h : SameButLogs w w') :
    (a.outcome w).1 = (a.outcome w').1 ∧ SameButLogs (a.outcome w).2 (a.outcome w').2 :=
  (only_true _).run_alike (fun o _ _ _ hs => respond_withLogs () (a.env o) o hs) h

theorem withoutRefused_alike (events : List HookEvent) {w w' : World Unit}
    (hs : w.sessions () = []) (h : SameButLogs w w') :
    hookAnswers w' (withoutRefused w events) =
        (hookAnswers w events).filter (fun answer => !isRefusal answer) ∧
      SameButLogs (hookWorld w events) (hookWorld w' (withoutRefused w events)) := by
  induction events generalizing w w' with
  | nil => exact ⟨rfl, h⟩
  | cons event later ih =>
      cases event with
      | expire redisKey =>
          obtain ⟨logs, rfl⟩ := h
          exact ih (w := w.dropRedis redisKey) hs ⟨logs, rfl⟩
      | deliver a =>
          have hs' := a.outcome_sessions hs
          rw [hookAnswers, hookWorld, withoutRefused]
          cases hrefused : isRefusal (a.outcome w).1 with
          | true =>
              rw [if_pos rfl, List.filter_cons_of_neg (by simp [hrefused])]
              exact ih hs' ((a.outcome_refused hs hrefused).symm.trans h)
          | false =>
              obtain ⟨hanswer, hworld⟩ := a.outcome_withLogs h
              obtain ⟨hanswers, hend⟩ := ih hs' hworld
              rw [if_neg Bool.false_ne_true, List.filter_cons_of_pos (by simp [hrefused]),
                hookAnswers, hookWorld, ← hanswer, hanswers]
              exact ⟨rfl, hend⟩

/-- **Forgeries change the audit log only.**  Take any sequence of deliveries and expiries, each
delivery with its own answers from the stores, and leave out those that raise
`WebhookSignatureError`: the others are answered as before, and the world (Redis, the queue, the
tables) is the same except for the audit log. -/
theorem forgeries_change_logs_only {w : World Unit} (hs : w.sessions () = [])
    (events : List HookEvent) :
    hookAnswers w (withoutRefused w events) =
        (hookAnswers w events).filter (fun answer => !isRefusal answer) ∧
      ∃ logs, hookWorld w (withoutRefused w events) = (hookWorld w events).withLogs logs :=
  withoutRefused_alike events hs (.refl w)

/-- A delivery that arrives while no store fails. -/
def Arrival.sound (service : WebhookService) (delivery : Delivery) : Arrival where
  service := service
  delivery := delivery
  fault_error _ _ h := by cases h

/-- The event of `sampleDelivery`, with a signature made up by its sender. -/
def forgedDelivery : Delivery := { sampleDelivery with signature := some "00" }

/-- A forgery comes first, then the event itself, then the forgery again. -/
def forgedAround : List HookEvent :=
  [.deliver (.sound sampleService forgedDelivery), .deliver (.sound sampleService sampleDelivery),
    .deliver (.sound sampleService forgedDelivery)]

/-- The genuine delivery is enqueued, with the forgeries and without them. -/
theorem forgeries_change_logs_only_around :
    (withoutRefused {} forgedAround).length = 1 ∧
    hookAnswers {} (withoutRefused {} forgedAround) = (hookAnswers {} forgedAround).filter
      (fun answer => !isRefusal answer) ∧
    ∃ logs, hookWorld {} (withoutRefused {} forgedAround) =
      (hookWorld {} forgedAround).withLogs logs :=
  ⟨by decide, forgeries_change_logs_only rfl forgedAround⟩

end Rcs

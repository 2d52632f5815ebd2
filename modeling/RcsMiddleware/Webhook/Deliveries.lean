import RcsMiddleware.Source.WebhookService

/-!
# Webhook — Deliveries

The shape of a delivery whose signature is valid: it claims its dedupe key; with the key claimed it
logs and enqueues its payload, and with the key found claimed it logs.  `Arriving payload p` says
that `p` has this shape, `Publishing payload p` that `p` is what is left once the key is claimed,
and `Prog.Only Op.Sql p` holds of what is left of a duplicate.

* `handleTaskFeedback_arriving`: a validly signed delivery has the shape.
* `handleTaskFeedback_only`: the operations of a delivery, whatever its signature.
-/

namespace Rcs

open Support Support.Text

/-- The dedupe key of a payload. -/
def TaskFeedbackPayload.dedupeKey (payload : TaskFeedbackPayload) : String :=
  webhookDedupeKey payload.robotTaskCode payload.method

/-- The payloads are about one event: the same task code and method. -/
def TaskFeedbackPayload.SameEvent (p q : TaskFeedbackPayload) : Prop :=
  p.robotTaskCode = q.robotTaskCode ∧ p.method = q.method

instance (p q : TaskFeedbackPayload) : Decidable (p.SameEvent q) :=
  inferInstanceAs (Decidable (_ ∧ _))

/-- What is left of a delivery that has claimed its key: it works on the database, and enqueues
its payload. -/
inductive Publishing (payload : TaskFeedbackPayload) : M WebhookAck → Prop where
  | sql {o : Op} {k : Except PyExc (Ret o) → M WebhookAck} (ho : o.Sql)
      (hk : ∀ r, Publishing payload (k r)) : Publishing payload (.op o k)
  | delay {k : Except PyExc Unit → M WebhookAck} (hok : ∃ ack, k (.ok ()) = .ret ack)
      (herr : ∀ e, ∃ e', k (.error e) = .raise e') : Publishing payload (.op (.delay payload) k)
  | raise (e : PyExc) : Publishing payload (.raise e)

/-- A delivery at its `SET NX`. -/
inductive Arriving (payload : TaskFeedbackPayload) : M WebhookAck → Prop where
  | mk {value : RedisValue} {ttl : Nat} {k : Except PyExc Bool → M WebhookAck}
      (hfirst : Publishing payload (k (.ok true))) (hdup : Prog.Only Op.Sql (k (.ok false)))
      (herr : ∀ e, ∃ e', k (.error e) = .raise e') :
      Arriving payload (.op (.redisSetNx payload.dedupeKey value ttl) k)

theorem Publishing.of_only {payload : TaskFeedbackPayload} {p : M Unit} (hp : Prog.Only Op.Sql p)
    {f : Unit → M WebhookAck} (hf : ∀ a, Publishing payload (f a)) :
    Publishing payload (p.bind f) := by
  induction hp with
  | ret a => exact hf a
  | raise e => exact .raise e
  | op ho _ ih => exact .sql ho ih

theorem logEvent_only (service : WebhookService) (payload : TaskFeedbackPayload)
    (sigValid duplicate : Bool) :
    Prog.Only Op.Sql (service.logEvent payload sigValid duplicate) := by
  unfold WebhookService.logEvent
  split
  · exact .tryCatch (.perform trivial) fun _ => .perform trivial
  · exact .ret ()

theorem handleVerified_arriving (service : WebhookService) (payload : TaskFeedbackPayload) :
    Arriving payload (service.handleVerified payload) := by
  refine .mk ?_ ?_ fun e => ⟨e, rfl⟩
  · show Publishing payload ((service.logEvent payload true false).bind _)
    refine .of_only (logEvent_only service payload true false) fun _ => ?_
    exact .delay ⟨_, rfl⟩ fun e => ⟨e, rfl⟩
  · show Prog.Only Op.Sql ((service.logEvent payload true true).bind _)
    exact .bind (logEvent_only service payload true true) fun _ => .ret _

/-- A validly signed delivery claims its dedupe key. -/
theorem handleTaskFeedback_arriving {service : WebhookService} {delivery : Delivery}
    (h : service.verifyWebhookSignature delivery.rawBody delivery.signature = .ok ()) :
    Arriving delivery.payload (service.handleTaskFeedback delivery) := by
  unfold WebhookService.handleTaskFeedback
  rw [h]
  exact handleVerified_arriving service delivery.payload

/-! ### The operations of a delivery -/

/-- An operation of a delivery. -/
def Op.OfDelivery : Op → Prop
  | .redisSetNx _ _ _ | .commit _ | .rollback | .delay _ => True
  | _ => False

theorem logEvent_raises (service : WebhookService) (payload : TaskFeedbackPayload)
    (sigValid duplicate : Bool) (E : PyExc → Prop) :
    Prog.RaisesOnly Op.OfDelivery E (service.logEvent payload sigValid duplicate) := by
  rw [WebhookService.logEvent]
  split
  · exact .tryCatch (.perform trivial) fun _ _ => .perform trivial
  · exact .ret ()

/-- A verified delivery raises what its stores raise. -/
theorem handleVerified_raises (service : WebhookService) (payload : TaskFeedbackPayload)
    (E : PyExc → Prop) : Prog.RaisesOnly Op.OfDelivery E (service.handleVerified payload) := by
  refine .bind (.perform trivial) fun first => ?_
  cases first with
  | true =>
      refine .bind (logEvent_raises service payload true false E) fun _ => ?_
      exact .bind (.perform trivial) fun _ => .ret _
  | false => exact .bind (logEvent_raises service payload true true E) fun _ => .ret _

/-- A delivery performs the operations of a delivery. -/
theorem handleTaskFeedback_only (service : WebhookService) (delivery : Delivery) :
    Prog.Only Op.OfDelivery (service.handleTaskFeedback delivery) := by
  rw [WebhookService.handleTaskFeedback]
  split
  · split
    · exact .bind (logEvent_raises _ _ _ _ _).only fun _ => .raise _
    · exact .raise _
  · exact (handleVerified_raises service delivery.payload _).only

end Rcs

import RcsMiddleware.Support.Observers
import RcsMiddleware.Webhook.Deliveries

/-!
# Webhook — Windows

What an acknowledged delivery may rely on.  The dedupe window of a key runs from the `SET NX` that
set its marker; a delivery that finds the marker is acknowledged as a duplicate, whether or not the
delivery that set it has enqueued anything, or ever will (`acknowledged_not_enqueued`).

**An acknowledged event is enqueued** in its window (`acknowledged_is_enqueued`), in every run in
which a delivery only finds a marker set by a delivery of the same event that has enqueued it.
-/

namespace Rcs

open Support Support.Text

variable {ι : Type} [DecidableEq ι]

/-! ### Windows -/

/-- What an observer knows of the dedupe windows: who set the marker of a key, what has been
enqueued since, and what has been enqueued since the marker was set that a delivery set or
found. -/
structure Windows (ι : Type) where
  setter : String → Option ι := fun _ => none
  since : String → List TaskFeedbackPayload := fun _ => []
  met : ι → List TaskFeedbackPayload := fun _ => []

/-- The entry `key` appears. -/
def appears (key : String) (w w' : World ι) : Bool := (w.redis key).isNone && (w'.redis key).isSome

/-- The payloads a step enqueues. -/
def enqueuedBetween (w w' : World ι) : List TaskFeedbackPayload :=
  (w'.queue.drop w.queue.length).map Prod.snd

/-- `setter`, after a step of process `i`. -/
def Windows.setterAfter (γ : Windows ι) (i : ι) (w w' : World ι) (key : String) : Option ι :=
  if appears key w w' then some i else γ.setter key

/-- `since`, after a step. -/
def Windows.sinceAfter (γ : Windows ι) (w w' : World ι) (key : String) :
    List TaskFeedbackPayload :=
  if appears key w w' then [] else γ.since key ++ enqueuedBetween w w'

/-- An observer of the dedupe windows. -/
def windowObserver : Observer ι Op Ret PyExc (World ι) (Windows ι) where
  step γ i o w _ w' :=
    { setter := γ.setterAfter i w w'
      since := γ.sinceAfter w w'
      met := fun j =>
        match o with
        | .redisSetNx key _ _ =>
            if j = i then γ.sinceAfter w w' key else γ.met j ++ enqueuedBetween w w'
        | _ => γ.met j ++ enqueuedBetween w w' }
  env γ _ _ := γ

/-- The configurations of deliveries under the observer. -/
abbrev WatchedConfig (ι : Type) := Config ι Op Ret PyExc WebhookAck (World ι × Windows ι)

/-- Process `i` has enqueued a payload. -/
def HasEnqueued (w : World ι) (i : ι) : Prop := i ∈ w.queue.map Prod.fst

/-- The list holds a payload of the event. -/
def Carries (payload : TaskFeedbackPayload) (l : List TaskFeedbackPayload) : Prop :=
  ∃ p ∈ l, p.SameEvent payload

instance (w : World ι) (i : ι) : Decidable (HasEnqueued w i) :=
  inferInstanceAs (Decidable (i ∈ w.queue.map Prod.fst))

instance (payload : TaskFeedbackPayload) (l : List TaskFeedbackPayload) :
    Decidable (Carries payload l) := inferInstanceAs (Decidable (∃ p ∈ l, p.SameEvent payload))

/-- The key a `SET NX` is about. -/
def Op.setNxKey? : Op → Option String
  | .redisSetNx key _ _ => some key
  | _ => none

/-- A `SET NX` that finds a marker finds one set by a delivery of the same event that has
enqueued its payload. -/
def FindsEnqueued (payload : ι → TaskFeedbackPayload) :
    Guard ι Op Ret PyExc WebhookAck (World ι × Windows ι) := fun c e _ =>
  ∀ key ∈ e.op.setNxKey?, (c.shared.1.redis key).isSome = true →
    ∃ j, c.shared.2.setter key = some j ∧ HasEnqueued c.shared.1 j ∧
      (payload j).SameEvent (payload e.pid)

instance [Fintype ι] (payload : ι → TaskFeedbackPayload) (c : WatchedConfig ι)
    (e : Event ι Op Ret PyExc) (c' : WatchedConfig ι) : Decidable (FindsEnqueued payload c e c') :=
  inferInstanceAs (Decidable (∀ key ∈ e.op.setNxKey?, (c.shared.1.redis key).isSome = true →
    ∃ j, c.shared.2.setter key = some j ∧ HasEnqueued c.shared.1 j ∧
      (payload j).SameEvent (payload e.pid)))

/-! ### One step of the observer -/

variable {w w' : World ι} {γ : Windows ι} {payload : TaskFeedbackPayload}
  {l : List TaskFeedbackPayload}

omit [DecidableEq ι] in
theorem appears_of_same {key : String} (h : w'.redis key = w.redis key) :
    appears key w w' = false := by
  rw [appears, h]
  cases w.redis key <;> rfl

omit [DecidableEq ι] in
theorem appears_setRedis {key : String} {value : RedisValue} (h : w.redis key = none)
    (key' : String) : appears key' w (w.setRedis key value) = decide (key' = key) := by
  by_cases hk : key' = key
  · subst hk
    simp [appears, h]
  · rw [appears_of_same (by simp [Function.update_of_ne hk]), decide_eq_false hk]

omit [DecidableEq ι] in
theorem enqueuedBetween_of_same (h : w'.queue = w.queue) : enqueuedBetween w w' = [] := by
  rw [enqueuedBetween, h, List.drop_length]
  rfl

omit [DecidableEq ι] in
theorem enqueuedBetween_append {i : ι} (h : w'.queue = w.queue ++ [(i, payload)]) :
    enqueuedBetween w w' = [payload] := by
  rw [enqueuedBetween, h, List.drop_left]
  rfl

omit [DecidableEq ι] in
theorem sinceAfter_of_same {key : String} (hr : w'.redis key = w.redis key)
    (hq : w'.queue = w.queue) : γ.sinceAfter w w' key = γ.since key := by
  rw [Windows.sinceAfter, appears_of_same hr, enqueuedBetween_of_same hq, List.append_nil]
  rfl

/-- A step on the database changes no window. -/
theorem windowObserver_sql {i : ι} {o : Op} {r : Except PyExc (Ret o)} (ho : o.Sql)
    (hr : w'.redis = w.redis) (hq : w'.queue = w.queue) :
    windowObserver.step γ i o w r w' = γ := by
  have hsetter : γ.setterAfter i w w' = γ.setter := by
    funext key
    rw [Windows.setterAfter, appears_of_same (congrFun hr key)]
    rfl
  have hsince : γ.sinceAfter w w' = γ.since := by
    funext key
    exact sinceAfter_of_same (congrFun hr key) hq
  have hmet : (fun j => γ.met j ++ enqueuedBetween w w') = γ.met := by
    funext j
    rw [enqueuedBetween_of_same hq, List.append_nil]
  cases o with
  | redisSetNx _ _ _ => exact ho.elim
  | _ => simp only [windowObserver, hsetter, hsince, hmet]

theorem Carries.append (h : Carries payload l) (new : List TaskFeedbackPayload) :
    Carries payload (l ++ new) := by
  obtain ⟨p, hp, hs⟩ := h
  exact ⟨p, List.mem_append_left _ hp, hs⟩

theorem carries_last (l : List TaskFeedbackPayload) (payload : TaskFeedbackPayload) :
    Carries payload (l ++ [payload]) :=
  ⟨payload, List.mem_append_right _ (List.mem_singleton_self _), rfl, rfl⟩

/-! ### What every state satisfies -/

/-- Where a delivery stands, with what has been enqueued in the window it met. -/
inductive DeliveryAt (payload : TaskFeedbackPayload) (enqueued : Prop)
    (met : List TaskFeedbackPayload) : M WebhookAck → Prop where
  | arriving {p : M WebhookAck} (hp : Arriving payload p) (hq : ¬ enqueued) :
      DeliveryAt payload enqueued met p
  | publishing {p : M WebhookAck} (hp : Publishing payload p) : DeliveryAt payload enqueued met p
  | settled {p : M WebhookAck} (hp : Prog.Only Op.Sql p) (hm : Carries payload met) :
      DeliveryAt payload enqueued met p

theorem DeliveryAt.mono {enqueued enqueued' : Prop} {p : M WebhookAck}
    (h : DeliveryAt payload enqueued l p) (hq : enqueued' → enqueued)
    (new : List TaskFeedbackPayload) : DeliveryAt payload enqueued' (l ++ new) p := by
  cases h with
  | arriving hp hnot => exact .arriving hp fun hq' => hnot (hq hq')
  | publishing hp => exact .publishing hp
  | settled hp hm => exact .settled hp (hm.append new)

/-- Every delivery stands somewhere, and a delivery that set a marker and has enqueued its payload
has done so since. -/
structure WindowInv (payload : ι → TaskFeedbackPayload) (c : WatchedConfig ι) : Prop where
  stands : ∀ i, DeliveryAt (payload i) (HasEnqueued c.shared.1 i) (c.shared.2.met i) (c.procs i)
  claimed : ∀ key j, c.shared.2.setter key = some j → HasEnqueued c.shared.1 j →
    Carries (payload j) (c.shared.2.since key)

variable {payloads : ι → TaskFeedbackPayload} {c c' : WatchedConfig ι}
  {e : Event ι Op Ret PyExc} {expires : String → Prop}

/-- One delivery moves on; the others stand where they were, and may meet more. -/
theorem WindowInv.stands_update (h : WindowInv payloads c) {i : ι} {p : M WebhookAck}
    {met : ι → List TaskFeedbackPayload}
    (hq : ∀ j, j ≠ i → HasEnqueued w' j → HasEnqueued c.shared.1 j)
    (hmet : ∀ j, j ≠ i → ∃ new, met j = c.shared.2.met j ++ new)
    (hi : DeliveryAt (payloads i) (HasEnqueued w' i) (met i) p) (j : ι) :
    DeliveryAt (payloads j) (HasEnqueued w' j) (met j) (Function.update c.procs i p j) := by
  refine (Function.forall_update_iff c.procs fun j p =>
    DeliveryAt (payloads j) (HasEnqueued w' j) (met j) p).mpr ⟨hi, fun j hj => ?_⟩ j
  obtain ⟨new, hnew⟩ := hmet j hj
  rw [hnew]
  exact (h.stands j).mono (hq j hj) new

omit [DecidableEq ι] in
/-- A step that sets no marker and enqueues nothing leaves the markers answered for. -/
theorem WindowInv.claimed_same (h : WindowInv payloads c) {i : ι}
    (hr : w'.redis = c.shared.1.redis) (hq : w'.queue = c.shared.1.queue) (key : String) (j : ι)
    (hj : c.shared.2.setterAfter i c.shared.1 w' key = some j) (hen : HasEnqueued w' j) :
    Carries (payloads j) (c.shared.2.sinceAfter c.shared.1 w' key) := by
  have hsame := congrFun hr key
  rw [Windows.setterAfter, appears_of_same hsame] at hj
  rw [sinceAfter_of_same hsame hq]
  rw [HasEnqueued, hq] at hen
  exact h.claimed key j hj hen

/-- A `SET NX`: it fails, finds the marker, or sets it. -/
theorem WindowInv.step_arriving (h : WindowInv payloads c) (hG : FindsEnqueued payloads c e c')
    (hs : Step ((system expires).watch windowObserver) c e c')
    (hp : Arriving (payloads e.pid) (c.procs e.pid)) (hnot : ¬ HasEnqueued c.shared.1 e.pid) :
    WindowInv payloads c' := by
  generalize hc : c.procs e.pid = p at hp
  obtain @⟨value, ttl, k, hfirst, hdup, herr⟩ := hp
  obtain ⟨r, w', he, hx, rfl⟩ := hs.watch_at hc
  have hother : ∀ j, j ≠ e.pid → ∃ new, (windowObserver.step c.shared.2 e.pid
      (.redisSetNx (payloads e.pid).dedupeKey value ttl) c.shared.1 r w').met j =
        c.shared.2.met j ++ new := fun j hj => ⟨_, if_neg hj⟩
  have hself : (windowObserver.step c.shared.2 e.pid
      (.redisSetNx (payloads e.pid).dedupeKey value ttl) c.shared.1 r w').met e.pid =
        c.shared.2.sinceAfter c.shared.1 w' (payloads e.pid).dedupeKey := if_pos rfl
  rcases exec_redisSetNx hx with ⟨rfl, x, rfl⟩ | ⟨rfl, rfl, hkey⟩ | ⟨rfl, hr, hkey⟩
  · obtain ⟨x', hx'⟩ := herr x
    refine ⟨h.stands_update (fun _ _ => id) hother ?_, h.claimed_same rfl rfl⟩
    rw [hx']
    exact .publishing (.raise x')
  · refine ⟨h.stands_update (fun _ _ => id) hother ?_, h.claimed_same rfl rfl⟩
    -- The marker was set by a delivery of the same event that has enqueued it since.
    rw [he] at hG
    obtain ⟨j, hset, hj, hsame⟩ := hG _ rfl hkey
    obtain ⟨q, hq, hqj⟩ := h.claimed _ j hset hj
    rw [hself, sinceAfter_of_same rfl rfl]
    exact .settled hdup ⟨q, hq, hqj.1.trans hsame.1, hqj.2.trans hsame.2⟩
  · refine ⟨h.stands_update (fun _ _ => id) hother ?_, fun key j hj hen => ?_⟩
    · rcases hr with rfl | ⟨x, rfl⟩
      · exact .publishing hfirst
      · obtain ⟨x', hx'⟩ := herr x
        rw [hx']
        exact .publishing (.raise x')
    · change c.shared.2.setterAfter e.pid c.shared.1 _ key = some j at hj
      show Carries (payloads j) (c.shared.2.sinceAfter c.shared.1 _ key)
      rw [Windows.setterAfter, appears_setRedis hkey] at hj
      have hadd : enqueuedBetween c.shared.1
          (c.shared.1.setRedis (payloads e.pid).dedupeKey value) = [] := enqueuedBetween_of_same rfl
      rw [Windows.sinceAfter, appears_setRedis hkey, hadd]
      by_cases hk : key = (payloads e.pid).dedupeKey
      · -- Its setter is the delivery itself, which has enqueued nothing.
        rw [decide_eq_true hk, if_pos rfl] at hj
        cases hj
        exact absurd hen hnot
      · rw [decide_eq_false hk, if_neg Bool.false_ne_true] at hj ⊢
        exact (h.claimed key j hj hen).append []

/-- A step on the database moves its delivery on, and nothing else. -/
theorem WindowInv.step_sql (h : WindowInv payloads c) {o : Op}
    {k : Except PyExc (Ret o) → M WebhookAck}
    (hs : Step ((system expires).watch windowObserver) c e c') (ho : o.Sql)
    (hp : c.procs e.pid = .op o k)
    (hk : ∀ r, DeliveryAt (payloads e.pid) (HasEnqueued c.shared.1 e.pid) (c.shared.2.met e.pid)
      (k r)) : WindowInv payloads c' := by
  obtain ⟨r, w', -, hx, rfl⟩ := hs.watch_at hp
  obtain ⟨hredis, -, hqueue⟩ := exec_sql hx ho
  have hen : ∀ j, HasEnqueued w' j ↔ HasEnqueued c.shared.1 j := fun j => by
    rw [HasEnqueued, HasEnqueued, hqueue]
  rw [windowObserver_sql ho hredis hqueue]
  refine ⟨h.stands_update (fun j _ => (hen j).mp) (fun j _ => ⟨[], (List.append_nil _).symm⟩) ?_,
    fun key j hj hq => h.claimed key j hj ((hen j).mp hq)⟩
  have hi := (hk r).mono (hen e.pid).mp []
  rwa [List.append_nil] at hi

/-- An enqueue adds to every window. -/
theorem WindowInv.step_delay (h : WindowInv payloads c)
    {k : Except PyExc Unit → M WebhookAck}
    (hs : Step ((system expires).watch windowObserver) c e c')
    (hp : c.procs e.pid = .op (.delay (payloads e.pid)) k) (hok : ∃ ack, k (.ok ()) = .ret ack)
    (herr : ∀ e, ∃ e', k (.error e) = .raise e') : WindowInv payloads c' := by
  obtain ⟨r, w', -, hx, rfl⟩ := hs.watch_at hp
  rcases exec_delay hx with ⟨rfl, x, rfl⟩ | rfl
  · obtain ⟨x', hx'⟩ := herr x
    refine ⟨h.stands_update (fun _ _ => id) (fun j _ => ⟨_, rfl⟩) ?_, h.claimed_same rfl rfl⟩
    rw [hx']
    exact .publishing (.raise x')
  · have hnew : ∀ j, HasEnqueued { c.shared.1 with
        queue := c.shared.1.queue ++ [(e.pid, payloads e.pid)] } j →
          HasEnqueued c.shared.1 j ∨ j = e.pid := by
      intro j hj
      rw [HasEnqueued, List.map_append] at hj
      exact (List.mem_append.mp hj).imp_right List.mem_singleton.mp
    have hadd : enqueuedBetween c.shared.1 { c.shared.1 with
        queue := c.shared.1.queue ++ [(e.pid, payloads e.pid)] } = [payloads e.pid] :=
      enqueuedBetween_append rfl
    have hsame : ∀ key, appears key c.shared.1 { c.shared.1 with
        queue := c.shared.1.queue ++ [(e.pid, payloads e.pid)] } = false := fun key =>
      appears_of_same rfl
    refine ⟨h.stands_update (fun j hj hen => (hnew j hen).resolve_right hj)
      (fun j _ => ⟨_, rfl⟩) ?_, fun key j hj hen => ?_⟩
    · cases r with
      | ok u =>
          obtain ⟨ack, hack⟩ := hok
          rw [show k (.ok u) = .ret ack from hack]
          refine .settled (.ret ack) ?_
          show Carries _ (c.shared.2.met e.pid ++ enqueuedBetween c.shared.1 _)
          rw [hadd]
          exact carries_last _ _
      | error x =>
          obtain ⟨x', hx'⟩ := herr x
          rw [hx']
          exact .publishing (.raise x')
    · change c.shared.2.setterAfter e.pid c.shared.1 _ key = some j at hj
      show Carries (payloads j) (c.shared.2.sinceAfter c.shared.1 _ key)
      rw [Windows.setterAfter, hsame] at hj
      rw [Windows.sinceAfter, hsame, hadd]
      by_cases hje : j = e.pid
      · subst hje
        exact carries_last _ _
      · exact (h.claimed key j hj ((hnew j hen).resolve_right hje)).append _

/-- **One step.** -/
theorem WindowInv.step (h : WindowInv payloads c) (hG : FindsEnqueued payloads c e c')
    (hs : Step ((system expires).watch windowObserver) c e c') : WindowInv payloads c' := by
  have hi := h.stands e.pid
  generalize hp : c.procs e.pid = p at hi
  cases hi with
  | arriving ha hnot => exact h.step_arriving hG hs (hp ▸ ha) hnot
  | publishing hpub =>
      cases hpub with
      | sql ho hk => exact h.step_sql hs ho hp fun r => .publishing (hk r)
      | delay hok herr => exact h.step_delay hs hp hok herr
      | raise x => exact absurd hp hs.not_raise
  | settled honly hm =>
      cases honly with
      | ret a => exact absurd hp hs.not_ret
      | raise x => exact absurd hp hs.not_raise
      | op ho hk => exact h.step_sql hs ho hp fun r => .settled (hk r) hm

/-- **An acknowledged event is enqueued**, in the window that the delivery opened or met. -/
theorem acknowledged_is_enqueued {service : WebhookService} {delivery : ι → Delivery}
    (hvalid : ∀ i, service.verifyWebhookSignature (delivery i).rawBody (delivery i).signature =
      .ok ()) {w : World ι} (hqueue : w.queue = []) {c : WatchedConfig ι}
    (h : Run ((system expires).watch windowObserver) (FindsEnqueued fun i => (delivery i).payload)
      (.start (w, {}) fun i => service.handleTaskFeedback (delivery i)) c) {i : ι}
    {ack : WebhookAck} (hack : c.procs i = .ret ack) :
    Carries (delivery i).payload (c.shared.2.met i) := by
  have hnone : ∀ i, ¬ HasEnqueued w i := fun i hi => by
    rw [HasEnqueued, hqueue] at hi
    cases hi
  have hstart : WindowInv (fun i => (delivery i).payload)
      (.start (w, {}) fun i => service.handleTaskFeedback (delivery i)) :=
    ⟨fun i => .arriving (handleTaskFeedback_arriving (hvalid i)) (hnone i), fun key j hj => by
      cases hj⟩
  have hinv : WindowInv (fun i => (delivery i).payload) c := by
    refine Run.watched_invariant h (fun d d' e hd hG hs => hd.step hG hs) ?_ hstart
    rintro d w' hd ⟨key, -, rfl⟩
    exact ⟨hd.stands, hd.claimed⟩
  have hi := hinv.stands i
  rw [hack] at hi
  cases hi with
  | arriving ha _ => cases ha
  | publishing hp => cases hp
  | settled _ hm => exact hm

/-! ### Two deliveries of one event -/

/-- A service whose secret is `secret`, on the body of `sampleDelivery`. -/
def sampleService : WebhookService where
  computeWebhookSignature _ := "272325caf1e61d13b0221f1185ee8df6a99e0c231d76bd204a603cd9e91c25d5"

/-- The delivery of an `outbin` of the task `T7`. -/
def sampleDelivery : Delivery where
  rawBody := "\x7b\"robotTaskCode\": \"T7\", \"method\": \"outbin\"\x7d".toUTF8
  signature := some "272325caf1e61d13b0221f1185ee8df6a99e0c231d76bd204a603cd9e91c25d5"
  payload := ⟨"T7", "outbin", none, none, none, none, [], by decide, by decide⟩

/-- Redis answers, the log is written, and the broker refuses; then the event is delivered
again. -/
def brokerRefuses : List (Bool × Env) :=
  [(false, {}), (false, {}), (false, { fault := .before (.storeError "broker unreachable") }),
    (true, {}), (true, {})]

/-- One delivery runs to its end before the other begins. -/
def deliveredTwice : List (Bool × Env) :=
  [(false, {}), (false, {}), (false, {}), (true, {}), (true, {})]

theorem sampleDelivery_valid : sampleService.verifyWebhookSignature sampleDelivery.rawBody
    sampleDelivery.signature = .ok () := by
  rfl

theorem acknowledged_is_enqueued_twice :
    ∃ c, Run ((system fun _ => False).watch windowObserver)
        (FindsEnqueued fun _ => sampleDelivery.payload)
        (.start ({}, {}) fun _ : Bool => sampleService.handleTaskFeedback sampleDelivery) c ∧
      ∃ ack, c.procs true = .ret ack ∧ Carries sampleDelivery.payload (c.shared.2.met true) := by
  obtain ⟨c, hc, hdone⟩ : ∃ c, Run ((system fun _ => False).watch windowObserver)
      (FindsEnqueued fun _ => sampleDelivery.payload)
      (.start ({}, {}) fun _ : Bool => sampleService.handleTaskFeedback sampleDelivery) c ∧
      (c.procs true).returned = true := watched_run_of_schedule deliveredTwice (by decide)
  obtain ⟨ack, hack⟩ := Prog.exists_ret_of_returned hdone
  exact ⟨c, hc, ack, hack, acknowledged_is_enqueued (fun _ => sampleDelivery_valid) rfl hc hack⟩

/-- **An acknowledged event is not enqueued.**  The enqueue of the first delivery fails, and the
second finds its marker: it is acknowledged, and nothing has been enqueued since. -/
theorem acknowledged_not_enqueued :
    ∃ c, Run ((system fun _ => False).watch windowObserver) unguarded
        (.start ({}, {}) fun _ : Bool => sampleService.handleTaskFeedback sampleDelivery) c ∧
      (c.procs true).returned = true ∧ ¬ Carries sampleDelivery.payload (c.shared.2.met true) :=
  watched_run_of_schedule brokerRefuses (by decide)

end Rcs

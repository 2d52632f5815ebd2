import RcsMiddleware.Webhook.Windows

/-!
# Webhook — Suppression

What a delivery that is answered as a duplicate has met.  Of a payload only the dedupe key is
compared, which is made of the task code and the method: a delivery with another position, robot or
error text is suppressed as well (`moved_suppressed`).

* `markerObserver`: who set the marker that stands under a key, and whose marker a delivery found.
* `MarkerInv`: a marker that stands was set by a delivery of its key, which is yet to publish its
  payload, has enqueued it, or has raised.
* `duplicate_only_after`: a delivery is answered as a duplicate only after another delivery of its
  key, and a delivery that is not has enqueued its payload.
-/

namespace Rcs

open Support Support.Text

/-! ### Markers -/

/-- What an observer knows of the markers: which delivery set the one that stands under a key, and
which delivery set the one that a delivery found. -/
structure Markers (ι : Type) where
  setter : String → Option ι := fun _ => none
  found : ι → Option ι := fun _ => none

variable {ι : Type} [DecidableEq ι]

/-- An observer of the markers.  A marker that expires has no setter any more. -/
def markerObserver : Observer ι Op Ret PyExc (World ι) (Markers ι) where
  step γ i o w r w' :=
    { setter := fun key => if appears key w w' then some i else γ.setter key
      found :=
        match o, r with
        | .redisSetNx key _ _, .ok false => Function.update γ.found i (γ.setter key)
        | _, _ => γ.found }
  env γ _ w' :=
    { γ with setter := fun key => if (w'.redis key).isSome then γ.setter key else none }

variable {w w' : World ι} {γ : Markers ι} {i : ι}

omit [DecidableEq ι] in
/-- Where no entry appears, no marker is set. -/
theorem setter_same (hr : w'.redis = w.redis) :
    (fun key => if appears key w w' then some i else γ.setter key) = γ.setter := by
  funext key
  rw [appears_of_same (congrFun hr key)]
  rfl

/-- An operation that claims no key changes no note, when no entry appears. -/
theorem markerObserver_same {o : Op} {r : Except PyExc (Ret o)} (hr : w'.redis = w.redis)
    (ho : o.setNxKey? = none) : markerObserver.step γ i o w r w' = γ := by
  cases o with
  | redisSetNx _ _ _ => cases ho
  | _ => simp only [markerObserver, setter_same hr]

/-- A `SET NX` that raises without effect changes no note. -/
theorem markerObserver_raised {key : String} {value : RedisValue} {ttl : Nat} {x : PyExc} :
    markerObserver.step γ i (.redisSetNx key value ttl) w (.error x) w = γ := by
  simp only [markerObserver, setter_same]

/-- A `SET NX` that finds a marker: the delivery has found it. -/
theorem markerObserver_found {key : String} {value : RedisValue} {ttl : Nat} :
    markerObserver.step γ i (.redisSetNx key value ttl) w (.ok false) w =
      { γ with found := Function.update γ.found i (γ.setter key) } := by
  simp only [markerObserver, setter_same]

/-- A `SET NX` on a free key: the delivery has set its marker. -/
theorem markerObserver_set {key : String} {value : RedisValue} {ttl : Nat}
    {r : Except PyExc Bool} (hr : r = .ok true ∨ ∃ x, r = .error x) (hkey : w.redis key = none) :
    markerObserver.step γ i (.redisSetNx key value ttl) w r (w.setRedis key value) =
      { γ with setter := Function.update γ.setter key (some i) } := by
  have hsetter : (fun key' => if appears key' w (w.setRedis key value) then some i
      else γ.setter key') = Function.update γ.setter key (some i) := by
    funext key'
    rw [appears_setRedis hkey, Function.update_apply]
    by_cases hk : key' = key
    · rw [decide_eq_true hk, if_pos rfl, if_pos hk]
    · rw [decide_eq_false hk, if_neg Bool.false_ne_true, if_neg hk]
  rcases hr with rfl | ⟨x, rfl⟩ <;> simp only [markerObserver, hsetter]

/-! ### How a delivery answers -/

/-- A delivery at its `SET NX` that answers as the `SET NX` says. -/
inductive Judged : M WebhookAck → Prop where
  | mk {key : String} {value : RedisValue} {ttl : Nat} {k : Except PyExc Bool → M WebhookAck}
      (hfirst : Prog.Returns (fun ack => ack.duplicate = false) (k (.ok true)))
      (hdup : Prog.Returns (fun ack => ack.duplicate = true) (k (.ok false))) :
      Judged (.op (.redisSetNx key value ttl) k)

theorem handleTaskFeedback_judged {service : WebhookService} {delivery : Delivery}
    (h : service.verifyWebhookSignature delivery.rawBody delivery.signature = .ok ()) :
    Judged (service.handleTaskFeedback delivery) := by
  rw [WebhookService.handleTaskFeedback, h]
  refine .mk ?_ ?_
  · show Prog.Returns _ ((service.logEvent delivery.payload true false).bind _)
    exact (Prog.returns_true _).bind fun _ _ => .op fun r => by
      cases r with
      | ok u => exact .ret rfl
      | error x => exact .raise x
  · show Prog.Returns _ ((service.logEvent delivery.payload true true).bind _)
    exact (Prog.returns_true _).bind fun _ _ => .ret rfl

/-- What is left of a delivery that has set a marker: it is yet to publish its payload, or it has
answered, and enqueued it. -/
inductive Setting (payload : TaskFeedbackPayload) (enqueued : Prop) : M WebhookAck → Prop where
  | publishing {p : M WebhookAck} (hp : Publishing payload p)
      (hr : Prog.Returns (fun ack => ack.duplicate = false) p) : Setting payload enqueued p
  | answered {ack : WebhookAck} (hack : ack.duplicate = false) (hq : enqueued) :
      Setting payload enqueued (.ret ack)

/-- Where a delivery stands; `claimed` says that it has found a marker. -/
inductive Standing (payload : TaskFeedbackPayload) (enqueued claimed : Prop) :
    M WebhookAck → Prop where
  | arriving {p : M WebhookAck} (hp : Arriving payload p) (hj : Judged p) :
      Standing payload enqueued claimed p
  | setting {p : M WebhookAck} (hp : Setting payload enqueued p) :
      Standing payload enqueued claimed p
  | suppressed {p : M WebhookAck} (hp : Prog.Only Op.Sql p)
      (hr : Prog.Returns (fun ack => ack.duplicate = true) p) (hf : claimed) :
      Standing payload enqueued claimed p

variable {payload : TaskFeedbackPayload} {p : M WebhookAck} {enqueued enqueued' claimed : Prop}

theorem Setting.mono (h : Setting payload enqueued p) (hq : enqueued → enqueued') :
    Setting payload enqueued' p := by
  cases h with
  | publishing hp hr => exact .publishing hp hr
  | answered hack hen => exact .answered hack (hq hen)

theorem Standing.mono (h : Standing payload enqueued claimed p) (hq : enqueued → enqueued') :
    Standing payload enqueued' claimed p := by
  cases h with
  | arriving hp hj => exact .arriving hp hj
  | setting hp => exact .setting (hp.mono hq)
  | suppressed hp hr hf => exact .suppressed hp hr hf

theorem Setting.not_arriving (h : Setting payload enqueued p) (ha : Arriving payload p) :
    False := by
  cases ha with
  | mk _ _ _ =>
      cases h with
      | publishing hp _ => cases hp with | sql ho _ => exact ho

theorem Setting.raised (x : PyExc) : Setting payload enqueued (.raise x) :=
  .publishing (.raise x) (.raise x)

/-- An operation on the database, before the payload is published. -/
theorem Setting.sql {o : Op} {k : Except PyExc (Ret o) → M WebhookAck}
    (h : Setting payload enqueued (.op o k)) (ho : o.Sql) (r : Except PyExc (Ret o)) :
    Setting payload enqueued (k r) := by
  cases h with
  | publishing hp hr =>
      cases hr with
      | op hr =>
          cases hp with
          | sql _ hk => exact .publishing (hk r) (hr r)
          | delay _ _ => exact ho.elim

/-! ### What every state satisfies -/

abbrev MarkedConfig (ι : Type) := Config ι Op Ret PyExc WebhookAck (World ι × Markers ι)

/-- Delivery `j` set the marker of `key`. -/
def SetBy (payload : ι → TaskFeedbackPayload) (queue : List (ι × TaskFeedbackPayload))
    (procs : ι → M WebhookAck) (key : String) (j : ι) : Prop :=
  (payload j).dedupeKey = key ∧ Setting (payload j) ((j, payload j) ∈ queue) (procs j)

/-- Delivery `i` has met a marker: the notes say which, or it was there before the run. -/
def Met (payload : ι → TaskFeedbackPayload) (w₀ : World ι) (found : ι → Option ι) (i : ι) : Prop :=
  (found i).isSome = true ∨ (w₀.redis (payload i).dedupeKey).isSome = true

/-- Every delivery stands somewhere, and the notes are right: a marker that stands was set by a
delivery of its key, or was there before the run. -/
structure MarkerInv (payload : ι → TaskFeedbackPayload) (w₀ : World ι) (c : MarkedConfig ι) :
    Prop where
  stands : ∀ i, Standing (payload i) ((i, payload i) ∈ c.shared.1.queue)
    (Met payload w₀ c.shared.2.found i) (c.procs i)
  setter : ∀ key j, c.shared.2.setter key = some j → SetBy payload c.shared.1.queue c.procs key j
  found : ∀ i j, c.shared.2.found i = some j →
    SetBy payload c.shared.1.queue c.procs (payload i).dedupeKey j
  marked : ∀ key, (c.shared.1.redis key).isSome = true →
    (c.shared.2.setter key).isSome = true ∨ (w₀.redis key).isSome = true

variable {payloads : ι → TaskFeedbackPayload} {w₀ : World ι} {c c' : MarkedConfig ι}
  {e : Event ι Op Ret PyExc} {expires : String → Prop}

/-- One delivery moves on, and goes on to stand by the marker it has set. -/
theorem SetBy.update {queue queue' : List (ι × TaskFeedbackPayload)} {procs : ι → M WebhookAck}
    {key : String} {j : ι} (h : SetBy payloads queue procs key j) (hq : queue ⊆ queue')
    (hi : Setting (payloads i) ((i, payloads i) ∈ queue) (procs i) →
      Setting (payloads i) ((i, payloads i) ∈ queue') p) :
    SetBy payloads queue' (Function.update procs i p) key j := by
  refine ⟨h.1, ?_⟩
  by_cases hj : j = i
  · subst hj
    rw [Function.update_self]
    exact hi h.2
  · rw [Function.update_of_ne hj]
    exact h.2.mono fun hmem => hq hmem

/-- One delivery moves on; the others stand where they stood. -/
theorem MarkerInv.stands_update (h : MarkerInv payloads w₀ c)
    {queue : List (ι × TaskFeedbackPayload)} (hq : c.shared.1.queue ⊆ queue)
    {found : ι → Option ι} (hf : ∀ j, j ≠ i → found j = c.shared.2.found j)
    (hi : Standing (payloads i) ((i, payloads i) ∈ queue) (Met payloads w₀ found i) p) (j : ι) :
    Standing (payloads j) ((j, payloads j) ∈ queue) (Met payloads w₀ found j)
      (Function.update c.procs i p j) := by
  by_cases hj : j = i
  · subst hj
    rw [Function.update_self]
    exact hi
  · rw [Function.update_of_ne hj, Met, hf j hj]
    exact (h.stands j).mono fun hmem => hq hmem

/-- A step that changes no note and no entry. -/
theorem MarkerInv.keep (h : MarkerInv payloads w₀ c) {trace : List (Event ι Op Ret PyExc)}
    (hr : w'.redis = c.shared.1.redis) (hq : c.shared.1.queue ⊆ w'.queue)
    (hset : Setting (payloads i) ((i, payloads i) ∈ c.shared.1.queue) (c.procs i) →
      Setting (payloads i) ((i, payloads i) ∈ w'.queue) p)
    (hi : Standing (payloads i) ((i, payloads i) ∈ w'.queue)
      (Met payloads w₀ c.shared.2.found i) p) :
    MarkerInv payloads w₀ ⟨(w', c.shared.2), Function.update c.procs i p, trace⟩ where
  stands := h.stands_update hq (fun _ _ => rfl) hi
  setter key j hj := (h.setter key j hj).update hq hset
  found j j' hj := (h.found j j' hj).update hq hset
  marked key hkey := h.marked key (congrFun hr key ▸ hkey)

/-- A `SET NX`: it fails, finds the marker, or sets it. -/
theorem MarkerInv.step_arriving (h : MarkerInv payloads w₀ c)
    (hs : Step ((system expires).watch markerObserver) c e c')
    (hp : Arriving (payloads e.pid) (c.procs e.pid)) (hj : Judged (c.procs e.pid)) :
    MarkerInv payloads w₀ c' := by
  -- A delivery that arrives has set no marker.
  have hnot : ∀ {P : Prop}, Setting (payloads e.pid)
      ((e.pid, payloads e.pid) ∈ c.shared.1.queue) (c.procs e.pid) → P := fun hset =>
    (hset.not_arriving hp).elim
  generalize hc : c.procs e.pid = p at hp hj
  obtain @⟨value, ttl, k, hfirst, hdup, herr⟩ := hp
  cases hj with
  | mk hrfirst hrdup =>
  obtain ⟨r, w', -, hx, rfl⟩ := hs.watch_at hc
  rcases exec_redisSetNx hx with ⟨rfl, x, rfl⟩ | ⟨rfl, rfl, hkey⟩ | ⟨rfl, hr, hkey⟩
  · obtain ⟨x', hx'⟩ := herr x
    rw [markerObserver_raised, hx']
    exact h.keep rfl (List.Subset.refl _) hnot (.setting (.raised x'))
  · rw [markerObserver_found]
    refine ⟨h.stands_update (List.Subset.refl _) (fun j hj => Function.update_of_ne hj _ _) ?_,
      fun key j hj => (h.setter key j hj).update (List.Subset.refl _) hnot, fun i j hij => ?_,
      h.marked⟩
    · refine .suppressed hdup hrdup ?_
      dsimp only [Met]
      rw [Function.update_self]
      exact h.marked _ hkey
    · refine SetBy.update ?_ (List.Subset.refl _) hnot
      dsimp only at hij
      by_cases hi : i = e.pid
      · subst hi
        rw [Function.update_self] at hij
        exact h.setter _ j hij
      · rw [Function.update_of_ne hi] at hij
        exact h.found i j hij
  · have hset : Setting (payloads e.pid) ((e.pid, payloads e.pid) ∈ c.shared.1.queue) (k r) := by
      rcases hr with rfl | ⟨x, rfl⟩
      · exact .publishing hfirst hrfirst
      · obtain ⟨x', hx'⟩ := herr x
        rw [hx']
        exact .raised x'
    rw [markerObserver_set hr hkey]
    refine ⟨h.stands_update (List.Subset.refl _) (fun _ _ => rfl) (.setting hset),
      fun key j hj => ?_, fun i j hij => (h.found i j hij).update (List.Subset.refl _) hnot,
      fun key hmark => ?_⟩
    · dsimp only at hj
      by_cases hk : key = (payloads e.pid).dedupeKey
      · rw [hk, Function.update_self] at hj
        cases hj
        refine ⟨hk.symm, ?_⟩
        dsimp only
        rw [Function.update_self]
        exact hset
      · rw [Function.update_of_ne hk] at hj
        exact (h.setter key j hj).update (List.Subset.refl _) hnot
    · dsimp only at hmark ⊢
      by_cases hk : key = (payloads e.pid).dedupeKey
      · rw [hk, Function.update_self]
        exact .inl rfl
      · rw [World.setRedis_redis, Function.update_of_ne hk] at hmark
        rw [Function.update_of_ne hk]
        exact h.marked key hmark

/-- A step on the database moves its delivery on, and nothing else. -/
theorem MarkerInv.step_sql (h : MarkerInv payloads w₀ c) {o : Op}
    {k : Except PyExc (Ret o) → M WebhookAck}
    (hs : Step ((system expires).watch markerObserver) c e c') (ho : o.Sql)
    (hp : c.procs e.pid = .op o k)
    (hk : ∀ r, Standing (payloads e.pid) ((e.pid, payloads e.pid) ∈ c.shared.1.queue)
      (Met payloads w₀ c.shared.2.found e.pid) (k r)) : MarkerInv payloads w₀ c' := by
  obtain ⟨r, w', -, hx, rfl⟩ := hs.watch_at hp
  obtain ⟨hredis, -, hqueue⟩ := exec_sql hx ho
  have hnx : o.setNxKey? = none := by
    cases o with
    | redisSetNx _ _ _ => exact ho.elim
    | _ => rfl
  rw [markerObserver_same hredis hnx]
  refine h.keep hredis (hqueue ▸ List.Subset.refl _) (fun hset => ?_) ?_
  · rw [hp] at hset
    rw [hqueue]
    exact hset.sql ho r
  · rw [hqueue]
    exact hk r

/-- An enqueue ends its delivery. -/
theorem MarkerInv.step_delay (h : MarkerInv payloads w₀ c) {k : Except PyExc Unit → M WebhookAck}
    (hs : Step ((system expires).watch markerObserver) c e c')
    (hp : c.procs e.pid = .op (.delay (payloads e.pid)) k) (hok : ∃ ack, k (.ok ()) = .ret ack)
    (herr : ∀ e, ∃ e', k (.error e) = .raise e')
    (hr : ∀ r, Prog.Returns (fun ack => ack.duplicate = false) (k r)) :
    MarkerInv payloads w₀ c' := by
  obtain ⟨r, w', -, hx, rfl⟩ := hs.watch_at hp
  rcases exec_delay hx with ⟨rfl, x, rfl⟩ | rfl
  · obtain ⟨x', hx'⟩ := herr x
    rw [markerObserver_same rfl rfl, hx']
    exact h.keep rfl (List.Subset.refl _) (fun _ => .raised x') (.setting (.raised x'))
  · have hset : Setting (payloads e.pid) ((e.pid, payloads e.pid) ∈
        c.shared.1.queue ++ [(e.pid, payloads e.pid)]) (k r) := by
      cases r with
      | ok u =>
          obtain ⟨ack, hack⟩ := hok
          have hret := hr (.ok u)
          rw [show k (.ok u) = .ret ack from hack] at hret ⊢
          cases hret with
          | ret hdup =>
              exact .answered hdup (List.mem_append_right _ (List.mem_singleton_self _))
      | error x =>
          obtain ⟨x', hx'⟩ := herr x
          rw [hx']
          exact .raised x'
    have hredis : { c.shared.1 with
        queue := c.shared.1.queue ++ [(e.pid, payloads e.pid)] }.redis = c.shared.1.redis := rfl
    rw [markerObserver_same hredis rfl]
    exact h.keep rfl (List.subset_append_left _ _) (fun _ => hset) (.setting hset)

/-- **One step.** -/
theorem MarkerInv.step (h : MarkerInv payloads w₀ c)
    (hs : Step ((system expires).watch markerObserver) c e c') : MarkerInv payloads w₀ c' := by
  have hi := h.stands e.pid
  generalize hp : c.procs e.pid = p at hi
  cases hi with
  | arriving ha hj => exact h.step_arriving hs (hp ▸ ha) (hp ▸ hj)
  | setting hset =>
      cases hset with
      | publishing hpub hr =>
          cases hr with
          | ret hack => exact absurd hp hs.not_ret
          | raise x => exact absurd hp hs.not_raise
          | op hr =>
              cases hpub with
              | sql ho hk =>
                  exact h.step_sql hs ho hp fun r => .setting (.publishing (hk r) (hr r))
              | delay hok herr => exact h.step_delay hs hp hok herr hr
      | answered hack hq => exact absurd hp hs.not_ret
  | suppressed honly hr hf =>
      cases honly with
      | ret a => exact absurd hp hs.not_ret
      | raise x => exact absurd hp hs.not_raise
      | op ho hk =>
          cases hr with
          | op hr => exact h.step_sql hs ho hp fun r => .suppressed (hk r) (hr r) hf

/-- A marker expires. -/
theorem MarkerInv.expire (h : MarkerInv payloads w₀ c) (key : String) :
    MarkerInv payloads w₀ { c with shared := (c.shared.1.dropRedis key,
      markerObserver.env c.shared.2 c.shared.1 (c.shared.1.dropRedis key)) } := by
  refine ⟨h.stands, fun key' j hj => ?_, h.found, fun key' hkey' => ?_⟩
  · simp only [markerObserver] at hj
    split at hj
    · exact h.setter key' j hj
    · cases hj
  · dsimp only at hkey'
    simp only [markerObserver]
    rw [if_pos hkey']
    by_cases hk : key' = key
    · rw [hk, World.dropRedis_redis, Function.update_self] at hkey'
      cases hkey'
    · rw [World.dropRedis_redis, Function.update_of_ne hk] at hkey'
      exact h.marked key' hkey'

/-- **A duplicate comes after another delivery of its key.**  Any number of validly signed
deliveries run beside each other, whatever fails and expires.  A delivery that is answered as a
duplicate has found a marker of its dedupe key: one that was there before the run, or the one
another delivery of this key had set, and since then it has not expired; that delivery, if it is
answered, is not answered as a duplicate, and has enqueued its payload.  A delivery that is not
answered as a duplicate has enqueued its payload. -/
theorem duplicate_only_after {service : ι → WebhookService} {delivery : ι → Delivery}
    (hvalid : ∀ i, (service i).verifyWebhookSignature (delivery i).rawBody (delivery i).signature =
      .ok ()) {w : World ι}
    (h : Run ((system expires).watch markerObserver) unguarded
      (.start (w, {}) fun i => (service i).handleTaskFeedback (delivery i)) c)
    {ack : WebhookAck} (hack : c.procs i = .ret ack) :
    (ack.duplicate = true →
      (∃ j, j ≠ i ∧ c.shared.2.found i = some j ∧
        (delivery j).payload.dedupeKey = (delivery i).payload.dedupeKey ∧
        ∀ ack', c.procs j = .ret ack' →
          ack'.duplicate = false ∧ (j, (delivery j).payload) ∈ c.shared.1.queue) ∨
      (c.shared.2.found i = none ∧
        (w.redis (delivery i).payload.dedupeKey).isSome = true)) ∧
    (ack.duplicate = false → (i, (delivery i).payload) ∈ c.shared.1.queue) := by
  have hstart : MarkerInv (fun i => (delivery i).payload) w
      (.start (w, {}) fun i => (service i).handleTaskFeedback (delivery i)) :=
    ⟨fun i => .arriving (handleTaskFeedback_arriving (hvalid i))
      (handleTaskFeedback_judged (hvalid i)), nofun, nofun, fun _ hkey => .inr hkey⟩
  have hinv : MarkerInv (fun i => (delivery i).payload) w c := by
    refine Run.watched_invariant h (fun d d' e hd _ hs => hd.step hs) ?_ hstart
    rintro d w' hd ⟨key, -, rfl⟩
    exact hd.expire key
  have hanswered : ∀ {j : ι} {ack' : WebhookAck}, c.procs j = .ret ack' →
      Setting (delivery j).payload ((j, (delivery j).payload) ∈ c.shared.1.queue) (c.procs j) →
      ack'.duplicate = false ∧ (j, (delivery j).payload) ∈ c.shared.1.queue := by
    intro j ack' hj hset
    rw [hj] at hset
    cases hset with
    | publishing hp _ => cases hp
    | answered hdup hq => exact ⟨hdup, hq⟩
  have hi := hinv.stands i
  refine ⟨fun hdup => ?_, fun hdup => ?_⟩
  · cases hfound : c.shared.2.found i with
    | some j =>
        obtain ⟨hkey, hset⟩ := hinv.found i j hfound
        refine .inl ⟨j, ?_, rfl, hkey, fun ack' hj => hanswered hj hset⟩
        rintro rfl
        rw [(hanswered hack hset).1] at hdup
        cases hdup
    | none =>
        refine .inr ⟨rfl, ?_⟩
        rw [hack] at hi
        cases hi with
        | arriving ha _ => cases ha
        | setting hset =>
            rw [(hanswered hack (hack ▸ hset)).1] at hdup
            cases hdup
        | suppressed _ _ hf =>
            rcases hf with hf | hf
            · rw [hfound] at hf
              cases hf
            · exact hf
  · rw [hack] at hi
    cases hi with
    | arriving ha _ => cases ha
    | setting hset => exact (hanswered hack (hack ▸ hset)).2
    | suppressed _ hr _ =>
        cases hr with
        | ret hr =>
            rw [hdup] at hr
            cases hr

/-! ### A robot that has moved on -/

/-- A service whose secret is `secret`, on the bodies of `sampleDelivery` and `movedDelivery`. -/
def movedService : WebhookService where
  computeWebhookSignature body :=
    if body.size = 43 then "272325caf1e61d13b0221f1185ee8df6a99e0c231d76bd204a603cd9e91c25d5"
    else "5df29999283d9efdbd89d06e639d2f1642141545b77c261a65f000a78f2c287e"

/-- The delivery of an `outbin` of the task `T7`, from the robot `R2` at a position. -/
def movedDelivery : Delivery where
  rawBody := ("\x7b\"robotTaskCode\": \"T7\", \"method\": \"outbin\", " ++
    "\"x\": 1.5, \"y\": 2.5, \"amrCode\": \"R2\"\x7d").toUTF8
  signature := some "5df29999283d9efdbd89d06e639d2f1642141545b77c261a65f000a78f2c287e"
  payload := { sampleDelivery.payload with
    x := some (.finite false 15 (-1))
    y := some (.finite false 25 (-1))
    amrCode := some "R2" }

/-- `sampleDelivery`, then `movedDelivery`. -/
def movedOn (i : Bool) : Delivery := if i then movedDelivery else sampleDelivery

theorem movedOn_valid (i : Bool) : movedService.verifyWebhookSignature (movedOn i).rawBody
    (movedOn i).signature = .ok () := by
  cases i <;> rfl

/-- The delivery has been answered as a duplicate. -/
def isSuppressed : M WebhookAck → Bool
  | .ret ack => ack.duplicate
  | _ => false

theorem exists_ret_of_isSuppressed {p : M WebhookAck} (h : isSuppressed p = true) :
    ∃ ack, p = .ret ack ∧ ack.duplicate = true := by
  cases p with
  | ret ack => exact ⟨ack, rfl, h⟩
  | raise x => cases h
  | op o k => cases h

theorem duplicate_only_after_moved :
    ∃ c, Run ((system fun _ => False).watch markerObserver) unguarded
        (.start ({}, {}) fun i => movedService.handleTaskFeedback (movedOn i)) c ∧
      ∃ j, j ≠ true ∧ c.shared.2.found true = some j := by
  obtain ⟨c, hc, hdone⟩ : ∃ c, Run ((system fun _ => False).watch markerObserver) unguarded
      (.start ({}, {}) fun i => movedService.handleTaskFeedback (movedOn i)) c ∧
      isSuppressed (c.procs true) = true :=
    watched_run_of_schedule deliveredTwice (by decide)
  obtain ⟨ack, hack, hdup⟩ := exists_ret_of_isSuppressed hdone
  rcases (duplicate_only_after movedOn_valid hc hack).1 hdup with ⟨j, hj, hfound, -⟩ | ⟨-, hkey⟩
  · exact ⟨c, hc, j, hj, hfound⟩
  · cases hkey

/-- **New content is suppressed.**  The second delivery reports a robot and a position; it is
answered as a duplicate, and nothing enqueued carries them. -/
theorem moved_suppressed :
    ∃ c, Run (system fun _ => False) unguarded
        (.start {} fun i => movedService.handleTaskFeedback (movedOn i)) c ∧
      (∀ i, movedService.verifyWebhookSignature (movedOn i).rawBody (movedOn i).signature =
        .ok ()) ∧
      (∃ ack, c.procs true = .ret ack ∧ ack.duplicate = true) ∧
      ∀ entry ∈ c.shared.queue, entry.2 ≠ (movedOn true).payload := by
  obtain ⟨c, hc, hdone, hqueue⟩ : ∃ c, Run (system fun _ => False) unguarded
      (.start {} fun i => movedService.handleTaskFeedback (movedOn i)) c ∧
      isSuppressed (c.procs true) = true ∧
      ∀ entry ∈ c.shared.queue, entry.2.amrCode ≠ (movedOn true).payload.amrCode :=
    run_of_schedule deliveredTwice (by decide)
  refine ⟨c, hc, movedOn_valid, exists_ret_of_isSuppressed hdone, fun entry hentry he => ?_⟩
  exact hqueue entry hentry (congrArg TaskFeedbackPayload.amrCode he)

end Rcs

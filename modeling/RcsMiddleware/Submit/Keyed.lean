import RcsMiddleware.Source.RcsSubmitService
import RcsMiddleware.Support.SingleFlight

/-!
# Submit — Keyed

The shape the two submit operations share when they carry an idempotency key: look the entry up;
when that misses, call RCS once, touch the database, and store the entry.  `Keyed rk p` says that
`p` has this shape for the entry `rk`; `Flight rk worked` is what is left of it after a miss,
before and after the call.

* `createTask_keyed`, `submitRaw_keyed`: both operations have the shape.
* `Keyed.simulates`: while every step succeeds and no lookup misses beside a call in flight, calls
  of this shape are a run of `Support/SingleFlight.lean`.
-/

namespace Rcs

open Support Support.Text

variable {ι : Type} [DecidableEq ι] {α : Type}

/-- What is left of a call after its lookup missed; `worked` once RCS has been called. -/
inductive Flight (rk : String) : Bool → M α → Prop where
  | sql {worked : Bool} {o : Op} {k : Except PyExc (Ret o) → M α} (ho : o.Sql)
      (hk : ∀ r, (∀ e, k (.ok r) ≠ .raise e) → Flight rk worked (k (.ok r))) :
      Flight rk worked (.op o k)
  | rcs {call : RcsCall} {k : Except PyExc Json → M α}
      (hk : ∀ r, (∀ e, k (.ok r) ≠ .raise e) → Flight rk true (k (.ok r))) :
      Flight rk false (.op (.rcs call) k)
  | save {ttl : Nat} {document : Json} {k : Except PyExc Unit → M α}
      (hk : ∃ a, k (.ok ()) = .ret a) : Flight rk true (.op (.redisSetex rk ttl (.json document)) k)

/-- A call that looks `rk` up, ends on a hit, and is a flight on a miss. -/
inductive Keyed (rk : String) : M α → Prop where
  | mk {k : Except PyExc (Option RedisValue) → M α}
      (hmiss : ∀ v, cachedDocument v = none → Flight rk false (k (.ok v)))
      (hhit : ∀ v, cachedDocument v ≠ none → ∀ o k', k (.ok v) ≠ .op o k') :
      Keyed rk (.op (.redisGet rk) k)

/-! ### The two operations -/

/-- Persisting a row, then a save that ends the call. -/
theorem flight_persist {rk : String} {ttl : Nat} {document : Json} {row : TaskHistory} {a : α} :
    Flight rk true ((persistTask row).bind fun _ =>
      (perform (.redisSetex rk ttl (.json document))).bind fun _ => .ret a) := by
  refine .sql trivial fun _ _ => ?_
  exact .sql trivial fun _ _ => .save ⟨a, rfl⟩

theorem recordTask_flight {request : TaskCreateRequest} {key : String} (hkey : key ≠ "")
    {rcsResponse : Json} (h : ∀ e, recordTask request (some key) rcsResponse ≠ .raise e) :
    Flight (idempotencyKey key) true (recordTask request (some key) rcsResponse) := by
  unfold recordTask at h ⊢
  cases hc : extractTaskCode rcsResponse with
  | error e => exact absurd (by rw [hc]; rfl) (h e)
  | ok code =>
      simp only [Prog.ofExcept, Prog.bind_eq, Prog.bind_ret, finishTask, truthy_some hkey,
        saveIdempotency]
      exact flight_persist

/-- **`create_task` with a key** looks the key up, and on a miss calls RCS once and saves. -/
theorem createTask_keyed (request : TaskCreateRequest) {key : String} (hkey : key ≠ "") :
    Keyed (idempotencyKey key) (createTask request (some key)) := by
  unfold createTask
  rw [truthy_some hkey]
  refine .mk (fun v hv => ?_) fun v hv o k' => ?_
  · simp only [readCached, hv, Prog.ofExcept, Prog.bind_ret]
    refine .sql trivial fun robotType h => ?_
    cases robotType with
    | none => exact absurd rfl (h _)
    | some robotType => exact .rcs fun rcsResponse h => recordTask_flight hkey h
  · cases hd : cachedDocument v with
    | none => exact absurd hd hv
    | some document =>
        simp only [readCached, hd, Prog.ofExcept, Prog.bind_ret]
        cases readEnvelope key request document <;> nofun

theorem recordRaw_flight {request : RcsRawSubmitRequest} {path key : String} (hkey : key ≠ "")
    {rcsResponse : Json} (h : ∀ e, recordRaw request path (some key) rcsResponse ≠ .raise e) :
    Flight (idemKey key) true (recordRaw request path (some key) rcsResponse) := by
  unfold recordRaw at h ⊢
  cases hc : taskCodeOf rcsResponse with
  | error e => exact absurd (by rw [hc]; rfl) (h e)
  | ok code =>
      simp only [Prog.ofExcept, Prog.bind_eq, Prog.bind_ret, finishRaw, truthy_some hkey, saveRaw]
      cases request.persistTask with
      | false => exact .save ⟨_, rfl⟩
      | true =>
          cases code with
          | none => exact .save ⟨_, rfl⟩
          | some code => exact flight_persist

/-- **`submit_raw` with a key**, once its path is accepted, has the same shape. -/
theorem submitRaw_keyed (request : RcsRawSubmitRequest) {key path : String} (hkey : key ≠ "")
    (hpath : rawSubmitPath request.path = .ok path) :
    Keyed (idemKey key) (submitRaw request (some key)) := by
  unfold submitRaw
  rw [hpath, truthy_some hkey]
  refine .mk (fun v hv => ?_) fun v hv o k' => ?_
  · simp only [readRawCached, hv, Prog.ofExcept, Prog.bind_ret]
    exact .rcs fun rcsResponse h => recordRaw_flight hkey h
  · cases hd : cachedDocument v with
    | none => exact absurd hd hv
    | some document =>
        simp only [readRawCached, hd, Prog.ofExcept, Prog.bind_ret]
        cases readRawEnvelope key request document <;> nofun

/-! ### The simulation -/

/-- The event is a lookup of `rk` that misses. -/
def missed (rk : String) : Event ι Op Ret PyExc → Bool
  | ⟨_, .redisGet key, .ok v⟩ => key = rk && (cachedDocument v).isNone
  | _ => false

/-- The call is on its way and past its lookup of `rk`. -/
def inFlight (rk : String) : M α → Bool
  | .op (.redisGet key) _ => key ≠ rk
  | .op _ _ => true
  | _ => false

/-- No lookup of `rk` misses while another call is in flight. -/
def NoOverlap (rk : String) : Guard ι Op Ret PyExc α (World ι) := fun c e _ =>
  missed rk e → ∀ j, inFlight rk (c.procs j) = false

instance [Fintype ι] (rk : String) (c : Config ι Op Ret PyExc α (World ι))
    (e : Event ι Op Ret PyExc) (c' : Config ι Op Ret PyExc α (World ι)) :
    Decidable (NoOverlap rk c e c') :=
  inferInstanceAs (Decidable (_ → ∀ j, inFlight rk (c.procs j) = false))

/-- The stage of the abstract process a call stands for. -/
def At (rk : String) : Stage → M α → Prop
  | .idle, p => Keyed rk p
  | .flying worked, p => Flight rk worked p
  | .done, p => ∀ o k, p ≠ .op o k

theorem Flight.inFlight {rk : String} {worked : Bool} {p : M α} (h : Flight rk worked p) :
    inFlight rk p = true := by
  cases h with
  | @sql _ o _ ho _ =>
      cases o with
      | redisGet _ => exact ho.elim
      | _ => rfl
  | rcs _ => rfl
  | save _ => rfl

/-- The calls in the world `c` stand for the abstract state `s`. -/
structure Refines (rk : String) (c : Config ι Op Ret PyExc α (World ι)) (s : Flights ι) :
    Prop where
  cached : s.cached = (cachedDocument (c.shared.redis rk)).isSome
  works : c.shared.rcsLog.length = s.works
  stage : ∀ i, At rk (s.stage i) (c.procs i)

/-- One process moves on, the others stand where they were. -/
theorem at_update {rk : String} {stage : ι → Stage} {procs : ι → M α} {i : ι} {s : Stage}
    {p : M α} (h : ∀ j, At rk (stage j) (procs j)) (hp : At rk s p) :
    ∀ j, At rk (Function.update stage i s j) (Function.update procs i p j) := by
  exact forall_update₂ (P := fun _ s p => At rk s p) hp fun j _ => h j

variable {rk : String} {c c' : Config ι Op Ret PyExc α (World ι)} {e : Event ι Op Ret PyExc}
  {s : Flights ι} {expires : String → Prop}

/-- A lookup: the process ends on a hit, and on a miss takes off alone. -/
theorem refines_lookup (h : Refines rk c s) (hs : Step (system expires) c e c')
    (hG : Succeeds c e c') (hN : NoOverlap rk c e c') (hi : s.stage e.pid = .idle) :
    ∃ s', Relation.ReflTransGen Flights.Flight s s' ∧ Refines rk c' s' := by
  have hk := h.stage e.pid
  rw [hi] at hk
  generalize hp : c.procs e.pid = p at hk
  obtain ⟨hmiss, hhit⟩ := hk
  obtain ⟨v, w', he, hx, -, rfl⟩ := hG.inv_at hs hp
  obtain ⟨rfl, rfl⟩ : c.shared.redis rk = v ∧ c.shared = w' := by
    simpa [respond, Fault.strike] using exec_ok hx id
  cases hd : cachedDocument (c.shared.redis rk) with
  | none =>
      have hc : s.cached = false := by rw [h.cached, hd]; rfl
      have hq : ∀ j b, s.stage j ≠ .flying b := fun j b hj => by
        have hf := h.stage j
        rw [hj] at hf
        have hmissed : missed rk e = true := by rw [he]; simp [missed, hd]
        exact Bool.false_ne_true ((hN hmissed j).symm.trans (Flight.inFlight hf))
      exact ⟨_, .single (.miss hi hc hq), h.cached, h.works, at_update h.stage (hmiss _ hd)⟩
  | some document =>
      have hc : s.cached = true := by rw [h.cached, hd]; rfl
      have hne : cachedDocument (c.shared.redis rk) ≠ none := by
        rw [hd]
        exact Option.some_ne_none document
      exact ⟨_, .single (.hit hi hc), h.cached, h.works, at_update h.stage (hhit _ hne)⟩

/-- A step of a call in flight: it touches the database, calls RCS, or saves. -/
theorem refines_flight (h : Refines rk c s) (hs : Step (system expires) c e c')
    (hG : Succeeds c e c') {worked : Bool} (hi : s.stage e.pid = .flying worked) :
    ∃ s', Relation.ReflTransGen Flights.Flight s s' ∧ Refines rk c' s' := by
  have hk := h.stage e.pid
  rw [hi] at hk
  generalize hp : c.procs e.pid = p at hk
  cases hk with
  | sql ho hk =>
      obtain ⟨v, w', -, hx, hraise, rfl⟩ := hG.inv_at hs hp
      obtain ⟨hredis, hlog, -⟩ := exec_sql hx ho
      refine ⟨s, .refl, ?_, ?_, ?_⟩
      · rw [h.cached, hredis]
      · rw [← h.works, hlog]
      · have hu := at_update (i := e.pid) (s := .flying worked) h.stage (hk v hraise)
        rwa [← hi, Function.update_eq_self] at hu
  | rcs hk =>
      obtain ⟨v, w', -, hx, hraise, rfl⟩ := hG.inv_at hs hp
      obtain rfl := exec_rcs hx
      refine ⟨_, .single (.work hi), h.cached, ?_, at_update h.stage (hk v hraise)⟩
      exact congrArg (· + 1) h.works
  | save hk =>
      obtain ⟨v, w', -, hx, -, rfl⟩ := hG.inv_at hs hp
      obtain ⟨-, rfl⟩ := Prod.mk.inj (exec_ok hx id)
      obtain ⟨a, ha⟩ := hk
      refine ⟨_, .single (.publish hi), ?_, h.works, at_update h.stage ?_⟩
      · simp [Fault.strike, cachedDocument, RedisValue.truthy, RedisValue.loads]
      · rw [ha]
        intro o k' h'
        cases h'

/-- **While every step succeeds and no lookup misses beside a call in flight**, keyed calls are
a run of the abstract system, in which the work is the call of RCS. -/
theorem Keyed.simulates (hexp : ∀ key, expires key → key ≠ rk)
    (h : Run (system expires) (fun c e c' => Succeeds c e c' ∧ NoOverlap rk c e c') c c')
    (hc : Refines rk c s) : ∃ s', Relation.ReflTransGen Flights.Flight s s' ∧ Refines rk c' s' := by
  refine Run.simulate h ?_ ?_ hc
  · intro d d' e a hr hG hs
    cases hi : a.stage e.pid with
    | idle => exact refines_lookup hr hs hG.1 hG.2 hi
    | flying worked => exact refines_flight hr hs hG.1 hi
    | done =>
        have hd := hr.stage e.pid
        rw [hi] at hd
        obtain ⟨hp, -⟩ := hs
        exact absurd hp (hd _ _)
  · -- The entry `rk` itself does not expire.
    intro d w a hr he
    obtain ⟨key, hkey, rfl⟩ := he
    refine ⟨a, .refl, ?_, hr.works, hr.stage⟩
    rw [hr.cached, World.dropRedis_redis, Function.update_of_ne (hexp key hkey).symm]

end Rcs

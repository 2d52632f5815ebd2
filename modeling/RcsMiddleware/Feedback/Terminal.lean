import RcsMiddleware.Feedback.Executions

/-!
# Feedback — Terminal

Executions of `process_task_feedback` for one task at the same time.  Each tests the status it
has read and updates without a condition, so a terminal status that is committed between the two
is overwritten (`terminal_status_changes`).

**A terminal status stays** (`terminal_status_stays`), however many executions there are, while
no commit makes the row terminal beside an execution that has selected it and is to give it
another status.
-/

namespace Rcs

open Support Support.Text
open Register (Phase)

variable {ι : Type} [DecidableEq ι]

/-- The status of a task's committed row. -/
def committedStatus (code : String) (w : World ι) : Option TaskStatus :=
  (w.db.tasks.find? code).map TaskHistory.status

/-- **A terminal status stays.** -/
theorem terminal_status_stays {code : String} {w : World ι} (hw : ∀ i, w.sessions i = [])
    {payload : ι → TaskFeedbackPayload} (hcode : ∀ i, strip (payload i).robotTaskCode = code)
    {expires : String → Prop} {c c' : Config ι Op Ret PyExc FeedbackResult (World ι)}
    (h : Run (system expires) (NoOvertaking code)
      (.start w fun i => processTaskFeedback (payload i)) c)
    (h' : Run (system expires) (NoOvertaking code) c c') {status : TaskStatus}
    (hstatus : committedStatus code c.shared = some status) (hterminal : status.terminal = true) :
    committedStatus code c'.shared = some status := by
  let target : ι → TaskStatus := fun i => targetStatus (strip (payload i).method)
  have hpending : ¬ TaskStatus.pending.terminal = true := Bool.false_ne_true
  have hstands : ∀ i, ∃ φ : Phase, (φ = .unread ∨ φ = .settled false) ∧
      Stands code (target i) φ [] (processTaskFeedback (payload i)) := by
    intro i
    rw [← hcode i]
    exact processTaskFeedback_starts (payload i)
  choose φ hφ hp using hstands
  obtain ⟨s, hs, hc⟩ := (Tracks.start hw hφ hp).simulates h
  obtain ⟨s', hs', hc'⟩ := hc.simulates h'
  -- Nobody holds at the start, so nobody holds beside a terminal value.
  have hstart : Register.Absorbed (fun st : TaskStatus => st.terminal = true) target
      ⟨(w.db.tasks.find? code).map TaskHistory.status, φ⟩ := by
    intro v _ _ j hj
    rcases hφ j with hj' | hj' <;> cases hj'.symm.trans hj
  have habs := hstart.run hpending hs
  rw [committedStatus, ← hc'.value]
  exact Register.stable habs hpending (hc.value.trans hstatus) hterminal hs'

/-! ### Two executions -/

/-- A feedback about the task `T1`. -/
def sampleFeedback (method : String) (h : method ≠ "") : TaskFeedbackPayload where
  robotTaskCode := "T1"
  method := method
  robotTaskCode_nonempty := by decide
  method_nonempty := h

/-- A database in which the task `T1` is pending. -/
def pendingTables : Tables :=
  { tasks := ⟨[{ robotTaskCode := "T1", status := .pending }], List.pairwise_singleton _ _⟩ }

/-- The feedback `start`, and the feedback `end`. -/
def startAndEnd : Bool → TaskFeedbackPayload
  | false => sampleFeedback "start" (by decide)
  | true => sampleFeedback "end" (by decide)

/-- Both select the row; `end` updates and commits. -/
def endOvertakes : List (Bool × Env) :=
  [(false, {}), (false, {}), (true, {}), (true, {}), (true, {}), (true, {})]

/-- `end` closes its session; `start` updates, commits and closes. -/
def startFollows : List (Bool × Env) := [(true, {}), (false, {}), (false, {}), (false, {})]

/-- `end` runs up to its commit, and no other execution has begun. -/
def endAlone : List (Bool × Env) := [(true, {}), (true, {}), (true, {}), (true, {})]

/-- `end` closes its session; `start` selects the row and closes. -/
def startComesLate : List (Bool × Env) := [(true, {}), (false, {}), (false, {}), (false, {})]

/-- Two schedules, the second from where the first leads, are two runs. -/
theorem runs_of_schedules {G : Guard Bool Op Ret PyExc FeedbackResult (World Bool)}
    [∀ c e c', Decidable (G c e c')] {expires : String → Prop} (first second : List (Bool × Env))
    {c : Config Bool Op Ret PyExc FeedbackResult (World Bool)}
    {P Q : Config Bool Op Ret PyExc FeedbackResult (World Bool) → Prop} [DecidablePred P]
    [DecidablePred Q]
    (h : (replay exec? G first c).any (fun d => P d ∧ (replay exec? G second d).any (fun d' => Q d'))
      = true) :
    ∃ d, Run (system expires) G c d ∧ P d ∧ ∃ d', Run (system expires) G d d' ∧ Q d' := by
  obtain ⟨d, hd, hP, hQ⟩ : ∃ d, Run (system expires) G c d ∧ P d ∧ _ := run_of_schedule first h
  exact ⟨d, hd, hP, run_of_schedule second hQ⟩

theorem terminal_status_stays_inSuccession :
    ∃ c c', Run (system fun _ => False) (NoOvertaking "T1") (.start { db := pendingTables } fun i =>
        processTaskFeedback (startAndEnd i)) c ∧
      Run (system fun _ => False) (NoOvertaking "T1") c c' ∧ (∀ i, (c'.procs i).returned = true) ∧
      committedStatus "T1" c'.shared = some .completed := by
  obtain ⟨c, hc, hstatus, c', hc', hdone⟩ := runs_of_schedules
    (G := NoOvertaking "T1")
    (P := fun c => committedStatus "T1" c.shared = some .completed)
    (Q := fun c' => ∀ i, (c'.procs i).returned = true) endAlone startComesLate
    (c := .start { db := pendingTables } fun i => processTaskFeedback (startAndEnd i))
    (by decide)
  exact ⟨c, c', hc, hc', hdone,
    terminal_status_stays (fun _ => rfl) (by decide) hc hc' hstatus rfl⟩

/-- **A terminal status changes.**  The task is completed while the execution for `start` holds
the row it selected; then that execution makes it running again. -/
theorem terminal_status_changes :
    ∃ c, Run (system fun _ => False) Succeeds
        (.start { db := pendingTables } fun i => processTaskFeedback (startAndEnd i)) c ∧
      committedStatus "T1" c.shared = some .completed ∧
      ∃ c', Run (system fun _ => False) Succeeds c c' ∧
        committedStatus "T1" c'.shared = some .running ∧ ∀ i, (c'.procs i).returned = true :=
  runs_of_schedules endOvertakes startFollows (by decide)

end Rcs

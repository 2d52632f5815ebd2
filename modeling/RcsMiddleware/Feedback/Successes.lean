import RcsMiddleware.Feedback.RobotStates

/-!
# Feedback — Successes

Executions of `process_task_feedback` that return.  The code catches no exception, so a store that
has failed during one of them has not been asked; what the execution does is what it does when no
store can fail.

* `Processing.outcome_of_ok`: an execution that returns.
* `Processing.after_redis_cases`: what any execution does to Redis.
* `afterAll_of_allSucceed`: a sequence of executions that return.
-/

namespace Rcs

open Support Support.Text Support.Prog

namespace Processing

variable {p : Processing} {w : World Unit}

/-- The execution, with stores that do not fail. -/
def cleaned (p : Processing) : Processing := { payload := p.payload, clock := p.clock }

@[simp] theorem cleaned_payload (p : Processing) : p.cleaned.payload = p.payload := rfl

@[simp] theorem cleaned_clean (p : Processing) : p.cleaned.clean = true := rfl

/-- The execution returns. -/
def Succeeds (p : Processing) (w : World Unit) : Prop := ∃ result, (p.outcome w).1 = .ok result

theorem processTaskFeedback_strict (payload : TaskFeedbackPayload) :
    Strict (processTaskFeedback payload) := by
  have happly : ∀ existing robotTaskCode method target amrCode errorMsg now,
      Strict (applyFeedback existing robotTaskCode method target amrCode errorMsg now) := by
    intro existing robotTaskCode method target amrCode errorMsg now
    cases existing with
    | none => exact .ret _
    | some row =>
        rw [applyFeedback]
        split
        · exact .ret _
        · exact .bind (.perform _) fun _ => .bind (.perform _) fun _ => .ret _
  have hstate : ∀ target now, Strict (updateRobotState payload target now) := by
    intro target now
    rw [updateRobotState]
    cases truthy payload.amrCode with
    | none => exact .ret _
    | some amrCode => exact .bind (.perform _) fun _ => .ret _
  rw [processTaskFeedback]
  split
  · exact .ret _
  · refine .bind (.perform _) fun now => .bind (.tryFinally ?_ (.perform _)) fun _ =>
      .bind (hstate _ now) fun _ => .ret _
    exact .bind (.perform _) fun existing => happly existing _ _ _ _ _ now

/-- An operation that goes through is answered as without faults. -/
theorem respond_cleaned (o : Op) (w : World Unit) (v : Ret o) (h : (p.respond o w).1 = .ok v) :
    p.cleaned.respond o w = p.respond o w := by
  have hclean : ∀ env : Env, ¬ o.Outside → (Rcs.respond () env o w).1 = .ok v →
      Rcs.respond () {} o w = Rcs.respond () env o w := by
    intro env hout hok
    rcases respond_store () env w hout with hr | ⟨e, he, -⟩
    · exact hr.symm
    · cases he.symm.trans hok
  cases o with
  | now | rcs _ | sign _ _ _ | http _ => rfl
  | _ => exact hclean _ id h

/-- **An execution that returns** does what it does when no store can fail. -/
theorem outcome_of_ok (h : p.Succeeds w) : p.cleaned.outcome w = p.outcome w := by
  obtain ⟨result, hresult⟩ := h
  exact (processTaskFeedback_strict p.payload).run_eq respond_cleaned hresult

theorem after_of_ok (h : p.Succeeds w) : p.cleaned.after w = p.after w :=
  congrArg Prod.snd (outcome_of_ok h)

/-- An execution returns when no store fails. -/
theorem succeeds_of_clean (hs : w.sessions () = []) (hc : p.clean = true) : p.Succeeds w := by
  by_cases hb : p.Blank
  · rw [Succeeds, outcome, processTaskFeedback_blank hb]
    exact ⟨_, rfl⟩
  obtain ⟨dbUpdated, hupdate⟩ := updateTaskHistory_ok hs hc
  rw [Succeeds, outcome_of_named hb, onOk_of_ok hupdate, updateRobotState]
  cases truthy p.payload.amrCode with
  | none => exact ⟨_, rfl⟩
  | some amrCode =>
      dsimp only
      rw [bind_eq, run_bind, run_perform]
      simp only [respond, env, Rcs.respond, (clean_iff.mp hc).2.2.2.2, Fault.strike]
      exact ⟨_, rfl⟩

/-- **What any execution does to Redis**: what it does when it goes through, or nothing. -/
theorem after_redis_cases (hs : w.sessions () = []) :
    (p.after w).redis = w.redis ∨ (p.after w).redis = p.onRedis w.redis := by
  by_cases hb : p.Blank
  · rw [after_of_blank hb]
    exact .inl rfl
  have hredis : ((updateTaskHistory p.code p.method p.target p.payload.amrCode p.payload.errorMsg
      p.clock).run p.respond w).2.redis = w.redis := by rw [updateTaskHistory_world hs]
  rw [after, outcome_of_named hb]
  rcases hrun : (updateTaskHistory p.code p.method p.target p.payload.amrCode p.payload.errorMsg
    p.clock).run p.respond w with ⟨e | dbUpdated, w'⟩
  · rw [hrun] at hredis
    exact .inl hredis
  · rw [hrun] at hredis
    dsimp only at hredis
    rw [onOk_ok, updateRobotState, onRedis]
    cases truthy p.payload.amrCode with
    | none => exact .inl hredis
    | some amrCode =>
        dsimp only
        rw [bind_eq, run_bind, run_perform, if_neg hb, ← hredis]
        simp only [respond, env, Rcs.respond]
        cases p.setex with
        | before e => exact .inl rfl
        | none | after e => exact .inr rfl

end Processing

/-! ### A sequence of executions -/

/-- Each execution of the sequence returns. -/
def AllSucceed (w : World Unit) : List Processing → Prop
  | [] => True
  | p :: ps => p.Succeeds w ∧ AllSucceed (p.after w) ps

/-- A sequence of executions that return does what it does when no store can fail. -/
theorem afterAll_of_allSucceed {w : World Unit} {ps : List Processing} (h : AllSucceed w ps) :
    afterAll w (ps.map Processing.cleaned) = afterAll w ps := by
  induction ps generalizing w with
  | nil => rfl
  | cons p ps ih =>
      rw [List.map_cons, afterAll_cons, afterAll_cons, Processing.after_of_ok h.1]
      exact ih h.2

/-- **What a sequence of executions that return does to Redis.** -/
theorem AllSucceed.redis {w : World Unit} {ps : List Processing} (h : AllSucceed w ps)
    (hs : w.sessions () = []) :
    (afterAll w ps).redis = ps.foldl (fun redis p => p.onRedis redis) w.redis := by
  have hclean : ∀ p ∈ ps.map Processing.cleaned, p.clean = true := by
    intro p hp
    obtain ⟨q, -, rfl⟩ := List.mem_map.mp hp
    exact Processing.cleaned_clean q
  rw [← afterAll_of_allSucceed h, afterAll_redis hs hclean, List.foldl_map]
  rfl

end Rcs

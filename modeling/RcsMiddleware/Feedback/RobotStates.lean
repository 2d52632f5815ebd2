import RcsMiddleware.Feedback.Rows

/-!
# Feedback — RobotStates

The two stores an execution of `process_task_feedback` writes: the row of the task, which keeps a
terminal status, and the robot's entry in Redis, which is overwritten by every feedback.

**Agreement** (`robot_state_agrees_iff`).  Right after an execution the entry shows the row's status
exactly when the row had not been ended by a feedback, or at its creation, with another status.
-/

namespace Rcs

open Support Support.Text Support.Prog

variable {p q : Processing} {ps : List Processing} {w : World Unit} {row : TaskHistory}
  {code amrCode : String}

theorem TaskStatus.value_injective {a b : TaskStatus} (h : a.value = b.value) : a = b := by
  cases a <;> cases b <;> first | rfl | exact absurd h (by decide)

/-! ### The robot's entry -/

theorem robotStateKey_injective {a b : String} (h : robotStateKey a = robotStateKey b) : a = b := by
  have hl := congrArg String.toList h
  simp only [robotStateKey, String.toList_append, List.append_assoc] at hl
  exact String.toList_inj.mp (List.append_cancel_right (List.append_cancel_left hl))

/-- The state an entry of a robot shows. -/
def robotState? (w : World Unit) (amrCode : String) : Option Json :=
  match w.redis (robotStateKey amrCode) with
  | some (.json (.obj fields)) => Json.field fields "state"
  | _ => none

/-- The feedback is one of this robot, and writes its entry. -/
def Processing.Writes (amrCode : String) (p : Processing) : Prop :=
  ¬ p.Blank ∧ p.payload.amrCode = some amrCode

instance (amrCode : String) (p : Processing) : Decidable (p.Writes amrCode) :=
  inferInstanceAs (Decidable (_ ∧ _))

/-- The entry an execution writes for a robot. -/
def Processing.entry (amrCode : String) (p : Processing) : RedisValue :=
  .json (statePayload p.payload amrCode p.target p.clock)

theorem Processing.onRedis_of_writes (ha : amrCode ≠ "") (h : p.Writes amrCode)
    (redis : String → Option RedisValue) :
    p.onRedis redis = Function.update redis (robotStateKey amrCode) (some (p.entry amrCode)) := by
  rw [Processing.onRedis, h.2, truthy_some ha]
  exact if_neg h.1

theorem Processing.onRedis_of_not_writes (h : ¬ p.Writes amrCode)
    (redis : String → Option RedisValue) :
    p.onRedis redis (robotStateKey amrCode) = redis (robotStateKey amrCode) := by
  rw [Processing.onRedis]
  cases ht : truthy p.payload.amrCode with
  | none => rfl
  | some other =>
      dsimp only
      split_ifs with hb
      · rfl
      · refine Function.update_of_ne (fun hkey => h ⟨hb, ?_⟩) _ _
        rw [robotStateKey_injective hkey]
        exact (truthy_eq_some.mp ht).1

/-- **The entry is the last one written.** -/
theorem foldl_onRedis (ha : amrCode ≠ "") (redis : String → Option RedisValue)
    (ps : List Processing) :
    ps.foldl (fun redis p => p.onRedis redis) redis (robotStateKey amrCode) =
      (((ps.filter (Processing.Writes amrCode ·)).getLast?.map (Processing.entry amrCode)) <|>
        redis (robotStateKey amrCode)) := by
  induction ps using List.reverseRecOn with
  | nil => rfl
  | append_singleton ps p ih =>
      rw [List.foldl_append, List.foldl_cons, List.foldl_nil, List.filter_append]
      by_cases h : p.Writes amrCode
      · rw [Processing.onRedis_of_writes ha h, Function.update_self, List.filter_cons,
          if_pos (decide_eq_true h), List.filter_nil, List.getLast?_concat]
        rfl
      · rw [Processing.onRedis_of_not_writes h, ih, List.filter_cons, if_neg (by simpa using h),
          List.filter_nil, List.append_nil]

/-- The robot's entry shows the status of the row of the feedback's task, when the feedback names a
robot and the task has a row. -/
def ShowsRow (p : Processing) (w : World Unit) : Prop :=
  ∀ amrCode row, truthy p.payload.amrCode = some amrCode → w.db.tasks.find? p.code = some row →
    robotState? w amrCode = some (.str row.status.value)

/-- The first terminal status of a row: the one it has, or else the one a feedback brings. -/
def endedAs (ps : List Processing) (row : TaskHistory) : Option TaskStatus :=
  (row.status :: (ps.filter (Processing.Reaches row.robotTaskCode ·)).map Processing.target).find?
    TaskStatus.terminal

/-- After `before`, the row of the feedback's task has not ended with another status.  A feedback
without a task code or a method changes nothing, so the entry has to show the status already. -/
def InStep (w : World Unit) (before : List Processing) (p : Processing) : Prop :=
  if p.Blank then ShowsRow p (afterAll w before)
  else ∀ amrCode row, truthy p.payload.amrCode = some amrCode →
    w.db.tasks.find? p.code = some row → ∀ s, endedAs before row = some s → s = p.target

/-- A row is terminal once it has ended. -/
theorem rowAfter_terminal :
    (rowAfter ps row).status.terminal = true ↔ ∃ s, endedAs ps row = some s := by
  rw [rowAfter_status]
  exact Latch.final_puts

/-- A row that has ended keeps the status. -/
theorem rowAfter_of_endedAs {s : TaskStatus} (h : endedAs ps row = some s) :
    (rowAfter ps row).status = s := by
  rw [rowAfter_status]
  exact Latch.puts_of_find? h

theorem afterAll_snoc (w : World Unit) (ps : List Processing) (p : Processing) :
    afterAll w (ps ++ [p]) = p.after (afterAll w ps) := afterAll_append w ps [p]

/-- An execution leaves the entry of the robot it names with its target. -/
theorem robotState?_after (hs : w.sessions () = []) (hc : p.clean = true) (hb : ¬ p.Blank)
    (ha : truthy p.payload.amrCode = some amrCode) :
    robotState? (p.after w) amrCode = some (.str p.target.value) := by
  obtain ⟨hcode, hne⟩ := truthy_eq_some.mp ha
  rw [robotState?, Processing.after_redis hs hc, Processing.onRedis_of_writes hne ⟨hb, hcode⟩,
    Function.update_self]
  rfl

/-- **The step**: right after an execution the entry shows the row's status exactly when the row
had not ended with another one. -/
theorem showsRow_after (hs : w.sessions () = []) (hc : p.clean = true) (before : List Processing) :
    ShowsRow p (afterAll w (before ++ [p])) ↔ InStep w before p := by
  rw [afterAll_snoc, InStep]
  have hs' : (afterAll w before).sessions () = [] := afterAll_session hs
  split_ifs with hb
  · rw [Processing.after_of_blank hb]
  -- The row before the execution, and after it.
  have hfind : ∀ row, w.db.tasks.find? p.code = some row →
      (p.after (afterAll w before)).db.tasks.find? p.code =
        some (p.onRow (rowAfter before row)) := by
    intro row hrow
    rw [← afterAll_snoc, afterAll_find? hs, hrow, Option.map_some, rowAfter_append, rowAfter_cons,
      rowAfter_nil]
  have hreach : ∀ row, w.db.tasks.find? p.code = some row →
      p.Reaches (rowAfter before row).robotTaskCode := by
    intro row hrow
    rw [rowAfter_robotTaskCode, (TaskTable.find?_eq_some.mp hrow).2]
    exact Processing.reaches_of_clean hc hb
  constructor
  · intro h amrCode row ha hrow s hended
    have hterminal : (rowAfter before row).status.terminal = true :=
      rowAfter_terminal.mpr ⟨s, hended⟩
    have hshown := h amrCode _ ha (hfind row hrow)
    rw [robotState?_after hs' hc hb ha, Processing.onRow_of_terminal hterminal,
      rowAfter_of_endedAs hended] at hshown
    exact TaskStatus.value_injective (Json.str.inj (Option.some.inj hshown)).symm
  · intro h amrCode row' ha hrow'
    obtain ⟨row, hrow⟩ : ∃ row, w.db.tasks.find? p.code = some row := by
      rw [← afterAll_snoc, afterAll_find? hs, Option.map_eq_some_iff] at hrow'
      obtain ⟨row, hrow, -⟩ := hrow'
      exact ⟨row, hrow⟩
    rw [hfind row hrow] at hrow'
    cases hrow'
    rw [robotState?_after hs' hc hb ha]
    cases ht : (rowAfter before row).status.terminal with
    | false =>
        rw [Processing.onRow_of_reaches (hreach row hrow) ht, StatusUpdate.set_status,
          Processing.statusUpdate_status]
    | true =>
        obtain ⟨s, hended⟩ := rowAfter_terminal.mp ht
        rw [Processing.onRow_of_terminal ht, rowAfter_of_endedAs hended,
          h amrCode row ha hrow s hended]

/-- **Agreement of the two stores**, along a run in which any store may fail: right after each
execution that goes through, exactly when each finds the row of its task in step. -/
theorem robot_state_agrees_iff (hs : w.sessions () = []) (ps : List Processing) :
    (∀ before p rest, ps = before ++ p :: rest → p.clean = true →
        ShowsRow p (afterAll w (before ++ [p]))) ↔
      ∀ before p rest, ps = before ++ p :: rest → p.clean = true → InStep w before p := by
  constructor
  · intro h before p rest hps hc
    exact (showsRow_after hs hc before).mp (h before p rest hps hc)
  · intro h before p rest hps hc
    exact (showsRow_after hs hc before).mpr (h before p rest hps hc)

/-- The feedback `start` of the robot `R1`, and its feedback `end`. -/
def robotStart : Processing :=
  { payload := { startAndEnd false with amrCode := some "R1" } }

def robotEnd : Processing :=
  { payload := { startAndEnd true with amrCode := some "R1" } }

/-- A task that ends after it has started is shown as it is. -/
theorem robot_state_agrees_inOrder :
    ShowsRow robotStart (afterAll { db := pendingTables } [robotStart]) ∧
      ShowsRow robotEnd (afterAll { db := pendingTables } [robotStart, robotEnd]) := by
  have hstep : ∀ before p, ¬ p.Blank →
      endedAs before { robotTaskCode := "T1", status := .pending } = none →
      InStep { db := pendingTables } before p := by
    intro before p hb h
    rw [InStep, if_neg hb]
    intro amrCode row _ hrow s hended
    obtain rfl := List.mem_singleton.mp (TaskTable.find?_eq_some.mp hrow).1
    rw [h] at hended
    cases hended
  have hshown := (robot_state_agrees_iff (w := { db := pendingTables }) rfl
    [robotStart, robotEnd]).mpr fun before p rest hps _ => by
      rcases before with _ | ⟨first, _ | ⟨second, before⟩⟩
      · cases hps
        exact hstep [] robotStart (by decide) (by decide)
      · cases hps
        exact hstep [robotStart] robotEnd (by decide) (by decide)
      · exact absurd (congrArg List.length hps) (by simp)
  exact ⟨hshown [] robotStart [robotEnd] rfl (by decide),
    hshown [robotStart] robotEnd [] rfl (by decide)⟩

/-- **A finished task's robot is shown running**, after a feedback `start` that arrives last. -/
theorem robot_state_disagrees :
    committedStatus "T1" (afterAll { db := pendingTables } [robotEnd, robotStart]) =
        some .completed ∧
      robotState? (afterAll { db := pendingTables } [robotEnd, robotStart]) "R1" =
        some (.str "running") := by
  refine ⟨by decide, ?_⟩
  have hs : (afterAll { db := pendingTables } [robotEnd]).sessions () = [] := afterAll_session rfl
  have htarget : robotStart.target = .running := by decide
  have hstate := robotState?_after (p := robotStart) hs (by decide) (by decide) rfl
  rw [htarget] at hstate
  exact hstate

end Rcs

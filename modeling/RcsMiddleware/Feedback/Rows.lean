import Mathlib.Data.Multiset.MapFold
import RcsMiddleware.Feedback.Sequences
import RcsMiddleware.Feedback.Terminal

/-!
# Feedback — Rows

The life of a row of `task_history` under executions of `process_task_feedback` that run one after
the other.

**The columns** (`row_lifecycle`).  Whatever the feedbacks and whichever stores fail, the status
moves on to running or to a terminal status and then stays, the end time is set exactly when it is
terminal, the start time is written once and does not lie after the end time, and no column is
emptied.

**The order does not matter** (`final_status_of_multiset`) for feedbacks of known methods.
-/

namespace Rcs

open Support Support.Text Support.Prog

/-! ### What a row can become -/

/-- A row, and what it is later. -/
structure Advances (old new : TaskHistory) : Prop where
  status : new.status = old.status ∨ ((old.status = .pending ∨ old.status = .running) ∧
    (new.status = .running ∨ new.status = .completed ∨ new.status = .failed))
  /-- A row in a terminal status does not change. -/
  final : old.status.terminal = true → new = old
  startTime : ∀ t, old.startTime = some t → new.startTime = some t
  endTime : old.endTime ≠ none → new.endTime ≠ none
  robotCode : old.robotCode ≠ none → new.robotCode ≠ none
  errorMsg : old.errorMsg ≠ none → new.errorMsg ≠ none

/-- The times of a row agree with its status and with each other. -/
structure Timed (row : TaskHistory) : Prop where
  ended : row.endTime ≠ none ↔ row.status.terminal = true
  ordered : ∀ s t, row.startTime = some s → row.endTime = some t → s ≤ t

theorem Advances.refl (row : TaskHistory) : Advances row row :=
  ⟨.inl rfl, fun _ => rfl, fun _ h => h, id, id, id⟩

theorem Advances.trans {a b c : TaskHistory} (h : Advances a b) (h' : Advances b c) :
    Advances a c where
  status := by
    rcases h'.status with hc | ⟨hb, hc⟩
    · rw [hc]
      exact h.status
    · rcases h.status with hb' | ⟨ha, -⟩
      · exact .inr ⟨hb' ▸ hb, hc⟩
      · exact .inr ⟨ha, hc⟩
  final ht := by
    have hb := h.final ht
    rw [h'.final (hb ▸ ht), hb]
  startTime t ht := h'.startTime t (h.startTime t ht)
  endTime := h'.endTime ∘ h.endTime
  robotCode := h'.robotCode ∘ h.robotCode
  errorMsg := h'.errorMsg ∘ h.errorMsg

theorem orElse_ne_none {A : Type} {o u : Option A} (h : o ≠ none) : (u <|> o) ≠ none := by
  cases u with
  | none => exact h
  | some a => exact fun h' => by cases h'

variable {p : Processing} {ps : List Processing} {w : World Unit} {row : TaskHistory}
  {code : String}

theorem not_terminal_iff {s : TaskStatus} :
    s.terminal = false ↔ s = .pending ∨ s = .running := by
  cases s <;> simp [TaskStatus.terminal]

/-- An execution advances every row. -/
theorem onRow_advances (p : Processing) (row : TaskHistory) : Advances row (p.onRow row) := by
  by_cases h : p.Reaches row.robotTaskCode ∧ row.status.terminal = false
  · rw [Processing.onRow_of_reaches h.1 h.2]
    refine ⟨.inr ⟨not_terminal_iff.mp h.2, ?_⟩, fun ht => ?_, fun t ht => ?_, orElse_ne_none,
      orElse_ne_none, orElse_ne_none⟩
    · rw [StatusUpdate.set_status, Processing.statusUpdate_status, Processing.target]
      rcases targetStatus_cases p.method with ⟨-, hf⟩ | hr | hc
      · exact .inr (.inr hf)
      · exact .inl hr
      · exact .inr (.inl hc)
    · rw [h.2] at ht
      cases ht
    · -- The start time is only written while it is empty.
      have hwritten : ¬ (p.method = "start" ∧ row.startTime = none) := fun h' => by
        rw [ht] at h'
        cases h'.2
      rw [StatusUpdate.set_startTime, Processing.statusUpdate_startTime, if_neg hwritten]
      exact ht
  · rw [Processing.onRow, if_neg h]
    exact .refl row

/-- **The step.**  The start time does not lie after the clock of an execution: neither does it
after the execution, and the times of the row go on agreeing. -/
theorem onRow_timed (h : Timed row) (hclock : ∀ s, row.startTime = some s → s ≤ p.clock) :
    Timed (p.onRow row) ∧ ∀ s, (p.onRow row).startTime = some s → s ≤ p.clock := by
  by_cases hr : p.Reaches row.robotTaskCode ∧ row.status.terminal = false
  · have hstart : ∀ s, (p.onRow row).startTime = some s → s ≤ p.clock := by
      intro s hs
      rw [Processing.onRow_of_reaches hr.1 hr.2, StatusUpdate.set_startTime,
        Processing.statusUpdate_startTime] at hs
      split_ifs at hs with hm
      · cases hs
        exact le_refl _
      · exact hclock s hs
    have hnone : row.endTime = none := by
      by_contra hne
      rw [h.ended.mp hne] at hr
      cases hr.2
    have hend : (p.onRow row).endTime = if p.target.terminal then some p.clock else none := by
      rw [Processing.onRow_of_reaches hr.1 hr.2, StatusUpdate.set_endTime,
        Processing.statusUpdate_endTime, hnone]
      split <;> rfl
    have hstatus : (p.onRow row).status = p.target := by
      rw [Processing.onRow_of_reaches hr.1 hr.2, StatusUpdate.set_status,
        Processing.statusUpdate_status]
    refine ⟨⟨?_, fun s t hs ht => ?_⟩, hstart⟩
    · rw [hend, hstatus]
      cases p.target.terminal <;> simp
    · rw [hend] at ht
      split at ht
      · cases ht
        exact hstart s hs
      · cases ht
  · rw [Processing.onRow, if_neg hr]
    exact ⟨h, hclock⟩

theorem rowAfter_advances (ps : List Processing) (row : TaskHistory) :
    Advances row (rowAfter ps row) := by
  induction ps generalizing row with
  | nil => exact .refl row
  | cons p ps ih =>
      rw [rowAfter_cons]
      exact (onRow_advances p row).trans (ih (p.onRow row))

/-- The run, with a clock that does not go back. -/
theorem rowAfter_timed (h : Timed row) (hclock : (ps.map Processing.clock).Pairwise (· ≤ ·))
    (hstart : ∀ s, row.startTime = some s → ∀ p ∈ ps, s ≤ p.clock) : Timed (rowAfter ps row) := by
  induction ps generalizing row with
  | nil => exact h
  | cons p ps ih =>
      obtain ⟨hfirst, hrest⟩ := List.pairwise_cons.mp hclock
      obtain ⟨htimed, hle⟩ := onRow_timed h fun s hs => hstart s hs p List.mem_cons_self
      rw [rowAfter_cons]
      refine ih htimed hrest fun s hs q hq => ?_
      exact (hle s hs).trans (hfirst _ (List.mem_map_of_mem hq))

/-- **The life of a row** created as pending: what it is after some executions, and what it is
after some more. -/
theorem row_lifecycle (hs : w.sessions () = []) (hrow : w.db.tasks.find? code = some row)
    (hstatus : row.status = .pending) (hstart : row.startTime = none) (hend : row.endTime = none)
    {qs : List Processing} (hclock : ((ps ++ qs).map Processing.clock).Pairwise (· ≤ ·)) :
    ∃ old new, (afterAll w ps).db.tasks.find? code = some old ∧
      (afterAll w (ps ++ qs)).db.tasks.find? code = some new ∧ Timed old ∧ Advances old new := by
  have hfirst : Timed row := by
    refine ⟨?_, fun s t hs' => by rw [hstart] at hs'; cases hs'⟩
    rw [hend, hstatus]
    simp [TaskStatus.terminal]
  rw [List.map_append, List.pairwise_append] at hclock
  refine ⟨rowAfter ps row, rowAfter (ps ++ qs) row, ?_, ?_, ?_, ?_⟩
  · rw [afterAll_find? hs, hrow]
    rfl
  · rw [afterAll_find? hs, hrow]
    rfl
  · exact rowAfter_timed hfirst hclock.1 fun s hs' => by rw [hstart] at hs'; cases hs'
  · rw [rowAfter_append]
    exact rowAfter_advances qs _

/-- The feedback `start`, processed at one minute past, and the feedback `end`, at two. -/
def startFirst : Processing :=
  { payload := startAndEnd false, clock := ⟨2026, 1, 1, 0, 1, 0, 0⟩ }

def endSecond : Processing :=
  { payload := startAndEnd true, clock := ⟨2026, 1, 1, 0, 2, 0, 0⟩ }

theorem row_lifecycle_startFirst :
    ∃ old new, (afterAll { db := pendingTables } [startFirst]).db.tasks.find? "T1" = some old ∧
      (afterAll { db := pendingTables } [startFirst, endSecond]).db.tasks.find? "T1" = some new ∧
      Timed old ∧ Advances old new :=
  @row_lifecycle [startFirst] _ _ _ rfl rfl rfl rfl rfl [endSecond] (by decide)

/-! ### The order of the feedbacks -/

/-- **The status is a latch**: given the targets of the feedbacks that reach the row, it takes
each until it is terminal. -/
theorem rowAfter_status (ps : List Processing) (row : TaskHistory) :
    (rowAfter ps row).status = Latch.puts TaskStatus.terminal row.status
      ((ps.filter (Processing.Reaches row.robotTaskCode ·)).map Processing.target) := by
  induction ps generalizing row with
  | nil => rfl
  | cons p ps ih =>
      rw [rowAfter_cons, ih, Processing.onRow_robotTaskCode]
      by_cases hr : p.Reaches row.robotTaskCode
      · rw [List.filter_cons, if_pos (decide_eq_true hr), List.map_cons, Latch.puts_cons]
        congr 1
        cases ht : row.status.terminal with
        | true => rw [Processing.onRow_of_terminal ht, Latch.put_of_final ht]
        | false =>
            rw [Processing.onRow_of_reaches hr ht, StatusUpdate.set_status,
              Processing.statusUpdate_status, Latch.put_of_not_final ht]
      · rw [List.filter_cons, if_neg (by simpa using hr), Processing.onRow_of_not_reaches hr]

/-- The method is a key of `TASK_METHOD_TO_STATUS`. -/
def Known (method : String) : Prop := (taskMethodToStatus.lookup method).isSome = true

instance (method : String) : Decidable (Known method) := inferInstanceAs (Decidable (_ = true))

/-- The status a pending task ends in after feedbacks of known methods. -/
def finalStatus (methods : Multiset String) : TaskStatus :=
  if TaskStatus.completed ∈ methods.map targetStatus then .completed
  else if methods = 0 then .pending
  else .running

/-- A known method asks for running or for completed. -/
theorem targetStatus_of_known {method : String} (h : Known method) :
    targetStatus method = .running ∨ targetStatus method = .completed := by
  rcases targetStatus_cases method with ⟨hnone, -⟩ | hr | hc
  · rw [Known, hnone] at h
    cases h
  · exact .inl hr
  · exact .inr hc

theorem Known.ne_empty {method : String} (h : Known method) : method ≠ "" := by
  rintro rfl
  revert h
  decide

/-- An execution that goes through reaches the row its feedback is about. -/
theorem Processing.reaches_of_clean (hc : p.clean = true) (hb : ¬ p.Blank) :
    p.Reaches p.code := by
  obtain ⟨hselect, hupdate, hcommit, -, -⟩ := Processing.clean_iff.mp hc
  refine ⟨hb, rfl, ?_⟩
  rw [Processing.commits, hselect, hupdate, hcommit]
  rfl

/-- Feedbacks of one pending task in one order. -/
theorem committedStatus_afterAll (hs : w.sessions () = [])
    (hpending : committedStatus code w = some .pending) (hcode : code ≠ "")
    (hclean : ∀ p ∈ ps, p.clean = true) (htask : ∀ p ∈ ps, p.code = code)
    (hknown : ∀ p ∈ ps, Known p.method) :
    committedStatus code (afterAll w ps) =
      some (finalStatus (Multiset.ofList (ps.map Processing.method))) := by
  obtain ⟨row, hrow, hstatus⟩ := Option.map_eq_some_iff.mp hpending
  have hrowcode : row.robotTaskCode = code := (TaskTable.find?_eq_some.mp hrow).2
  have hreach : ∀ p ∈ ps, p.Reaches row.robotTaskCode := by
    intro p hp
    have hb : ¬ p.Blank := by
      rintro (hblank | hblank)
      · exact hcode ((htask p hp).symm.trans hblank)
      · exact (hknown p hp).ne_empty hblank
    rw [hrowcode, ← htask p hp]
    exact Processing.reaches_of_clean (hclean p hp) hb
  have hall : ps.filter (Processing.Reaches row.robotTaskCode ·) = ps :=
    List.filter_eq_self.mpr fun p hp => decide_eq_true (hreach p hp)
  have htargets : ∀ s ∈ ps.map Processing.target, s = .running ∨ s = .completed := by
    intro s hs'
    obtain ⟨p, hp, rfl⟩ := List.mem_map.mp hs'
    exact targetStatus_of_known (hknown p hp)
  have hmap : ps.map Processing.target = (ps.map Processing.method).map targetStatus := by
    rw [List.map_map]
    rfl
  rw [committedStatus, afterAll_find? hs, hrow, Option.map_some, Option.map_some, rowAfter_status,
    hall, hstatus, Latch.puts_of_two rfl rfl rfl htargets, finalStatus, hmap]
  simp only [Multiset.map_coe, Multiset.mem_coe, Multiset.coe_eq_zero, List.map_eq_nil_iff]

/-- **The order does not matter.**  The feedbacks `m` of a pending task have known methods; in
whatever order they are processed, one at a time and with no store failing, the task ends
completed when a method stands for it, else running, or pending when there are none. -/
theorem final_status_of_multiset (hs : w.sessions () = [])
    (hpending : committedStatus code w = some .pending) (hcode : code ≠ "")
    {m : Multiset TaskFeedbackPayload} (htask : ∀ f ∈ m, strip f.robotTaskCode = code)
    (hknown : ∀ f ∈ m, Known (strip f.method)) {qs : List Processing}
    (hclean : ∀ p ∈ ps, p.clean = true) (hclean' : ∀ p ∈ qs, p.clean = true)
    (horder : Multiset.ofList (ps.map Processing.payload) = m)
    (horder' : Multiset.ofList (qs.map Processing.payload) = m) :
    committedStatus code (afterAll w ps) = committedStatus code (afterAll w qs) ∧
      committedStatus code (afterAll w ps) = some (finalStatus (m.map fun f => strip f.method)) := by
  -- What one order leads to is said in terms of the multiset.
  have hone : ∀ rs : List Processing, (∀ p ∈ rs, p.clean = true) →
      Multiset.ofList (rs.map Processing.payload) = m →
      committedStatus code (afterAll w rs) = some (finalStatus (m.map fun f => strip f.method)) := by
    rintro rs hrs rfl
    have hmem : ∀ p ∈ rs, p.payload ∈ Multiset.ofList (rs.map Processing.payload) := fun p hp =>
      Multiset.mem_coe.mpr (List.mem_map_of_mem hp)
    rw [committedStatus_afterAll hs hpending hcode hrs (fun p hp => htask _ (hmem p hp))
      fun p hp => hknown _ (hmem p hp), Multiset.map_coe, List.map_map]
    rfl
  exact ⟨(hone ps hclean horder).trans (hone qs hclean' horder').symm, hone ps hclean horder⟩

theorem final_status_startFirst :
    committedStatus "T1" (afterAll { db := pendingTables } [startFirst, endSecond]) =
        committedStatus "T1" (afterAll { db := pendingTables } [endSecond, startFirst]) ∧
      committedStatus "T1" (afterAll { db := pendingTables } [startFirst, endSecond]) =
        some .completed := by
  have hpending : committedStatus "T1" ({ db := pendingTables } : World Unit) = some .pending := rfl
  obtain ⟨hsame, hfinal⟩ := @final_status_of_multiset [startFirst, endSecond] _ _ rfl hpending
    (by decide) (Multiset.ofList [startAndEnd false, startAndEnd true]) (by decide)
    (by decide) [endSecond, startFirst] (by decide) (by decide) rfl
    (Multiset.coe_eq_coe.mpr (.swap _ _ _))
  exact ⟨hsame, hfinal.trans (by decide)⟩

end Rcs

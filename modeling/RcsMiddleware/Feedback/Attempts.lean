import RcsMiddleware.Feedback.Redelivery
import RcsMiddleware.Feedback.Successes
import RcsMiddleware.Support.Retrying

/-!
# Feedback — Attempts

Attempts of `process_task_feedback` at one payload: an attempt that stops with an exception is
followed by another, until one returns.  An attempt may have written the row of the task and not
the robot's entry, and the next one reads the row it has written.

* `onRow_idempotent`: an execution that finds its own change makes no other.
* `untimed_onRow`: what an attempt makes of a row, time stamps aside, depends on its payload only.
* `attempts_converge`: a series of attempts comes to a single execution that returns.
-/

namespace Rcs

open Support Support.Text Support.Prog

variable {p q : Processing} {w w' : World Unit} {payload : TaskFeedbackPayload}

/-! ### The row -/

/-- A time stamp that is set, without its value. -/
def someTime : DateTime := ⟨1970, 1, 1, 0, 0, 0, 0⟩

/-- A row without the values of its time stamps. -/
def TaskHistory.untimed (row : TaskHistory) : TaskHistory :=
  { row with
    startTime := row.startTime.map fun _ => someTime
    endTime := row.endTime.map fun _ => someTime }

theorem untimed_untimed (row : TaskHistory) : row.untimed.untimed = row.untimed := by
  obtain ⟨_, _, _, _, _, _, start, finish, _⟩ := row
  cases start <;> cases finish <;> rfl

/-- **An execution that finds its own change** makes no other. -/
theorem onRow_idempotent (p : Processing) (row : TaskHistory) :
    p.onRow (p.onRow row) = p.onRow row := by
  by_cases hr : p.Reaches row.robotTaskCode
  · cases ht : row.status.terminal with
    | true =>
        rw [Processing.onRow_of_terminal ht]
        exact Processing.onRow_of_terminal ht
    | false =>
        have hrow := Processing.onRow_of_reaches hr ht
        have hr' : p.Reaches (p.onRow row).robotTaskCode := by
          rwa [Processing.onRow_robotTaskCode]
        cases ht' : (p.onRow row).status.terminal with
        | true => exact Processing.onRow_of_terminal ht'
        | false =>
            rw [Processing.onRow_of_reaches hr' ht', StatusUpdate.set_eq_self_iff]
            have htarget : (p.onRow row).status = p.target := by
              rw [hrow, StatusUpdate.set_status, Processing.statusUpdate_status]
            refine ⟨(p.statusUpdate_status _).trans htarget.symm, fun t hstart => ?_,
              fun t hend => ?_, fun m hm => ?_, fun r hr => ?_⟩
            · rw [Processing.statusUpdate_startTime] at hstart
              split_ifs at hstart with hm
              -- A feedback that starts the task has set the start time.
              have hnone := hm.2
              rw [hrow, StatusUpdate.set_startTime, Processing.statusUpdate_startTime] at hnone
              cases hold : row.startTime with
              | none =>
                  rw [hold, if_pos ⟨hm.1, rfl⟩] at hnone
                  cases hnone
              | some t' =>
                  rw [hold, if_neg fun h => by cases h.2] at hnone
                  cases hnone
            · rw [Processing.statusUpdate_endTime, ← htarget, ht'] at hend
              cases hend
            · rw [Processing.statusUpdate_errorMsg] at hm
              rw [hrow, StatusUpdate.set_errorMsg, Processing.statusUpdate_errorMsg, hm]
              rfl
            · rw [Processing.statusUpdate_robotCode] at hr
              rw [hrow, StatusUpdate.set_robotCode, Processing.statusUpdate_robotCode, hr]
              rfl
  · rw [Processing.onRow_of_not_reaches hr]
    exact Processing.onRow_of_not_reaches hr

theorem startTime_stamped {starts : Prop} [Decidable starts] {stored : Option DateTime}
    {clock clock' : DateTime} :
    ((if starts ∧ stored = none then some clock else none) <|> stored).map (fun _ => someTime) =
      ((if starts ∧ (stored.map fun _ => someTime) = none then some clock' else none) <|>
        stored.map fun _ => someTime).map fun _ => someTime := by
  by_cases hs : starts <;> cases stored <;> simp [hs]

theorem endTime_stamped {ends : Bool} {stored : Option DateTime} {clock clock' : DateTime} :
    ((if ends = true then some clock else none) <|> stored).map (fun _ => someTime) =
      ((if ends = true then some clock' else none) <|> stored.map fun _ => someTime).map
        fun _ => someTime := by
  cases ends <;> cases stored <;> rfl

/-- **What an attempt makes of a row**, time stamps aside, depends on its payload only. -/
theorem untimed_onRow {row : TaskHistory} (hpayload : p.payload = q.payload)
    (hp : p.Reaches row.robotTaskCode) (hq : q.Reaches row.robotTaskCode) :
    (p.onRow row).untimed = (q.onRow row.untimed).untimed := by
  have htarget : p.target = q.target := by
    rw [Processing.target, Processing.target, Processing.method, Processing.method, hpayload]
  have hmethod : p.method = q.method := by rw [Processing.method, Processing.method, hpayload]
  have hq' : q.Reaches row.untimed.robotTaskCode := hq
  cases ht : row.status.terminal with
  | true =>
      have ht' : row.untimed.status.terminal = true := ht
      rw [Processing.onRow_of_terminal ht, Processing.onRow_of_terminal ht', untimed_untimed]
  | false =>
      have ht' : row.untimed.status.terminal = false := ht
      rw [Processing.onRow_of_reaches hp ht, Processing.onRow_of_reaches hq' ht']
      simp only [TaskHistory.untimed, StatusUpdate.set, Processing.statusUpdate, statusUpdate,
        htarget, hmethod, hpayload, TaskHistory.mk.injEq, true_and, and_true]
      exact ⟨startTime_stamped, endTime_stamped⟩

/-- An execution in which no store fails. -/
def undisturbed (payload : TaskFeedbackPayload) : Processing := { payload := payload }

theorem code_of_payload (h : p.payload = q.payload) : p.code = q.code := by
  rw [Processing.code, Processing.code, h]

theorem reaches_of_payload {code : String} (h : p.payload = q.payload) (hq : q.commits = true)
    (hp : p.Reaches code) : q.Reaches code :=
  ⟨fun hb => hp.1 ((Processing.blank_of_payload h).mpr hb), (code_of_payload h).symm.trans hp.2.1,
    hq⟩

theorem commits_of_clean (h : p.clean = true) : p.commits = true := by
  obtain ⟨hselect, hupdate, hcommit, -, -⟩ := Processing.clean_iff.mp h
  rw [Processing.commits, hselect, hupdate, hcommit]
  rfl

/-- What an attempt makes of a row without time stamps, when the database takes its change. -/
def advance (payload : TaskFeedbackPayload) (row : TaskHistory) : TaskHistory :=
  ((undisturbed payload).onRow row).untimed

theorem untimed_advance (row : TaskHistory) :
    ((undisturbed payload).onRow row).untimed = advance payload row.untimed := by
  by_cases hr : (undisturbed payload).Reaches row.robotTaskCode
  · exact untimed_onRow rfl hr hr
  · have hr' : ¬ (undisturbed payload).Reaches row.untimed.robotTaskCode := hr
    rw [advance, Processing.onRow_of_not_reaches hr, Processing.onRow_of_not_reaches hr',
      untimed_untimed]

theorem advance_idempotent (row : TaskHistory) :
    advance payload (advance payload row) = advance payload row := by
  rw [advance, advance, ← advance, ← untimed_advance, onRow_idempotent]

/-- What an execution makes of a row: nothing, or what its payload makes of it. -/
theorem untimed_onRow_cases (hp : p.payload = payload) (row : TaskHistory) :
    (p.onRow row).untimed = row.untimed ∨ (p.onRow row).untimed = advance payload row.untimed := by
  by_cases hr : p.Reaches row.robotTaskCode
  · exact .inr (untimed_onRow (q := undisturbed payload) hp hr (reaches_of_payload hp rfl hr))
  · rw [Processing.onRow_of_not_reaches hr]
    exact .inl rfl

/-- An execution that goes through makes of a row what its payload makes of it. -/
theorem untimed_onRow_of_clean (hp : p.payload = payload) (hc : p.clean = true)
    (row : TaskHistory) : (p.onRow row).untimed = advance payload row.untimed := by
  by_cases hr : p.Reaches row.robotTaskCode
  · exact untimed_onRow (q := undisturbed payload) hp hr (reaches_of_payload hp rfl hr)
  · have hr' : ¬ (undisturbed payload).Reaches row.robotTaskCode := fun h =>
      hr (reaches_of_payload (p := undisturbed payload) hp.symm (commits_of_clean hc) h)
    rw [Processing.onRow_of_not_reaches hr, ← untimed_advance, Processing.onRow_of_not_reaches hr']

/-! ### A series of attempts -/

/-- The row of the payload's task, time stamps aside. -/
def rowView (payload : TaskFeedbackPayload) (w : World Unit) : Option TaskHistory :=
  (w.db.tasks.find? (strip payload.robotTaskCode)).map TaskHistory.untimed

/-- A robot's entry, its time stamp aside. -/
def entryView (amrCode : String) (w : World Unit) : Option RedisValue :=
  (w.redis (robotStateKey amrCode)).map RedisValue.withoutUpdatedAt

/-- From one attempt to the next: the task's row and the robot's entry are not touched, and the
next attempt has a session of its own. -/
structure Untouched (payload : TaskFeedbackPayload) (w w' : World Unit) : Prop where
  session : w'.sessions () = []
  row : w'.db.tasks.find? (strip payload.robotTaskCode) =
    w.db.tasks.find? (strip payload.robotTaskCode)
  entry : ∀ amrCode, truthy payload.amrCode = some amrCode →
    w'.redis (robotStateKey amrCode) = w.redis (robotStateKey amrCode)

/-- A series of attempts at a payload, of which the last returns.  The others may stop at any
step; what else happens between two attempts touches neither the row nor the entry. -/
inductive Attempted (payload : TaskFeedbackPayload) : World Unit → World Unit → Prop where
  | last {w : World Unit} {p : Processing} (hp : p.payload = payload) (hok : p.Succeeds w) :
      Attempted payload w (p.after w)
  | again {w w' w'' : World Unit} {p : Processing} (hp : p.payload = payload)
      (hkept : Untouched payload (p.after w) w') (rest : Attempted payload w' w'') :
      Attempted payload w w''

theorem rowView_after (hs : w.sessions () = []) :
    rowView payload (p.after w) =
      (w.db.tasks.find? (strip payload.robotTaskCode)).map fun row => (p.onRow row).untimed := by
  rw [rowView, TaskTable.find?_of_rows Processing.onRow_robotTaskCode (Processing.after_rows hs),
    Option.map_map]
  rfl

/-- The change a payload makes of the row of its task. -/
def advanceRow (payload : TaskFeedbackPayload) (view : Option TaskHistory) : Option TaskHistory :=
  view.map (advance payload)

theorem rowView_of_ok (hp : p.payload = payload) (hs : w.sessions () = []) (hok : p.Succeeds w) :
    rowView payload (p.after w) = advanceRow payload (rowView payload w) := by
  rw [← Processing.after_of_ok hok, rowView_after (p := p.cleaned) hs, advanceRow, rowView,
    Option.map_map]
  exact congrArg (fun f => Option.map f _)
    (funext fun row => untimed_onRow_of_clean (p := p.cleaned) hp rfl row)

theorem rowView_cases (hp : p.payload = payload) (hs : w.sessions () = []) :
    rowView payload (p.after w) = rowView payload w ∨
      rowView payload (p.after w) = advanceRow payload (rowView payload w) := by
  rw [rowView_after hs, advanceRow, rowView]
  cases w.db.tasks.find? (strip payload.robotTaskCode) with
  | none =>
      simp only [Option.map_none]
      exact .inl trivial
  | some row =>
      simp only [Option.map_some, Option.some.injEq]
      exact untimed_onRow_cases hp row

theorem Untouched.rowView_eq (h : Untouched payload w w') : rowView payload w' = rowView payload w := by
  rw [rowView, rowView, h.row]

/-- **The row** goes through attempts at one change. -/
theorem Attempted.rowAttempts (h : Attempted payload w w') (hs : w.sessions () = []) :
    Attempts (advanceRow payload) (rowView payload w) (rowView payload w') := by
  induction h with
  | last hp hok =>
      rw [rowView_of_ok hp hs hok]
      exact .last _
  | again hp hkept _ ih =>
      have hrest := ih hkept.session
      rw [hkept.rowView_eq] at hrest
      exact .again (rowView_cases hp hs) hrest

/-- The change a payload makes of its robot's entry. -/
def advanceEntry (payload : TaskFeedbackPayload) (amrCode : String) (view : Option RedisValue) :
    Option RedisValue :=
  if (undisturbed payload).Blank then view
  else some ((undisturbed payload).entry amrCode).withoutUpdatedAt

section Entry

variable {amrCode : String}

theorem entryView_onRedis (hp : p.payload = payload) (ha : truthy payload.amrCode = some amrCode)
    (redis : String → Option RedisValue) :
    (p.onRedis redis (robotStateKey amrCode)).map RedisValue.withoutUpdatedAt =
      advanceEntry payload amrCode
        ((redis (robotStateKey amrCode)).map RedisValue.withoutUpdatedAt) := by
  have hblank : p.Blank ↔ (undisturbed payload).Blank :=
    Processing.blank_of_payload hp
  obtain ⟨hcode, hne⟩ := truthy_eq_some.mp ha
  rw [advanceEntry]
  by_cases hb : p.Blank
  · rw [Processing.onRedis_of_blank hb, if_pos (hblank.mp hb)]
  · rw [Processing.onRedis_of_writes hne ⟨hb, by rw [hp]; exact hcode⟩, Function.update_self,
      if_neg fun h => hb (hblank.mpr h), Option.map_some]
    refine congrArg some (entry_eq_iff.mpr ?_)
    subst hp
    exact ⟨rfl, rfl, rfl, rfl⟩

theorem entryView_of_ok (hp : p.payload = payload) (ha : truthy payload.amrCode = some amrCode)
    (hs : w.sessions () = []) (hok : p.Succeeds w) :
    entryView amrCode (p.after w) = advanceEntry payload amrCode (entryView amrCode w) := by
  rw [← Processing.after_of_ok hok, entryView, Processing.after_redis hs (Processing.cleaned_clean p)]
  exact entryView_onRedis hp ha w.redis

theorem entryView_cases (hp : p.payload = payload) (ha : truthy payload.amrCode = some amrCode)
    (hs : w.sessions () = []) :
    entryView amrCode (p.after w) = entryView amrCode w ∨
      entryView amrCode (p.after w) = advanceEntry payload amrCode (entryView amrCode w) := by
  rw [entryView, entryView]
  rcases Processing.after_redis_cases (p := p) hs with h | h
  · rw [h]
    exact .inl rfl
  · rw [h]
    exact .inr (entryView_onRedis hp ha w.redis)

/-- **The entry** goes through attempts at one change. -/
theorem Attempted.entryAttempts (h : Attempted payload w w') (hs : w.sessions () = [])
    (ha : truthy payload.amrCode = some amrCode) :
    Attempts (advanceEntry payload amrCode) (entryView amrCode w) (entryView amrCode w') := by
  induction h with
  | last hp hok =>
      rw [entryView_of_ok hp ha hs hok]
      exact .last _
  | again hp hkept _ ih =>
      have hrest := ih hkept.session
      rw [entryView, hkept.entry amrCode ha] at hrest
      exact .again (entryView_cases hp ha hs) hrest

end Entry

/-- **Attempts converge.**  A series of attempts at a payload leaves the row of its task and its
robot's entry as a single execution `q` that returns leaves them, from the same world, up to the
values of the time stamps. -/
theorem attempts_converge (hs : w.sessions () = []) (h : Attempted payload w w')
    (hq : q.payload = payload) (hok : q.Succeeds w) :
    rowView payload w' = rowView payload (q.after w) ∧
      ∀ amrCode, truthy payload.amrCode = some amrCode →
        entryView amrCode w' = entryView amrCode (q.after w) := by
  constructor
  · rw [rowView_of_ok hq hs hok]
    refine (h.rowAttempts hs).eq_once fun view => ?_
    rw [advanceRow, advanceRow, Option.map_map]
    exact congrArg (fun f => Option.map f _) (funext advance_idempotent)
  · intro amrCode ha
    rw [entryView_of_ok hq ha hs hok]
    refine (h.entryAttempts hs ha).eq_once fun view => ?_
    rw [advanceEntry, advanceEntry]
    split <;> rfl

/-- The feedback `end`, processed while the answer to the commit is lost. -/
def robotEndLost : Processing :=
  { robotEnd with commit := .after (.storeError "connection lost") }

/-- The commit of the first attempt takes effect, and the second attempt finds the row ended. -/
theorem attempts_converge_lostCommit :
    rowView robotEnd.payload (robotEnd.after (robotEndLost.after { db := pendingTables })) =
      rowView robotEnd.payload (robotEnd.after { db := pendingTables }) :=
  have hs : (robotEndLost.after { db := pendingTables }).sessions () = [] :=
    Processing.after_session rfl
  have hattempted : Attempted robotEnd.payload { db := pendingTables }
      (robotEnd.after (robotEndLost.after { db := pendingTables })) :=
    .again (p := robotEndLost) rfl ⟨hs, rfl, fun _ _ => rfl⟩
      (.last (p := robotEnd) rfl (Processing.succeeds_of_clean hs rfl))
  (attempts_converge (q := robotEnd) rfl hattempted rfl (Processing.succeeds_of_clean rfl rfl)).1

end Rcs

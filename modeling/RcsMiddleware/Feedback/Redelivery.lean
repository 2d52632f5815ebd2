import RcsMiddleware.Feedback.RobotStates

/-!
# Feedback — Redelivery

A feedback that is processed once more at the end of a sequence.

**Redelivery** (`redelivery_idempotent_iff`) leaves both stores as they were, time stamps aside,
exactly when

* the row is terminal, or the feedback's error text and robot are the last ones the row was given;
* the last feedback of its robot agrees with it in all that the robot's entry shows.
-/

namespace Rcs

open Support Support.Text Support.Prog

variable {p q : Processing} {ps : List Processing} {w : World Unit} {row : TaskHistory}
  {code amrCode : String}

/-! ### A row that has not ended -/

/-- A row that has not ended at the end has not ended before. -/
theorem not_terminal_of_rowAfter (ps : List Processing)
    (h : (rowAfter ps row).status.terminal = false) :
    row.status.terminal = false := by
  by_contra hne
  rw [(rowAfter_advances ps row).final (Bool.not_eq_false _ ▸ hne)] at h
  exact hne h

/-- What a row that has not ended holds in a column that every feedback which gives it a value
overwrites. -/
theorem rowAfter_column {A : Type} {column : TaskHistory → Option A}
    (given : Processing → Option A)
    (hset : ∀ (p : Processing) row, column ((p.statusUpdate row).set row) =
      (given p <|> column row))
    (h : (rowAfter ps row).status.terminal = false) :
    column (rowAfter ps row) = Cell.stores (column row)
      ((ps.filter (Processing.Reaches row.robotTaskCode ·)).map given) := by
  induction ps generalizing row with
  | nil => rfl
  | cons p ps ih =>
      rw [rowAfter_cons] at h ⊢
      rw [ih h, Processing.onRow_robotTaskCode]
      by_cases hr : p.Reaches row.robotTaskCode
      · have ht : row.status.terminal = false :=
          not_terminal_of_rowAfter (p :: ps) (by rwa [rowAfter_cons])
        rw [List.filter_cons, if_pos (decide_eq_true hr), List.map_cons, Cell.stores_cons,
          Processing.onRow_of_reaches hr ht, hset]
      · rw [List.filter_cons, if_neg (by simpa using hr), Processing.onRow_of_not_reaches hr]

/-- A row that has been started has its start time. -/
theorem rowAfter_startTime (hp : p ∈ ps) (hr : p.Reaches row.robotTaskCode)
    (hstart : p.method = "start") (h : (rowAfter ps row).status.terminal = false) :
    (rowAfter ps row).startTime ≠ none := by
  obtain ⟨before, rest, rfl⟩ := List.append_of_mem hp
  rw [rowAfter_append, rowAfter_cons] at h ⊢
  have hadvances := rowAfter_advances rest (p.onRow (rowAfter before row))
  have ht : (rowAfter before row).status.terminal = false :=
    not_terminal_of_rowAfter (p :: rest) (by rwa [rowAfter_cons])
  obtain ⟨t, hwritten⟩ : ∃ t, (p.onRow (rowAfter before row)).startTime = some t := by
    rw [Processing.onRow_of_reaches (by rwa [rowAfter_robotTaskCode]) ht,
      StatusUpdate.set_startTime, Processing.statusUpdate_startTime]
    cases hs : (rowAfter before row).startTime with
    | none => exact ⟨p.clock, by rw [if_pos ⟨hstart, rfl⟩]; rfl⟩
    | some t => exact ⟨t, by rw [if_neg fun h' => by cases h'.2]; rfl⟩
  rw [hadvances.startTime t hwritten]
  exact fun h' => by cases h'

/-- An `UPDATE` changes nothing when it sets what the columns hold. -/
theorem StatusUpdate.set_eq_self_iff {u : StatusUpdate} {row : TaskHistory} :
    u.set row = row ↔ u.status = row.status ∧
      (∀ t, u.startTime = some t → row.startTime = some t) ∧
      (∀ t, u.endTime = some t → row.endTime = some t) ∧
      (∀ m, u.errorMsg = some m → row.errorMsg = some m) ∧
      (∀ r, u.robotCode = some r → row.robotCode = some r) := by
  have horElse : ∀ {A : Type} (o o' : Option A), (o <|> o') = o' ↔ ∀ a, o = some a → o' = some a := by
    intro A o o'
    cases o with
    | none => exact ⟨fun _ a h => (by cases h), fun _ => rfl⟩
    | some a => exact ⟨fun h b hb => h.symm.trans hb, fun h => (h a rfl).symm⟩
  obtain ⟨_, _, _, _, _, _, _, _, _⟩ := row
  simp only [StatusUpdate.set, TaskHistory.mk.injEq, horElse, true_and]
  tauto

/-! ### The row -/

/-- The last value that the feedbacks which reach the row of a task give it. -/
def lastGiven {A : Type} (given : TaskFeedbackPayload → Option A) (code : String)
    (ps : List Processing) : Option A :=
  (((ps.filter (Processing.Reaches code ·)).map fun p => given p.payload).filterMap id).getLast?

/-- A column that has been given a value holds the last one. -/
theorem column_eq_lastGiven {A : Type} {column : TaskHistory → Option A}
    {given : TaskFeedbackPayload → Option A} {a : A}
    (hset : ∀ (p : Processing) row, column ((p.statusUpdate row).set row) =
      (given p.payload <|> column row))
    (h : (rowAfter ps row).status.terminal = false) (hp : p ∈ ps)
    (hr : p.Reaches row.robotTaskCode) (hgiven : given p.payload = some a) :
    column (rowAfter ps row) = lastGiven given row.robotTaskCode ps := by
  rw [rowAfter_column (fun p => given p.payload) hset h, Cell.stores_eq, lastGiven]
  have hfilter : p ∈ ps.filter (Processing.Reaches row.robotTaskCode ·) :=
    List.mem_filter.mpr ⟨hp, decide_eq_true hr⟩
  have hmem : a ∈ ((ps.filter (Processing.Reaches row.robotTaskCode ·)).map
      fun p => given p.payload).filterMap id :=
    List.mem_filterMap.mpr ⟨some a, List.mem_map.mpr ⟨p, hfilter, hgiven⟩, rfl⟩
  rw [List.getLast?_eq_some_getLast (List.ne_nil_of_mem hmem)]
  rfl

/-- A row that feedbacks have reached without ending it is running. -/
theorem rowAfter_running (h : endedAs ps row = none) (hp : p ∈ ps)
    (hr : p.Reaches row.robotTaskCode) :
    (rowAfter ps row).status = .running ∧ p.target = .running := by
  -- A target that is not terminal is running.
  have htargets : ∀ s ∈ (ps.filter (Processing.Reaches row.robotTaskCode ·)).map Processing.target,
      s = .running := by
    intro s hs
    have ht := List.find?_eq_none.mp h s (List.mem_cons_of_mem _ hs)
    obtain ⟨q, -, rfl⟩ := List.mem_map.mp hs
    rcases targetStatus_cases q.method with ⟨-, hf⟩ | hrun | hc
    · rw [Processing.target, hf] at ht
      exact absurd rfl ht
    · exact hrun
    · rw [Processing.target, hc] at ht
      exact absurd rfl ht
  have hfilter : p ∈ ps.filter (Processing.Reaches row.robotTaskCode ·) :=
    List.mem_filter.mpr ⟨hp, decide_eq_true hr⟩
  have hmem := List.mem_map_of_mem (f := Processing.target) hfilter
  refine ⟨?_, htargets _ hmem⟩
  rw [rowAfter_status, Latch.puts_of_not_final h, List.getLastD_eq_getLast?,
    List.getLast?_eq_some_getLast (List.ne_nil_of_mem hmem)]
  exact htargets _ (List.getLast_mem _)

/-- **A feedback processed once more leaves the row** exactly when the row has ended, or when the
feedback's error text and robot are the last ones it was given. -/
theorem onRow_redelivered (hp : p ∈ ps) (hpayload : p.payload = q.payload)
    (hr : p.Reaches row.robotTaskCode) (hq : q.Reaches row.robotTaskCode) :
    q.onRow (rowAfter ps row) = rowAfter ps row ↔ endedAs ps row ≠ none ∨
      (∀ m, q.payload.errorMsg = some m →
        lastGiven TaskFeedbackPayload.errorMsg row.robotTaskCode ps = some m) ∧
      (∀ r, q.payload.amrCode = some r →
        lastGiven TaskFeedbackPayload.amrCode row.robotTaskCode ps = some r) := by
  cases ht : (rowAfter ps row).status.terminal with
  | true =>
      obtain ⟨s, hs⟩ := rowAfter_terminal.mp ht
      rw [Processing.onRow_of_terminal ht, hs]
      exact ⟨fun _ => .inl fun h => (by cases h), fun _ => rfl⟩
  | false =>
      have hended : endedAs ps row = none := by
        by_contra hne
        obtain ⟨s, hs⟩ := Option.ne_none_iff_exists'.mp hne
        rw [rowAfter_terminal.mpr ⟨s, hs⟩] at ht
        cases ht
      obtain ⟨hrunning, htarget⟩ := rowAfter_running hended hp hr
      have hmethod : p.method = q.method := by
        rw [Processing.method, Processing.method, hpayload]
      have htarget' : q.target = .running := by
        rw [← htarget, Processing.target, Processing.target, hmethod]
      have hq' : q.Reaches (rowAfter ps row).robotTaskCode := by rwa [rowAfter_robotTaskCode]
      rw [Processing.onRow_of_reaches hq' ht, StatusUpdate.set_eq_self_iff]
      have hstart : ∀ t, (q.statusUpdate (rowAfter ps row)).startTime = some t →
          (rowAfter ps row).startTime = some t := by
        intro t hs
        rw [Processing.statusUpdate_startTime] at hs
        split_ifs at hs with hm
        exact absurd hm.2 (rowAfter_startTime hp hr (hmethod.trans hm.1) ht)
      have hend : ∀ t, (q.statusUpdate (rowAfter ps row)).endTime = some t →
          (rowAfter ps row).endTime = some t := by
        intro t hs
        rw [Processing.statusUpdate_endTime, htarget'] at hs
        cases hs
      -- What is left are the two columns that a later feedback can overwrite.
      have herror : ∀ m, q.payload.errorMsg = some m → (rowAfter ps row).errorMsg =
          lastGiven TaskFeedbackPayload.errorMsg row.robotTaskCode ps := fun m hm =>
        column_eq_lastGiven (fun _ _ => rfl) ht hp hr (hpayload ▸ hm)
      have hrobot : ∀ r, q.payload.amrCode = some r → (rowAfter ps row).robotCode =
          lastGiven TaskFeedbackPayload.amrCode row.robotTaskCode ps := fun r hr' =>
        column_eq_lastGiven (fun _ _ => rfl) ht hp hr (hpayload ▸ hr')
      constructor
      · rintro ⟨-, -, -, hm, hr'⟩
        exact .inr ⟨fun m h => (herror m h).symm.trans (hm m h),
          fun r h => (hrobot r h).symm.trans (hr' r h)⟩
      · rintro (h | ⟨hm, hr'⟩)
        · exact absurd hended h
        · refine ⟨?_, hstart, hend, fun m h => ?_, fun r h => ?_⟩
          · rw [Processing.statusUpdate_status, htarget', hrunning]
          · exact (herror m h).trans (hm m h)
          · exact (hrobot r h).trans (hr' r h)

/-! ### The robot's entry -/

/-- A value without its `updatedAt` member. -/
def RedisValue.withoutUpdatedAt : RedisValue → RedisValue
  | .json (.obj fields) => .json (.obj (fields.filter fun field => field.1 != "updatedAt"))
  | v => v

/-- Two feedbacks of a robot show the same in its entry. -/
def SameState (p q : Processing) : Prop :=
  p.payload.x = q.payload.x ∧ p.payload.y = q.payload.y ∧ p.target = q.target ∧
    p.payload.robotTaskCode = q.payload.robotTaskCode

instance (p q : Processing) : Decidable (SameState p q) := inferInstanceAs (Decidable (_ ∧ _))

theorem jsonFloat_injective {a b : Option PyFloat} (h : jsonFloat a = jsonFloat b) : a = b := by
  cases a <;> cases b <;> cases h <;> rfl

theorem entry_withoutUpdatedAt (amrCode : String) (p : Processing) :
    (p.entry amrCode).withoutUpdatedAt =
      .json (.obj [("amrCode", .str amrCode), ("x", jsonFloat p.payload.x),
        ("y", jsonFloat p.payload.y), ("state", .str p.target.value),
        ("lastTaskCode", .str p.payload.robotTaskCode)]) := by
  simp [Processing.entry, statePayload, RedisValue.withoutUpdatedAt]

theorem entry_eq_iff : (p.entry amrCode).withoutUpdatedAt = (q.entry amrCode).withoutUpdatedAt ↔
    SameState p q := by
  rw [entry_withoutUpdatedAt, entry_withoutUpdatedAt]
  simp only [RedisValue.json.injEq, Json.obj.injEq, List.cons.injEq, Prod.mk.injEq, Json.str.injEq,
    true_and, and_true]
  constructor
  · rintro ⟨hx, hy, hstate, hcode⟩
    exact ⟨jsonFloat_injective hx, jsonFloat_injective hy, TaskStatus.value_injective hstate, hcode⟩
  · rintro ⟨hx, hy, hstate, hcode⟩
    exact ⟨by rw [hx], by rw [hy], by rw [hstate], hcode⟩

/-- The last feedback that writes a robot's entry. -/
def lastOf (amrCode : String) (ps : List Processing) : Option Processing :=
  (ps.filter (Processing.Writes amrCode ·)).getLast?

/-! ### A feedback processed once more -/

/-- The second world has the rows and the Redis entries of the first, time stamps aside. -/
structure SameUpToClock (w w' : World Unit) : Prop where
  rows : w'.db.tasks.rows = w.db.tasks.rows
  redis : ∀ key, (w'.redis key).map RedisValue.withoutUpdatedAt =
    (w.redis key).map RedisValue.withoutUpdatedAt

/-- What the feedback gave the row of its task stands: the row has ended, or no later feedback has
given it another error text or another robot. -/
def RowStands (w : World Unit) (ps : List Processing) (q : Processing) : Prop :=
  ∀ row, w.db.tasks.find? q.code = some row → endedAs ps row ≠ none ∨
    (∀ m, q.payload.errorMsg = some m →
      lastGiven TaskFeedbackPayload.errorMsg q.code ps = some m) ∧
    (∀ r, q.payload.amrCode = some r →
      lastGiven TaskFeedbackPayload.amrCode q.code ps = some r)

/-- What the feedback gave its robot's entry stands. -/
def EntryStands (ps : List Processing) (q : Processing) : Prop :=
  ∀ amrCode, truthy q.payload.amrCode = some amrCode →
    ∃ p, lastOf amrCode ps = some p ∧ SameState p q

theorem Processing.blank_of_payload (h : p.payload = q.payload) : p.Blank ↔ q.Blank := by
  rw [Processing.Blank, Processing.Blank, Processing.code, Processing.code, Processing.method,
    Processing.method, h]

/-- The rows, after a feedback that is processed once more. -/
theorem rows_redelivered (hs : w.sessions () = []) (hb : ¬ q.Blank)
    (hclean : ∀ p ∈ ps, p.clean = true) (hq : q.clean = true)
    (hmem : ∃ p ∈ ps, p.payload = q.payload) :
    (afterAll w (ps ++ [q])).db.tasks.rows = (afterAll w ps).db.tasks.rows ↔
      RowStands w ps q := by
  obtain ⟨p, hp, hpayload⟩ := hmem
  have hpb : ¬ p.Blank := fun h => hb ((Processing.blank_of_payload hpayload).mp h)
  have hcode : p.code = q.code := by rw [Processing.code, Processing.code, hpayload]
  have hreach : p.Reaches q.code := hcode ▸ Processing.reaches_of_clean (hclean p hp) hpb
  have hreach' : q.Reaches q.code := Processing.reaches_of_clean hq hb
  rw [afterAll_rows hs, afterAll_rows hs, List.map_inj_left]
  have hone : ∀ row, rowAfter (ps ++ [q]) row = q.onRow (rowAfter ps row) := fun row => by
    rw [rowAfter_append, rowAfter_cons, rowAfter_nil]
  constructor
  · intro h row hrow
    obtain ⟨hm, hrowcode⟩ := TaskTable.find?_eq_some.mp hrow
    have hsame := h row hm
    rw [hone] at hsame
    rw [← hrowcode] at hreach hreach' ⊢
    exact (onRow_redelivered hp hpayload hreach hreach').mp hsame
  · intro h row hm
    rw [hone]
    by_cases hrowcode : row.robotTaskCode = q.code
    · have hstands := h row (TaskTable.find?_eq_some.mpr ⟨hm, hrowcode⟩)
      rw [← hrowcode] at hreach hreach' hstands
      exact (onRow_redelivered hp hpayload hreach hreach').mpr hstands
    · refine Processing.onRow_of_not_reaches fun hr => hrowcode ?_
      exact ((rowAfter_robotTaskCode row).symm.trans hr.2.1.symm)

/-- Redis, after a feedback that is processed once more. -/
theorem redis_redelivered (hs : w.sessions () = []) (hb : ¬ q.Blank)
    (hclean : ∀ p ∈ ps, p.clean = true) (hq : q.clean = true)
    (hmem : ∃ p ∈ ps, p.payload = q.payload) :
    (∀ key, ((afterAll w (ps ++ [q])).redis key).map RedisValue.withoutUpdatedAt =
        ((afterAll w ps).redis key).map RedisValue.withoutUpdatedAt) ↔ EntryStands ps q := by
  rw [afterAll_snoc, Processing.after_redis (afterAll_session hs) hq]
  cases ha : truthy q.payload.amrCode with
  | none =>
      have hsame : q.onRedis (afterAll w ps).redis = (afterAll w ps).redis := by
        rw [Processing.onRedis, ha]
      rw [hsame]
      refine ⟨fun _ amrCode h => ?_, fun _ _ => rfl⟩
      rw [ha] at h
      cases h
  | some amrCode =>
      obtain ⟨hgiven, hne⟩ := truthy_eq_some.mp ha
      have hlast : ∃ p, lastOf amrCode ps = some p := by
        obtain ⟨p, hp, hpayload⟩ := hmem
        have hwrites : p.Writes amrCode :=
          ⟨fun h => hb ((Processing.blank_of_payload hpayload).mp h), hpayload ▸ hgiven⟩
        have hfilter : p ∈ ps.filter (Processing.Writes amrCode ·) :=
          List.mem_filter.mpr ⟨hp, decide_eq_true hwrites⟩
        exact ⟨_, List.getLast?_eq_some_getLast (List.ne_nil_of_mem hfilter)⟩
      obtain ⟨last, hlast⟩ := hlast
      have hentry : (afterAll w ps).redis (robotStateKey amrCode) = some (last.entry amrCode) := by
        rw [afterAll_redis hs hclean, foldl_onRedis hne]
        exact congrArg (fun o => Option.map (Processing.entry amrCode) o <|> _) hlast
      rw [Processing.onRedis_of_writes hne ⟨hb, hgiven⟩]
      constructor
      · intro h amrCode' ha'
        rw [ha] at ha'
        cases ha'
        have hkey := h (robotStateKey amrCode)
        rw [Function.update_self, hentry] at hkey
        exact ⟨last, hlast, entry_eq_iff.mp (Option.some.inj hkey).symm⟩
      · intro h key
        obtain ⟨last', hlast', hsame⟩ := h amrCode ha
        rw [hlast] at hlast'
        cases hlast'
        by_cases hkey : key = robotStateKey amrCode
        · rw [hkey, Function.update_self, hentry, Option.map_some, Option.map_some,
            entry_eq_iff.mpr hsame]
        · rw [Function.update_of_ne hkey]

/-- **Redelivery.**  A feedback of the sequence that is processed once more leaves both stores as
they were exactly when it names no task or no method, or what it gave them stands. -/
theorem redelivery_idempotent_iff (hs : w.sessions () = []) (hclean : ∀ p ∈ ps, p.clean = true)
    (hq : q.clean = true) (hmem : ∃ p ∈ ps, p.payload = q.payload) :
    SameUpToClock (afterAll w ps) (afterAll w (ps ++ [q])) ↔
      q.Blank ∨ (RowStands w ps q ∧ EntryStands ps q) := by
  by_cases hb : q.Blank
  · rw [afterAll_snoc, Processing.after_of_blank hb]
    exact ⟨fun _ => .inl hb, fun _ => ⟨rfl, fun _ => rfl⟩⟩
  · have hrows := rows_redelivered hs hb hclean hq hmem
    have hredis := redis_redelivered hs hb hclean hq hmem
    constructor
    · rintro ⟨hr, he⟩
      exact .inr ⟨hrows.mp hr, hredis.mp he⟩
    · rintro (h | ⟨hr, he⟩)
      · exact absurd h hb
      · exact ⟨hrows.mpr hr, hredis.mpr he⟩

theorem lastOf_concat (h : p.Writes amrCode) (ps : List Processing) :
    lastOf amrCode (ps ++ [p]) = some p := by
  rw [lastOf, List.filter_append, List.filter_cons, if_pos (decide_eq_true h), List.filter_nil,
    List.getLast?_concat]

/-- The feedback `start` of the robot `R2`, with a task of its own, a little later. -/
def otherStart : Processing where
  payload := { startAndEnd false with
    robotTaskCode := "T2", robotTaskCode_nonempty := by decide, amrCode := some "R2" }
  clock := ⟨2026, 1, 1, 0, 0, 5, 0⟩

/-- A feedback `end` that is processed once more, after another robot's feedback. -/
theorem redelivery_idempotent_afterOther :
    SameUpToClock (afterAll { db := pendingTables } [robotStart, robotEnd, otherStart])
      (afterAll { db := pendingTables } [robotStart, robotEnd, otherStart, robotEnd]) := by
  have hiff := @redelivery_idempotent_iff robotEnd [robotStart, robotEnd, otherStart]
    { db := pendingTables } rfl (by decide) (by decide) ⟨robotEnd, by simp, rfl⟩
  refine hiff.mpr (.inr ⟨fun row hrow => ?_, fun amrCode ha => ?_⟩)
  · obtain rfl := List.mem_singleton.mp (TaskTable.find?_eq_some.mp hrow).1
    exact .inl (by decide)
  · cases (truthy_eq_some.mp ha).1
    exact ⟨robotEnd, by rfl, by decide⟩

/-- **A redelivered feedback turns the robot's entry back.**  After `start` and `end`, the feedback
`start` is processed once more. -/
theorem redelivery_changes_entry :
    robotState? (afterAll { db := pendingTables } [robotStart, robotEnd]) "R1" =
        some (.str "completed") ∧
      robotState? (afterAll { db := pendingTables } [robotStart, robotEnd, robotStart]) "R1" =
        some (.str "running") ∧
      ¬ SameUpToClock (afterAll { db := pendingTables } [robotStart, robotEnd])
        (afterAll { db := pendingTables } [robotStart, robotEnd, robotStart]) := by
  have hstart : robotStart.target = .running := by decide
  have hend : robotEnd.target = .completed := by decide
  have hbefore := robotState?_after (p := robotEnd) (w := afterAll { db := pendingTables }
    [robotStart]) (afterAll_session rfl) (by decide) (by decide) rfl
  have hafter := robotState?_after (p := robotStart) (w := afterAll { db := pendingTables }
    [robotStart, robotEnd]) (afterAll_session rfl) (by decide) (by decide) rfl
  rw [hend] at hbefore
  rw [hstart] at hafter
  refine ⟨hbefore, hafter, fun h => ?_⟩
  have hstands := (@redis_redelivered robotStart [robotStart, robotEnd] _ rfl (by decide)
    (by decide) (by decide) ⟨robotStart, List.mem_cons_self, rfl⟩).mp h.redis
  obtain ⟨last, hlast, hsame⟩ := hstands "R1" rfl
  have hend' : lastOf "R1" [robotStart, robotEnd] = some robotEnd :=
    lastOf_concat (by decide) [robotStart]
  cases hend'.symm.trans hlast
  exact absurd hsame (by decide)

end Rcs

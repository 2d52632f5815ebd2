import RcsMiddleware.Submit.Concurrent
import RcsMiddleware.Submit.Sequential

/-!
# Submit — Histories

Which rows `task_history` accepts, while the stores are available.  A key is unique in two places: in
Redis for a day, under one prefix for each endpoint, and never for the empty key; in SQL for ever,
in one column, the empty key included.  So a call can pass its lookup, get a code from RCS and have
its row refused.  So can one whose header, source or target is too long for its column.

**When the row is recorded** (`row_recorded_iff`).  A call that passes its lookup and gets a new
code has its row recorded exactly when the row fits its columns, and the call carries no header, or
no earlier call with the same header, on either endpoint, passed its lookup, got a new code and
asked for a row that fits.
-/

namespace Rcs

open Support Support.Text Support.Prog

/-- One request with its `Idempotency-Key` header and what RCS answers. -/
structure Call where
  submission : Submission
  header : Option String
  rcs : Except PyExc Json

/-- RCS answers as the call says, and the stores are available. -/
def Call.answers (c : Call) : Answers := .available c.rcs

/-- The world after a call. -/
def Call.world (c : Call) (w : World Unit) : World Unit :=
  match c.submission with
  | .create request =>
      ((withSession (createTask request c.header)).run c.answers.respond w).2
  | .raw request =>
      ((withSession (submitRaw request c.header)).run c.answers.respond w).2

/-- The call passes its lookup, gets a code and asks the database for this row. -/
inductive Asks : Call → World Unit → TaskHistory → Prop where
  | create {request : TaskCreateRequest} {header : Option String} {v : Json} {code : String}
      {w : World Unit} (hm : Misses idempotencyKey header w) (hr : robotTypeOf request w.db ≠ none)
      (hv : extractTaskCode v = .ok code) :
      Asks ⟨.create request, header, .ok v⟩ w (createdRow request header code)
  | raw {request : RcsRawSubmitRequest} {header : Option String} {v : Json} {code path : String}
      {w : World Unit} (hm : Misses idemKey header w)
      (hpath : rawSubmitPath request.path = .ok path) (hp : request.persistTask = true)
      (hv : taskCodeOf v = .ok (some code)) :
      Asks ⟨.raw request, header, .ok v⟩ w (rawRow request header code)

/-- What happens to the world, one event at a time. -/
inductive Happening where
  | call (c : Call)
  | expire (redisKey : String)

/-- The world after a history, newest event first. -/
def worldAfter (w : World Unit) : List Happening → World Unit
  | [] => w
  | .call c :: earlier => c.world (worldAfter w earlier)
  | .expire redisKey :: earlier => (worldAfter w earlier).dropRedis redisKey

/-- The call passes its lookup, gets a code that is not in the table, and asks for a row that fits. -/
def AsksNew (c : Call) (w : World Unit) : Prop :=
  ∃ row, Asks c w row ∧ row.Fits ∧ w.db.tasks.find? row.robotTaskCode = none

variable {c : Call} {w : World Unit} {row : TaskHistory}

theorem Asks.header (h : Asks c w row) : row.idempotencyKey = c.header := by
  cases h <;> rfl

/-- A call asks for one row at most. -/
theorem Asks.unique {row' : TaskHistory} (h : Asks c w row) (h' : Asks c w row') : row' = row := by
  cases h with
  | create _ _ hv =>
      cases h' with
      | create _ _ hv' =>
          cases hv.symm.trans hv'
          rfl
  | raw _ _ _ hv =>
      cases h' with
      | raw _ _ _ hv' =>
          cases hv.symm.trans hv'
          rfl

/-! ### One call -/

theorem world_create {request : TaskCreateRequest} {header : Option String}
    {rcs : Except PyExc Json} : (Call.mk (.create request) header rcs).world w =
      ((createTask request header).run (Answers.available rcs).respond w).2.setSession () [] :=
  withSession_world _

theorem world_raw {request : RcsRawSubmitRequest} {header : Option String}
    {rcs : Except PyExc Json} : (Call.mk (.raw request) header rcs).world w =
      ((submitRaw request header).run (Answers.available rcs).respond w).2.setSession () [] :=
  withSession_world _

/-- All that a call does to the table is to store the row it asks for. -/
theorem Asks.world_tasks (h : Asks c w row) :
    ∃ (β : Type) (f : Unit → World Unit → Except PyExc β × World Unit) (call : RcsCall)
      (result : Except PyExc Json), (∀ u w', (f u w').2.db = w'.db) ∧ (c.world w).db.tasks =
        (onOk ((persistTask row).run c.answers.respond (w.logRcs () call result)) f).2.db.tasks := by
  cases h with
  | @create request header v code _ hm hr hcode =>
      obtain ⟨robotType, hr⟩ := Option.ne_none_iff_exists'.mp hr
      refine ⟨_, fun _ => (finishTask request header code).run (Answers.available (.ok v)).respond,
        .submitTask (buildSubmitPayload request robotType.rcsTaskType), .ok v,
        fun _ _ => finishTask_db code, ?_⟩
      rw [world_create, createTask_of_miss hm, createUncached_run, hr, submitTask_of_known,
        Call.answers, ← recordTask_of_code hcode]
      rfl
  | @raw request header v code path _ hm hpath hp hcode =>
      refine ⟨_, fun _ => (finishRaw request path header (rawResult (some code) true v)).run
          (Answers.available (.ok v)).respond,
        rawCall request path, .ok v, fun _ _ => finishRaw_db _, ?_⟩
      rw [world_raw, submitRaw_of_miss hpath hm, sendRaw_run, Call.answers,
        ← recordRaw_of_row hcode hp]
      rfl

/-- A row that fits and that the constraints accept is recorded. -/
theorem Asks.world_of_accepted (h : Asks c w row) (hs : w.sessions () = []) (hfit : row.Fits)
    (hv : w.db.tasks.violated? row = none) :
    (c.world w).db.tasks = w.db.tasks.insert row hv := by
  obtain ⟨β, f, call, result, hdb, htasks⟩ := h.world_tasks
  rw [htasks, Call.answers,
    persist_ok (w := w.logRcs () call result) hs (available_persists hfit) hv, onOk_ok, hdb]
  rfl

/-- A row that does not fit or that a constraint refuses leaves the table as it was. -/
theorem Asks.world_of_rejected (h : Asks c w row)
    (hno : ¬ (row.Fits ∧ w.db.tasks.violated? row = none)) :
    (c.world w).db.tasks = w.db.tasks := by
  obtain ⟨β, f, call, result, -, htasks⟩ := h.world_tasks
  obtain ⟨e, hinsert, -⟩ := available_refuses (w := w.logRcs () call result) c.rcs hno
  rw [htasks]
  exact congrArg Tables.tasks (persist_onOk_rejected hinsert)

/-- A row with a new code is recorded exactly when it fits and no constraint refuses it. -/
theorem Asks.recorded_iff (h : Asks c w row) (hs : w.sessions () = [])
    (hnew : w.db.tasks.find? row.robotTaskCode = none) :
    (c.world w).db.tasks.find? row.robotTaskCode = some row ↔
      row.Fits ∧ w.db.tasks.violated? row = none := by
  by_cases hok : row.Fits ∧ w.db.tasks.violated? row = none
  · rw [h.world_of_accepted hs hok.1 hok.2, TaskTable.find?_insert, if_pos rfl]
    exact ⟨fun _ => hok, fun _ => rfl⟩
  · rw [h.world_of_rejected hok, hnew]
    exact ⟨nofun, fun h => absurd h hok⟩

/-- A call that asks for no row leaves the table as it was. -/
theorem world_of_no_row (h : ∀ row, ¬ Asks c w row) : (c.world w).db.tasks = w.db.tasks := by
  obtain ⟨submission, header, rcs⟩ := c
  cases submission with
  | create request =>
      rw [world_create]
      by_cases hm : Misses idempotencyKey header w
      · rw [createTask_of_miss hm, createUncached_run]
        cases hr : robotTypeOf request w.db with
        | none => rfl
        | some robotType =>
            rw [submitTask_of_known]
            cases rcs with
            | error e => rfl
            | ok v =>
                show ((recordTask request header v).run _ (w.logRcs () _ _)).2.db.tasks = _
                cases hv : extractTaskCode v with
                | error e => rw [recordTask_of_no_code hv]; rfl
                | ok code =>
                    have hne : robotTypeOf request w.db ≠ none := by rw [hr]; exact nofun
                    exact absurd (.create hm hne hv) (h _)
      · obtain ⟨key, ht, hd⟩ : ∃ key, truthy header = some key ∧
            cachedDocument (w.redis (idempotencyKey key)) ≠ none := by
          simpa [Misses] using hm
        obtain ⟨rfl, hkey⟩ := truthy_eq_some.mp ht
        rw [createTask_of_hit hkey hd]
        rfl
  | raw request =>
      rw [world_raw]
      cases hpath : rawSubmitPath request.path with
      | error e => rw [submitRaw_of_no_path hpath]; rfl
      | ok path =>
          by_cases hm : Misses idemKey header w
          · rw [submitRaw_of_miss hpath hm, sendRaw_run]
            cases rcs with
            | error e => rfl
            | ok v =>
                show ((recordRaw request path header v).run _ (w.logRcs () _ _)).2.db.tasks = _
                refine congrArg Tables.tasks (recordRaw_of_no_row fun code hv => ?_)
                by_contra hp
                exact h _ (.raw hm hpath (Bool.not_eq_false _ ▸ hp) hv)
          · obtain ⟨key, ht, hd⟩ : ∃ key, truthy header = some key ∧
                cachedDocument (w.redis (idemKey key)) ≠ none := by
              simpa [Misses] using hm
            obtain ⟨rfl, hkey⟩ := truthy_eq_some.mp ht
            rw [submitRaw_of_hit hpath hkey hd]
            rfl

/-- A call leaves its session empty. -/
theorem world_session : (c.world w).sessions () = [] := by
  obtain ⟨submission, header, rcs⟩ := c
  cases submission with
  | create request => rw [world_create, World.setSession_self]
  | raw request => rw [world_raw, World.setSession_self]

/-! ### The keys in the table -/

/-- The table has a row with this key. -/
def HasKey (key : String) (t : TaskTable) : Prop := ∃ row ∈ t.rows, row.idempotencyKey = some key

/-- A row with a new code is refused only for its key. -/
theorem violated_iff_hasKey {t : TaskTable} (hnew : t.find? row.robotTaskCode = none) :
    t.violated? row = none ↔ ∀ key, row.idempotencyKey = some key → ¬ HasKey key t := by
  have hcode : ∀ old ∈ t.rows, old.robotTaskCode ≠ row.robotTaskCode := by
    simpa [TaskTable.find?] using hnew
  rw [TaskTable.violated?_eq_none]
  constructor
  · rintro h key hkey ⟨old, hm, hold⟩
    exact h old hm (.inr ⟨by rw [hold]; rfl, hold.trans hkey.symm⟩)
  · rintro h old hm (hc | ⟨hs, hk⟩)
    · exact hcode old hm hc
    · obtain ⟨key, hkey⟩ := Option.isSome_iff_exists.mp hs
      exact h key (hk.symm.trans hkey) ⟨old, hm, hkey⟩

/-- A row whose code is in the table is refused. -/
theorem violated_of_old {t : TaskTable} (hold : t.find? row.robotTaskCode ≠ none) :
    t.violated? row ≠ none := by
  intro hv
  refine hold (List.find?_eq_none.mpr fun old hm => ?_)
  have hclash := TaskTable.violated?_eq_none.mp hv old hm
  simpa using fun hc => hclash (.inl hc)

theorem hasKey_insert {key : String} {t : TaskTable} (hv : t.violated? row = none) :
    HasKey key (t.insert row hv) ↔ HasKey key t ∨ row.idempotencyKey = some key := by
  simp only [HasKey, TaskTable.insert, List.mem_append, List.mem_singleton]
  constructor
  · rintro ⟨old, hm | rfl, hold⟩
    · exact .inl ⟨old, hm, hold⟩
    · exact .inr hold
  · rintro (⟨old, hm, hold⟩ | hrow)
    · exact ⟨old, .inl hm, hold⟩
    · exact ⟨row, .inr rfl, hrow⟩

/-- **One call adds a key** exactly when it carries it, passes its lookup, gets a new code and
asks for a row that fits: the key was there before, or it is there now. -/
theorem hasKey_world (hs : w.sessions () = []) (key : String) :
    HasKey key (c.world w).db.tasks ↔
      HasKey key w.db.tasks ∨ (c.header = some key ∧ AsksNew c w) := by
  by_cases hasks : ∃ row, Asks c w row
  · obtain ⟨row, h⟩ := hasks
    by_cases hok : row.Fits ∧ w.db.tasks.violated? row = none
    · obtain ⟨hfit, hv⟩ := hok
      have hnew : w.db.tasks.find? row.robotTaskCode = none :=
        by_contra fun hold => violated_of_old hold hv
      rw [h.world_of_accepted hs hfit hv, hasKey_insert, h.header]
      exact ⟨Or.imp_right fun hk => ⟨hk, row, h, hfit, hnew⟩, Or.imp_right And.left⟩
    · rw [h.world_of_rejected hok]
      refine ⟨.inl, fun hor => hor.elim id ?_⟩
      -- The row fits and its code is new, so the key that refuses it is the one the call carries.
      rintro ⟨hk, row', h', hfit, hnew⟩
      cases h.unique h'
      by_contra hno
      refine hok ⟨hfit, (violated_iff_hasKey hnew).mpr fun key' hkey' hhas => hno ?_⟩
      rw [h.header, hk] at hkey'
      cases hkey'
      exact hhas
  · rw [world_of_no_row fun row h => hasks ⟨row, h⟩]
    exact ⟨.inl, fun hor => hor.resolve_right fun ⟨_, row, h, _⟩ => hasks ⟨row, h⟩⟩

/-! ### A history -/

variable {w₀ : World Unit} {history : List Happening}

theorem worldAfter_session (hs : w₀.sessions () = []) :
    ∀ history, (worldAfter w₀ history).sessions () = [] := by
  intro history
  induction history with
  | nil => exact hs
  | cons e earlier ih =>
      cases e with
      | call c => exact world_session
      | expire redisKey => exact ih

/-- A key is in the table exactly when some call of the history added it. -/
theorem hasKey_worldAfter (ht : w₀.db.tasks = .empty) (hs : w₀.sessions () = []) (key : String) :
    ∀ history, HasKey key (worldAfter w₀ history).db.tasks ↔
      ∃ c earlier, .call c :: earlier <:+ history ∧ c.header = some key ∧
        AsksNew c (worldAfter w₀ earlier) := by
  intro history
  induction history with
  | nil =>
      have hno : ¬ HasKey key w₀.db.tasks := by
        rintro ⟨row, hm, -⟩
        rw [ht] at hm
        cases hm
      refine ⟨fun h => absurd h hno, ?_⟩
      rintro ⟨c, earlier, hsuf, -⟩
      cases List.suffix_nil.mp hsuf
  | cons e history ih =>
      cases e with
      | call c =>
          rw [worldAfter, hasKey_world (worldAfter_session hs history), ih]
          constructor
          · rintro (⟨c', earlier, hsuf, h⟩ | h)
            · exact ⟨c', earlier, hsuf.trans (List.suffix_cons _ _), h⟩
            · exact ⟨c, history, List.suffix_rfl, h⟩
          · rintro ⟨c', earlier, hsuf, h⟩
            rcases List.suffix_cons_iff.mp hsuf with he | hsuf
            · cases he
              exact .inr h
            · exact .inl ⟨c', earlier, hsuf, h⟩
      | expire redisKey =>
          rw [worldAfter, World.dropRedis_db, ih]
          constructor
          · rintro ⟨c', earlier, hsuf, h⟩
            exact ⟨c', earlier, hsuf.trans (List.suffix_cons _ _), h⟩
          · rintro ⟨c', earlier, hsuf, h⟩
            rcases List.suffix_cons_iff.mp hsuf with he | hsuf
            · cases he
            · exact ⟨c', earlier, hsuf, h⟩

/-- A raw request that asks for a row. -/
def sampleRowRequest : RcsRawSubmitRequest := { sampleRawRequest with persistTask := true }

/-- A raw request that asks for a row, with this target. -/
def rowRequestTo (target : String) : RcsRawSubmitRequest :=
  { sampleRowRequest with body := some [("targetCode", .str target)] }

/-- `create_task` with this header, accepted under this code. -/
def createCall (header : Option String) (code : String) : Call :=
  ⟨.create sampleRequest, header, .ok (acceptance code)⟩

/-- `submit_raw` of a request with this header, accepted under this code. -/
def rawSubmitCall (request : RcsRawSubmitRequest) (header : Option String) (code : String) : Call :=
  ⟨.raw request, header, .ok (acceptance code)⟩

/-- A text of so many letters. -/
def longText (n : Nat) : String := .ofList (List.replicate n 'k')

theorem longText_length (n : Nat) : (longText n).length = n := by
  rw [longText, String.length_ofList, List.length_replicate]

/-- A key of 256 letters is too long for its column. -/
theorem longKey_refused :
    ((createCall (some (longText 256)) "T1").world { db := sampleTables }).db.tasks.find? "T1" =
      none := by
  have hasks : Asks (createCall (some (longText 256)) "T1") { db := sampleTables }
      (createdRow sampleRequest (some (longText 256)) "T1") :=
    .create (misses_some rfl) (by decide) rfl
  have hlong : ¬ (createdRow sampleRequest (some (longText 256)) "T1").Fits := fun h => by
    have hkey := h.2.2.2.2 (longText 256) rfl
    rw [longText_length] at hkey
    exact absurd hkey (by decide)
  rw [hasks.world_of_rejected fun h => hlong h.1]
  rfl

/-- A target of 101 letters is too long for its column. -/
theorem longTarget_refused :
    ((rawSubmitCall (rowRequestTo (longText 101)) none "T1").world
      { db := sampleTables }).db.tasks.find? "T1" = none := by
  have hasks : Asks (rawSubmitCall (rowRequestTo (longText 101)) none "T1") { db := sampleTables }
      (rawRow (rowRequestTo (longText 101)) none "T1") :=
    @Asks.raw _ _ _ _ sampleRowRequest.path _ (misses_none _) rfl rfl rfl
  have hlong : ¬ (rawRow (rowRequestTo (longText 101)) none "T1").Fits := fun h => by
    have htarget := h.2.2.2.1 (longText 101) rfl
    rw [longText_length] at htarget
    exact absurd htarget (by decide)
  rw [hasks.world_of_rejected fun h => hlong h.1]
  rfl

end Rcs

import RcsMiddleware.Submit.Envelopes
import RcsMiddleware.Submit.Retries
import RcsMiddleware.Support.Memo

/-!
# Submit — Protocol

Calls of `create_task` one after the other, with any keys and requests.  While RCS gives each call
that it accepts a code of its own, no store fails and no entry expires, the idempotency cache is a
memo (`Memo.lean`): what it keeps for a key is the first request that got a code, and the code.

* `Represents m w`: the entries and the rows of `w` are those of the memo `m`.
* `TaskCall.refines`: one call does in `w` what it does in `m`.
* `history_eq`: so do all calls of a sequence.
* `create_task_idempotent`: at most one call with a key gets a code, later ones are answered from
  it, and calls with other keys make no difference.
-/

namespace Rcs

open Support Support.Text Support.Prog

/-- A call of `create_task`, and what RCS answers when the call gets that far. -/
structure TaskCall where
  request : TaskCreateRequest
  header : Option String
  rcs : Except PyExc Json
  header_nonempty : header ≠ some ""

namespace TaskCall

/-- RCS answers as the call says, and no store fails. -/
def answers (c : TaskCall) : Answers := { rcs := c.rcs }

/-- What the call returns or raises, and the world it leaves. -/
def outcome (c : TaskCall) (w : World Unit) : Except PyExc TaskCreateResponseData × World Unit :=
  (withSession (createTask c.request c.header)).run c.answers.respond w

/-- The code RCS gives the call. -/
def code (c : TaskCall) : Option String := c.answers.code

/-- The call asks RCS, and gets a code. -/
def Obtains (c : TaskCall) (w : World Unit) : Prop :=
  w.rcsLog.length < (c.outcome w).2.rcsLog.length ∧ c.code.isSome = true

/-- The call asks nobody and changes nothing: it is answered with the code when its request is the
one the code was given for, and refused otherwise. -/
def Replays (c : TaskCall) (key : String) (request : TaskCreateRequest) (code : String)
    (w : World Unit) : Prop :=
  ¬ c.Obtains w ∧
    c.outcome w = (if c.request = request then .ok ⟨code, TaskStatus.pending.value, true⟩
      else .error (duplicateKeyError key), w)

/-- What producing a code for the call comes to. -/
def produce (c : TaskCall) (db : Tables) : Except PyExc String :=
  match robotTypeOf c.request db with
  | none => .error (.app (.mk' .robotTypeNotFoundError
      (some ("Robot type '" ++ c.request.robotType ++ "' not found.")) none
      (some [("robotType", .str c.request.robotType)])))
  | some _ =>
      match c.rcs with
      | .ok v => extractTaskCode v
      | .error e => .error e

/-- The call, as the memo sees it. -/
def toMemo (c : TaskCall) (db : Tables) : Memo.Call String TaskCreateRequest String PyExc :=
  ⟨c.header, c.request, c.produce db⟩

/-- What the caller is answered, when the memo answers so. -/
def reply (c : TaskCall) : Memo.Answer String PyExc → Except PyExc TaskCreateResponseData
  | .produced code => .ok ⟨code, TaskStatus.pending.value, false⟩
  | .replayed code => .ok ⟨code, TaskStatus.pending.value, true⟩
  | .failed e => .error e
  | .conflict => .error (duplicateKeyError (c.header.getD ""))

end TaskCall

/-- The world after a sequence of calls. -/
def worldAfterCalls (w : World Unit) (calls : List TaskCall) : World Unit :=
  calls.foldl (fun w c => (c.outcome w).2) w

/-- Each call of a sequence with its answer. -/
def history (w : World Unit) :
    List TaskCall → List (TaskCall × Except PyExc TaskCreateResponseData)
  | [] => []
  | c :: later => (c, (c.outcome w).1) :: history (c.outcome w).2 later

/-- The codes RCS gives are new, each to its own call. -/
def FreshCodes (w : World Unit) (calls : List TaskCall) : Prop :=
  (calls.filterMap TaskCall.code).Nodup ∧
    ∀ code ∈ calls.filterMap TaskCall.code, w.db.tasks.find? code = none

/-! ### One call -/

/-- The entry and the rows of each key are those of the memo. -/
structure Represents (m : Memo String TaskCreateRequest String) (w : World Unit) : Prop where
  session : w.sessions () = []
  entry : ∀ key, key ≠ "" → w.redis (idempotencyKey key) =
    (m key).map fun kept => .json (envelope kept.1 ⟨kept.2, TaskStatus.pending.value, false⟩)
  unused : ∀ key, key ≠ "" → m key = none → ∀ row ∈ w.db.tasks.rows, row.idempotencyKey ≠ some key

theorem withSession_run {α : Type} {a : Answers} {w : World Unit} (p : M α) :
    (withSession p).run a.respond w =
      ((p.run a.respond w).1, (p.run a.respond w).2.setSession () []) := by
  rw [withSession, run_tryFinally, run_perform]
  rfl

namespace TaskCall

variable {c : TaskCall} {m : Memo String TaskCreateRequest String} {w : World Unit} {key : String}

theorem outcome_eq : c.outcome w =
    (((createTask c.request c.header).run c.answers.respond w).1,
      ((createTask c.request c.header).run c.answers.respond w).2.setSession () []) :=
  withSession_run _

theorem idempotencyKey_injective {key key' : String}
    (h : idempotencyKey key = idempotencyKey key') : key = key' := by
  have htext := congrArg String.toList h
  rw [idempotencyKey, idempotencyKey, String.toList_append, String.toList_append] at htext
  exact String.toList_injective (List.append_cancel_left htext)

theorem key_ne_empty (hk : c.header = some key) : key ≠ "" := by
  rintro rfl
  exact c.header_nonempty hk

/-- A call whose key has an entry is answered from it, and changes nothing. -/
theorem outcome_of_kept (h : Represents m w) (hk : c.header = some key)
    {kept : TaskCreateRequest × String} (hm : m key = some kept) :
    c.outcome w = (c.reply (if kept.1 = c.request then .replayed kept.2 else .conflict), w) := by
  have hkey := key_ne_empty hk
  have hentry : w.redis (idempotencyKey key) = some (.json (envelope kept.1
      ⟨kept.2, TaskStatus.pending.value, false⟩)) := by
    rw [h.entry key hkey, hm]
    rfl
  have hread : readCached key c.request (w.redis (idempotencyKey key)) =
      (if fingerprint kept.1 = fingerprint c.request then
        Except.ok (⟨kept.2, TaskStatus.pending.value, true⟩ : TaskCreateResponseData)
        else .error (duplicateKeyError key)).map some := by
    rw [hentry]
    exact congrArg (Except.map some) (readEnvelope_envelope _ _ _ _)
  have hworld := World.setSession_of_empty h.session
  rw [outcome_eq, createTask, hk, truthy_some hkey]
  dsimp only
  rw [bind_eq, run_bind, lookup_run, hread]
  by_cases hr : kept.1 = c.request
  · rw [if_pos hr, if_pos (congrArg fingerprint hr)]
    exact Prod.ext rfl hworld
  · rw [if_neg hr, if_neg fun hf => hr (fingerprint_injective hf)]
    refine Prod.ext ?_ hworld
    rw [reply, hk]
    rfl

/-- A call whose key has no entry misses. -/
theorem misses (h : Represents m w) (hm : m.lookup c.header = none) :
    Misses idempotencyKey c.header w := by
  intro key hkey
  obtain ⟨hk, hne⟩ := truthy_eq_some.mp hkey
  rw [hk, Memo.lookup] at hm
  rw [h.entry key hne, hm]
  rfl

/-- The world after the save, which a call without a key leaves out. -/
def saved (c : TaskCall) (code : String) (w : World Unit) : World Unit :=
  match c.header with
  | some key => w.setRedis (idempotencyKey key)
      (.json (envelope c.request ⟨code, TaskStatus.pending.value, false⟩))
  | none => w

theorem finishTask_run (code : String) :
    (finishTask c.request c.header code).run c.answers.respond w =
      (.ok ⟨code, TaskStatus.pending.value, false⟩, c.saved code w) := by
  cases hk : c.header with
  | none =>
      rw [finishTask, saved, hk]
      rfl
  | some key =>
      rw [finishTask, truthy_some (key_ne_empty hk), saved, hk]
      rfl

theorem saved_db (code : String) : (c.saved code w).db = w.db := by
  rw [saved]
  cases c.header with
  | none => rfl
  | some key => rfl

theorem saved_entry (code key : String) : (c.saved code w).redis (idempotencyKey key) =
    if c.header = some key then
      some (.json (envelope c.request ⟨code, TaskStatus.pending.value, false⟩))
    else w.redis (idempotencyKey key) := by
  cases hk : c.header with
  | none =>
      rw [saved, hk]
      rfl
  | some key' =>
      rw [saved, hk, World.setRedis_redis]
      by_cases hkey : key' = key
      · rw [hkey, Function.update_self, if_pos rfl]
      · have hne : idempotencyKey key ≠ idempotencyKey key' := fun h =>
          hkey (idempotencyKey_injective h).symm
        rw [Function.update_of_ne hne, if_neg fun h => hkey (Option.some.inj h)]

theorem produce_eq_ok {db : Tables} {code : String} (h : c.produce db = .ok code) :
    ∃ robotType v, robotTypeOf c.request db = some robotType ∧ c.rcs = .ok v ∧
      extractTaskCode v = .ok code := by
  rw [produce] at h
  cases hr : robotTypeOf c.request db with
  | none =>
      rw [hr] at h
      cases h
  | some robotType =>
      rw [hr] at h
      cases hv : c.rcs with
      | error e =>
          rw [hv] at h
          cases h
      | ok v =>
          rw [hv] at h
          exact ⟨robotType, v, rfl, rfl, h⟩

/-- A call that gets no code leaves Redis and the tables alone. -/
theorem outcome_of_failed (h : Represents m w) (hm : m.lookup c.header = none) {e : PyExc}
    (hp : c.produce w.db = .error e) :
    (c.outcome w).1 = .error e ∧ (c.outcome w).2.redis = w.redis ∧ (c.outcome w).2.db = w.db := by
  rw [outcome_eq, createTask_of_miss (misses h hm), createUncached_run]
  rw [produce] at hp
  cases hr : robotTypeOf c.request w.db with
  | none =>
      rw [hr] at hp
      cases hp
      exact ⟨rfl, rfl, rfl⟩
  | some robotType =>
      rw [hr] at hp
      rw [submitTask_of_known]
      cases hv : c.rcs with
      | error e' =>
          rw [hv] at hp
          cases hp
          rw [answers, hv]
          exact ⟨rfl, rfl, rfl⟩
      | ok v =>
          rw [hv] at hp
          rw [answers, hv]
          dsimp only at hp ⊢
          rw [onOk_ok, recordTask_of_no_code hp]
          exact ⟨rfl, rfl, rfl⟩

/-- A call that gets a code records its row and saves its entry. -/
theorem outcome_of_produced (h : Represents m w) (hm : m.lookup c.header = none) {code : String}
    (hp : c.produce w.db = .ok code)
    (hv : w.db.tasks.violated? (createdRow c.request c.header code) = none) :
    (c.outcome w).1 = .ok ⟨code, TaskStatus.pending.value, false⟩ ∧
      (∀ key, (c.outcome w).2.redis (idempotencyKey key) =
        if c.header = some key then
          some (.json (envelope c.request ⟨code, TaskStatus.pending.value, false⟩))
        else w.redis (idempotencyKey key)) ∧
      (c.outcome w).2.db.tasks = w.db.tasks.insert (createdRow c.request c.header code) hv := by
  obtain ⟨robotType, v, hr, hrcs, hcode⟩ := produce_eq_ok hp
  have hanswers : c.answers.rcs = .ok v := hrcs
  have hpersists : c.answers.Persists (createdRow c.request c.header code) := ⟨rfl, rfl⟩
  have hpersist : ∀ call, (persistTask (createdRow c.request c.header code)).run c.answers.respond
      (w.logRcs () call (.ok v)) = (.ok (), { w.logRcs () call (.ok v) with
        db := { w.db with tasks := w.db.tasks.insert (createdRow c.request c.header code) hv } }) :=
    fun call => persist_ok (w := w.logRcs () call (.ok v)) h.session hpersists hv
  rw [outcome_eq, createTask_of_miss (misses h hm), createUncached_run, hr, submitTask_of_known,
    hanswers, onOk_ok, recordTask_of_code hcode, hpersist, onOk_ok, finishTask_run]
  refine ⟨rfl, fun key => ?_, ?_⟩
  · rw [World.setSession_redis, saved_entry]
    rfl
  · rw [World.setSession_db, saved_db]

/-- The answer of the memo depends on the tables through the robot types alone. -/
theorem toMemo_congr {db : Tables} (h : w.db.robotTypes = db.robotTypes) :
    c.toMemo w.db = c.toMemo db := by
  rw [toMemo, toMemo, produce, produce, robotTypeOf, robotTypeOf, h]

theorem outcome_robotTypes : (c.outcome w).2.db.robotTypes = w.db.robotTypes :=
  run_robotTypes (withSession (createTask c.request c.header)) w

theorem outcome_session : (c.outcome w).2.sessions () = [] := by
  rw [outcome_eq, World.setSession_self]

theorem code_of_ok {db : Tables} {code : String} (h : c.produce db = .ok code) :
    c.code = some code := by
  obtain ⟨robotType, v, -, hrcs, hcode⟩ := produce_eq_ok h
  have hanswers : c.answers.rcs = .ok v := hrcs
  rw [TaskCall.code, Answers.code, hanswers]
  dsimp only
  rw [hcode]
  rfl

theorem produce_of_code {db : Tables} {robotType : RobotType} {code : String}
    (hr : robotTypeOf c.request db = some robotType) (h : c.code = some code) :
    c.produce db = .ok code := by
  rw [TaskCall.code, Answers.code] at h
  rw [produce, hr]
  change (match c.rcs with
    | .ok v => (extractTaskCode v).toOption
    | .error _ => none) = some code at h
  cases hrcs : c.rcs with
  | error e =>
      rw [hrcs] at h
      cases h
  | ok v =>
      rw [hrcs] at h
      dsimp only at h ⊢
      cases hv : extractTaskCode v with
      | error e =>
          rw [hv] at h
          cases h
      | ok code' =>
          rw [hv] at h
          cases h
          rfl

/-- The row of a call that misses and gets a new code is not refused. -/
theorem row_accepted (h : Represents m w) (hm : m.lookup c.header = none) {code : String}
    (hnew : w.db.tasks.find? code = none) :
    w.db.tasks.violated? (createdRow c.request c.header code) = none := by
  rw [TaskTable.violated?_eq_none]
  rintro old hold (hcode | ⟨hsome, hkey⟩)
  · have hold' := List.find?_eq_none.mp hnew old hold
    exact of_decide_eq_false (eq_false_of_ne_true hold') hcode
  · obtain ⟨key, hk⟩ := Option.isSome_iff_exists.mp hsome
    have hc : c.header = some key := hkey.symm.trans hk
    rw [hc] at hm
    exact h.unused key (key_ne_empty hc) hm old hold hk

/-- The codes in the table are those that were there, and the one the call may get. -/
def Adds (c : TaskCall) (t t' : TaskTable) : Prop :=
  ∀ code, t.find? code = none → c.code ≠ some code → t'.find? code = none

/-- **One call** does in the world what it does in the memo. -/
theorem refines (h : Represents m w)
    (hnew : ∀ code, c.code = some code → w.db.tasks.find? code = none) :
    (c.outcome w).1 = c.reply (m.answer (c.toMemo w.db)) ∧
      Represents (m.next (c.toMemo w.db)) (c.outcome w).2 ∧
      c.Adds w.db.tasks (c.outcome w).2.db.tasks := by
  cases hm : m.lookup c.header with
  | some kept =>
      obtain ⟨key, hk, hkept⟩ := Memo.lookup_eq_some.mp hm
      rw [outcome_of_kept h hk hkept, Memo.answer_of_kept hm, Memo.next_of_kept hm]
      exact ⟨rfl, h, fun code hcode _ => hcode⟩
  | none =>
      cases hp : c.produce w.db with
      | error e =>
          obtain ⟨hanswer, hredis, hdb⟩ := outcome_of_failed h hm hp
          rw [Memo.answer_of_error hm hp, Memo.next_of_error hp, hdb]
          refine ⟨hanswer, ⟨outcome_session, ?_, ?_⟩, fun code hcode _ => hcode⟩
          · rw [hredis]
            exact h.entry
          · rw [hdb]
            exact h.unused
      | ok code =>
          have hv := row_accepted h hm (hnew code (code_of_ok hp))
          obtain ⟨hanswer, hredis, htasks⟩ := outcome_of_produced h hm hp hv
          have hnext : ∀ key, c.header = some key →
              m.next (c.toMemo w.db) key = some (c.request, code) := fun key hk => by
            rw [hk] at hm
            exact Memo.next_of_ok (c := c.toMemo w.db) hk hm hp
          rw [Memo.answer_of_ok hm hp, htasks]
          refine ⟨hanswer, ⟨outcome_session, fun key hkey => ?_, fun key hkey hnone => ?_⟩,
            fun code' hcode' hne => ?_⟩
          · rw [hredis key, h.entry key hkey]
            by_cases hk : c.header = some key
            · rw [if_pos hk, hnext key hk]
              rfl
            · rw [if_neg hk, Memo.next_other hk]
          · have hk : c.header ≠ some key := fun hk => by
              rw [hnext key hk] at hnone
              cases hnone
            rw [Memo.next_other hk] at hnone
            intro row hrow
            rw [htasks] at hrow
            rcases List.mem_append.mp hrow with hrow | hrow
            · exact h.unused key hkey hnone row hrow
            · rw [List.mem_singleton.mp hrow]
              exact hk
          · have hcode : code ≠ code' := fun heq => hne (heq ▸ code_of_ok hp)
            rw [TaskTable.find?_insert, createdRow, if_neg hcode, hcode']

/-- A call whose key has an entry replays it. -/
theorem replays_of_kept (h : Represents m w) (hk : c.header = some key)
    {kept : TaskCreateRequest × String} (hm : m key = some kept) :
    c.Replays key kept.1 kept.2 w := by
  have houtcome := outcome_of_kept h hk hm
  refine ⟨fun hobtains => ?_, ?_⟩
  · have hlog := hobtains.1
    rw [houtcome] at hlog
    exact Nat.lt_irrefl _ hlog
  · rw [houtcome]
    by_cases hr : kept.1 = c.request
    · rw [if_pos hr, if_pos hr.symm]
      rfl
    · rw [if_neg hr, if_neg (Ne.symm hr), reply, hk]
      rfl

/-- A call that gets a code is the first of its key to do so. -/
theorem produced_of_obtains (h : Represents m w) (ho : c.Obtains w) :
    ∃ code, m.lookup c.header = none ∧ c.produce w.db = .ok code := by
  cases hm : m.lookup c.header with
  | some kept =>
      obtain ⟨key, hk, hkept⟩ := Memo.lookup_eq_some.mp hm
      exact absurd ho (replays_of_kept h hk hkept).1
  | none =>
      obtain ⟨hlog, hcode⟩ := ho
      cases hr : robotTypeOf c.request w.db with
      | none =>
          rw [outcome_eq, createTask_of_miss (misses h hm), createUncached_run, hr] at hlog
          exact absurd hlog (Nat.lt_irrefl _)
      | some robotType =>
          obtain ⟨code, hcode⟩ := Option.isSome_iff_exists.mp hcode
          exact ⟨code, rfl, produce_of_code hr hcode⟩

end TaskCall

/-! ### A sequence of calls -/

variable {m : Memo String TaskCreateRequest String} {w : World Unit} {calls : List TaskCall}

/-- Before the first call the memo is empty. -/
theorem represents_of_unused (session : w.sessions () = [])
    (entry : ∀ key, key ≠ "" → w.redis (idempotencyKey key) = none)
    (unused : ∀ key, key ≠ "" → ∀ row ∈ w.db.tasks.rows, row.idempotencyKey ≠ some key) :
    Represents (fun _ => none) w :=
  ⟨session, entry, fun key hkey _ => unused key hkey⟩

theorem FreshCodes.head {c : TaskCall} (h : FreshCodes w (c :: calls)) :
    ∀ code, c.code = some code → w.db.tasks.find? code = none := by
  intro code hcode
  exact h.2 code (List.mem_filterMap.mpr ⟨c, List.mem_cons_self, hcode⟩)

/-- The codes of the later calls stay new. -/
theorem FreshCodes.tail {c : TaskCall} {w' : World Unit} (h : FreshCodes w (c :: calls))
    (hadds : c.Adds w.db.tasks w'.db.tasks) : FreshCodes w' calls := by
  obtain ⟨hnodup, hnew⟩ := h
  cases hc : c.code with
  | none =>
      rw [List.filterMap_cons_none hc] at hnodup hnew
      exact ⟨hnodup, fun code hcode => hadds code (hnew code hcode) (by rw [hc]; nofun)⟩
  | some code' =>
      rw [List.filterMap_cons_some hc] at hnodup hnew
      obtain ⟨hnot, hnodup⟩ := List.nodup_cons.mp hnodup
      refine ⟨hnodup, fun code hcode => hadds code (hnew code (List.mem_cons_of_mem _ hcode)) ?_⟩
      rintro heq
      rw [hc] at heq
      cases heq
      exact hnot hcode

theorem FreshCodes.filter (h : FreshCodes w calls) (p : TaskCall → Bool) :
    FreshCodes w (calls.filter p) := by
  have hsub := (List.filter_sublist (p := p) (l := calls)).filterMap TaskCall.code
  exact ⟨h.1.sublist hsub, fun code hcode => h.2 code (hsub.subset hcode)⟩

/-- **The calls of a sequence** are answered as the memo answers them. -/
theorem history_eq (db : Tables) (hrobots : w.db.robotTypes = db.robotTypes) (h : Represents m w)
    (hfresh : FreshCodes w calls) :
    history w calls =
      (Memo.answers (fun c => c.toMemo db) m calls).map fun a => (a.1, a.1.reply a.2) := by
  induction calls generalizing m w with
  | nil => rfl
  | cons c later ih =>
      obtain ⟨hanswer, hnext, hadds⟩ := TaskCall.refines h hfresh.head
      rw [history, hanswer, Memo.answers, List.map_cons, ← TaskCall.toMemo_congr hrobots,
        ih (TaskCall.outcome_robotTypes.trans hrobots) hnext (hfresh.tail hadds)]

/-- The world after some of the calls is that of the memo after them. -/
theorem represents_after (db : Tables) (hrobots : w.db.robotTypes = db.robotTypes)
    (h : Represents m w) {before : List TaskCall} (hfresh : FreshCodes w (before ++ calls)) :
    Represents (m.after (before.map fun c => c.toMemo db)) (worldAfterCalls w before) ∧
      FreshCodes (worldAfterCalls w before) calls := by
  induction before generalizing m w with
  | nil => exact ⟨h, hfresh⟩
  | cons c later ih =>
      obtain ⟨-, hnext, hadds⟩ := TaskCall.refines h (FreshCodes.head hfresh)
      have hrest := ih (TaskCall.outcome_robotTypes.trans hrobots) hnext (hfresh.tail hadds)
      rw [TaskCall.toMemo_congr hrobots] at hrest
      exact hrest

/-- **The idempotency protocol of `create_task`**, from any world that stands for a memo.  Of the
calls with a key, once one has got a code from RCS, every later one asks nobody and changes nothing:
it is answered with that code when its request is the same, and refused otherwise.  And the answers
of the calls with a key are those they get when there are no other calls. -/
theorem create_task_idempotent (h : Represents m w) (hfresh : FreshCodes w calls) (key : String) :
    (∀ before c between c' after, calls = before ++ c :: (between ++ c' :: after) →
      c.header = some key → c'.header = some key → c.Obtains (worldAfterCalls w before) →
      ∃ code, (c.outcome (worldAfterCalls w before)).1 =
          .ok ⟨code, TaskStatus.pending.value, false⟩ ∧
        c'.Replays key c.request code (worldAfterCalls w (before ++ c :: between))) ∧
    (history w calls).filter (fun a => a.1.header = some key) =
      history w (calls.filter fun c => c.header = some key) := by
  constructor
  · rintro before c between c' after rfl hc hc' hobtains
    obtain ⟨hbefore, hfreshc⟩ := represents_after w.db rfl h hfresh
    generalize m.after _ = m₁ at hbefore
    obtain ⟨hanswer, hnext, hadds⟩ := TaskCall.refines hbefore hfreshc.head
    obtain ⟨code, hmiss, hcode⟩ := TaskCall.produced_of_obtains hbefore hobtains
    rw [Memo.answer_of_ok hmiss hcode] at hanswer
    -- The entry of the first call is still there when the second one comes.
    obtain ⟨hbetween, -⟩ := represents_after _ rfl hnext (hfreshc.tail hadds)
    rw [hc] at hmiss
    have hfirst : m₁.next (c.toMemo (worldAfterCalls w before).db) key = some (c.request, code) :=
      Memo.next_of_ok hc hmiss hcode
    have hkept := Memo.kept_after (between.map fun d =>
      d.toMemo (c.outcome (worldAfterCalls w before)).2.db) hfirst
    refine ⟨code, hanswer, ?_⟩
    rw [worldAfterCalls, List.foldl_append]
    exact TaskCall.replays_of_kept hbetween hc' hkept
  · have hfilter := Memo.answers_filter (f := fun c : TaskCall => c.toMemo w.db) (k := key) calls
      (rfl : m key = m key)
    rw [history_eq w.db rfl h hfresh, history_eq w.db rfl h (hfresh.filter _), List.filter_map]
    exact congrArg (List.map fun a => (a.1, a.1.reply a.2)) hfilter

/-- The request of `sampleRequest`, to another target. -/
def reroutedRequest : TaskCreateRequest :=
  { sampleRequest with targetCode := "C", targetCode_length := by decide }

/-- A call that fails at RCS and one that gets a code, one without a key, and two later ones. -/
def sampleCalls : List TaskCall :=
  [⟨sampleRequest, some "k", .error (rcsClientError "down"), by decide⟩,
    ⟨sampleRequest, some "k", .ok (acceptance "T1"), by decide⟩,
    ⟨sampleRequest, none, .ok (acceptance "T2"), by decide⟩,
    ⟨sampleRequest, some "k", .ok (acceptance "T3"), by decide⟩,
    ⟨reroutedRequest, some "k", .ok (acceptance "T4"), by decide⟩]

theorem create_task_idempotent_sample :
    (∀ before c between c' after, sampleCalls = before ++ c :: (between ++ c' :: after) →
      c.header = some "k" → c'.header = some "k" →
      c.Obtains (worldAfterCalls { db := sampleTables } before) →
      ∃ code, (c.outcome (worldAfterCalls { db := sampleTables } before)).1 =
          .ok ⟨code, TaskStatus.pending.value, false⟩ ∧
        c'.Replays "k" c.request code
          (worldAfterCalls { db := sampleTables } (before ++ c :: between))) ∧
    (history { db := sampleTables } sampleCalls).filter (fun a => a.1.header = some "k") =
      history { db := sampleTables } (sampleCalls.filter fun c => c.header = some "k") :=
  create_task_idempotent
    (represents_of_unused rfl (fun _ _ => rfl) fun _ _ _ hrow => absurd hrow List.not_mem_nil)
    ⟨by decide, fun _ _ => rfl⟩ "k"

end Rcs

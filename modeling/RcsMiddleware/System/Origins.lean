import Mathlib.Data.List.Forall2
import Mathlib.Data.Set.BooleanAlgebra
import Mathlib.Order.CompletePartialOrder
import RcsMiddleware.Support.Facts
import RcsMiddleware.System.Effects

/-!
# System — Origins

Where the contents of the stores come from.  The facts of `Facts.lean` are here the calls RCS has
answered and the payloads that have been enqueued, and the note of a process is its own name.  The
discipline: a process writes what its own request, the answer RCS gave to it, or a payload in the
queue accounts for.

* `Submitted known row`: the row is what an accepted request made of an answer of RCS.
* `Fed known row row'`: feedbacks in the queue have made `row'` of `row`.
* `Accounted`: everything the stores hold beyond `old` is accounted for.
* `origins_governs`: every step of the middleware is sound for the discipline.
-/

namespace Rcs

open Support Support.Text
open Relation (ReflTransGen)

variable {ι : Type}

/-- What a run has made known: the calls RCS has answered, by whom and how, and the payloads that
have been enqueued. -/
abbrev Witnessed (ι : Type) := Set (ι × RcsCall × Except PyExc Json) × Set TaskFeedbackPayload

def World.known (w : World ι) : Witnessed ι := ({call | call ∈ w.rcsLog}, {payload | w.Queued payload})

/-- The check of the API key lets the request through. -/
def Deployment.Accepts (site : Deployment) (apiKey : Option String) : Prop :=
  ∃ key, requireApiKey site.apiKey apiKey = .ok key

/-! ### Feedbacks about a task -/

/-- The update that a worker makes of a payload in the queue, when it has read the task before its
end. -/
def FeedbackUpdate (known : Witnessed ι) (code : String) (u : StatusUpdate) : Prop :=
  ∃ payload ∈ known.2, ∃ existing now, strip payload.robotTaskCode = code ∧
    strip payload.method ≠ "" ∧ existing.robotTaskCode = code ∧ existing.status.terminal = false ∧
    u = statusUpdate existing (strip payload.method) (targetStatus (strip payload.method))
      payload.amrCode payload.errorMsg now

/-- One feedback has made `row'` of `row`. -/
def FeedStep (known : Witnessed ι) (row row' : TaskHistory) : Prop :=
  ∃ u, FeedbackUpdate known row.robotTaskCode u ∧ row' = u.set row

/-- Feedbacks have made `row'` of `row`, one after the other. -/
abbrev Fed (known : Witnessed ι) : TaskHistory → TaskHistory → Prop := ReflTransGen (FeedStep known)

section Jobs

variable (site : Deployment) (jobs : ι → Job) (old : World ι)

/-! ### What the jobs account for -/

/-- A job delivers the payload with a valid signature. -/
def Delivered (payload : TaskFeedbackPayload) : Prop :=
  ∃ i requestId rawBody signature, jobs i = .deliver requestId rawBody signature ∧
    site.webhook.payloadOf rawBody = .ok payload ∧
    site.webhook.service.verifyWebhookSignature rawBody signature = .ok ()

/-- An accepted request makes this call of RCS. -/
inductive Requested : RcsCall → Prop where
  | create {i : ι} {apiKey header : Option String} {request : TaskCreateRequest}
      {robotType : RobotType} (hjob : jobs i = .create apiKey request header)
      (hkey : site.Accepts apiKey) (htype : robotType ∈ old.db.robotTypes)
      (hname : robotType.name = request.robotType) :
      Requested (.submitTask (buildSubmitPayload request robotType.rcsTaskType))
  | raw {i : ι} {apiKey header : Option String} {request : RcsRawSubmitRequest} {path : String}
      (hjob : jobs i = .raw apiKey request header) (hkey : site.Accepts apiKey)
      (hpath : rawSubmitPath request.path = .ok path) : Requested (rawCall request path)

/-- An accepted request makes this row of the answer RCS gave to it. -/
inductive Submitted (known : Witnessed ι) : TaskHistory → Prop where
  | create {i : ι} {apiKey header : Option String} {request : TaskCreateRequest}
      {robotType : RobotType} {v : Json} {code : String}
      (hjob : jobs i = .create apiKey request header) (hkey : site.Accepts apiKey)
      (htype : robotType ∈ old.db.robotTypes) (hname : robotType.name = request.robotType)
      (hcall : (i, .submitTask (buildSubmitPayload request robotType.rcsTaskType), .ok v) ∈ known.1)
      (hcode : extractTaskCode v = .ok code) : Submitted known (createdRow request header code)
  | raw {i : ι} {apiKey header : Option String} {request : RcsRawSubmitRequest} {path : String}
      {v : Json} {code : String} (hjob : jobs i = .raw apiKey request header)
      (hkey : site.Accepts apiKey) (hpersist : request.persistTask = true)
      (hpath : rawSubmitPath request.path = .ok path)
      (hcall : (i, rawCall request path, .ok v) ∈ known.1)
      (hcode : taskCodeOf v = .ok (some code)) : Submitted known (rawRow request header code)

/-- An accepted request sets the setting to the value. -/
def Configured (key value : String) : Prop :=
  ∃ i apiKey payload, jobs i = .configure apiKey payload ∧ site.Accepts apiKey ∧
    (key = "rcs_ip" ∧ value = payload.rcsIp ∨ key = "rcs_port" ∧ value = toString payload.rcsPort)

/-- A job that reads the settings is accepted. -/
def ReadsSettings : Prop :=
  ∃ i apiKey, (jobs i = .settings apiKey ∨ ∃ payload, jobs i = .configure apiKey payload) ∧
    site.Accepts apiKey

/-- A value the setting had at the beginning, or has been given. -/
def SettingValue (key value : String) : Prop :=
  old.db.configs key = some (some value) ∨ Configured site jobs key value

/-- A delivery is logged as this row, which says whether its signature was valid. -/
def Logged (row : WebhookLog) : Prop :=
  ∃ i requestId rawBody signature payload duplicate,
    jobs i = .deliver requestId rawBody signature ∧ site.webhook.payloadOf rawBody = .ok payload ∧
    row = webhookLogOf payload
      (site.webhook.service.verifyWebhookSignature rawBody signature).isOk duplicate

/-- A change of the tables that a job accounts for. -/
def Written (known : Witnessed ι) : Write → Prop
  | .insertTask row => Submitted site jobs old known row
  | .updateTask code u => FeedbackUpdate known code u
  | .insertConfig key value | .updateConfig key _ value => Configured site jobs key value
  | .insertLog row => Logged site jobs row

/-- An entry of Redis that a job accounts for. -/
inductive Stored (known : Witnessed ι) : String → RedisValue → Prop where
  | created {i : ι} {apiKey header : Option String} {request : TaskCreateRequest} {key : String}
      {call : RcsCall} {v : Json} {code : String} (hjob : jobs i = .create apiKey request header)
      (hkey : site.Accepts apiKey) (hheader : truthy header = some key)
      (hcall : (i, call, .ok v) ∈ known.1) (hcode : extractTaskCode v = .ok code) :
      Stored known (idempotencyKey key) (.json (envelope request
        { robotTaskCode := code, status := TaskStatus.pending.value, cached := false }))
  | submitted {i : ι} {apiKey header : Option String} {request : RcsRawSubmitRequest}
      {key path : String} {v : Json} {code : Option String}
      (hjob : jobs i = .raw apiKey request header) (hkey : site.Accepts apiKey)
      (hheader : truthy header = some key) (hcall : (i, rawCall request path, .ok v) ∈ known.1)
      (hcode : taskCodeOf v = .ok code) (persisted : Bool) :
      Stored known (idemKey key) (.json (rawEnvelope request path (rawResult code persisted v)))
  | setting {key value : String} (hread : ReadsSettings site jobs)
      (h : SettingValue site jobs old key value) :
      Stored known (sysconfigKey key) (.text value)
  | marker {payload : TaskFeedbackPayload} (h : Delivered site jobs payload) :
      Stored known (webhookDedupeKey payload.robotTaskCode payload.method) (.text "1")
  | robot {payload : TaskFeedbackPayload} {amrCode : String} (h : payload ∈ known.2)
      (hamr : truthy payload.amrCode = some amrCode) (now : DateTime) :
      Stored known (robotStateKey amrCode) (.json (statePayload payload amrCode
        (targetStatus (strip payload.method)) now))

/-! ### The discipline -/

/-- An operation that a job accounts for. -/
structure Allowed (known : Witnessed ι) (o : Op) : Prop where
  entry : ∀ key value, o.entry? = some (key, value) → Stored site jobs old known key value
  writes : ∀ write ∈ o.writes, Written site jobs old known write
  delay : ∀ payload, o = .delay payload → Delivered site jobs payload
  rcs : ∀ call, o = .rcs call → Requested site jobs old call

/-- What the answer tells the process `i`. -/
def Learned (known : Witnessed ι) (i : ι) : (o : Op) → Except PyExc (Ret o) → Prop
  | .rcs call, r => (i, call, r) ∈ known.1
  | .selectTask code, .ok (some row) => row.robotTaskCode = code
  | .selectRobotType name, .ok (some t) => t ∈ old.db.robotTypes ∧ t.name = name
  | .selectConfig key, .ok (some (some value)) => SettingValue site jobs old key value
  | _, _ => True

/-- A process performs what a job accounts for; a worker runs a payload in the queue. -/
def origins : Discipline Op Ret PyExc (Witnessed ι) ι where
  allows := Allowed site jobs old
  learns known i o r i' :=
    i' = i ∧ Learned site jobs old known i o r ∧ ∀ payload, jobs i = .process payload → payload ∈ known.2

/-! ### What the stores hold -/

/-- The rows of the beginning, as feedbacks have left them, then those of accepted requests, as
feedbacks have left them. -/
def RowsFrom (known : Witnessed ι) (rows : List TaskHistory) : Prop :=
  ∃ kept added, rows = kept ++ added ∧ List.Forall₂ (Fed known) old.db.tasks.rows kept ∧
    ∀ row ∈ added, ∃ origin, Submitted site jobs old known origin ∧ Fed known origin row

/-- The tables hold what they held at the beginning, and what the jobs account for. -/
structure TablesFrom (known : Witnessed ι) (db : Tables) : Prop where
  robotTypes : db.robotTypes = old.db.robotTypes
  tasks : RowsFrom site jobs old known db.tasks.rows
  configs : ∀ key, db.configs key = old.db.configs key ∨
    ∃ value, db.configs key = some (some value) ∧ Configured site jobs key value
  logs : ∃ added, db.logs = old.db.logs ++ added ∧ ∀ row ∈ added, Logged site jobs row

/-- Everything the stores hold is accounted for. -/
structure Accounted (w : World ι) : Prop where
  redis : ∀ key value, w.redis key = some value →
    old.redis key = some value ∨ Stored site jobs old w.known key value
  db : TablesFrom site jobs old w.known w.db
  sessions : ∀ i, ∀ write ∈ w.sessions i, Written site jobs old w.known write
  queue : ∃ added, w.queue = old.queue ++ added ∧ ∀ p ∈ added, Delivered site jobs p.2
  calls : ∃ made, w.rcsLog = made ++ old.rcsLog ∧ ∀ x ∈ made, Requested site jobs old x.2.1

end Jobs

/-! ### More is known later -/

variable {site : Deployment} {jobs : ι → Job} {old : World ι} {known known' : Witnessed ι}

theorem FeedbackUpdate.mono {code : String} {u : StatusUpdate} (h : FeedbackUpdate known code u)
    (hle : known ≤ known') : FeedbackUpdate known' code u := by
  obtain ⟨payload, hpayload, h⟩ := h
  exact ⟨payload, hle.2 hpayload, h⟩

theorem FeedStep.mono {row row' : TaskHistory} (h : FeedStep known row row') (hle : known ≤ known') :
    FeedStep known' row row' := by
  obtain ⟨u, hu, hset⟩ := h
  exact ⟨u, hu.mono hle, hset⟩

theorem Fed.mono {row row' : TaskHistory} (h : Fed known row row') (hle : known ≤ known') :
    Fed known' row row' :=
  ReflTransGen.mono (fun _ _ hs => hs.mono hle) _ _ h

theorem Submitted.mono {row : TaskHistory} (h : Submitted site jobs old known row)
    (hle : known ≤ known') : Submitted site jobs old known' row := by
  cases h with
  | create hjob hkey htype hname hcall hcode =>
      exact .create hjob hkey htype hname (hle.1 hcall) hcode
  | raw hjob hkey hpersist hpath hcall hcode =>
      exact .raw hjob hkey hpersist hpath (hle.1 hcall) hcode

theorem Written.mono {write : Write} (h : Written site jobs old known write) (hle : known ≤ known') :
    Written site jobs old known' write := by
  cases write with
  | insertTask row => exact Submitted.mono h hle
  | updateTask code u => exact FeedbackUpdate.mono h hle
  | insertConfig _ _ | updateConfig _ _ _ | insertLog _ => exact h

theorem Stored.mono {key : String} {value : RedisValue} (h : Stored site jobs old known key value)
    (hle : known ≤ known') : Stored site jobs old known' key value := by
  cases h with
  | created hjob hkey hheader hcall hcode => exact .created hjob hkey hheader (hle.1 hcall) hcode
  | submitted hjob hkey hheader hcall hcode persisted =>
      exact .submitted hjob hkey hheader (hle.1 hcall) hcode persisted
  | setting hread h => exact .setting hread h
  | marker h => exact .marker h
  | robot h hamr now => exact .robot (hle.2 h) hamr now

theorem Allowed.mono {o : Op} (h : Allowed site jobs old known o) (hle : known ≤ known') :
    Allowed site jobs old known' o where
  entry key value hentry := (h.entry key value hentry).mono hle
  writes write hwrite := (h.writes write hwrite).mono hle
  delay := h.delay
  rcs := h.rcs

theorem RowsFrom.mono {rows : List TaskHistory} (h : RowsFrom site jobs old known rows)
    (hle : known ≤ known') : RowsFrom site jobs old known' rows := by
  obtain ⟨kept, added, rfl, hkept, hadded⟩ := h
  refine ⟨kept, added, rfl, hkept.imp fun _ _ h => h.mono hle, fun row hrow => ?_⟩
  obtain ⟨origin, horigin, hfed⟩ := hadded row hrow
  exact ⟨origin, horigin.mono hle, hfed.mono hle⟩

theorem TablesFrom.mono {db : Tables} (h : TablesFrom site jobs old known db) (hle : known ≤ known') :
    TablesFrom site jobs old known' db where
  robotTypes := h.robotTypes
  tasks := h.tasks.mono hle
  configs := h.configs
  logs := h.logs

/-! ### One transaction -/

theorem exists_of_forall₂ {α β : Type} {R : α → β → Prop} {l : List α} {l' : List β}
    (h : List.Forall₂ R l l') {b : β} (hb : b ∈ l') : ∃ a ∈ l, R a b := by
  induction h with
  | nil => cases hb
  | cons hab _ ih =>
      rcases List.mem_cons.mp hb with rfl | hb
      · exact ⟨_, List.mem_cons_self, hab⟩
      · obtain ⟨a, ha, hR⟩ := ih hb
        exact ⟨a, List.mem_cons_of_mem _ ha, hR⟩

theorem RowsFrom.insert {t : TaskTable} {row : TaskHistory} (h : RowsFrom site jobs old known t.rows)
    (hrow : Submitted site jobs old known row) (hv : t.violated? row = none) :
    RowsFrom site jobs old known (t.insert row hv).rows := by
  obtain ⟨kept, added, hrows, hkept, hadded⟩ := h
  refine ⟨kept, added ++ [row], ?_, hkept, fun new hnew => ?_⟩
  · show t.rows ++ [row] = _
    rw [hrows, List.append_assoc]
  · rcases List.mem_append.mp hnew with hnew | hnew
    · exact hadded new hnew
    · rw [List.mem_singleton.mp hnew]
      exact ⟨row, hrow, .refl⟩

/-- An update feeds the row it is about, and leaves the others. -/
theorem Fed.update {code : String} {u : StatusUpdate} (hu : FeedbackUpdate known code u)
    {origin row : TaskHistory} (h : Fed known origin row) :
    Fed known origin (if row.robotTaskCode = code then u.set row else row) := by
  split
  · next heq => exact h.tail ⟨u, heq ▸ hu, rfl⟩
  · exact h

theorem RowsFrom.update {t : TaskTable} {code : String} {u : StatusUpdate}
    (h : RowsFrom site jobs old known t.rows) (hu : FeedbackUpdate known code u) :
    RowsFrom site jobs old known (t.update code u).rows := by
  obtain ⟨kept, added, hrows, hkept, hadded⟩ := h
  refine ⟨kept.map fun row => if row.robotTaskCode = code then u.set row else row,
    added.map fun row => if row.robotTaskCode = code then u.set row else row, ?_, ?_, ?_⟩
  · show t.rows.map _ = _
    rw [hrows, List.map_append]
  · rw [List.forall₂_map_right_iff]
    exact hkept.imp fun _ _ h => h.update hu
  · intro row hrow
    obtain ⟨row', hmem, rfl⟩ := List.mem_map.mp hrow
    obtain ⟨origin, horigin, hfed⟩ := hadded row' hmem
    exact ⟨origin, horigin, hfed.update hu⟩

theorem TablesFrom.run {db db' : Tables} {write : Write} (h : TablesFrom site jobs old known db)
    (hw : Written site jobs old known write) (hrun : write.run db = .ok db') :
    TablesFrom site jobs old known db' := by
  -- Both writes of a setting leave its new value.
  have hset : ∀ {key value}, Configured site jobs key value →
      TablesFrom site jobs old known
        { db with configs := Function.update db.configs key (some (some value)) } := by
    intro key value hc
    refine ⟨h.robotTypes, h.tasks, fun key' => ?_, h.logs⟩
    simp only [Function.update_apply]
    split
    · next heq => exact .inr ⟨value, rfl, heq ▸ hc⟩
    · exact h.configs key'
  cases write with
  | insertTask row =>
      cases hv : db.tasks.violated? row with
      | some column =>
          rw [Write.run, TaskTable.insert?_of_violated hv] at hrun
          cases hrun
      | none =>
          rw [Write.run, TaskTable.insert?_of_not_violated hv] at hrun
          cases hrun
          exact ⟨h.robotTypes, h.tasks.insert hw hv, h.configs, h.logs⟩
  | updateTask code u =>
      cases hrun
      exact ⟨h.robotTypes, h.tasks.update hw, h.configs, h.logs⟩
  | insertConfig key value =>
      simp only [Write.run] at hrun
      split at hrun <;> cases hrun
      exact hset hw
  | updateConfig key before value =>
      simp only [Write.run] at hrun
      split at hrun <;> cases hrun
      · exact h
      · exact hset hw
  | insertLog row =>
      cases hrun
      obtain ⟨added, hlogs, hadded⟩ := h.logs
      refine ⟨h.robotTypes, h.tasks, h.configs, added ++ [row], ?_, fun new hnew => ?_⟩
      · rw [hlogs, List.append_assoc]
      · rcases List.mem_append.mp hnew with hnew | hnew
        · exact hadded new hnew
        · rw [List.mem_singleton.mp hnew]
          exact hw

theorem TablesFrom.foldlM {writes : List Write} {db db' : Tables}
    (h : TablesFrom site jobs old known db) (hw : ∀ write ∈ writes, Written site jobs old known write)
    (hrun : writes.foldlM Write.run db = .ok db') : TablesFrom site jobs old known db' := by
  induction writes generalizing db with
  | nil =>
      cases hrun
      exact h
  | cons write rest ih =>
      rw [List.foldlM_cons] at hrun
      cases hone : write.run db with
      | error column =>
          rw [hone] at hrun
          cases hrun
      | ok db₁ =>
          rw [hone] at hrun
          exact ih (h.run (hw write List.mem_cons_self) hone)
            (fun write hmem => hw write (List.mem_cons_of_mem _ hmem)) hrun

/-! ### One step -/

variable [DecidableEq ι] {i : ι} {o : Op} {w w' : World ι} {r : Except PyExc (Ret o)}

theorem exec_known (h : Exec i o w r w') : w.known ≤ w'.known := by
  refine ⟨fun call hcall => ?_, fun payload hpayload => ?_⟩
  · rcases exec_rcsLog h with hlog | ⟨_, _, -, hlog⟩
    · show call ∈ w'.rcsLog
      rw [hlog]
      exact hcall
    · show call ∈ w'.rcsLog
      rw [hlog]
      exact List.mem_cons_of_mem _ hcall
  · obtain ⟨j, hj⟩ := hpayload
    refine ⟨j, ?_⟩
    rcases exec_queue h with hq | ⟨_, -, hq⟩
    · rw [hq]
      exact hj
    · rw [hq]
      exact List.mem_append_left _ hj

/-- A step keeps everything accounted for. -/
theorem Accounted.exec (hw : Accounted site jobs old w) (h : Exec i o w r w')
    (ho : Allowed site jobs old w.known o) : Accounted site jobs old w' := by
  have hle := exec_known h
  refine ⟨fun key value hkey => ?_, ?_, fun j write hwrite => ?_, ?_, ?_⟩
  · rcases exec_entry h hkey with hkey | hentry
    · exact (hw.redis key value hkey).imp_right fun hs => hs.mono hle
    · exact .inr ((ho.entry key value hentry).mono hle)
  · rcases exec_db h with hdb | ⟨pending, rfl, hdb⟩
    · rw [hdb]
      exact hw.db.mono hle
    · refine (hw.db.mono hle).foldlM (fun write hwrite => ?_) hdb
      rcases List.mem_append.mp hwrite with hwrite | hwrite
      · exact (hw.sessions i write hwrite).mono hle
      · exact (ho.writes write hwrite).mono hle
  · rcases exec_sessions h hwrite with hwrite | ⟨-, hwrite⟩
    · exact (hw.sessions j write hwrite).mono hle
    · exact (ho.writes write hwrite).mono hle
  · obtain ⟨added, hqueue, hadded⟩ := hw.queue
    rcases exec_queue h with hq | ⟨payload, rfl, hq⟩
    · exact ⟨added, hq.trans hqueue, hadded⟩
    -- A payload in the queue was put there by a delivery.
    · refine ⟨added ++ [(i, payload)], ?_, fun p hp => ?_⟩
      · rw [hq, hqueue, List.append_assoc]
      · rcases List.mem_append.mp hp with hp | hp
        · exact hadded p hp
        · rw [List.mem_singleton.mp hp]
          exact ho.delay payload rfl
  · obtain ⟨made, hlog, hmade⟩ := hw.calls
    rcases exec_rcsLog h with hl | ⟨call, r', rfl, hl⟩
    · exact ⟨made, hl.trans hlog, hmade⟩
    · refine ⟨(i, call, r') :: made, by rw [hl, hlog, List.cons_append], fun x hx => ?_⟩
      rcases List.mem_cons.mp hx with rfl | hx
      · exact ho.rcs call rfl
      · exact hmade x hx

/-- What the answer of a step tells its process. -/
theorem exec_learned (hw : Accounted site jobs old w) (h : Exec i o w r w') :
    Learned site jobs old w'.known i o r := by
  cases o with
  | rcs call =>
      cases exec_rcs h
      exact List.mem_cons_self
  | selectTask code =>
      rcases r with e | _ | row
      · trivial
      · trivial
      · have hok := exec_ok h id
        have hfind : w.db.tasks.find? code = some row := Except.ok.inj (Prod.mk.inj hok).1
        have hcode : row.robotTaskCode = code := by simpa using List.find?_some hfind
        exact hcode
  | selectRobotType name =>
      rcases r with e | _ | t
      · trivial
      · trivial
      · have hok := exec_ok h id
        have hfind : w.db.robotTypes.find? (fun t => t.name = name) = some t :=
          Except.ok.inj (Prod.mk.inj hok).1
        -- No operation of a job changes the robot types.
        rw [hw.db.robotTypes] at hfind
        have hname : t.name = name := by simpa using List.find?_some hfind
        exact ⟨List.mem_of_find?_eq_some hfind, hname⟩
  | selectConfig key =>
      rcases r with e | _ | _ | value
      · trivial
      · trivial
      · trivial
      · have hok := exec_ok h id
        have hfind : w.db.configs key = some (some value) := Except.ok.inj (Prod.mk.inj hok).1
        rcases hw.db.configs key with hold | ⟨value', hvalue', hset⟩
        · exact .inl (hold ▸ hfind)
        · rw [hfind] at hvalue'
          cases hvalue'
          exact .inr hset
  | _ => trivial

/-- **Every step is sound for the discipline.** -/
theorem origins_governs (expires : String → Prop) :
    (origins site jobs old).Governs (brokered jobs expires) World.known (Accounted site jobs old)
      fun _ i note => note = i where
  step := by
    rintro i o s r s' note ⟨hx, hqueued⟩ hinv rfl ho
    refine ⟨hinv.exec hx ho, exec_known hx, ⟨_, rfl, rfl, exec_learned hinv hx, ?_⟩,
      fun _ _ _ hj => hj⟩
    exact fun payload hjob => (exec_known hx).2 (hqueued payload hjob)
  env := by
    rintro s s' ⟨key, -, rfl⟩ hinv
    refine ⟨⟨fun key' value hkey' => ?_, hinv.db, hinv.sessions, hinv.queue, hinv.calls⟩, le_rfl,
      fun _ _ hj => hj⟩
    rw [World.dropRedis_redis, Function.update_apply] at hkey'
    split at hkey'
    · cases hkey'
    · exact hinv.redis key' value hkey'

omit [DecidableEq ι] in
/-- At the beginning there is nothing to account for. -/
theorem Accounted.start (hsessions : ∀ i, old.sessions i = []) : Accounted site jobs old old where
  redis _ _ hkey := .inl hkey
  db := ⟨rfl, ⟨_, [], (List.append_nil _).symm, List.forall₂_same.mpr fun _ _ => .refl, by simp⟩,
    fun _ => .inl rfl, [], (List.append_nil _).symm, by simp⟩
  sessions i write hwrite := by
    rw [hsessions i] at hwrite
    cases hwrite
  queue := ⟨[], (List.append_nil _).symm, by simp⟩
  calls := ⟨[], rfl, by simp⟩

end Rcs

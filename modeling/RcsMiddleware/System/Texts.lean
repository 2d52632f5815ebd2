import Mathlib.Data.Set.BooleanAlgebra
import Mathlib.Order.CompletePartialOrder
import RcsMiddleware.Redis.Families
import RcsMiddleware.Support.Representation
import RcsMiddleware.System.Trust
import RcsMiddleware.Webhook.Messages

/-!
# System — Texts

Redis and the broker hold texts.  `World.lean` has the values in their place; here it is shown that
this loses nothing, since every document and every message that a job writes is read back as it was.

* `World.texts`: the stores of a world, as texts.
* `World.Legible`: every entry is read back as it was written, and every message; `run_legible`.
* `respond_texts`: an operation on the texts does what it does on the values.
* `texts_refine_values`: **a run on texts** is a run on values.
-/

namespace Rcs

open Support Support.Text

variable {ι : Type}

/-! ### The texts of a world -/

/-- The world without its Redis and its queue. -/
def World.bare (w : World ι) : World ι := { w with redis := fun _ => none, queue := [] }

/-- The world, its entries and messages as texts. -/
def World.texts (w : World ι) : TextWorld ι where
  texts key := (w.redis key).map RedisValue.stored
  messages := w.queue.map fun x => (x.1, x.2.message)
  rest := w.bare

/-- The value is read under the key as it was written. -/
def Fits (read : String → PyFloat) (key : String) (value : RedisValue) : Prop :=
  readStored read key value.stored = value

/-- RCS has answered these calls with what can be read back. -/
def AnswersRead (read : String → PyFloat) (calls : List (ι × RcsCall × Except PyExc Json)) : Prop :=
  ∀ x ∈ calls, ∀ v, x.2.2 = .ok v → Json.Readable read v

/-- Everything in the stores is read back as it was written, and RCS has answered with what
`json.loads` returns. -/
structure World.Legible (read : String → PyFloat) (w : World ι) : Prop where
  entries : ∀ key value, w.redis key = some value → Fits read key value
  payloads : ∀ x ∈ w.queue, x.2.Sound read
  answers : AnswersRead read w.rcsLog

variable {read : String → PyFloat} {w w' : World ι}

/-! ### Entries -/

theorem isDocumentKey_prefix {start rest : String} (h : start ∈ documentPrefixes) :
    isDocumentKey (start ++ rest) = true :=
  List.any_eq_true.mpr ⟨start, h, startsWith_iff.mpr ⟨rest, rfl⟩⟩

theorem isDocumentKey_idempotencyKey (key : String) : isDocumentKey (idempotencyKey key) = true :=
  isDocumentKey_prefix List.mem_cons_self

theorem isDocumentKey_idemKey (key : String) : isDocumentKey (idemKey key) = true := by
  rw [RedisKey.idemKey_eq]
  exact isDocumentKey_idempotencyKey _

theorem isDocumentKey_robotStateKey (amrCode : String) :
    isDocumentKey (robotStateKey amrCode) = true := by
  rw [robotStateKey, String.append_assoc]
  exact isDocumentKey_prefix (List.mem_cons_of_mem _ List.mem_cons_self)

/-- The families of documents have initials of their own. -/
theorem not_isDocumentKey {key : String} {c : Char} (h : key.toList.head? = some c)
    (hc : c ≠ 'i' ∧ c ≠ 'r') : isDocumentKey key = false := by
  refine List.any_eq_false.mpr fun start hstart hkey => ?_
  obtain ⟨rest, rfl⟩ := startsWith_iff.mp hkey
  simp only [documentPrefixes, List.mem_cons, List.not_mem_nil, or_false] at hstart
  rcases hstart with rfl | rfl <;> rw [String.toList_append] at h
  · exact hc.1 (Option.some.inj h).symm
  · exact hc.2 (Option.some.inj h).symm

theorem isDocumentKey_sysconfigKey (key : String) : isDocumentKey (sysconfigKey key) = false :=
  not_isDocumentKey (RedisKey.text_head (.sysconfig key)) (by decide : 's' ≠ 'i' ∧ 's' ≠ 'r')

theorem isDocumentKey_webhookDedupeKey (robotTaskCode method : String) :
    isDocumentKey (webhookDedupeKey robotTaskCode method) = false :=
  not_isDocumentKey (RedisKey.text_head (.webhookDedupe robotTaskCode method))
    (by decide : 'w' ≠ 'i' ∧ 'w' ≠ 'r')

theorem fits_text {key : String} (hkey : isDocumentKey key = false) (s : String) :
    Fits read key (.text s) := by
  rw [Fits, readStored, hkey]
  rfl

theorem fits_json {key : String} (hkey : isDocumentKey key = true) {v : Json}
    (hv : Json.Readable read v) : Fits read key (.json v) := by
  have hloads : Json.loads? read (RedisValue.json v).stored = some v := Json.loads_dumpsDefault hv
  rw [Fits, readStored, if_pos hkey, hloads]

theorem readable_members {fields : List (String × Json)} (hkeys : (fields.map Prod.fst).Nodup)
    (h : List.Forall (fun kv => Json.Readable read kv.2) fields) : Json.Readable read (.obj fields) :=
  .obj hkeys (List.forall_iff_forall_mem.mp h)

theorem readable_jsonOpt (o : Option String) : Json.Readable read (jsonOpt o) :=
  TaskFeedbackPayload.readable_jsonOpt o

theorem readable_envelope (request : TaskCreateRequest) (result : TaskCreateResponseData) :
    Json.Readable read (envelope request result) :=
  readable_members (by simp) ⟨.str _, readable_members (by simp) ⟨.str _, .str _, .bool _⟩⟩

theorem readable_rawEnvelope (request : RcsRawSubmitRequest) (path : String) (code : Option String)
    (persisted : Bool) {v : Json} (hv : Json.Readable read v) :
    Json.Readable read (rawEnvelope request path (rawResult code persisted v)) := by
  have hrcs : Json.Readable read (.obj (rawResult code persisted v).rcs) := by
    cases hv with
    | obj hkeys h => exact .obj hkeys h
    | _ => exact .obj List.nodup_nil fun _ hm => absurd hm List.not_mem_nil
  exact readable_members (by simp) ⟨.str _, readable_members (by simp)
    ⟨readable_jsonOpt _, readable_jsonOpt _, .bool _, .bool _, hrcs⟩⟩

theorem readable_statePayload {payload : TaskFeedbackPayload} (h : payload.Sound read)
    (amrCode : String) (target : TaskStatus) (now : DateTime) :
    Json.Readable read (statePayload payload amrCode target now) :=
  readable_members (by simp) ⟨.str _, TaskFeedbackPayload.readable_jsonFloat h.x,
    TaskFeedbackPayload.readable_jsonFloat h.y, .str _, .str _, .str _⟩

/-! ### One operation -/

theorem map_update {α β : Type} (f : α → β) (redis : String → Option α) (key : String)
    (value : Option α) : (fun k => (Function.update redis key value k).map f) =
      Function.update (fun k => (redis k).map f) key (value.map f) := by
  funext k
  by_cases hk : k = key
  · subst hk
    rw [Function.update_self, Function.update_self]
  · rw [Function.update_of_ne hk, Function.update_of_ne hk]

theorem texts_setRedis (w : World ι) (key : String) (value : RedisValue) :
    (w.setRedis key value).texts = w.texts.setText key value.stored := by
  rw [World.texts, World.setRedis_redis, map_update]
  rfl

theorem texts_dropRedis (w : World ι) (key : String) : (w.dropRedis key).texts = w.texts.dropText key := by
  rw [World.texts, World.dropRedis_redis, map_update]
  rfl

theorem texts_delay (w : World ι) (i : ι) (payload : TaskFeedbackPayload) :
    { w with queue := w.queue ++ [(i, payload)] }.texts =
      { w.texts with messages := w.texts.messages ++ [(i, payload.message)] } := by
  simp only [World.texts, List.map_append]
  rfl

/-- A fault strikes the texts as it strikes the values. -/
theorem strike_texts {α : Type} (f : Fault) (w : World ι) (x : Except PyExc α × World ι) :
    f.strike w.texts (x.1, x.2.texts) = ((f.strike w x).1, (f.strike w x).2.texts) := by
  cases f <;> rfl

section Operations

variable [DecidableEq ι]

/-- The operations on entries and messages. -/
def Op.onTexts : Op → Bool
  | .redisGet _ | .redisSet _ _ | .redisSetNx _ _ _ | .redisSetex _ _ _ | .delay _ => true
  | _ => false

theorem respond_rest {o : Op} (ho : o.onTexts = false) (v : TextWorld ι) (i : ι) (env : Env) :
    v.respond read i env o =
      ((respond i env o v.rest).1, { v with rest := (respond i env o v.rest).2 }) := by
  cases o <;> first | rfl | cases ho

/-- The other operations neither read nor change Redis and the queue. -/
theorem respond_bare (i : ι) (env : Env) {o : Op} (ho : o.onTexts = false) (w : World ι) :
    (respond i env o w.bare).1 = (respond i env o w).1 ∧
      ({ w.texts with rest := (respond i env o w.bare).2 } : TextWorld ι) = (respond i env o w).2.texts := by
  obtain ⟨fault, _, _, _, _⟩ := env
  cases o with
  | insertTask row =>
      have hdb : w.bare.db = w.db := rfl
      simp only [respond, hdb]
      cases w.db.tasks.violated? row <;> cases fault <;> exact ⟨rfl, rfl⟩
  | commit pending =>
      have hdb : w.bare.db = w.db := rfl
      have hsessions : w.bare.sessions = w.sessions := rfl
      simp only [respond, World.commit, hdb, hsessions]
      cases (w.sessions i ++ pending).foldlM Write.run w.db <;> cases fault <;> exact ⟨rfl, rfl⟩
  | selectRobotType _ | selectTask _ | updateTask _ _ | selectConfig _ | rollback | close =>
      cases fault <;> exact ⟨rfl, rfl⟩
  | rcs _ | sign _ _ _ | http _ | now => exact ⟨rfl, rfl⟩
  | redisGet _ | redisSet _ _ | redisSetNx _ _ _ | redisSetex _ _ _ | delay _ => cases ho

/-- **An operation on the texts** does what it does on the values. -/
theorem respond_texts (hw : w.Legible read) (i : ι) (env : Env) (o : Op) :
    w.texts.respond read i env o = ((respond i env o w).1, (respond i env o w).2.texts) := by
  -- Whatever does not touch the texts is done beside them.
  have hother : o.onTexts = false → w.texts.respond read i env o =
      ((respond i env o w).1, (respond i env o w).2.texts) := fun ho => by
    obtain ⟨hanswer, hend⟩ := respond_bare i env ho w
    rw [respond_rest ho]
    exact Prod.ext hanswer hend
  cases o with
  | redisGet key =>
      have hread : (w.texts.texts key).map (readStored read key) = w.redis key := by
        show ((w.redis key).map RedisValue.stored).map (readStored read key) = _
        cases hkey : w.redis key with
        | none => rfl
        | some value => exact congrArg some (hw.entries key value hkey)
      show env.fault.strike w.texts (.ok _, w.texts) = _
      rw [hread]
      exact strike_texts env.fault w (.ok (w.redis key), w)
  | redisSet key value =>
      show env.fault.strike w.texts (.ok (), w.texts.setText key value.stored) = _
      rw [← texts_setRedis]
      exact strike_texts env.fault w (.ok (), w.setRedis key value)
  | redisSetex key ttl value =>
      show env.fault.strike w.texts (.ok (), w.texts.setText key value.stored) = _
      rw [← texts_setRedis]
      exact strike_texts env.fault w (.ok (), w.setRedis key value)
  | redisSetNx key value ttl =>
      have hnone : (w.texts.texts key).isNone = (w.redis key).isNone := Option.isNone_map
      show env.fault.strike w.texts (if (w.texts.texts key).isNone then (.ok true, _) else _) = _
      rw [hnone, ← texts_setRedis]
      have hstrike := strike_texts env.fault w (if (w.redis key).isNone then
        ((.ok true : Except PyExc Bool), w.setRedis key value) else (.ok false, w))
      refine Eq.trans (congrArg _ ?_) hstrike
      split <;> rfl
  | delay payload =>
      show env.fault.strike w.texts (.ok (), _) = _
      rw [← texts_delay]
      exact strike_texts env.fault w (.ok (), { w with queue := w.queue ++ [(i, payload)] })
  | _ => exact hother rfl

end Operations

/-! ### What a run leaves in the stores -/

/-- RCS answers with what `json.loads` returns. -/
def ReadsAnswers (read : String → PyFloat) (e : Event ι Op Ret PyExc) : Prop :=
  ∀ i call v, e = ⟨i, .rcs call, .ok v⟩ → ∃ text, Json.loads? read text = some v

variable {site : Deployment} {jobs : ι → Job} {expires : String → Prop}

/-- What a job stores is read back, if what it was made from is. -/
theorem Stored.fits {old : World ι} (hanswers : AnswersRead read w.rcsLog)
    (hpayloads : ∀ x ∈ w.queue, x.2.Sound read) {key : String} {value : RedisValue}
    (h : Stored site jobs old w.known key value) : Fits read key value := by
  cases h with
  | created => exact fits_json (isDocumentKey_idempotencyKey _) (readable_envelope _ _)
  | submitted _ _ _ hcall =>
      exact fits_json (isDocumentKey_idemKey _)
        (readable_rawEnvelope _ _ _ _ (hanswers _ hcall _ rfl))
  | setting => exact fits_text (isDocumentKey_sysconfigKey _) _
  | marker => exact fits_text (isDocumentKey_webhookDedupeKey _ _) _
  | robot hpayload =>
      obtain ⟨i, hi⟩ := hpayload
      exact fits_json (isDocumentKey_robotStateKey _)
        (readable_statePayload (hpayloads _ hi) _ _ _)

variable [DecidableEq ι]

theorem exec_answersRead {i : ι} {o : Op} {r : Except PyExc (Ret o)} (hx : Exec i o w r w')
    (hread : ∀ text, Json.ReadsBack read (read text)) (hE : ReadsAnswers read ⟨i, o, r⟩)
    (hw : AnswersRead read w.rcsLog) : AnswersRead read w'.rcsLog := by
  rcases exec_rcsLog hx with heq | ⟨call, -, rfl, -⟩
  · rw [heq]
    exact hw
  · rw [exec_rcs hx]
    intro x hx v hv
    rcases List.mem_cons.mp hx with rfl | hx
    · obtain ⟨text, htext⟩ := hE i call v (by rw [show r = .ok v from hv])
      exact Json.readable_of_loads hread htext
    · exact hw x hx v hv

/-- **What a run leaves is legible**, if what it began with is: every entry, every message and every
answer is read back. -/
theorem run_legible (hrouter : site.webhook.ReadsTexts read) (hsessions : ∀ i, w.sessions i = [])
    (hw : w.Legible read) {c : Config ι Op Ret PyExc Unit (World ι)}
    (h : Run (brokered jobs expires) (Accepting (ReadsAnswers read)) (launch site jobs w) c) :
    c.shared.Legible read := by
  have hacc := run_accounted hsessions h
  have hanswers : AnswersRead read c.shared.rcsLog := by
    refine h.invariant (I := fun d => AnswersRead read d.shared.rcsLog) ?_ ?_ hw.answers
    · intro d d' e hI hE hs
      obtain ⟨-, hx⟩ := hs
      exact exec_answersRead hx.1 hrouter.back hE hI
    · rintro d _ hI ⟨key, -, rfl⟩
      exact hI
  -- A queued payload was there before, or was accepted as a body.
  have hpayloads : ∀ x ∈ c.shared.queue, x.2.Sound read := by
    obtain ⟨added, hqueue, hadded⟩ := hacc.queue
    intro x hx
    rw [hqueue] at hx
    rcases List.mem_append.mp hx with hx | hx
    · exact hw.payloads x hx
    · obtain ⟨i, requestId, rawBody, signature, -, hpayload, -⟩ := hadded x hx
      exact sound_of_payloadOf hrouter hpayload
  refine ⟨fun key value hkey => ?_, hpayloads, hanswers⟩
  rcases hacc.redis key value hkey with hold | hstored
  · exact hw.entries key value hold
  · exact hstored.fits hanswers hpayloads

/-! ### The middleware on texts -/

/-- The middleware with the stores as they are. -/
def textual (read : String → PyFloat) (jobs : ι → Job) (expires : String → Prop) :
    System ι Op Ret PyExc (TextWorld ι) where
  exec i o v r v' := (¬ Blocked i o v.rest ∧ ∃ env, v.respond read i env o = (r, v')) ∧
    ReadsAnswers read ⟨i, o, r⟩ ∧
    ∀ payload, jobs i = .process payload → ∃ j, (j, payload.message) ∈ v.messages
  env v v' := ∃ key, expires key ∧ v' = v.dropText key

/-- A worker takes the text of its payload. -/
def Job.serveTexts (site : Deployment) (read : String → PyFloat) : Job → M Unit
  | .process payload => (receive read payload.message).discard
  | job => job.serve site

/-- All jobs at their start, on texts. -/
def launchTexts (site : Deployment) (read : String → PyFloat) (jobs : ι → Job) (w : World ι) :
    Config ι Op Ret PyExc Unit (TextWorld ι) :=
  .start w.texts fun i => (jobs i).serveTexts site read

omit [DecidableEq ι] in
theorem blocked_texts (i : ι) (o : Op) (w : World ι) : Blocked i o w.texts.rest ↔ Blocked i o w := by
  cases o <;> exact Iff.rfl

omit [DecidableEq ι] in
/-- The message of a payload is there if the payload is. -/
theorem World.Legible.message_mem (hw : w.Legible read) {payload : TaskFeedbackPayload}
    (hsound : payload.Sound read) :
    (∃ j, (j, payload.message) ∈ w.texts.messages) ↔ w.Queued payload := by
  constructor
  · rintro ⟨j, hj⟩
    obtain ⟨⟨j', payload'⟩, hmem, heq⟩ := List.mem_map.mp hj
    obtain ⟨-, hmessage⟩ := Prod.mk.inj heq
    obtain rfl := TaskFeedbackPayload.message_injective (hw.payloads _ hmem) hsound hmessage
    exact ⟨j', hmem⟩
  · rintro ⟨j, hj⟩
    exact ⟨j, List.mem_map.mpr ⟨_, hj, rfl⟩⟩

/-- **The texts represent the values**, step by step. -/
theorem texts_represent (hjobs : ∀ i payload, jobs i = .process payload → payload.Sound read) :
    Mirrors (textual read jobs expires) (brokered jobs expires) (ReadsAnswers read) World.texts
      (World.Legible read) where
  exec := by
    intro i o w r v' hw
    constructor
    · rintro ⟨⟨hfree, env, henv⟩, hE, hqueue⟩
      -- The state is legible, so the texts answer as the values do.
      rw [respond_texts hw] at henv
      obtain ⟨rfl, rfl⟩ := Prod.mk.inj henv
      refine ⟨_, ⟨⟨fun hb => hfree ((blocked_texts i o w).mpr hb), env, rfl⟩, ?_⟩, rfl, hE⟩
      intro payload hjob
      exact (hw.message_mem (hjobs i payload hjob)).mp (hqueue payload hjob)
    · rintro ⟨w', ⟨⟨hfree, env, henv⟩, hqueue⟩, rfl, hE⟩
      refine ⟨⟨fun hb => hfree ((blocked_texts i o w).mp hb), env, ?_⟩, hE, ?_⟩
      · rw [respond_texts hw, henv]
      · intro payload hjob
        exact (hw.message_mem (hjobs i payload hjob)).mpr (hqueue payload hjob)
  env := by
    intro w v' _
    constructor
    · rintro ⟨key, hkey, rfl⟩
      exact ⟨w.dropRedis key, ⟨key, hkey, rfl⟩, texts_dropRedis w key⟩
    · rintro ⟨_, ⟨key, hkey, rfl⟩, rfl⟩
      exact ⟨key, hkey, texts_dropRedis w key⟩

omit [DecidableEq ι] in
theorem launch_texts (hjobs : ∀ i payload, jobs i = .process payload → payload.Sound read) :
    (launch site jobs w).represent World.texts = launchTexts site read jobs w := by
  have hserve : ∀ i, (jobs i).serve site = (jobs i).serveTexts site read := by
    intro i
    -- Only a worker starts otherwise: it reads its payload first.
    generalize hjob : jobs i = job
    cases job with
    | process payload =>
        rw [Job.serve, Job.serveTexts, (hjobs i payload hjob).receive_message]
    | _ => rfl
  exact congrArg (Config.start w.texts) (funext hserve)

/-- **Runs on texts are runs on values.**  The jobs run on stores that hold texts, each document
written by `json.dumps` and read by `json.loads`, each worker on a message of the broker, and RCS
answers with what can be read.  The configurations they reach are those they reach on the values, with
the stores as texts; and there everything in the stores is read back as it was written. -/
theorem texts_refine_values (hrouter : site.webhook.ReadsTexts read)
    (hsessions : ∀ i, w.sessions i = []) (hw : w.Legible read)
    (hjobs : ∀ i payload, jobs i = .process payload → payload.Sound read)
    (c : Config ι Op Ret PyExc Unit (TextWorld ι)) :
    Run (textual read jobs expires) unguarded (launchTexts site read jobs w) c ↔
      ∃ d, Run (brokered jobs expires) (Accepting (ReadsAnswers read)) (launch site jobs w) d ∧
        d.shared.Legible read ∧ c = d.represent World.texts := by
  have hok : ∀ d, Run (brokered jobs expires) (Accepting (ReadsAnswers read)) (launch site jobs w) d →
      d.shared.Legible read := fun d hd => run_legible hrouter hsessions hw hd
  rw [← launch_texts hjobs, Run.represented (texts_represent hjobs) hok]
  constructor
  · rintro ⟨d, hd, rfl⟩
    exact ⟨d, hd, hok d hd, rfl⟩
  · rintro ⟨d, hd, -, rfl⟩
    exact ⟨d, hd, rfl⟩

/-! ### The state of a robot as text -/

/-- A deployment with the endpoint that reads texts. -/
def textSite : Deployment where
  apiKey := "k"
  rcsBaseUrl := "http://rcs"
  webhook := textRouter
  robots := ⟨textRouter.floatOf, DateTime.fromIsoformat⟩

/-- A worker on `sampleEvent`. -/
def onSampleEvent : Unit → Job := fun _ => .process sampleEvent

/-- The task `T7` is pending, and `sampleEvent` is in the queue. -/
def eventQueued : World Unit where
  db := { tasks := ⟨[{ robotTaskCode := "T7", status := .pending }], List.pairwise_singleton _ _⟩ }
  queue := [((), sampleEvent)]

theorem eventQueued_legible : eventQueued.Legible sampleRead where
  entries := nofun
  payloads x hx := by
    rw [List.mem_singleton.mp hx]
    exact sampleEvent_sound
  answers _ hx := (List.not_mem_nil hx).elim

def Op.call? : Op → Option RcsCall
  | .rcs call => some call
  | _ => none

theorem texts_refine_values_state :
    ∃ c, Run (textual sampleRead onSampleEvent fun _ => False) unguarded
        (launchTexts textSite sampleRead onSampleEvent eventQueued) c ∧
      c.shared.texts (robotStateKey "A1") = some ("\x7b\"amrCode\": \"A1\", \"x\": 12.5, \"y\": null, " ++
        "\"state\": \"running\", \"lastTaskCode\": \"T7\", \"updatedAt\": \"2026-01-01T00:00:00\"\x7d") := by
  obtain ⟨d, hd, hstate⟩ : ∃ d, Run (system fun _ => False) (fun _ e _ => e.op.call? = none)
      (launch textSite onSampleEvent eventQueued) d ∧
      d.shared.texts.texts (robotStateKey "A1") =
        some ("\x7b\"amrCode\": \"A1\", \"x\": 12.5, \"y\": null, " ++
          "\"state\": \"running\", \"lastTaskCode\": \"T7\", \"updatedAt\": \"2026-01-01T00:00:00\"\x7d") :=
    run_of_schedule (List.replicate 6 ((), {})) (by decide +kernel)
  have hjobs : ∀ i payload, onSampleEvent i = .process payload → payload = sampleEvent := by
    intro i payload hjob
    cases hjob
    rfl
  have hrun : Run (brokered onSampleEvent fun _ => False) (Accepting (ReadsAnswers sampleRead))
      (launch textSite onSampleEvent eventQueued) d := by
    refine brokered_of_queued onSampleEvent (fun i payload hjob => ?_) (hd.mono ?_)
    · rw [hjobs i payload hjob]
      exact ⟨(), List.mem_singleton_self _⟩
    · rintro c ⟨i, o, r⟩ c' hcall _ _ _ heq
      cases heq
      cases hcall
  have hlegible : d.shared.Legible sampleRead :=
    run_legible textRouter_readsTexts (fun _ => rfl) eventQueued_legible hrun
  refine ⟨d.represent World.texts, ?_, hstate⟩
  refine (texts_refine_values textRouter_readsTexts (fun _ => rfl) eventQueued_legible ?_ _).mpr
    ⟨d, hrun, hlegible, rfl⟩
  intro i payload hjob
  rw [hjobs i payload hjob]
  exact sampleEvent_sound

end Rcs

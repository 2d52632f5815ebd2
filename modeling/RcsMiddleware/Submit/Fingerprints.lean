import RcsMiddleware.Source.RcsClient
import RcsMiddleware.Submit.Envelopes
import RcsMiddleware.Submit.Histories
import RcsMiddleware.Support.CanonicalJson

/-!
# Submit — Fingerprints

What the fingerprint of a raw submit says of it.  The fingerprint is the sorted text of four of the
request's members, so equal fingerprints mean equal members, the body up to the order of its own.
The fifth member, `persist_task`, is left out.

* `fingerprints_eq_iff`: when two fingerprints of either operation are equal.
* `sameEffect_iff`: of two requests with one fingerprint, a submit without a key has one effect
  exactly when both ask for a row or neither does.
-/

namespace Rcs

open Support Support.Text Support.Json Support.Prog

/-! ### When two fingerprints are equal -/

/-- An object as a `dict` holds it: no key twice, at any depth. -/
structure JsonObject where
  fields : List (String × Json)
  distinct : (Json.obj fields).DistinctKeys

/-- `_raw_fingerprint`, of a method that is any text; `upper` is `str.upper`. -/
def rawFingerprintText (upper : String → String) (method path : String)
    (body : Option (List (String × Json))) (sendSigned : Bool) : String :=
  Json.dumpsSorted (.obj [("method", .str (upper method)), ("path", .str path),
    ("body", .obj (body.getD [])), ("sendSigned", .bool sendSigned)])

theorem rawFingerprint_eq (method : HttpMethod) (path : String)
    (body : Option (List (String × Json))) (sendSigned : Bool) :
    rawFingerprint method path body sendSigned =
      rawFingerprintText id method.upper path body sendSigned := rfl

/-- The bodies have the same members, `None` having none. -/
def SameBody (body body' : Option (List (String × Json))) : Prop :=
  Json.Same (.obj (body.getD [])) (.obj (body'.getD []))

section Text

variable {upper : String → String} {method method' path path' : String}
  {body body' : Option (List (String × Json))} {sendSigned sendSigned' : Bool}

/-- A member that both objects have. -/
theorem same_field {fields fields' : List (String × Json)} (key : String) {v v' : Json}
    (h : Json.Same (.obj fields) (.obj fields')) (hv : Json.field fields key = some v)
    (hv' : Json.field fields' key = some v') : Json.Same v v' := by
  cases h with
  | obj h =>
      have hkey := h key
      rw [hv, hv'] at hkey
      cases hkey with
      | some hsame => exact hsame

/-- The members of a fingerprint, one by one. -/
theorem same_members_iff :
    Json.Same (.obj [("method", .str (upper method)), ("path", .str path),
        ("body", .obj (body.getD [])), ("sendSigned", .bool sendSigned)])
      (.obj [("method", .str (upper method')), ("path", .str path'),
        ("body", .obj (body'.getD [])), ("sendSigned", .bool sendSigned')]) ↔
      upper method = upper method' ∧ path = path' ∧ sendSigned = sendSigned' ∧
        SameBody body body' := by
  constructor
  · intro h
    have hmethod : Json.Same (.str (upper method)) (.str (upper method')) :=
      same_field "method" h rfl rfl
    have hpath : Json.Same (.str path) (.str path') := same_field "path" h rfl rfl
    have hbody : Json.Same (.obj (body.getD [])) (.obj (body'.getD [])) :=
      same_field "body" h rfl rfl
    have hsigned : Json.Same (.bool sendSigned) (.bool sendSigned') :=
      same_field "sendSigned" h rfl rfl
    exact ⟨same_str_iff.mp hmethod, same_str_iff.mp hpath, same_bool_iff.mp hsigned, hbody⟩
  · rintro ⟨hmethod, rfl, rfl, hbody⟩
    rw [hmethod]
    refine .obj fun key => lookup_forall₂ ?_ key
    exact .cons ⟨rfl, .str _⟩ (.cons ⟨rfl, .str _⟩ (.cons ⟨rfl, hbody⟩ (.cons ⟨rfl, .bool _⟩ .nil)))

theorem distinctKeys_members (hbody : (Json.obj (body.getD [])).DistinctKeys) :
    (Json.obj [("method", .str (upper method)), ("path", .str path),
      ("body", .obj (body.getD [])), ("sendSigned", .bool sendSigned)]).DistinctKeys := by
  refine .obj (by simp) fun kv hkv => ?_
  simp only [List.mem_cons, List.not_mem_nil, or_false] at hkv
  rcases hkv with rfl | rfl | rfl | rfl
  · exact .str _
  · exact .str _
  · exact hbody
  · exact .bool _

/-- Fingerprints that are equal, of bodies of any form. -/
theorem members_of_fingerprint_eq
    (h : rawFingerprintText upper method path body sendSigned =
      rawFingerprintText upper method' path' body' sendSigned') :
    upper method = upper method' ∧ path = path' ∧ sendSigned = sendSigned' ∧ SameBody body body' :=
  same_members_iff.mp (same_of_dumpsSorted h)

end Text

theorem distinctKeys_body (body : Option JsonObject) :
    (Json.obj ((body.map JsonObject.fields).getD [])).DistinctKeys := by
  cases body with
  | none => exact .obj List.nodup_nil fun _ h => absurd h List.not_mem_nil
  | some body => exact body.distinct

/-- **Equal fingerprints.**  Two fingerprints of raw submits are equal exactly when the methods in
upper case, the paths and the flags are, and the bodies differ at most in the order of members,
where `None` counts as `{}`; two fingerprints of `create_task` when the four members are equal. -/
theorem fingerprints_eq_iff :
    (∀ (upper : String → String) (method method' path path' : String)
        (body body' : Option JsonObject) (sendSigned sendSigned' : Bool),
      rawFingerprintText upper method path (body.map JsonObject.fields) sendSigned =
          rawFingerprintText upper method' path' (body'.map JsonObject.fields) sendSigned' ↔
        upper method = upper method' ∧ path = path' ∧ sendSigned = sendSigned' ∧
          SameBody (body.map JsonObject.fields) (body'.map JsonObject.fields)) ∧
    ∀ r s : TaskCreateRequest, fingerprint r = fingerprint s ↔
      r.robotType = s.robotType ∧ r.sourceCode = s.sourceCode ∧ r.targetCode = s.targetCode ∧
        r.priority = s.priority := by
  constructor
  · intro upper method method' path path' body body' sendSigned sendSigned'
    exact (dumpsSorted_eq_iff (distinctKeys_members (distinctKeys_body body))
      (distinctKeys_members (distinctKeys_body body'))).trans same_members_iff
  · intro r s
    constructor
    · intro h
      obtain rfl := fingerprint_injective h
      exact ⟨rfl, rfl, rfl, rfl⟩
    · intro ⟨hrobotType, hsourceCode, htargetCode, hpriority⟩
      cases r
      cases s
      cases hrobotType
      cases hsourceCode
      cases htargetCode
      cases hpriority
      rfl

/-! ### What a submit without a key does -/

/-- What is sent of the bodies is the same up to the order of members: nothing, or the texts of two
objects. -/
def SameContent (body body' : Option (List (String × Json))) : Prop :=
  (bodyText body = "" ∧ bodyText body' = "") ∨
    ∃ fields fields', body = some fields ∧ body' = some fields' ∧
      Json.Same (.obj fields) (.obj fields')

/-- Two calls of RCS for the same, the bodies up to the order of members. -/
inductive SameCall : RcsCall → RcsCall → Prop where
  | signed {method : HttpMethod} {path : String} {body body' : Option (List (String × Json))}
      (h : SameContent body body') :
      SameCall (.signedRequest method path body) (.signedRequest method path body')
  | plain {method : HttpMethod} {path : String} {body body' : Option (List (String × Json))}
      (h : SameContent body body') :
      SameCall (.plainRequest method path body) (.plainRequest method path body')

/-- The world after the request, without a key, in a session of its own. -/
def afterRaw (request : RcsRawSubmitRequest) (a : Answers) (w : World Unit) : World Unit :=
  ((withSession (submitRaw request none)).run a.respond w).2

/-- In every state, and however RCS and the stores answer, each of the two requests makes one call
of RCS, for the same, and leaves the same rows in `task_history`. -/
def SameEffect (r r' : RcsRawSubmitRequest) : Prop :=
  ∀ (w : World Unit) (a : Answers), w.sessions () = [] →
    (∃ call call', SameCall call call' ∧
      (afterRaw r a w).rcsLog = ((), call, a.rcs) :: w.rcsLog ∧
      (afterRaw r' a w).rcsLog = ((), call', a.rcs) :: w.rcsLog) ∧
    (afterRaw r a w).db.tasks = (afterRaw r' a w).db.tasks

/-! ### The body -/

section Body

variable {fields fields' : List (String × Json)} {body body' : Option (List (String × Json))}

/-- Of two objects that are the same, one is empty exactly when the other is. -/
theorem eq_nil_iff_of_same (h : Json.Same (.obj fields) (.obj fields')) :
    fields = [] ↔ fields' = [] := by
  have hnil : ∀ l : List (String × Json), l = [] ↔ ∀ key, (Json.field l key).isSome = false := by
    intro l
    cases l with
    | nil => exact ⟨fun _ _ => rfl, fun _ => rfl⟩
    | cons kv l =>
        refine iff_of_false (List.cons_ne_nil _ _) fun hkeys => ?_
        have hkey := hkeys kv.1
        rw [Json.field, List.lookup_cons_self] at hkey
        cases hkey
  cases h with
  | obj h =>
      have hsome : ∀ key, (Json.field fields key).isSome = (Json.field fields' key).isSome := by
        intro key
        have hkey := h key
        generalize Json.field fields key = member, Json.field fields' key = member' at hkey
        cases hkey <;> rfl
      simp only [hnil, hsome]

theorem sameContent_of_sameBody (h : SameBody body body') : SameContent body body' := by
  have hnil : body.getD [] = [] ↔ body'.getD [] = [] := eq_nil_iff_of_same h
  cases body with
  | none =>
      cases body' with
      | none => exact .inl ⟨rfl, rfl⟩
      | some fields' =>
          obtain rfl : fields' = [] := hnil.mp rfl
          exact .inl ⟨rfl, rfl⟩
  | some fields =>
      cases body' with
      | none =>
          obtain rfl : fields = [] := hnil.mpr rfl
          exact .inl ⟨rfl, rfl⟩
      | some fields' => exact .inr ⟨fields, fields', rfl, rfl, h⟩

/-- What `_meta_from_body` makes of the member `targetRoute`. -/
def routeTarget (fields : List (String × Json)) : Option String :=
  match Json.field fields "targetRoute" with
  | some (.arr steps) =>
      if routeCodes steps = [] then none else some (" → ".intercalate (routeCodes steps))
  | some (.obj route) => strMember route "targetCode"
  | _ => none

theorem metaFromBody_eq (body : Option (List (String × Json))) : metaFromBody body =
    (strMember (body.getD []) "sourceCode",
      routeTarget (body.getD []) <|> strMember (body.getD []) "targetCode") := by
  cases body with
  | none => rfl
  | some fields => cases fields <;> rfl

theorem strMember_of_same (h : Json.Same (.obj fields) (.obj fields')) (name : String) :
    strMember fields name = strMember fields' name := by
  cases h with
  | obj h =>
      have hname := h name
      rw [strMember, strMember]
      generalize Json.field fields name = member, Json.field fields' name = member' at hname
      cases hname with
      | none => rfl
      | some hsame => cases hsame <;> rfl

theorem routeCodes_of_same {steps steps' : List Json} (h : List.Forall₂ Json.Same steps steps') :
    routeCodes steps = routeCodes steps' := by
  induction h with
  | nil => rfl
  | cons hstep _ ih =>
      rw [routeCodes, routeCodes, List.filterMap_cons, List.filterMap_cons]
      cases hstep with
      | null | bool _ | int _ | float _ | str _ | arr _ => exact ih
      | @obj fields fields' hfields =>
          have hcode := hfields "code"
          dsimp only
          generalize Json.field fields "code" = code, Json.field fields' "code" = code' at hcode
          cases hcode with
          | none => exact ih
          | some hsame =>
              cases hsame with
              | str c => exact congrArg (c :: ·) ih
              | null | bool _ | int _ | float _ | arr _ | obj _ => exact ih

theorem routeTarget_of_same (h : Json.Same (.obj fields) (.obj fields')) :
    routeTarget fields = routeTarget fields' := by
  cases h with
  | obj h =>
      have hroute := h "targetRoute"
      rw [routeTarget, routeTarget]
      generalize Json.field fields "targetRoute" = route, Json.field fields' "targetRoute" = route'
        at hroute
      cases hroute with
      | none => rfl
      | some hsame =>
          cases hsame with
          | arr hsteps =>
              dsimp only
              rw [routeCodes_of_same hsteps]
          | obj hroute => exact strMember_of_same (.obj hroute) "targetCode"
          | null | bool _ | int _ | float _ | str _ => rfl

/-- Bodies that are the same give a row the same codes. -/
theorem metaFromBody_of_sameBody (h : SameBody body body') :
    metaFromBody body = metaFromBody body' := by
  rw [metaFromBody_eq, metaFromBody_eq, strMember_of_same h, strMember_of_same h,
    routeTarget_of_same h]

end Body

/-! ### The run -/

/-- Two worlds that differ in the calls RCS has received only. -/
def SameButCalls (w w' : World Unit) : Prop := ∃ log, w' = { w with rcsLog := log }

section Run

variable {r r' : RcsRawSubmitRequest} {path path' : String} {a : Answers} {w w' : World Unit}

/-- The calls RCS has received do not matter to the database. -/
theorem respond_sameButCalls (env : Env) {o : Op} (ho : o.Sql) (h : SameButCalls w w') :
    (respond () env o w).1 = (respond () env o w').1 ∧
      SameButCalls (respond () env o w).2 (respond () env o w').2 := by
  obtain ⟨log, rfl⟩ := h
  have hw : SameButCalls w { w with rcsLog := log } := ⟨log, rfl⟩
  cases o with
  | redisGet _ | redisSet _ _ | redisSetNx _ _ _ | redisSetex _ _ _ | rcs _ | sign _ _ _
  | http _ | delay _ | now => exact ho.elim
  | selectRobotType _ | selectTask _ | selectConfig _ =>
      exact env.fault.strike_alike hw rfl hw
  | updateTask _ _ => exact env.fault.strike_alike hw rfl ⟨log, rfl⟩
  | insertTask row =>
      refine env.fault.strike_alike hw ?_ ?_
      · cases w.db.tasks.violated? row <;> rfl
      · dsimp only
        cases w.db.tasks.violated? row <;> exact ⟨log, rfl⟩
  | commit pending =>
      refine env.fault.strike_alike hw ?_ ?_
      · simp only [World.commit]
        cases (w.sessions () ++ pending).foldlM Write.run w.db <;> rfl
      · simp only [World.commit]
        cases (w.sessions () ++ pending).foldlM Write.run w.db <;> exact ⟨log, rfl⟩
  | rollback | close =>
      exact env.fault.strike_alike (R := SameButCalls) ⟨log, rfl⟩ rfl ⟨log, rfl⟩

theorem HttpMethod.upper_injective {method method' : HttpMethod}
    (h : method.upper = method'.upper) : method = method' := by
  cases method <;> cases method'
  · rfl
  · simp [HttpMethod.upper] at h
  · simp [HttpMethod.upper] at h
  · rfl

/-- Requests whose fingerprints are equal make calls for the same. -/
theorem sameCall_of_members (hmethod : r.method = r'.method)
    (hsigned : r.sendSigned = r'.sendSigned)
    (hbody : SameBody r.body r'.body) : SameCall (rawCall r path) (rawCall r' path) := by
  have hcontent : SameContent (if r'.method = .post then r.body else none)
      (if r'.method = .post then r'.body else none) := by
    split_ifs
    · exact sameContent_of_sameBody hbody
    · exact .inl ⟨rfl, rfl⟩
  rw [rawCall, rawCall, hmethod, hsigned]
  cases r'.sendSigned with
  | true => exact .signed hcontent
  | false => exact .plain hcontent

/-- Without a key, the body and the flag decide what is recorded. -/
theorem recordRaw_congr (path path' : String) (hflag : r.persistTask = r'.persistTask)
    (hmeta : metaFromBody r.body = metaFromBody r'.body) (v : Json) :
    recordRaw r path none v = recordRaw r' path' none v := by
  have hrow : ∀ code, rawRow r none code = rawRow r' none code := by
    intro code
    rw [rawRow, rawRow, hmeta]
  have hfinish : ∀ result, finishRaw r path none result = finishRaw r' path' none result := by
    intro result
    rfl
  simp only [recordRaw, hflag, hrow, hfinish]

theorem recordRaw_sql (v : Json) : Only Op.Sql (recordRaw r path none v) :=
  recordRaw_only (fun _ => persistTask_sql _) fun _ _ => .ret _

/-- The world after a submit without a key. -/
theorem afterRaw_error (hp : rawSubmitPath r.path = .ok path) {e : PyExc}
    (hrcs : a.rcs = .error e) :
    afterRaw r a w = (w.logRcs () (rawCall r path) a.rcs).setSession () [] := by
  rw [afterRaw, withSession_world, submitRaw_of_miss hp (misses_none _), sendRaw_run, hrcs]
  rfl

theorem afterRaw_ok (hp : rawSubmitPath r.path = .ok path) {v : Json} (hrcs : a.rcs = .ok v) :
    afterRaw r a w = ((recordRaw r path none v).run a.respond
      (w.logRcs () (rawCall r path) a.rcs)).2.setSession () [] := by
  rw [afterRaw, withSession_world, submitRaw_of_miss hp (misses_none _), sendRaw_run, hrcs]
  rfl

/-- A submit without a key makes one call of RCS. -/
theorem afterRaw_rcsLog (hp : rawSubmitPath r.path = .ok path) :
    (afterRaw r a w).rcsLog = ((), rawCall r path, a.rcs) :: w.rcsLog := by
  cases hrcs : a.rcs with
  | error e => rw [afterRaw_error hp hrcs, hrcs]; rfl
  | ok v =>
      rw [afterRaw_ok hp hrcs, World.setSession_rcsLog, hrcs]
      refine (recordRaw_sql v).run_preserves
        (I := fun w' : World Unit => w'.rcsLog = ((), rawCall r path, .ok v) :: w.rcsLog) ?_ rfl
      intro o w' ho hlog
      rw [(Answers.respond_sql ho).2, hlog]

/-- Requests that record alike leave the same tables. -/
theorem afterRaw_db (hp : rawSubmitPath r.path = .ok path)
    (hp' : rawSubmitPath r'.path = .ok path') (hflag : r.persistTask = r'.persistTask)
    (hmeta : metaFromBody r.body = metaFromBody r'.body) :
    (afterRaw r a w).db = (afterRaw r' a w).db := by
  cases hrcs : a.rcs with
  | error e => rw [afterRaw_error hp hrcs, afterRaw_error hp' hrcs]; rfl
  | ok v =>
      rw [afterRaw_ok hp hrcs, afterRaw_ok hp' hrcs, World.setSession_db, World.setSession_db,
        recordRaw_congr path path' hflag hmeta v]
      have hstart : SameButCalls (w.logRcs () (rawCall r path) a.rcs)
          (w.logRcs () (rawCall r' path') a.rcs) := ⟨_, rfl⟩
      obtain ⟨-, log, hend⟩ := (recordRaw_sql v).run_alike (R := SameButCalls)
        (fun o _ _ ho h => respond_sameButCalls (a.env o) ho h) hstart
      exact (congrArg World.db hend).symm

/-- RCS accepts the request under the code `T1`. -/
def acceptsT1 : Answers where
  rcs := .ok (.obj [("robotTaskCode", .str "T1")])

theorem afterRaw_stores (hp : rawSubmitPath r.path = .ok path) (hflag : r.persistTask = true) :
    (afterRaw r acceptsT1 {}).db.tasks.rows = [rawRow r none "T1"] := by
  have hcode : taskCodeOf (.obj [("robotTaskCode", .str "T1")]) = .ok (some "T1") := rfl
  rw [afterRaw_ok hp (a := acceptsT1) rfl, World.setSession_db, recordRaw_of_row hcode hflag,
    persist_ok rfl ⟨rfl, rfl⟩ rfl, onOk_ok, finishRaw_db]
  rfl

theorem afterRaw_stores_nothing (hp : rawSubmitPath r.path = .ok path)
    (hflag : r.persistTask = false) : (afterRaw r acceptsT1 {}).db.tasks.rows = [] := by
  rw [afterRaw_ok hp (a := acceptsT1) rfl, World.setSession_db,
    recordRaw_of_no_row fun _ _ => hflag]
  rfl

/-- Two requests of which one asks for a row have different effects. -/
theorem not_sameEffect (hp : rawSubmitPath r.path = .ok path)
    (hp' : rawSubmitPath r'.path = .ok path') (hflag : r.persistTask ≠ r'.persistTask) :
    ¬ SameEffect r r' := by
  intro h
  have htasks := congrArg TaskTable.rows (h {} acceptsT1 rfl).2
  cases hr : r.persistTask with
  | true =>
      have hr' : r'.persistTask = false := by
        rw [hr] at hflag
        simpa using hflag.symm
      rw [afterRaw_stores hp hr, afterRaw_stores_nothing hp' hr'] at htasks
      cases htasks
  | false =>
      have hr' : r'.persistTask = true := by
        rw [hr] at hflag
        simpa using hflag.symm
      rw [afterRaw_stores_nothing hp hr, afterRaw_stores hp' hr'] at htasks
      cases htasks

/-- **When a cached result may stand for a submit.**  Two requests with valid paths and one
fingerprint have one effect exactly when both ask for a row or neither does. -/
theorem sameEffect_iff (hp : rawSubmitPath r.path = .ok path)
    (hp' : rawSubmitPath r'.path = .ok path')
    (hf : rawFingerprint r.method path r.body r.sendSigned =
      rawFingerprint r'.method path' r'.body r'.sendSigned) :
    SameEffect r r' ↔ r.persistTask = r'.persistTask := by
  rw [rawFingerprint_eq, rawFingerprint_eq] at hf
  obtain ⟨hmethod, rfl, hsigned, hbody⟩ := members_of_fingerprint_eq hf
  constructor
  · intro h
    by_contra hflag
    exact not_sameEffect hp hp' hflag h
  · intro hflag w a _
    refine ⟨⟨_, _, ?_, afterRaw_rcsLog hp, afterRaw_rcsLog hp'⟩, ?_⟩
    · exact sameCall_of_members (HttpMethod.upper_injective hmethod) hsigned hbody
    · exact congrArg Tables.tasks
        (afterRaw_db hp hp' hflag (metaFromBody_of_sameBody hbody))

end Run

theorem rawSubmitPath_sample : rawSubmitPath sampleRawRequest.path = .ok sampleRawRequest.path := by
  rfl

/-- A raw request that asks for a row, with a body. -/
def bodyRequest (fields : List (String × Json)) : RcsRawSubmitRequest :=
  { sampleRowRequest with body := some fields }

/-- A body of two members. -/
def routeBody : List (String × Json) := [("taskType", .str "CT71"), ("targetCode", .str "P1")]

/-- The members of the body in another order. -/
theorem sameEffect_reordered :
    SameEffect (bodyRequest routeBody) (bodyRequest routeBody.reverse) := by
  have hpath : ∀ fields, rawSubmitPath (bodyRequest fields).path = .ok sampleRawRequest.path :=
    fun _ => rawSubmitPath_sample
  exact (sameEffect_iff (hpath _) (hpath _) (by decide)).mpr rfl

/-- The world after a submit that asks for no row, and then one that asks for a row, under one
key. -/
def replayedWorld : World Unit :=
  ((submitRaw sampleRowRequest (some "K")).run acceptsT1.respond
    ((submitRaw sampleRawRequest (some "K")).run acceptsT1.respond {}).2).2

/-- **A row that is never written.**  Two requests with valid paths have one fingerprint and
different effects: the second, under the key of the first, is answered from its result and stores no
row, although a submit of its own stores one. -/
theorem replay_skips_row :
    (rawSubmitPath sampleRawRequest.path = .ok sampleRawRequest.path ∧
      rawSubmitPath sampleRowRequest.path = .ok sampleRowRequest.path ∧
      rawFingerprint sampleRawRequest.method sampleRawRequest.path sampleRawRequest.body
          sampleRawRequest.sendSigned =
        rawFingerprint sampleRowRequest.method sampleRowRequest.path sampleRowRequest.body
          sampleRowRequest.sendSigned) ∧
    ¬ SameEffect sampleRawRequest sampleRowRequest ∧
    (replayedWorld.rcsLog.length = 1 ∧ replayedWorld.db.tasks.rows = []) ∧
    (afterRaw sampleRowRequest acceptsT1 {}).db.tasks.rows.length = 1 := by
  have hflag : sampleRawRequest.persistTask ≠ sampleRowRequest.persistTask := Bool.false_ne_true
  have hpath : rawSubmitPath sampleRowRequest.path = .ok sampleRowRequest.path :=
    rawSubmitPath_sample
  refine ⟨⟨rawSubmitPath_sample, hpath, rfl⟩, not_sameEffect rawSubmitPath_sample hpath hflag,
    ⟨by rfl, by rfl⟩, ?_⟩
  rw [afterRaw_stores hpath rfl]
  rfl

end Rcs

import RcsMiddleware.Support.JsonLoads
import RcsMiddleware.Submit.Paths
import RcsMiddleware.Support.Paths
import RcsMiddleware.System.Audit
import RcsMiddleware.System.Stack

/-!
# System — Outbound

What RCS receives.  Every HTTP request the middleware sends, in any run of any jobs, belongs to an
accepted request of a client, and goes where the settings say.

* `AsksRcs`: the calls an accepted request makes; `Outgoing`: what is sent for a call.
* `Vouched`: what is known of the answers of the stores.
* `serve_within`, `call_within`: what a job calls, and what a call sends.
* `rcs_receives_what_was_asked`: **what is sent**, and how often.
-/

namespace Rcs

open Support Support.Text

/-! ### What is sent -/

/-- The HTTP requests a call sends at most. -/
def RcsCall.limit (call : RcsCall) : Nat := if call.retried then 3 else 1

/-- The HTTP requests a job sends at most. -/
def Job.limit : Job → Nat
  | .create _ _ _ => 1
  | .raw _ request _ => if request.sendSigned && request.method = .get then 3 else 1
  | _ => 0

/-- The HTTP request that has been sent. -/
def Op.request? : Op → Option HttpRequest
  | .http request => some request
  | _ => none

/-- The HTTP requests process `i` has sent, oldest first. -/
def sentBy {ι : Type} [DecidableEq ι] (trace : List (Event ι Op Ret PyExc)) (i : ι) :
    List HttpRequest :=
  (doneBy trace i).filterMap fun d => d.1.request?

/-- The content is the JSON text of the body; there is none for a body that is empty or missing. -/
def CarriesBody (read : String → PyFloat) (content : Option String) :
    Option (List (String × Json)) → Prop
  | none | some [] => content = none
  | some fields => ∃ text, content = some text ∧ Json.loads? read text = some (.obj fields)

section Jobs

variable {ι : Type} (site : Deployment) (jobs : ι → Job) (old : World ι)

/-- The request is accepted, and makes this call. -/
inductive AsksRcs : Job → RcsCall → Prop where
  | create {apiKey header : Option String} {request : TaskCreateRequest} {robotType : RobotType}
      (hkey : site.Accepts apiKey) (htype : robotType ∈ old.db.robotTypes)
      (hname : robotType.name = request.robotType) :
      AsksRcs (.create apiKey request header)
        (.submitTask (buildSubmitPayload request robotType.rcsTaskType))
  | raw {apiKey header : Option String} {request : RcsRawSubmitRequest} {path : String}
      (hkey : site.Accepts apiKey) (hpath : rawSubmitPath request.path = .ok path) :
      AsksRcs (.raw apiKey request header) (rawCall request path)

/-- An entry for the setting: of the beginning, or with a value the setting has had. -/
def SettingEntry (key : String) (entry : RedisValue) : Prop :=
  old.redis (sysconfigKey key) = some entry ∨
    ∃ value, entry = .text value ∧ SettingValue site jobs old key value

/-- An address of RCS: that of the deployment, or of settings. -/
inductive Address : String → Prop where
  | deployed : Address site.rcsClient.baseUrl
  | set {ip port : String} (hip : SettingEntry site jobs old "rcs_ip" (.text ip))
      (hport : SettingEntry site jobs old "rcs_port" (.text port)) : Address (httpAddress ip port)

/-- What is sent for a call. -/
structure Outgoing (call : RcsCall) (request : HttpRequest) : Prop where
  method : request.method = call.sent.1
  url : ∃ address, Address site jobs old address ∧ request.url = address ++ call.path
  content : request.content = truthy (some (bodyText call.sent.2))

/-- What is known of an answer. -/
def Vouched : (o : Op) → Except PyExc (Ret o) → Prop
  | .selectRobotType name, .ok (some t) => t ∈ old.db.robotTypes ∧ t.name = name
  | .redisGet key, .ok (some entry) => ∀ setting, key = sysconfigKey setting →
      SettingEntry site jobs old setting entry
  | _, _ => True

/-- An operation of a job, where a call is one. -/
def Calls (job : Job) : Op → Prop
  | .rcs call => AsksRcs site old job call
  | .sign _ _ _ | .http _ => False
  | _ => True

/-- An operation of a job on the client itself. -/
def Emits (job : Job) : Op → Prop
  | .rcs _ => False
  | .http request => ∃ call, AsksRcs site old job call ∧ Outgoing site jobs old call request
  | _ => True

end Jobs

def callCost : Op → Nat
  | .rcs call => call.limit
  | _ => 0

def sendCost : Op → Nat
  | .http _ => 1
  | _ => 0

variable {ι : Type} {site : Deployment} {jobs : ι → Job} {old : World ι} {job : Job} {n : Nat}

/-! ### What a job calls -/

abbrev CallsWithin {α : Type} (site : Deployment) (jobs : ι → Job) (old : World ι) (job : Job)
    (n : Nat) (p : M α) : Prop :=
  Within (Vouched site jobs old) (Calls site old job) callCost n p

section Programs

variable {α : Type} {p : M α}

/-- What does not go to RCS is allowed, for nothing. -/
theorem Op.Inside.calls {o : Op} (ho : o.Inside) : Calls site old job o ∧ callCost o = 0 := by
  cases o with
  | rcs _ | sign _ _ _ | http _ => exact ho.elim
  | _ => exact ⟨trivial, rfl⟩

theorem CallsWithin.of_inside (hp : Prog.Only Op.Inside p) : CallsWithin site jobs old job n p :=
  .of_only (hp.mono fun _ ho => ho.calls)

theorem CallsWithin.store {o : Op} (ho : Calls site old job o) (hcost : callCost o = 0) :
    CallsWithin site jobs old job n (perform o) := .perform ho (hcost ▸ Nat.zero_le n)

theorem getDbSession_calls (hp : CallsWithin site jobs old job n p) :
    CallsWithin site jobs old job n (getDbSession p) := by
  have hclose : CallsWithin site jobs old job 0 (perform .close) := .store trivial rfl
  have hrollback : CallsWithin site jobs old job 0 (perform .rollback) := .store trivial rfl
  exact .tryFinally (.caught hp fun e _ => .seq hrollback fun _ _ => .raise 0 e) hclose

theorem authorized_calls {apiKey : Option String}
    (hp : site.Accepts apiKey → CallsWithin site jobs old job n p) :
    CallsWithin site jobs old job n (site.authorized apiKey p) := by
  rw [Deployment.authorized]
  cases hkey : requireApiKey site.apiKey apiKey with
  | ok key => exact (hp ⟨key, hkey⟩).discard
  | error e => exact .raise n e

theorem createTask_calls {apiKey header : Option String} {request : TaskCreateRequest}
    (hkey : site.Accepts apiKey) :
    CallsWithin site jobs old (.create apiKey request header) 1 (createTask request header) := by
  refine createTask_within (fun _ ho => ho.calls) request header fun robotType hread => ?_
  have hknown : robotType ∈ old.db.robotTypes ∧ robotType.name = request.robotType := hread
  exact ⟨.create hkey hknown.1 hknown.2, le_rfl⟩

theorem rawCall_limit (request : RcsRawSubmitRequest) (path : String)
    (apiKey header : Option String) :
    (rawCall request path).limit = (Job.raw apiKey request header).limit := by
  rw [rawCall, Job.limit, RcsCall.limit]
  cases request.sendSigned with
  | true => rfl
  | false => rfl

theorem submitRaw_calls {apiKey header : Option String} {request : RcsRawSubmitRequest}
    (hkey : site.Accepts apiKey) :
    CallsWithin site jobs old (.raw apiKey request header) (Job.raw apiKey request header).limit
      (submitRaw request header) :=
  submitRaw_within (fun _ ho => ho.calls) request header fun path hpath =>
    ⟨.raw hkey hpath, (rawCall_limit request path apiKey header).le⟩

/-- **What a job calls**: what its request asks for, within its limit. -/
theorem serve_within (job : Job) : CallsWithin site jobs old job job.limit (job.serve site) := by
  cases job with
  | create apiKey request header =>
      exact authorized_calls fun hkey => getDbSession_calls (createTask_calls hkey)
  | raw apiKey request header =>
      exact authorized_calls fun hkey => getDbSession_calls (submitRaw_calls hkey)
  | configure apiKey payload =>
      exact .of_inside (authorized_only (updateSystemConfig_only inside_of_plain _ payload))
  | settings apiKey =>
      exact .of_inside (authorized_only (getDbSession_only rfl rfl
        (getConnectionSettings_only inside_of_plain _)))
  | robots apiKey keys =>
      exact .of_inside (authorized_only (listRobotStates_only inside_of_plain _ keys))
  | deliver requestId rawBody signature =>
      have hfeedback : CallsWithin site jobs old (.deliver requestId rawBody signature) 0
          (site.webhook.taskFeedback requestId rawBody signature) := by
        refine .seq (.ofExcept _) fun payload _ => .seq (.of_only ?_) fun _ _ => .ret 0 _
        refine (handleTaskFeedback_only _ _).mono fun o ho => ?_
        cases o with
        | redisSetNx _ _ _ | commit _ | rollback | delay _ => exact ⟨trivial, rfl⟩
        | _ => exact ho.elim
      exact (getDbSession_calls hfeedback).discard
  | process payload => exact .of_inside ((processTaskFeedback_inside payload).bind fun _ => .ret ())

end Programs

/-! ### What a call sends -/

section Client

variable {path url : String}

theorem cachedText_some {entry : Option RedisValue} {value : String}
    (h : truthy (cachedText entry) = some value) : entry = some (.text value) := by
  obtain ⟨htext, -⟩ := truthy_eq_some.mp h
  cases entry with
  | none => cases htext
  | some entry =>
      cases entry with
      | text s =>
          cases htext
          rfl
      | json v => cases htext

/-- The URL is at an address of RCS. -/
theorem resolveFullUrl_endsWith
    (h : (resolveFullUrl site.rcsClient.baseUrl path).EndsWith (Vouched site jobs old) (.ok url)) :
    ∃ address, Address site jobs old address ∧ url = address ++ path := by
  obtain ⟨rcsIp, hip, h⟩ := Prog.EndsWith.of_bind h
  obtain ⟨rcsPort, hport, h⟩ := Prog.EndsWith.of_bind h
  cases h
  have hip : Vouched site jobs old (.redisGet (sysconfigKey "rcs_ip")) (.ok rcsIp) := hip.of_perform
  have hport : Vouched site jobs old (.redisGet (sysconfigKey "rcs_port")) (.ok rcsPort) :=
    hport.of_perform
  -- The settings are used if both are there.
  cases htextIp : truthy (cachedText rcsIp) with
  | none =>
      refine ⟨_, .deployed, ?_⟩
      rw [fullUrl, htextIp]
  | some ip =>
      cases htextPort : truthy (cachedText rcsPort) with
      | none =>
          refine ⟨_, .deployed, ?_⟩
          rw [fullUrl, htextIp, htextPort]
      | some port =>
          rw [cachedText_some htextIp] at hip
          rw [cachedText_some htextPort] at hport
          refine ⟨_, .set (hip _ rfl) (hport _ rfl), ?_⟩
          rw [fullUrl, htextIp, htextPort]

abbrev EmitsWithin {α : Type} (site : Deployment) (jobs : ι → Job) (old : World ι) (job : Job)
    (n : Nat) (p : M α) : Prop :=
  Within (Vouched site jobs old) (Emits site jobs old job) sendCost n p

theorem resolveFullUrl_sends (baseUrl : String) :
    EmitsWithin site jobs old job 0 (resolveFullUrl baseUrl path) :=
  .seq (.perform trivial le_rfl) fun _ _ => .seq (.perform trivial le_rfl) fun _ _ => .ret 0 _

theorem exchange_sends {request : HttpRequest} {preserveRetryable : Bool}
    (h : Emits site jobs old job (.http request)) :
    EmitsWithin site jobs old job 1 (RCS2000Client.exchange request path preserveRetryable) :=
  .seq (.caught (.perform h le_rfl) fun _ _ => .raise 0 _) fun _ _ => .ofExcept _

variable {call : RcsCall} {method : HttpMethod} {body : Option (List (String × Json))}

theorem request_sends (hask : AsksRcs site old job call) (hsent : call.sent = (method, body))
    (idempotent : Bool) (params : List (String × String)) :
    EmitsWithin site jobs old job (if idempotent then 3 else 1)
      (site.rcsClient.request method call.path body idempotent params) := by
  have hdo : ∀ preserveRetryable, EmitsWithin site jobs old job 1
      (site.rcsClient.doRequest method call.path body params preserveRetryable) := by
    intro preserveRetryable
    refine .after (.perform trivial le_rfl) fun signed _ =>
      .after (resolveFullUrl_sends _) fun url hurl =>
        exchange_sends ⟨call, hask, ?_, resolveFullUrl_endsWith hurl, ?_⟩
    · rw [hsent]
    · rw [hsent]
  cases idempotent with
  | true => exact .caught (.retry (hdo true) _ 2) fun e _ => .raise 0 _
  | false => exact hdo false

/-- **What a call sends**: one HTTP request, or three at most where it is repeated. -/
theorem call_within (hask : AsksRcs site old job call) :
    EmitsWithin site jobs old job call.limit (site.rcsClient.call call) := by
  cases call with
  | submitTask payload => exact request_sends hask rfl false []
  | getRobotStatus robotCode => exact request_sends hask rfl true _
  | cancelTask robotTaskCode => exact request_sends hask rfl true []
  | signedRequest method path body =>
      rw [RCS2000Client.call, RCS2000Client.signedRequest, supportedMethod_upper]
      have hlimit : (RcsCall.signedRequest method path body).limit =
          if decide (method = .get) then 3 else 1 := rfl
      rw [hlimit]
      exact request_sends hask rfl _ []
  | plainRequest method path body =>
      -- A plain request is not repeated, and not signed.
      rw [RCS2000Client.call, RCS2000Client.plainRequest, supportedMethod_upper]
      refine .after (.ret 0 method) fun m hm => .after (resolveFullUrl_sends _) fun url hurl =>
        .after (.perform trivial le_rfl) fun now _ => ?_
      cases hm
      exact exchange_sends ⟨_, hask, rfl, resolveFullUrl_endsWith hurl, rfl⟩

/-- **What a job sends**, on the client itself. -/
theorem serve_sends (job : Job) :
    EmitsWithin site jobs old job job.limit ((job.serve site).inline site.rcsClient.body) := by
  have hserve : CallsWithin site jobs old job job.limit (job.serve site) := serve_within job
  refine .inline ?_ ?_ ?_ ?_ hserve
  · intro o hnone ho
    cases o with
    | rcs call => cases hnone
    | sign _ _ _ | http _ => exact ho.elim
    | _ => exact ⟨trivial, le_rfl⟩
  · exact fun _ _ _ h => h
  · intro o b hb ho
    cases o with
    | rcs call =>
        cases hb
        exact call_within ho
    | _ => cases hb
  · intro o b r hb _
    cases o with
    | rcs call => trivial
    | _ => cases hb

end Client

/-! ### What the stores answer -/

theorem sysconfigKey_injective {a b : String} (h : sysconfigKey a = sysconfigKey b) : a = b :=
  (String.append_right_inj _).mp h

/-- The entry of a setting is text, a value the setting has had. -/
theorem Stored.of_setting {known : Witnessed ι} {setting : String} {entry : RedisValue}
    (h : Stored site jobs old known (sysconfigKey setting) entry) :
    SettingEntry site jobs old setting entry := by
  generalize hkey : sysconfigKey setting = key at h
  have hfamily : ∀ k : RedisKey, k.text = key → k.family = .sysconfig := fun k hk =>
    (RedisKey.family_eq (a := .sysconfig setting) nofun nofun (hkey.trans hk.symm)).symm
  -- The family of the key leaves one way to have stored it.
  cases h with
  | @created _ _ _ _ k => cases hfamily (.createIdempotency k) rfl
  | @submitted _ _ _ _ k => cases hfamily (.rawIdempotency k) rfl
  | @setting k v _ hvalue =>
      obtain rfl := sysconfigKey_injective hkey
      exact .inr ⟨v, rfl, hvalue⟩
  | @marker payload => cases hfamily (.webhookDedupe payload.robotTaskCode payload.method) rfl
  | @robot _ amrCode => cases hfamily (.robotState amrCode) rfl

section Runs

variable [DecidableEq ι] {expires : String → Prop} {G : Guard ι Op Ret PyExc Unit (World ι)}
  {c : Config ι Op Ret PyExc Unit (World ι)}

theorem exec_vouched {i : ι} {o : Op} {s s' : World ι} {r : Except PyExc (Ret o)}
    (hx : Exec i o s r s') (htypes : s.db.robotTypes = old.db.robotTypes)
    (hcached : ∀ setting entry, s.redis (sysconfigKey setting) = some entry →
      SettingEntry site jobs old setting entry) : Vouched site jobs old o r := by
  cases o with
  | selectRobotType name =>
      rcases r with e | _ | t
      · trivial
      · trivial
      · have hok := exec_ok hx id
        have hfind : s.db.robotTypes.find? (fun t => t.name = name) = some t :=
          Except.ok.inj (Prod.mk.inj hok).1
        rw [htypes] at hfind
        have hname : t.name = name := by simpa using List.find?_some hfind
        exact ⟨List.mem_of_find?_eq_some hfind, hname⟩
  | redisGet key =>
      rcases r with e | _ | entry
      · trivial
      · trivial
      · rintro setting rfl
        have hok := exec_ok hx id
        exact hcached setting entry (Except.ok.inj (Prod.mk.inj hok).1)
  | _ => trivial

/-- What the stores answer in a run of the stack. -/
theorem run_vouched (hsessions : ∀ i, old.sessions i = [])
    (h : Run (brokered jobs expires) G (launchStack site jobs old) c) :
    ∀ e ∈ c.trace, Vouched site jobs old e.op e.answer := by
  induction h with
  | refl => exact fun _ he => (by cases he)
  | @tail d _ hrun hm ih =>
      cases hm with
      | act e hs _ =>
          obtain ⟨-, hx⟩ := hs
          -- Every entry has an origin in the run of the services that this run refines.
          obtain ⟨d', hd', hsame, -⟩ := stack_refines_services hrun
          have hacc := run_accounted hsessions hd'
          rw [hsame] at hacc
          intro e he
          rcases List.mem_cons.mp he with rfl | he
          · refine exec_vouched hx.1 hacc.db.robotTypes fun setting entry hentry => ?_
            exact (hacc.redis _ entry hentry).elim .inl Stored.of_setting
          · exact ih e he
      | env hs => exact ih

/-! ### The bodies -/

variable {read : String → PyFloat}

theorem carriesBody_bodyText {body : Option (List (String × Json))}
    (h : ∀ fields, body = some fields → Json.Readable read (.obj fields)) :
    CarriesBody read (truthy (some (bodyText body))) body := by
  rcases body with _ | _ | ⟨field, fields⟩
  · rfl
  · rfl
  · refine ⟨_, truthy_some ?_, Json.loads_dumps (h _ rfl)⟩
    obtain ⟨_, _, htext, -⟩ := Json.solid_text "" (.obj (field :: fields))
    rw [Json.dumpsSep_empty] at htext
    intro hempty
    change (Json.obj (field :: fields)).dumps = "" at hempty
    rw [hempty] at htext
    cases htext

theorem toDigits_priority : ∀ p < 101, (Nat.toDigits 10 p).length ≤ Json.maxIntDigits := by decide

omit [DecidableEq ι] in
/-- What a call asked for carries is read back, if the body of a raw request is. -/
theorem AsksRcs.readable {call : RcsCall} (h : AsksRcs site old job call)
    (hbody : ∀ apiKey request header, job = .raw apiKey request header → ∀ fields,
      request.body = some fields → Json.Readable read (.obj fields)) :
    ∀ fields, call.sent.2 = some fields → Json.Readable read (.obj fields) := by
  intro fields hfields
  cases h with
  | @create _ _ request robotType =>
      cases hfields
      have hpriority : Json.Readable read (.int request.priority) :=
        .int (toDigits_priority _ (Nat.lt_succ_of_le request.priority_range.2))
      refine .obj (by simp [buildSubmitPayload])
        (List.forall_iff_forall_mem.mp ⟨.str _, .str _, ?_, hpriority⟩)
      exact .obj (by simp) (List.forall_iff_forall_mem.mp ⟨.str _, hpriority⟩)
  | @raw apiKey header request path =>
      rw [rawCall_sent] at hfields
      dsimp only at hfields
      split at hfields
      · exact hbody apiKey request header rfl fields hfields
      · cases hfields

omit [DecidableEq ι] in
/-- The path of a call asked for passes the check. -/
theorem AsksRcs.passes {call : RcsCall} (h : AsksRcs site old job call) : Passes call.path := by
  cases h with
  | create =>
      show Passes (rcsPathPrefix ++ rcsTaskSubmitPath)
      exact ⟨by decide, by decide⟩
  | raw hkey hpath =>
      rw [rawCall]
      split
      · exact (rawSubmitPath_eq_ok.mp hpath).2
      · exact (rawSubmitPath_eq_ok.mp hpath).2

/-! ### The requests of a run -/

theorem length_sentBy (trace : List (Event ι Op Ret PyExc)) (i : ι) :
    (sentBy trace i).length = ((doneBy trace i).map fun d => sendCost d.1).sum := by
  rw [sentBy]
  induction doneBy trace i with
  | nil => rfl
  | cons d done ih =>
      obtain ⟨o, r⟩ := d
      cases o with
      | http request =>
          rw [List.map_cons, List.sum_cons, ← ih, Nat.add_comm]
          rfl
      | _ =>
          rw [List.map_cons, List.sum_cons, ← ih]
          exact (Nat.zero_add _).symm

variable (read) in
/-- **RCS receives what was asked.**  Any jobs run beside each other on the client itself, whatever
fails, whatever expires and wherever they stop.  A job sends at most one HTTP request, or three where
it asks for a signed `GET`, and only a submit sends any.  Each request belongs to a call the job asks
for and shows its API key for; it goes to the address of the deployment, or of settings that were
stored before or set by an accepted request; its path passes the check; and its content is read as the
body of the call. -/
theorem rcs_receives_what_was_asked (hsessions : ∀ i, old.sessions i = [])
    (hbodies : ∀ i apiKey request header, jobs i = .raw apiKey request header → ∀ fields,
      request.body = some fields → Json.Readable read (.obj fields))
    (h : Run (brokered jobs expires) G (launchStack site jobs old) c) (i : ι) :
    (sentBy c.trace i).length ≤ (jobs i).limit ∧
      ∀ request ∈ sentBy c.trace i, ∃ call, AsksRcs site old (jobs i) call ∧
        Outgoing site jobs old call request ∧ Passes call.path ∧
        CarriesBody read request.content call.sent.2 := by
  have hvouched : ∀ d ∈ doneBy c.trace i, Vouched site jobs old d.1 d.2 := fun d hd =>
    run_vouched hsessions h _ (mem_doneBy.mp hd)
  have hsends : EmitsWithin site jobs old (jobs i) (jobs i).limit
      (((jobs i).serve site).inline site.rcsClient.body) := serve_sends (jobs i)
  -- What the job has done is a path through its program, on answers that are vouched for.
  obtain ⟨honly, hcost⟩ := hsends.along (Run.path h i) hvouched
  refine ⟨(length_sentBy c.trace i).le.trans hcost, fun request hrequest => ?_⟩
  obtain ⟨⟨o, r⟩, hd, hop⟩ := List.mem_filterMap.mp hrequest
  cases o with
  | http request' =>
      cases hop
      obtain ⟨call, hask, hout⟩ := honly _ hd
      refine ⟨call, hask, hout, hask.passes, ?_⟩
      rw [hout.content]
      exact carriesBody_bodyText (hask.readable fun apiKey request header hjob =>
        hbodies i apiKey request header hjob)
  | _ => cases hop

end Runs

theorem rcs_receives_what_was_asked_create :
    ∃ c, Run (brokered createAlone fun _ => False) unguarded
        (launchStack sampleSite createAlone { db := sampleTables }) c ∧
      ∃ request ∈ sentBy c.trace (),
        request.url = "http://rcs/rcs/rtas/api/robot/controller/task/submit" ∧
        ∃ call, AsksRcs sampleSite ({ db := sampleTables } : World Unit) (createAlone ()) call ∧
          CarriesBody (fun _ => .nan) request.content call.sent.2 := by
  obtain ⟨c, hc, hsent⟩ : ∃ c, Run (system fun _ => False) unguarded
      (launchStack sampleSite createAlone { db := sampleTables }) c ∧
      (sentBy c.trace ()).map HttpRequest.url =
        ["http://rcs/rcs/rtas/api/robot/controller/task/submit"] :=
    run_of_schedule createOverHttp (by decide)
  have hrun := brokered_of_queued createAlone (fun _ _ hi => by cases hi) hc
  obtain ⟨request, hrequest, hurl⟩ := List.map_eq_singleton_iff.mp hsent
  have hmem : request ∈ sentBy c.trace () := by
    rw [hrequest]
    exact List.mem_singleton_self request
  have hasked := rcs_receives_what_was_asked (fun _ => .nan) (fun _ => rfl)
    (fun _ _ _ _ hjob => by cases hjob) hrun ()
  obtain ⟨call, hask, -, -, hcarries⟩ := hasked.2 request hmem
  exact ⟨c, hrun, request, hmem, hurl, call, hask, hcarries⟩

end Rcs

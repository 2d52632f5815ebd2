import RcsMiddleware.Client.Outcomes
import RcsMiddleware.Support.Inlining
import RcsMiddleware.System.Trust

/-!
# System — Stack

The services with the client of RCS under them.  What a service sees as one call of RCS is a program of
its own: it signs, reads the address of RCS from Redis, sends its HTTP request and reads the answer,
several times where it may be repeated, and other jobs go on in between.  `stack_refines_services` says
that nothing of this is seen above: the stores and the replies are those of a run in which each call is one
step.  So what holds of all runs of the services holds of the stack, and a row goes back to an HTTP
answer.

* `stack_refines_services`: the refinement.
* `rows_have_http_origins`: the rows, down to the HTTP requests that were sent.
-/

namespace Rcs

open Support Support.Text

/-! ### What a call sends and reads -/

/-- The method and the body a call of the client sends. -/
def RcsCall.sent : RcsCall → HttpMethod × Option (List (String × Json))
  | .submitTask payload => (.post, some payload)
  | .getRobotStatus _ => (.get, none)
  | .cancelTask robotTaskCode => (.post, some [("robotTaskCode", .str robotTaskCode)])
  | .signedRequest method _ body => (method, if method = .post then body else none)
  | .plainRequest method _ body => (method, body)

variable {client : RCS2000Client} {A : (o : Op) → Except PyExc (Ret o) → Prop} {v : Json}

/-- Among the answers is one to an HTTP request with this method and this body, and the client has
read `v` from it. -/
def ReadFrom (A : (o : Op) → Except PyExc (Ret o) → Prop)
    (sent : HttpMethod × Option (List (String × Json))) (v : Json) : Prop :=
  ∃ request response path, A (.http request) (.ok response) ∧ request.method = sent.1 ∧
    request.content = truthy (some (bodyText sent.2)) ∧ parseResponse response path = .ok v

theorem exchange_endsWith {request : HttpRequest} {path : String} {preserveRetryable : Bool}
    (h : (RCS2000Client.exchange request path preserveRetryable).EndsWith A (.ok v)) :
    ∃ response, A (.http request) (.ok response) ∧ parseResponse response path = .ok v := by
  obtain ⟨response, hhttp, hparse⟩ := Prog.EndsWith.of_bind h
  exact ⟨response, hhttp.of_translated.of_perform, hparse.of_ofExcept⟩

theorem doRequest_endsWith {method : HttpMethod} {path : String}
    {body : Option (List (String × Json))} {params : List (String × String)}
    {preserveRetryable : Bool}
    (h : (client.doRequest method path body params preserveRetryable).EndsWith A (.ok v)) :
    ReadFrom A (method, body) v := by
  obtain ⟨signed, -, h⟩ := Prog.EndsWith.of_bind h
  obtain ⟨url, -, h⟩ := Prog.EndsWith.of_bind h
  obtain ⟨response, hhttp, hparse⟩ := exchange_endsWith h
  exact ⟨_, response, path, hhttp, rfl, rfl, hparse⟩

theorem request_endsWith {method : HttpMethod} {path : String}
    {body : Option (List (String × Json))} {idempotent : Bool} {params : List (String × String)}
    (h : (client.request method path body idempotent params).EndsWith A (.ok v)) :
    ReadFrom A (method, body) v := by
  rw [RCS2000Client.request] at h
  split at h
  · exact doRequest_endsWith h.of_translated.of_retry
  · exact doRequest_endsWith h

/-- **What a call returns** is read from an HTTP answer to what the call sends. -/
theorem call_endsWith {call : RcsCall} (h : (client.call call).EndsWith A (.ok v)) :
    ReadFrom A call.sent v := by
  cases call with
  | submitTask payload =>
      change (client.request .post _ (some payload) false []).EndsWith A (.ok v) at h
      exact request_endsWith h
  | getRobotStatus robotCode =>
      change (client.request .get _ none true _).EndsWith A (.ok v) at h
      exact request_endsWith h
  | cancelTask robotTaskCode =>
      change (client.request .post _ (some _) true []).EndsWith A (.ok v) at h
      exact request_endsWith h
  | signedRequest method path body =>
      obtain ⟨m, hm, h⟩ := Prog.EndsWith.of_bind h
      cases (supportedMethod_upper method).symm.trans hm.of_ofExcept
      exact request_endsWith h
  | plainRequest method path body =>
      obtain ⟨m, hm, h⟩ := Prog.EndsWith.of_bind h
      cases (supportedMethod_upper method).symm.trans hm.of_ofExcept
      obtain ⟨url, -, h⟩ := Prog.EndsWith.of_bind h
      obtain ⟨now, -, h⟩ := Prog.EndsWith.of_bind h
      obtain ⟨response, hhttp, hparse⟩ := exchange_endsWith h
      exact ⟨_, response, path, hhttp, rfl, rfl, hparse⟩

/-- Every call sends something. -/
theorem call_not_ended (client : RCS2000Client) (call : RcsCall) : ¬ (client.call call).Ended := by
  have hrequest : ∀ method path body idempotent params,
      ¬ (client.request method path body idempotent params).Ended := by
    intro method path body idempotent params hended
    unfold RCS2000Client.request at hended
    split at hended <;> exact hended _ _ rfl
  cases call with
  | submitTask payload => exact hrequest .post _ (some payload) false []
  | getRobotStatus robotCode => exact hrequest .get _ none true _
  | cancelTask robotTaskCode => exact hrequest .post _ (some _) true []
  | signedRequest method path body =>
      rw [RCS2000Client.call, RCS2000Client.signedRequest, supportedMethod_upper]
      exact hrequest _ _ _ _ _
  | plainRequest method path body =>
      rw [RCS2000Client.call, RCS2000Client.plainRequest, supportedMethod_upper]
      exact fun hended => hended _ _ rfl

/-! ### The refinement -/

/-- The client, in the place of its calls. -/
def RCS2000Client.body (client : RCS2000Client) : (o : Op) → Option (M (Ret o))
  | .rcs call => some (client.call call)
  | _ => none

/-- The client of a deployment. -/
def Deployment.rcsClient (site : Deployment) : RCS2000Client := ⟨clientBaseUrl site.rcsBaseUrl⟩

variable {ι : Type}

/-- All jobs at their start, on the client itself. -/
def launchStack (site : Deployment) (jobs : ι → Job) (w : World ι) :
    Config ι Op Ret PyExc Unit (World ι) :=
  .start w fun i => ((jobs i).serve site).inline site.rcsClient.body

/-- The world with this log of calls. -/
def World.withCalls (w : World ι) (calls : List (ι × RcsCall × Except PyExc Json)) : World ι :=
  { w with rcsLog := calls }

/-- Above, the calls are logged that have ended below; all else is the same. -/
structure Covers (client : RCS2000Client) (jobs : ι → Job) (old : World ι)
    (trace : List (Event ι Op Ret PyExc)) (w w' : World ι) : Prop where
  queued : ∀ e ∈ trace, ∀ payload, jobs e.pid = .process payload → w.Queued payload
  same : w' = w.withCalls w'.rcsLog
  calls : ∀ x ∈ w'.rcsLog, x ∈ old.rcsLog ∨
    (client.call x.2.1).EndsWith (Answered trace x.1) x.2.2

theorem Covers.event {jobs : ι → Job} {old : World ι} {trace : List (Event ι Op Ret PyExc)}
    {w w' : World ι} (h : Covers client jobs old trace w w') {i : ι} {o : Op}
    {r : Except PyExc (Ret o)} (hqueue : ∀ payload, jobs i = .process payload → w.Queued payload) :
    Covers client jobs old (⟨i, o, r⟩ :: trace) w w' where
  queued e he payload hjob := by
    rcases List.mem_cons.mp he with rfl | he
    · exact hqueue payload hjob
    · exact h.queued e he payload hjob
  same := h.same
  calls x hx := (h.calls x hx).imp_right fun hends =>
    hends.mono fun _ _ hmem => List.mem_cons_of_mem _ hmem

section Exec

variable [DecidableEq ι] {i : ι} {o : Op} {w w' : World ι} {r : Except PyExc (Ret o)}

/-- The operations of the client leave the world as it is. -/
theorem Exec.of_client (h : Exec i o w r w') (ho : o.OfClient) : w' = w := by
  rcases exec_left h with rfl | rfl | ⟨call, r', rfl, rfl⟩
  · rfl
  · cases o with
    | redisGet key | sign _ _ _ | now | http _ => rfl
    | _ => exact ho.elim
  · exact ho.elim

/-- An operation that calls nobody does not see the log of the calls. -/
theorem respond_withCalls (i : ι) (env : Env) {o : Op} (w : World ι)
    (calls : List (ι × RcsCall × Except PyExc Json)) (ho : ∀ call, o ≠ .rcs call) :
    (respond i env o (w.withCalls calls)).1 = (respond i env o w).1 ∧
      (respond i env o (w.withCalls calls)).2 = (respond i env o w).2.withCalls calls := by
  cases o with
  | rcs call => exact absurd rfl (ho call)
  | sign _ _ _ | http _ | now => exact ⟨rfl, rfl⟩
  | redisSetNx key value ttl =>
      refine env.fault.strike_alike (R := fun w' w'' : World ι => w' = w''.withCalls calls) rfl ?_ ?_
      all_goals
        cases hfree : (w.redis key).isNone <;> simp only [World.withCalls, hfree] <;> rfl
  | insertTask row =>
      refine env.fault.strike_alike (R := fun w' w'' : World ι => w' = w''.withCalls calls) rfl ?_ ?_
      all_goals
        cases hrow : w.db.tasks.violated? row <;> simp only [World.withCalls, hrow] <;> rfl
  | commit pending =>
      refine env.fault.strike_alike (R := fun w' w'' : World ι => w' = w''.withCalls calls) rfl ?_ ?_
      all_goals
        cases hdb : (w.sessions i ++ pending).foldlM Write.run w.db <;>
          simp only [World.withCalls, World.commit, hdb] <;> rfl
  | _ => exact env.fault.strike_alike (R := fun w' w'' : World ι => w' = w''.withCalls calls) rfl rfl rfl

theorem Exec.withCalls (h : Exec i o w r w') (calls : List (ι × RcsCall × Except PyExc Json))
    (ho : ∀ call, o ≠ .rcs call) : Exec i o (w.withCalls calls) r (w'.withCalls calls) := by
  obtain ⟨hblocked, env, henv⟩ := h
  refine ⟨?_, env, ?_⟩
  · cases o <;> exact hblocked
  · obtain ⟨hanswer, hleft⟩ := respond_withCalls i env w calls ho
    rw [henv] at hanswer hleft
    exact Prod.ext hanswer hleft

/-- **The services realize the client's calls** by one step each. -/
theorem stack_realizes (client : RCS2000Client) (jobs : ι → Job) (expires : String → Prop)
    (old : World ι) :
    Realizes client.body Op.OfClient (brokered jobs expires) (brokered jobs expires)
      (Covers client jobs old) where
  live := by
    intro o b hb
    cases o with
    | rcs call =>
        cases hb
        exact call_not_ended client call
    | _ => cases hb
  only := by
    intro o b hb
    cases o with
    | rcs call =>
        cases hb
        exact call_only client call
    | _ => cases hb
  hidden := by
    rintro i o s r s' t trace hP ⟨hx, hqueue⟩ hcovers
    rw [hx.of_client hP]
    exact hcovers.event hqueue
  same := by
    rintro i o s r s' t trace hb ⟨hx, hqueue⟩ hcovers
    -- What is no call does not see the calls that were made.
    have ho : ∀ call, o ≠ .rcs call := by
      rintro call rfl
      cases hb
    have hle : s.known ≤ s'.known := exec_known hx
    refine ⟨s'.withCalls t.rcsLog, ⟨?_, fun payload hjob => ?_⟩, ?_⟩
    · rw [hcovers.same]
      exact hx.withCalls t.rcsLog ho
    · rw [hcovers.same]
      exact hqueue payload hjob
    · have hevent := hcovers.event (o := o) (r := r) hqueue
      exact ⟨fun e he payload hjob => hle.2 (hevent.queued e he payload hjob), rfl, hevent.calls⟩
  answers := by
    intro i o b r s t trace hb hends hcovers
    cases o with
    | rcs call =>
        cases hb
        -- The call is answered as its body has ended.
        have hlog : ∀ x ∈ (t.logRcs i call r).rcsLog, x ∈ old.rcsLog ∨
            (client.call x.2.1).EndsWith (Answered trace x.1) x.2.2 := by
          intro x hmem
          rcases List.mem_cons.mp hmem with rfl | hmem
          · exact .inr hends
          · exact hcovers.calls x hmem
        refine ⟨t.logRcs i call r, ⟨⟨id, { rcs := r }, rfl⟩, fun payload hjob => ?_⟩,
          hcovers.queued, ?_, hlog⟩
        · obtain ⟨o', k, hop⟩ := Prog.not_ended (call_not_ended client call)
          rw [hop] at hends
          cases hends with
          | op hr _ =>
              rw [hcovers.same]
              exact hcovers.queued _ hr payload hjob
        · rw [hcovers.same]
          rfl
    | _ => cases hb
  env := by
    rintro s s' t trace ⟨key, hkey, rfl⟩ hcovers
    refine .inr ⟨t.dropRedis key, ⟨key, hkey, rfl⟩, hcovers.queued, ?_, hcovers.calls⟩
    rw [hcovers.same]
    rfl

/-! ### Runs of the stack -/

variable {site : Deployment} {jobs : ι → Job} {expires : String → Prop}
  {G : Guard ι Op Ret PyExc Unit (World ι)} {c : Config ι Op Ret PyExc Unit (World ι)}

/-- **The stack refines the services.**  Any jobs run beside each other on the client itself.
Wherever they stand, a run of the services with the client's calls as single steps leaves the same
entries in Redis, the same tables, sessions and queue, and has answered each job that has ended in the
same way; and each call it has logged was answered with what the client made of the HTTP answers to
that job. -/
theorem stack_refines_services (h : Run (brokered jobs expires) G (launchStack site jobs w) c) :
    ∃ d, Run (brokered jobs expires) unguarded (launch site jobs w) d ∧
      d.shared = c.shared.withCalls d.shared.rcsLog ∧
      (∀ x ∈ d.shared.rcsLog, x ∈ w.rcsLog ∨
        (site.rcsClient.call x.2.1).EndsWith (Answered c.trace x.1) x.2.2) ∧
      ∀ i, (c.procs i).Ended → d.procs i = c.procs i := by
  have hreal := stack_realizes site.rcsClient jobs expires w
  obtain ⟨d, hd, hcovers, hprocs⟩ := Run.inline hreal
    ⟨fun _ he => (by cases he), rfl, fun _ hx => .inl hx⟩ h
  exact ⟨d, hd, hcovers.same, hcovers.calls, fun i hi => (hprocs i).of_ended hreal.live hi⟩

/-- An accepted request makes this row of what the client read from the answer to an HTTP request it
sent for it. -/
inductive HttpSubmitted (site : Deployment) (jobs : ι → Job) (old : World ι)
    (trace : List (Event ι Op Ret PyExc)) : TaskHistory → Prop where
  | create {i : ι} {apiKey header : Option String} {request : TaskCreateRequest}
      {robotType : RobotType} {v : Json} {code : String}
      (hjob : jobs i = .create apiKey request header) (hkey : site.Accepts apiKey)
      (htype : robotType ∈ old.db.robotTypes) (hname : robotType.name = request.robotType)
      (hread : ReadFrom (Answered trace i)
        (.post, some (buildSubmitPayload request robotType.rcsTaskType)) v)
      (hcode : extractTaskCode v = .ok code) :
      HttpSubmitted site jobs old trace (createdRow request header code)
  | raw {i : ι} {apiKey header : Option String} {request : RcsRawSubmitRequest} {v : Json}
      {code : String} (hjob : jobs i = .raw apiKey request header) (hkey : site.Accepts apiKey)
      (hpersist : request.persistTask = true)
      (hread : ReadFrom (Answered trace i)
        (request.method, if request.method = .post then request.body else none) v)
      (hcode : taskCodeOf v = .ok (some code)) :
      HttpSubmitted site jobs old trace (rawRow request header code)

theorem rawCall_sent (request : RcsRawSubmitRequest) (path : String) :
    (rawCall request path).sent =
      (request.method, if request.method = .post then request.body else none) := by
  rw [rawCall]
  cases hsigned : request.sendSigned with
  | true =>
      show (request.method, if request.method = .post then
        (if request.method = .post then request.body else none) else none) = _
      split <;> rfl
  | false => rfl

/-- **A committed row goes back to an HTTP answer.**  Any jobs run beside each other on the client
itself, whatever fails, whatever expires and wherever they stop.  Each committed row goes back to a row
of the beginning, or to an accepted request for which an HTTP request with its payload was sent and
answered, and its task code was read from that answer; and it agrees with that origin in the columns
no feedback sets. -/
theorem rows_have_http_origins (hsessions : ∀ i, w.sessions i = []) (hcalls : w.rcsLog = [])
    (h : Run (brokered jobs expires) G (launchStack site jobs w) c) {row : TaskHistory}
    (hrow : row ∈ c.shared.db.tasks.rows) :
    ∃ origin, (origin ∈ w.db.tasks.rows ∨ HttpSubmitted site jobs w c.trace origin) ∧
      origin.SameTask row := by
  obtain ⟨d, hd, hsame, hlog, -⟩ := stack_refines_services h
  have hrow' : row ∈ d.shared.db.tasks.rows := by
    rw [hsame]
    exact hrow
  -- There was no call at the beginning, so each one was made by HTTP requests of the run.
  have hread : ∀ {i call v}, (i, call, .ok v) ∈ d.shared.known.1 →
      ReadFrom (Answered c.trace i) call.sent v := by
    intro i call v hmem
    rcases hlog _ hmem with hold | hends
    · rw [hcalls] at hold
      cases hold
    · exact call_endsWith hends
  obtain ⟨origin, hold | hsub, hsame, -⟩ := rows_have_origins hsessions hd hrow'
  · exact ⟨origin, .inl hold, hsame⟩
  · refine ⟨origin, .inr ?_, hsame⟩
    cases hsub with
    | create hjob hkey htype hname hcall hcode =>
        exact .create hjob hkey htype hname (hread hcall) hcode
    | raw hjob hkey hpersist _ hcall hcode =>
        exact .raw hjob hkey hpersist (rawCall_sent _ _ ▸ hread hcall) hcode

end Exec

/-! ### One request -/

/-- A request that creates a task. -/
def createAlone : Unit → Job := fun _ => .create (some "k") sampleRequest none

/-- RCS answers the HTTP request with the code `T1`. -/
def httpAccepted : Env := { http := .ok (.ofJson 200 (acceptance "T1")) }

/-- The request runs to its end: it selects the robot type, signs, reads the address, sends, inserts,
commits and closes. -/
def createOverHttp : List (Unit × Env) :=
  [((), {}), ((), {}), ((), {}), ((), {}), ((), httpAccepted), ((), {}), ((), {}), ((), {})]

theorem createOverHttp_run :
    ∃ c, Run (brokered createAlone fun _ => False) unguarded
        (launchStack sampleSite createAlone { db := sampleTables }) c ∧
      c.shared.db.tasks.rows.map TaskHistory.robotTaskCode = ["T1"] ∧
      (c.procs ()).returned = true := by
  obtain ⟨c, hc, hdone⟩ : ∃ c, Run (system fun _ => False) unguarded
      (launchStack sampleSite createAlone { db := sampleTables }) c ∧
      (c.shared.db.tasks.rows.map TaskHistory.robotTaskCode = ["T1"] ∧
        (c.procs ()).returned = true) := run_of_schedule createOverHttp (by decide)
  exact ⟨c, brokered_of_queued createAlone (fun _ _ hi => by cases hi) hc, hdone⟩

theorem stack_refines_services_create :
    ∃ d, Run (brokered createAlone fun _ => False) unguarded
        (launch sampleSite createAlone { db := sampleTables }) d ∧
      d.shared.db.tasks.rows.map TaskHistory.robotTaskCode = ["T1"] ∧
      (d.procs ()).returned = true := by
  obtain ⟨c, hc, hrows, hreturned⟩ := createOverHttp_run
  obtain ⟨d, hd, hsame, -, hprocs⟩ := stack_refines_services hc
  refine ⟨d, hd, ?_, ?_⟩
  · rw [hsame]
    exact hrows
  · rw [hprocs () (Prog.ended_of_returned hreturned)]
    exact hreturned

theorem rows_have_http_origins_create :
    ∃ (c : Config Unit Op Ret PyExc Unit (World Unit)) (row : TaskHistory),
      row.robotTaskCode = "T1" ∧ ∃ origin,
        HttpSubmitted sampleSite createAlone { db := sampleTables } c.trace origin ∧
          origin.SameTask row := by
  obtain ⟨c, hc, hrows, -⟩ := createOverHttp_run
  obtain ⟨row, hrow, hcode⟩ := List.map_eq_singleton_iff.mp hrows
  have hmem : row ∈ c.shared.db.tasks.rows := by
    rw [hrow]
    exact List.mem_singleton_self row
  obtain ⟨origin, hold | hsub, hsame⟩ := rows_have_http_origins (fun _ => rfl) rfl hc hmem
  · cases hold
  · exact ⟨c, row, hcode, origin, hsub, hsame⟩

end Rcs

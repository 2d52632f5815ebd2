import RcsMiddleware.Source.RcsClient

/-!
# Client — Outcomes

What the requests of the client end with, whatever RCS does.  A retried request ends as the first
answer says that is worth no other attempt, or as the third; any other as the first does
(`run_request`).

**An object or a client error** (`call_proper_iff`).  A request returns a JSON object or raises an
`RCSClientError` exactly when the answer it ends with is an error of `httpx`; or has a text that can
be decoded, and is a 5xx of a retried request, or below 500 has a body that is an object or no JSON
at all.  The marker of a 5xx escapes the other requests, and so does what a body of another kind
makes the reading raise (`escaping_exceptions`).  A text that cannot be decoded ends every request,
also one that a 5xx would have repeated: the client logs the text before it looks at the status.
-/

namespace Rcs

open Support Support.Text Support.Prog

/-! ### Around the client -/

/-- What RCS does with a request: it answers, or the HTTP client raises. -/
inductive UpstreamAnswer where
  | response (response : HttpResponse)
  | httpError (kind : HttpxKind) (message : String)

def UpstreamAnswer.toExcept : UpstreamAnswer → Except PyExc HttpResponse
  | .response r => .ok r
  | .httpError kind message => .error (.httpx kind message)

/-- What the client finds before it sends its HTTP request number `n`, counted from zero, and what
RCS does with it. -/
structure Surroundings where
  redis : Nat → String → Option RedisValue
  signed : Nat → SignedRequest
  now : Nat → DateTime
  upstream : Nat → UpstreamAnswer

/-- The operations of the client. -/
def Op.OfClient : Op → Prop
  | .redisGet _ | .sign _ _ _ | .now | .http _ => True
  | _ => False

/-- How the client's operations are answered, after `n` HTTP requests. -/
def Surroundings.answer (around : Surroundings) : (o : Op) → Nat → Except PyExc (Ret o) × Nat
  | .redisGet key, n => (.ok (around.redis n key), n)
  | .sign _ _ _, n => (.ok (around.signed n), n)
  | .now, n => (.ok (around.now n), n)
  | .http _, n => ((around.upstream n).toExcept, n + 1)
  -- No request performs another operation (`call_only`).
  | _, n => (.error (.storeError "not an operation of the client"), n)

variable (client : RCS2000Client)

theorem exchange_only (request : HttpRequest) (path : String) (preserveRetryable : Bool) :
    Only Op.OfClient (RCS2000Client.exchange request path preserveRetryable) := by
  refine .bind (.tryCatch (.perform trivial) fun e => .raise _) fun response => ?_
  exact .ofExcept _

theorem resolveFullUrl_only (baseUrl path : String) :
    Only Op.OfClient (resolveFullUrl baseUrl path) := by
  refine .bind (.perform trivial) fun ip => ?_
  exact .bind (.perform trivial) fun port => .ret _

theorem request_only (method : HttpMethod) (path : String) (body : Option (List (String × Json)))
    (idempotent : Bool) (params : List (String × String)) :
    Only Op.OfClient (client.request method path body idempotent params) := by
  have hdo : ∀ preserveRetryable,
      Only Op.OfClient (client.doRequest method path body params preserveRetryable) := by
    intro preserveRetryable
    refine .bind (.perform trivial) fun signed => ?_
    exact .bind (resolveFullUrl_only _ _) fun url => exchange_only _ _ _
  unfold RCS2000Client.request
  split
  · exact .tryCatch ((hdo true).retry _ _) fun e => .raise _
  · exact hdo false

theorem supportedMethod_upper (method : HttpMethod) :
    supportedMethod method.upper = .ok method := by
  have hupper : "GET".toUpper = "GET" ∧ "POST".toUpper = "POST" := by decide +kernel
  cases method with
  | get => exact if_pos hupper.1
  | post =>
      have hpost : "POST".toUpper ≠ "GET" := by
        rw [hupper.2]
        decide
      rw [supportedMethod, HttpMethod.upper, if_neg hpost]
      exact if_pos hupper.2

/-- The operations of a request. -/
theorem call_only (call : RcsCall) : Only Op.OfClient (client.call call) := by
  cases call with
  | submitTask payload => exact request_only client .post _ (some payload) false []
  | getRobotStatus robotCode => exact request_only client .get _ none true _
  | cancelTask robotTaskCode => exact request_only client .post _ _ true []
  | signedRequest method path body =>
      refine .bind (.ofExcept _) fun m => ?_
      exact request_only _ _ _ _ _ _
  | plainRequest method path body =>
      refine .bind (.ofExcept _) fun m => ?_
      refine .bind (resolveFullUrl_only _ _) fun url => ?_
      refine .bind (.perform trivial) fun now => ?_
      exact exchange_only _ _ _

/-! ### What a request ends with -/

/-- What `_do_request` and `plain_request` make of an answer. -/
def exchangeResult (method : HttpMethod) (path : String) (preserveRetryable : Bool) :
    UpstreamAnswer → Except PyExc Json
  | .response r => parseResponse r path
  | .httpError kind message =>
      .error (httpFailure method path preserveRetryable (.httpx kind message))

/-- The text can be decoded. -/
def ResponseText.decodable : ResponseText → Bool
  | .value _ => true
  | _ => false

/-- The text of the answer, if it has one, can be decoded. -/
def UpstreamAnswer.decodable : UpstreamAnswer → Bool
  | .response r => r.text.decodable
  | .httpError _ _ => true

/-- The answer is a 5xx or a network error that is worth another attempt. -/
def UpstreamAnswer.transient : UpstreamAnswer → Bool
  | .response r => 500 ≤ r.statusCode
  | .httpError kind _ => kind.retryable

/-- The answer makes a retried request try again. -/
def UpstreamAnswer.repeated (answer : UpstreamAnswer) : Bool := answer.decodable && answer.transient

/-- The number of the last HTTP request, when the next is number `n` and there may be `k` more. -/
def Surroundings.lastRequest (around : Surroundings) (k n : Nat) : Nat :=
  lastTry (fun j => (around.upstream j).repeated) k n

/-- What a request with these parameters makes of the answer it ends with. -/
def requestResult (method : HttpMethod) (path : String) (idempotent : Bool)
    (answer : UpstreamAnswer) : Except PyExc Json :=
  if idempotent then (exchangeResult method path true answer).mapError (afterRetries method path)
  else exchangeResult method path false answer

variable {client} {around : Surroundings}

theorem run_resolveFullUrl (around : Surroundings) (baseUrl path : String) (n : Nat) :
    ∃ url, (resolveFullUrl baseUrl path).run around.answer n = (.ok url, n) :=
  ⟨_, rfl⟩

theorem run_exchange (request : HttpRequest) (path : String) (preserveRetryable : Bool) (n : Nat) :
    (RCS2000Client.exchange request path preserveRetryable).run around.answer n =
      (exchangeResult request.method path preserveRetryable (around.upstream n), n + 1) := by
  have hhttp : (perform (.http request)).run around.answer n =
      ((around.upstream n).toExcept, n + 1) := run_perform _ _ _
  rw [RCS2000Client.exchange, bind_eq, run_bind, run_tryCatch, hhttp]
  cases around.upstream n with
  | response r => exact run_ofExcept _ _
  | httpError kind message => rfl

theorem run_doRequest (method : HttpMethod) (path : String) (body : Option (List (String × Json)))
    (params : List (String × String)) (preserveRetryable : Bool) (n : Nat) :
    (client.doRequest method path body params preserveRetryable).run around.answer n =
      (exchangeResult method path preserveRetryable (around.upstream n), n + 1) := by
  obtain ⟨url, hurl⟩ := run_resolveFullUrl around client.baseUrl path n
  have hsign : (perform (.sign method path (bodyText body))).run around.answer n =
      (.ok (around.signed n), n) := run_perform _ _ _
  rw [RCS2000Client.doRequest, bind_eq, run_bind, hsign, onOk_ok, bind_eq, run_bind, hurl, onOk_ok]
  exact run_exchange _ _ _ _

/-! ### The reading of an answer -/

/-- The body is a JSON object, or no JSON at all. -/
def HttpResponse.Readable (r : HttpResponse) : Prop :=
  (∃ fields, r.json = .value (.obj fields)) ∨ r.json = .jsonDecodeError

theorem businessError_isRCSClientError (code message : String) (payload : Json) :
    (businessError code message payload).isRCSClientError = true := by
  unfold businessError
  split
  · rfl
  · exact isRCSClientError_rcsClientError _ _ _

theorem retriedException_of_isRCSClientError {e : PyExc} (h : e.isRCSClientError = true) :
    retriedException e = false := by
  cases e with
  | app _ => rfl
  | _ => cases h

theorem checkCode_obj (fields : List (String × Json)) (code : Option Json) :
    checkCode (.obj fields) code = .ok (.obj fields) ∨
      ∃ e, checkCode (.obj fields) code = .error e ∧ e.isRCSClientError = true := by
  cases code with
  | none => exact .inl rfl
  | some code =>
      by_cases hcode : (code.truthy && !isSuccessCode code) = true
      · rw [checkCode, if_pos hcode]
        exact .inr ⟨_, rfl, businessError_isRCSClientError _ _ _⟩
      · rw [checkCode, if_neg hcode]
        exact .inl rfl

/-- An object is accepted, or raises an `RCSClientError`. -/
theorem checkEnvelope_obj (statusCode : Nat) (fields : List (String × Json)) :
    checkEnvelope statusCode (.obj fields) = .ok (.obj fields) ∨
      ∃ e, checkEnvelope statusCode (.obj fields) = .error e ∧ e.isRCSClientError = true := by
  unfold checkEnvelope
  by_cases h400 : 400 ≤ statusCode
  · rw [if_pos h400]
    exact .inr ⟨_, rfl, businessError_isRCSClientError _ _ _⟩
  · rw [if_neg h400]
    exact checkCode_obj fields _

/-- What is no object has no `get`. -/
theorem checkEnvelope_not_obj (statusCode : Nat) {data : Json} (h : ∀ fields, data ≠ .obj fields) :
    ∃ message, checkEnvelope statusCode data = .error (.attributeError message) := by
  have hget : ∀ key, ∃ message, dictGet data key = .error (.attributeError message) := by
    intro key
    cases data with
    | obj fields => exact absurd rfl (h fields)
    | _ => exact ⟨_, rfl⟩
  obtain ⟨message, hmessage⟩ := hget "code"
  refine ⟨message, ?_⟩
  unfold checkEnvelope textMember
  rw [hmessage]
  split <;> rfl

/-- **What becomes of an answer that has been logged**: a 5xx raises the marker; below, a readable
body is returned or raises an `RCSClientError`, and any other raises something else that is not
retried. -/
theorem readAnswer_cases (r : HttpResponse) (path : String) :
    (500 ≤ r.statusCode ∧ ∃ message, readAnswer r path = .error (.retryableUpstream message)) ∨
      (r.statusCode < 500 ∧ r.Readable ∧
        ((∃ fields, readAnswer r path = .ok (.obj fields)) ∨
          ∃ e, readAnswer r path = .error e ∧ e.isRCSClientError = true)) ∨
      (r.statusCode < 500 ∧ ¬ r.Readable ∧
        ∃ e, readAnswer r path = .error e ∧ e.isRCSClientError = false ∧
          retriedException e = false) := by
  obtain ⟨statusCode, json, text⟩ := r
  by_cases h500 : 500 ≤ statusCode
  · exact .inl ⟨h500, _, if_pos h500⟩
  have hlt : statusCode < 500 := Nat.lt_of_not_le h500
  have hread : readAnswer ⟨statusCode, json, text⟩ path =
      readBody statusCode (HttpResponse.readJson ⟨statusCode, json, text⟩) := if_neg h500
  right
  rw [hread]
  cases json with
  | value data =>
      by_cases hobj : ∃ fields, data = .obj fields
      · obtain ⟨fields, rfl⟩ := hobj
        refine .inl ⟨hlt, .inl ⟨fields, rfl⟩, ?_⟩
        exact (checkEnvelope_obj statusCode fields).imp_left fun h => ⟨fields, h⟩
      · obtain ⟨message, hmessage⟩ :=
          checkEnvelope_not_obj statusCode fun fields hf => hobj ⟨fields, hf⟩
        refine .inr ⟨hlt, ?_, _, hmessage, rfl, rfl⟩
        rintro (⟨fields, hf⟩ | hf)
        · cases hf
          exact hobj ⟨fields, rfl⟩
        · cases hf
  | jsonDecodeError => exact .inl ⟨hlt, .inr rfl, .inr ⟨_, rfl, rfl⟩⟩
  | unicodeDecodeError | valueError | recursionError =>
      refine .inr ⟨hlt, ?_, _, rfl, rfl, rfl⟩
      rintro (⟨fields, hf⟩ | hf)
      · cases hf
      · cases hf

/-- An exception of the decoding of a text. -/
def PyExc.isDecoding : PyExc → Bool
  | .unicodeError _ | .assertionError | .typeError _ => true
  | _ => false

theorem isRCSClientError_of_isDecoding {e : PyExc} (h : e.isDecoding = true) :
    e.isRCSClientError = false := by
  cases e with
  | app _ => cases h
  | _ => rfl

theorem retriedException_of_isDecoding {e : PyExc} (h : e.isDecoding = true) :
    retriedException e = false := by
  cases e with
  | retryableUpstream _ | httpx _ _ => cases h
  | _ => rfl

variable {r : HttpResponse}

theorem parseResponse_of_decodable (h : r.text.decodable = true) (path : String) :
    parseResponse r path = readAnswer r path := by
  obtain ⟨statusCode, json, text⟩ := r
  cases text with
  | value text => rfl
  | _ => cases h

/-- **A text that cannot be decoded** ends the reading of an answer. -/
theorem parseResponse_of_undecodable (h : r.text.decodable = false) (path : String) :
    ∃ e, parseResponse r path = .error e ∧ e.isDecoding = true := by
  obtain ⟨statusCode, json, text⟩ := r
  cases text with
  | value text => cases h
  | _ => exact ⟨_, rfl, rfl⟩

/-! ### The retries -/

/-- What becomes of an error of the HTTP client. -/
theorem httpFailure_cases (method : HttpMethod) (path : String) (preserveRetryable : Bool)
    (kind : HttpxKind) (message : String) :
    (preserveRetryable = true ∧ kind.retryable = true ∧
        httpFailure method path preserveRetryable (.httpx kind message) = .httpx kind message) ∨
      ((preserveRetryable = false ∨ kind.retryable = false) ∧
        (httpFailure method path preserveRetryable (.httpx kind message)).isRCSClientError =
          true) := by
  cases kind with
  | other => exact .inr ⟨.inr rfl, rfl⟩
  | connectError | readTimeout | connectTimeout | remoteProtocolError =>
      cases preserveRetryable with
      | true => exact .inl ⟨rfl, rfl, rfl⟩
      | false => exact .inr ⟨.inl rfl, rfl⟩

theorem repeats_readAnswer (r : HttpResponse) (path : String) :
    repeats retriedException (readAnswer r path) = decide (500 ≤ r.statusCode) := by
  rcases readAnswer_cases r path with ⟨h500, message, hr⟩ |
      ⟨hlt, -, ⟨fields, hr⟩ | ⟨e, hr, he⟩⟩ | ⟨hlt, -, e, hr, -, he⟩
  · rw [hr, decide_eq_true h500]
    rfl
  · rw [hr, decide_eq_false (Nat.not_le_of_lt hlt)]
    rfl
  · rw [hr, decide_eq_false (Nat.not_le_of_lt hlt)]
    exact retriedException_of_isRCSClientError he
  · rw [hr, decide_eq_false (Nat.not_le_of_lt hlt)]
    exact he

/-- An attempt is repeated when its answer is transient and has a text that can be decoded. -/
theorem repeats_exchangeResult (method : HttpMethod) (path : String) (answer : UpstreamAnswer) :
    repeats retriedException (exchangeResult method path true answer) = answer.repeated := by
  cases answer with
  | response r =>
      rw [exchangeResult, UpstreamAnswer.repeated, UpstreamAnswer.decodable,
        UpstreamAnswer.transient]
      cases htext : r.text.decodable with
      | true =>
          rw [parseResponse_of_decodable htext, Bool.true_and]
          exact repeats_readAnswer r path
      | false =>
          obtain ⟨e, hr, he⟩ := parseResponse_of_undecodable htext path
          rw [hr, Bool.false_and]
          exact retriedException_of_isDecoding he
  | httpError kind message =>
      rw [exchangeResult, UpstreamAnswer.repeated, UpstreamAnswer.decodable, Bool.true_and,
        UpstreamAnswer.transient]
      rcases httpFailure_cases method path true kind message with ⟨-, hkind, hf⟩ | ⟨hkind, hf⟩
      · rw [hf]
        rfl
      · rw [hkind.resolve_left Bool.noConfusion]
        exact retriedException_of_isRCSClientError hf

theorem lastAttempt_doRequest (method : HttpMethod) (path : String)
    (body : Option (List (String × Json))) (params : List (String × String)) (k n : Nat) :
    lastAttempt around.answer retriedException (client.doRequest method path body params true) k n =
      around.lastRequest k n := by
  induction k generalizing n with
  | zero => rfl
  | succ k ih =>
      rw [lastAttempt, Surroundings.lastRequest, lastTry, run_doRequest, repeats_exchangeResult, ih]
      rfl

/-- **A request ends** as the first answer says that is worth no other attempt, or as the third; one
that is not idempotent, as the first. -/
theorem run_request (method : HttpMethod) (path : String) (body : Option (List (String × Json)))
    (idempotent : Bool) (params : List (String × String)) (n : Nat) :
    (client.request method path body idempotent params).run around.answer n =
      (requestResult method path idempotent
        (around.upstream (around.lastRequest (if idempotent then 2 else 0) n)),
        around.lastRequest (if idempotent then 2 else 0) n + 1) := by
  cases idempotent with
  | false => exact run_doRequest _ _ _ _ _ _
  | true =>
      rw [RCS2000Client.request, if_pos rfl, if_pos rfl, run_tryCatch, run_retry,
        lastAttempt_doRequest, run_doRequest, requestResult, if_pos rfl]
      cases exchangeResult method path true (around.upstream (around.lastRequest 2 n)) with
      | ok v => rfl
      | error e => rfl

/-- The method a call sends. -/
def RcsCall.method : RcsCall → HttpMethod
  | .submitTask _ | .cancelTask _ => .post
  | .getRobotStatus _ => .get
  | .signedRequest method _ _ | .plainRequest method _ _ => method

/-- The path a call sends. -/
def RcsCall.path : RcsCall → String
  | .submitTask _ => rcsPathPrefix ++ rcsTaskSubmitPath
  | .getRobotStatus _ => rcsPathPrefix ++ rcsRobotStatusPath
  | .cancelTask _ => rcsPathPrefix ++ rcsTaskCancelPath
  | .signedRequest _ path _ | .plainRequest _ path _ => path

/-- The calls that are retried. -/
def RcsCall.retried : RcsCall → Bool
  | .getRobotStatus _ | .cancelTask _ => true
  | .signedRequest method _ _ => method = .get
  | .submitTask _ | .plainRequest _ _ _ => false

/-- The number of the last HTTP request of a call that is, or is not, retried. -/
def Surroundings.lastOf (around : Surroundings) (retried : Bool) : Nat :=
  around.lastRequest (if retried then 2 else 0) 0

/-- **A call** ends as its last answer says. -/
theorem run_call (call : RcsCall) :
    (client.call call).run around.answer 0 =
      (requestResult call.method call.path call.retried
        (around.upstream (around.lastOf call.retried)), around.lastOf call.retried + 1) := by
  cases call with
  | submitTask payload => exact run_request .post _ (some payload) false [] 0
  | getRobotStatus robotCode => exact run_request .get _ none true _ 0
  | cancelTask robotTaskCode => exact run_request .post _ _ true [] 0
  | signedRequest method path body =>
      rw [RCS2000Client.call, RCS2000Client.signedRequest, supportedMethod_upper]
      exact run_request method path _ (method = .get) [] 0
  | plainRequest method path body =>
      obtain ⟨url, hurl⟩ := run_resolveFullUrl around client.baseUrl path 0
      rw [RCS2000Client.call, RCS2000Client.plainRequest, supportedMethod_upper]
      show run around.answer ((resolveFullUrl client.baseUrl path).bind _) 0 = _
      rw [run_bind, hurl, onOk_ok]
      exact run_exchange _ path false 0

/-! ### An object or a client error -/

/-- A JSON object, or an `RCSClientError`. -/
def Proper : Except PyExc Json → Prop
  | .ok v => ∃ fields, v = .obj fields
  | .error e => e.isRCSClientError = true

/-- The answers that a request which is, or is not, retried may end with. -/
def UpstreamAnswer.Tolerated (retried : Bool) : UpstreamAnswer → Prop
  | .httpError _ _ => True
  | .response r =>
      r.text.decodable = true ∧ if 500 ≤ r.statusCode then retried = true else r.Readable

theorem afterRetries_of_not_retried {method : HttpMethod} {path : String} {r : Except PyExc Json}
    (h : repeats retriedException r = false) : r.mapError (afterRetries method path) = r := by
  cases r with
  | ok v => rfl
  | error e =>
      cases e with
      | retryableUpstream message => cases h
      | httpx kind message =>
          have hkind : kind.retryable = false := h
          simp [Except.mapError, afterRetries, hkind]
      | _ => rfl

theorem afterRetries_of_retried (method : HttpMethod) (path : String) {e : PyExc}
    (h : retriedException e = true) : (afterRetries method path e).isRCSClientError = true := by
  cases e with
  | retryableUpstream message => rfl
  | httpx kind message =>
      have hkind : kind.retryable = true := h
      simp [afterRetries, hkind]
  | _ => cases h

/-- An answer that makes no request try again is read the same way by every request. -/
theorem requestResult_of_not_repeated {method : HttpMethod} {path : String} {idempotent : Bool}
    (h : (UpstreamAnswer.response r).repeated = false) :
    requestResult method path idempotent (.response r) = parseResponse r path := by
  cases idempotent with
  | false => rfl
  | true => exact afterRetries_of_not_retried ((repeats_exchangeResult method path _).trans h)

theorem repeated_of_lt (h : r.statusCode < 500) : (UpstreamAnswer.response r).repeated = false := by
  have htransient : (UpstreamAnswer.response r).transient = false :=
    decide_eq_false (Nat.not_le_of_lt h)
  rw [UpstreamAnswer.repeated, htransient, Bool.and_false]

theorem repeated_of_undecodable (h : r.text.decodable = false) :
    (UpstreamAnswer.response r).repeated = false := by
  rw [UpstreamAnswer.repeated, UpstreamAnswer.decodable, h, Bool.false_and]

/-- A 5xx is made an `RCSClientError` by the requests that are retried. -/
theorem requestResult_proper_of_5xx (method : HttpMethod) (path : String) (idempotent : Bool)
    {message : String}
    (hr : parseResponse r path = .error (.retryableUpstream message)) :
    Proper (requestResult method path idempotent (.response r)) ↔ idempotent = true := by
  cases idempotent with
  | false =>
      show Proper (parseResponse r path) ↔ _
      rw [hr]
      exact iff_of_false Bool.false_ne_true Bool.false_ne_true
  | true =>
      refine iff_of_true ?_ rfl
      show Proper ((parseResponse r path).mapError (afterRetries method path))
      rw [hr]
      exact afterRetries_of_retried method path rfl

/-- Every error of the HTTP client is made an `RCSClientError`. -/
theorem requestResult_proper_of_httpError (method : HttpMethod) (path : String)
    (idempotent : Bool) (kind : HttpxKind) (message : String) :
    Proper (requestResult method path idempotent (.httpError kind message)) := by
  cases idempotent with
  | false =>
      rcases httpFailure_cases method path false kind message with ⟨h, -, -⟩ | ⟨-, hf⟩
      · cases h
      · exact hf
  | true =>
      show Proper ((Except.error (httpFailure method path true (.httpx kind message))).mapError
        (afterRetries method path))
      rcases httpFailure_cases method path true kind message with ⟨-, hkind, hf⟩ | ⟨-, hf⟩
      · rw [hf]
        exact afterRetries_of_retried method path hkind
      · have hnot : repeats retriedException
            (.error (httpFailure method path true (.httpx kind message)) : Except PyExc Json) =
              false := retriedException_of_isRCSClientError hf
        rw [afterRetries_of_not_retried hnot]
        exact hf

theorem requestResult_proper_of_decodable (method : HttpMethod) (path : String) (idempotent : Bool)
    (h : r.text.decodable = true) :
    Proper (requestResult method path idempotent (.response r)) ↔
      if 500 ≤ r.statusCode then idempotent = true else r.Readable := by
  have hparse := parseResponse_of_decodable h path
  rcases readAnswer_cases r path with ⟨h500, message, hr⟩ | ⟨hlt, hread, hr⟩ |
      ⟨hlt, hread, e, hr, hclient, -⟩
  · rw [if_pos h500]
    exact requestResult_proper_of_5xx method path idempotent (hparse.trans hr)
  · rw [if_neg (Nat.not_le_of_lt hlt), requestResult_of_not_repeated (repeated_of_lt hlt), hparse]
    refine iff_of_true ?_ hread
    rcases hr with ⟨fields, hr⟩ | ⟨e, hr, he⟩
    · rw [hr]
      exact ⟨fields, rfl⟩
    · rw [hr]
      exact he
  · rw [if_neg (Nat.not_le_of_lt hlt), requestResult_of_not_repeated (repeated_of_lt hlt), hparse,
      hr]
    refine iff_of_false (fun he => ?_) hread
    exact Bool.false_ne_true (hclient.symm.trans he)

theorem requestResult_proper_iff (method : HttpMethod) (path : String) (idempotent : Bool)
    (answer : UpstreamAnswer) :
    Proper (requestResult method path idempotent answer) ↔ answer.Tolerated idempotent := by
  cases answer with
  | httpError kind message =>
      exact iff_of_true (requestResult_proper_of_httpError method path idempotent kind message)
        trivial
  | response r =>
      rw [UpstreamAnswer.Tolerated]
      cases htext : r.text.decodable with
      | true =>
          exact (requestResult_proper_of_decodable method path idempotent htext).trans
            (and_iff_right rfl).symm
      | false =>
          obtain ⟨e, hr, he⟩ := parseResponse_of_undecodable htext path
          rw [requestResult_of_not_repeated (repeated_of_undecodable htext), hr]
          refine iff_of_false (fun hproper => ?_) fun h => Bool.false_ne_true h.1
          exact Bool.false_ne_true ((isRCSClientError_of_isDecoding he).symm.trans hproper)

/-- RCS always answers so; Redis is empty. -/
def always (r : HttpResponse) : Surroundings where
  redis _ _ := none
  signed _ := ⟨[], "", "", "", "", ""⟩
  now _ := ⟨2026, 1, 1, 0, 0, 0, 0⟩
  upstream _ := .response r

/-- What a call ends with when RCS always answers so. -/
def resultOf (call : RcsCall) (r : HttpResponse) : Except PyExc Json :=
  (((RCS2000Client.mk "http://localhost:8080").call call).run (always r).answer 0).1

/-- An answer with an empty object in the charset `idna`, whose decoder refuses the error handler
`replace`. -/
def undecodable (statusCode : Nat) : HttpResponse :=
  ⟨statusCode, .value (.obj []), .unicodeError "Unsupported error handling replace"⟩

end Rcs

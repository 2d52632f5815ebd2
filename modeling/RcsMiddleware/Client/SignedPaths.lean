import RcsMiddleware.Submit.Fingerprints
import RcsMiddleware.Submit.Spellings
import RcsMiddleware.Support.Rfc3986

/-!
# Client — SignedPaths

The path that is signed and the URL that is sent.  An attempt of a signed request hands its path to
the signing strategy, and puts the same text behind the configured address.  Who receives the URL
splits it again.

* `attempt_run`: what an attempt signs and sends.
* `signed_path_received_iff`: the receiver finds the configured address and the signed path exactly
  when no delimiter of a URL stands in them.
-/

namespace Rcs

open Support Support.Text Support.Prog

/-- The configured address, what the signing strategy returns, and what RCS answers. -/
structure RcsAddress where
  rcsIp : String
  rcsPort : String
  signed : SignedRequest
  upstream : UpstreamAnswer
  rcsIp_nonempty : rcsIp ≠ ""
  rcsPort_nonempty : rcsPort ≠ ""

namespace RcsAddress

variable (address : RcsAddress)

/-- What Redis holds of the settings. -/
def redis (key : String) : Option RedisValue :=
  if key = sysconfigKey "rcs_ip" then some (.text address.rcsIp)
  else if key = sysconfigKey "rcs_port" then some (.text address.rcsPort)
  else none

/-- How the operations of an attempt are answered; they are kept, the newest first. -/
def answer : (o : Op) → List Op → Except PyExc (Ret o) × List Op
  | .redisGet key, ops => (.ok (address.redis key), .redisGet key :: ops)
  | .sign method path body, ops => (.ok address.signed, .sign method path body :: ops)
  | .http request, ops => (address.upstream.toExcept, .http request :: ops)
  -- No attempt performs another operation (`request_only`).
  | o, ops => (.error (.storeError "not an operation of the client"), o :: ops)

/-- The operations of an attempt to send a signed request. -/
def attempt (client : RCS2000Client) (method : HttpMethod) (path : String)
    (body : Option (List (String × Json))) (params : List (String × String))
    (preserveRetryable : Bool) : List Op :=
  ((client.doRequest method path body params preserveRetryable).run address.answer []).2

/-- The authority of the configured address. -/
def authority : String := address.rcsIp ++ ":" ++ address.rcsPort

/-- The components of a URL that leads to this path at the configured address, without a query and
a fragment. -/
def components (path : String) : Rfc3986.Components :=
  ⟨some "http", some address.authority, path, none, none⟩

/-- No delimiter of a URL stands in the address. -/
def Plain : Prop :=
  ∀ c ∈ address.rcsIp.toList ++ address.rcsPort.toList, c ≠ '/' ∧ c ≠ '?' ∧ c ≠ '#'

end RcsAddress

/-- A path is signed and a URL is requested. -/
def SignedAndSent (ops : List Op) (signedPath url : String) : Prop :=
  ∃ method body request, Op.sign method signedPath body ∈ ops ∧ Op.http request ∈ ops ∧
    request.url = url

/-! ### An attempt -/

section Attempt

variable {address : RcsAddress} {client : RCS2000Client} {method : HttpMethod} {path : String}
  {body : Option (List (String × Json))} {params : List (String × String)}
  {preserveRetryable : Bool}

/-- The URL an attempt requests. -/
def RcsAddress.url (address : RcsAddress) (path : String) : String :=
  "http" ++ "://" ++ address.authority ++ path

theorem fullUrl_eq (baseUrl : String) :
    fullUrl baseUrl path (cachedText (address.redis (sysconfigKey "rcs_ip")))
      (cachedText (address.redis (sysconfigKey "rcs_port"))) = address.url path := by
  have hkeys : sysconfigKey "rcs_port" ≠ sysconfigKey "rcs_ip" := by decide
  have hip : cachedText (address.redis (sysconfigKey "rcs_ip")) = some address.rcsIp := by
    rw [RcsAddress.redis, if_pos rfl]
    rfl
  have hport : cachedText (address.redis (sysconfigKey "rcs_port")) = some address.rcsPort := by
    rw [RcsAddress.redis, if_neg hkeys, if_pos rfl]
    rfl
  have hscheme : "http" ++ "://" = "http://" := by rfl
  rw [hip, hport, fullUrl, truthy_some address.rcsIp_nonempty,
    truthy_some address.rcsPort_nonempty, RcsAddress.url, RcsAddress.authority, hscheme]
  simp only [httpAddress, String.append_assoc]

/-- The request of an attempt. -/
def RcsAddress.signedRequest (address : RcsAddress) (method : HttpMethod) (path : String)
    (body : Option (List (String × Json))) (params : List (String × String)) : HttpRequest where
  method := method
  url := address.url path
  content := truthy (some (bodyText body))
  params := params ++ [("sign", address.signed.sign)]
  headers := address.signed.headers

/-- What an attempt does: it signs the path, reads the address and sends one request. -/
theorem attempt_run : address.attempt client method path body params preserveRetryable =
    [.http (address.signedRequest method path body params),
      .redisGet (sysconfigKey "rcs_port"), .redisGet (sysconfigKey "rcs_ip"),
      .sign method path (bodyText body)] := by
  have hexchange : ∀ request ops,
      ((RCS2000Client.exchange request path preserveRetryable).run address.answer ops).2 =
        .http request :: ops := by
    intro request ops
    rw [RCS2000Client.exchange, bind_eq, run_bind, run_tryCatch, run_perform]
    rw [RcsAddress.answer]
    cases address.upstream.toExcept with
    | error e => rfl
    | ok response => rw [onError_ok, onOk_ok, run_ofExcept]
  rw [RcsAddress.attempt, RcsAddress.signedRequest, ← fullUrl_eq client.baseUrl]
  exact hexchange _ _

/-- An attempt signs its path and sends its URL, and no other. -/
theorem signedAndSent_iff {signedPath url : String} :
    SignedAndSent (address.attempt client method path body params preserveRetryable) signedPath
      url ↔ signedPath = path ∧ url = address.url path := by
  rw [attempt_run]
  constructor
  · rintro ⟨_, _, request, hsign, hhttp, rfl⟩
    simp only [List.mem_cons, reduceCtorEq, Op.sign.injEq, Op.http.injEq, List.not_mem_nil,
      or_false, false_or] at hsign hhttp
    obtain rfl := hhttp
    exact ⟨hsign.2.1, rfl⟩
  · rintro ⟨rfl, rfl⟩
    exact ⟨method, bodyText body, address.signedRequest method signedPath body params,
      by simp, by simp, rfl⟩

end Attempt

/-! ### What the receiver finds -/

variable {given path : String}

/-- A path that is accepted begins with a slash and has no query. -/
theorem accepted_path (h : rawSubmitPath given = .ok path) :
    (∃ cs, path.toList = '/' :: cs) ∧ '?' ∉ path.toList := by
  obtain ⟨hasks, hpasses⟩ := rawSubmitPath_eq_ok.mp h
  rcases result_cases (normalizeRcsPath_of_asksFor hpasses.1 hasks) with rfl | hresult
  · cases hpasses.1
  · exact hresult

theorem split_url_iff (address : RcsAddress) {cs : List Char} (hslash : path.toList = '/' :: cs)
    (hquery : '?' ∉ path.toList) :
    Rfc3986.split (address.url path) = address.components path ↔
      address.Plain ∧ '#' ∉ path.toList := by
  rw [RcsAddress.url, RcsAddress.components,
    Rfc3986.split_eq_iff (by simp) (by simp [Rfc3986.endsScheme]) hslash]
  have hcolon : Rfc3986.endsAuthority ':' = false := by decide
  have hlist : address.authority.toList =
      address.rcsIp.toList ++ ':' :: address.rcsPort.toList := by
    simp [RcsAddress.authority]
  constructor
  · rintro ⟨hauthority, hpath⟩
    refine ⟨fun c hc => ?_, fun hmem => ?_⟩
    · have hmem : c ∈ address.authority.toList := by
        rw [hlist]
        rcases List.mem_append.mp hc with hip | hport
        · exact List.mem_append_left _ hip
        · exact List.mem_append_right _ (List.mem_cons_of_mem _ hport)
      simpa [Rfc3986.endsAuthority, and_assoc] using hauthority c hmem
    · cases hpath '#' hmem
  · rintro ⟨hplain, hfragment⟩
    refine ⟨fun c hc => ?_, fun c hc => ?_⟩
    · rw [hlist, List.mem_append, List.mem_cons] at hc
      rcases hc with hip | rfl | hport
      · simpa [Rfc3986.endsAuthority, and_assoc] using hplain c (List.mem_append_left _ hip)
      · exact hcolon
      · simpa [Rfc3986.endsAuthority, and_assoc] using hplain c (List.mem_append_right _ hport)
    · have hne : c ≠ '?' ∧ c ≠ '#' :=
        ⟨fun heq => hquery (heq ▸ hc), fun heq => hfragment (heq ▸ hc)⟩
      simp [Rfc3986.endsPath, hne]

/-- **The receiver finds the signed path**: for a path that is accepted, every URL an attempt sends
splits into the configured address and the path it signed, without a query and a fragment, exactly
when no delimiter stands in the address and no number sign in the path. -/
theorem signed_path_received_iff (h : rawSubmitPath given = .ok path) (address : RcsAddress)
    (client : RCS2000Client) (method : HttpMethod) (body : Option (List (String × Json)))
    (params : List (String × String)) (preserveRetryable : Bool) :
    (∀ signedPath url,
      SignedAndSent (address.attempt client method path body params preserveRetryable) signedPath
        url → Rfc3986.split url = address.components signedPath) ↔
      address.Plain ∧ '#' ∉ path.toList := by
  obtain ⟨⟨cs, hslash⟩, hquery⟩ := accepted_path h
  rw [← split_url_iff address hslash hquery]
  constructor
  · exact fun hall => hall _ _ (signedAndSent_iff.mpr ⟨rfl, rfl⟩)
  · intro hsplit signedPath url hsent
    obtain ⟨rfl, rfl⟩ := signedAndSent_iff.mp hsent
    exact hsplit

/-- The address of a server. -/
def plainAddress : RcsAddress where
  rcsIp := "10.0.0.2"
  rcsPort := "8182"
  signed := ⟨[], "", "", "", "", ""⟩
  upstream := .response (.ofJson 200 (.obj []))
  rcsIp_nonempty := by decide
  rcsPort_nonempty := by decide

/-- A client that is told another address by its environment. -/
def localClient : RCS2000Client := ⟨"http://localhost:8182"⟩

/-- The path of a submit is received as it was signed. -/
theorem submit_path_received :
    SignedAndSent (plainAddress.attempt localClient .get sampleRawRequest.path none [] true)
        sampleRawRequest.path ("http://10.0.0.2:8182" ++ sampleRawRequest.path) ∧
      Rfc3986.split ("http://10.0.0.2:8182" ++ sampleRawRequest.path) =
        plainAddress.components sampleRawRequest.path := by
  have hreceived :=
    (signed_path_received_iff rawSubmitPath_sample plainAddress localClient .get none [] true).mpr
      ⟨by simp [RcsAddress.Plain, plainAddress], by simp [sampleRawRequest]⟩
  have hsent : SignedAndSent
      (plainAddress.attempt localClient .get sampleRawRequest.path none [] true)
      sampleRawRequest.path ("http://10.0.0.2:8182" ++ sampleRawRequest.path) :=
    signedAndSent_iff.mpr ⟨rfl, by decide⟩
  exact ⟨hsent, hreceived _ _ hsent⟩

/-- **A path that is not received**: what follows a number sign is signed and read as a fragment. -/
theorem signed_fragment_not_received :
    rawSubmitPath "/rcs/rtas/x#y" = .ok "/rcs/rtas/x#y" ∧
      SignedAndSent (plainAddress.attempt localClient .get "/rcs/rtas/x#y" none [] true)
        "/rcs/rtas/x#y" "http://10.0.0.2:8182/rcs/rtas/x#y" ∧
      Rfc3986.split "http://10.0.0.2:8182/rcs/rtas/x#y" =
        ⟨some "http", some "10.0.0.2:8182", "/rcs/rtas/x", none, some "y"⟩ ∧
      Rfc3986.split "http://10.0.0.2:8182/rcs/rtas/x#y" ≠
        plainAddress.components "/rcs/rtas/x#y" := by
  refine ⟨ok_of_toOption (by decide), signedAndSent_iff.mpr ⟨rfl, ?_⟩, ?_, ?_⟩
  all_goals decide

end Rcs

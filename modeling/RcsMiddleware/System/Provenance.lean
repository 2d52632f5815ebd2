import RcsMiddleware.System.Origins

/-!
# System — Provenance

Every program of the middleware keeps to the discipline of `Origins.lean`, and so do all of them
beside each other.

* `createTask_accounts`, `submitRaw_accounts`, `updateSystemConfig_accounts`, `taskFeedback_accounts`,
  `processTaskFeedback_accounts`: each of the programs that write.
* `serve_accounts`: any job.
* `run_accounted`: whatever a run leads to is accounted for.
-/

namespace Rcs

open Support Support.Text

variable {ι : Type} {site : Deployment} {jobs : ι → Job} {old : World ι} {known : Witnessed ι} {i : ι}

/-- What `i` performs is accounted for, and what `p` returns satisfies `Q`. -/
abbrev AccountsFor {α : Type} (site : Deployment) (jobs : ι → Job) (old : World ι)
    (Q : Witnessed ι → α → Prop) (known : Witnessed ι) (i : ι) (p : M α) : Prop :=
  Keeps (origins site jobs old) Q known i p

/-- What `i` performs is accounted for. -/
abbrev Accounts {α : Type} (site : Deployment) (jobs : ι → Job) (old : World ι) (known : Witnessed ι)
    (i : ι) (p : M α) : Prop :=
  AccountsFor site jobs old (fun _ _ => True) known i p

/-! ### Rules -/

section Rules

variable {α β : Type} {Q : Witnessed ι → α → Prop} {Q' : Witnessed ι → β → Prop} {p : M α}

theorem origins_fixed {known : Witnessed ι} {i i' : ι} {o : Op} {r : Except PyExc (Ret o)}
    (h : (origins site jobs old).learns known i o r i') : i' = i := h.1

theorem AccountsFor.bind {g : α → M β} (hp : AccountsFor site jobs old Q known i p)
    (hg : ∀ a known', known ≤ known' → Q known' a → AccountsFor site jobs old Q' known' i (g a)) :
    AccountsFor site jobs old Q' known i (Prog.bind p g) :=
  Keeps.bind_fixed origins_fixed hp hg

theorem AccountsFor.tryCatch {g : PyExc → M α} (hp : AccountsFor site jobs old Q known i p)
    (hg : ∀ e known', known ≤ known' → AccountsFor site jobs old Q known' i (g e)) :
    AccountsFor site jobs old Q known i (Prog.tryCatch p g) :=
  Keeps.tryCatch_fixed origins_fixed hp hg

theorem AccountsFor.perform {o : Op} {Q : Witnessed ι → Ret o → Prop}
    (ho : Allowed site jobs old known o)
    (h : ∀ a known', Learned site jobs old known' i o (.ok a) →
      (∀ payload, jobs i = .process payload → payload ∈ known'.2) → Q known' a) :
    AccountsFor site jobs old Q known i (Rcs.perform o) :=
  Keeps.perform ho fun a known' _ _ hlearn => h a known' hlearn.2.1 hlearn.2.2

/-- An operation whose answer does not matter. -/
theorem AccountsFor.write {o : Op} (ho : Allowed site jobs old known o) :
    Accounts site jobs old known i (Rcs.perform o) :=
  AccountsFor.perform ho fun _ _ _ _ => trivial

theorem AccountsFor.seq {g : α → M β} (hp : Accounts site jobs old known i p)
    (hg : ∀ a known', known ≤ known' → Accounts site jobs old known' i (g a)) :
    Accounts site jobs old known i (Prog.bind p g) :=
  AccountsFor.bind hp fun a known' hle _ => hg a known' hle

theorem AccountsFor.discard (hp : Accounts site jobs old known i p) :
    Accounts site jobs old known i p.discard :=
  hp.seq fun _ _ _ => .ret trivial

theorem AccountsFor.ofExcept {r : Except PyExc α} (h : ∀ a, r = .ok a → Q known a) :
    AccountsFor site jobs old Q known i (Prog.ofExcept r) := Keeps.ofExcept h

/-- The operations that neither write nor call. -/
def Op.quiet : Op → Bool
  | .redisGet _ | .selectRobotType _ | .selectTask _ | .selectConfig _ | .rollback | .close
  | .sign _ _ _ | .http _ | .now | .commit [] => true
  | _ => false

theorem Allowed.of_quiet {o : Op} (h : o.quiet = true) : Allowed site jobs old known o := by
  cases o with
  | redisSet _ _ | redisSetNx _ _ _ | redisSetex _ _ _ | insertTask _ | updateTask _ _ | rcs _
  | delay _ => cases h
  | commit pending =>
      cases pending with
      | nil => exact ⟨nofun, fun _ hm => (by cases hm), nofun, nofun⟩
      | cons _ _ => cases h
  | _ => exact ⟨nofun, fun _ hm => (by cases hm), nofun, nofun⟩

theorem AccountsFor.quiet {o : Op} (h : o.quiet = true) :
    Accounts site jobs old known i (Rcs.perform o) := .write (.of_quiet h)

theorem Allowed.setex {key : String} {ttl : Nat} {value : RedisValue}
    (h : Stored site jobs old known key value) :
    Allowed site jobs old known (.redisSetex key ttl value) where
  entry _ _ hentry := by
    cases hentry
    exact h
  writes _ hm := by cases hm
  delay := nofun
  rcs := nofun

theorem Allowed.set {key : String} {value : RedisValue} (h : Stored site jobs old known key value) :
    Allowed site jobs old known (.redisSet key value) where
  entry _ _ hentry := by
    cases hentry
    exact h
  writes _ hm := by cases hm
  delay := nofun
  rcs := nofun

theorem Allowed.call {call : RcsCall} (h : Requested site jobs old call) :
    Allowed site jobs old known (.rcs call) where
  entry := nofun
  writes _ hm := by cases hm
  delay := nofun
  rcs _ hcall := by
    cases hcall
    exact h

theorem Allowed.commit {write : Write} (h : Written site jobs old known write) :
    Allowed site jobs old known (.commit [write]) where
  entry := nofun
  writes _ hm := by
    rw [List.mem_singleton.mp hm]
    exact h
  delay := nofun
  rcs := nofun

theorem Allowed.insert {row : TaskHistory} (h : Submitted site jobs old known row) :
    Allowed site jobs old known (.insertTask row) where
  entry := nofun
  writes _ hm := by
    rw [List.mem_singleton.mp hm]
    exact h
  delay := nofun
  rcs := nofun

theorem Allowed.update {code : String} {u : StatusUpdate} (h : FeedbackUpdate known code u) :
    Allowed site jobs old known (.updateTask code u) where
  entry := nofun
  writes _ hm := by
    rw [List.mem_singleton.mp hm]
    exact h
  delay := nofun
  rcs := nofun

end Rules

/-! ### Sessions and credentials -/

theorem withSession_accounts {α : Type} {p : M α} (hp : Accounts site jobs old known i p) :
    Accounts site jobs old known i (withSession p) :=
  Keeps.tryFinally_fixed origins_fixed hp (fun _ _ => trivial) fun _ _ =>
    AccountsFor.quiet (o := .close) rfl

theorem getDbSession_accounts {α : Type} {p : M α} (hp : Accounts site jobs old known i p) :
    Accounts site jobs old known i (getDbSession p) :=
  withSession_accounts (.tryCatch hp fun e _ _ => .seq (.quiet (o := .rollback) rfl)
    fun _ _ _ => .raise e)

/-- What an accepted request does. -/
theorem authorized_accounts {α : Type} {apiKey : Option String} {p : M α}
    (hp : site.Accepts apiKey → Accounts site jobs old known i p) :
    Accounts site jobs old known i (site.authorized apiKey p) := by
  rw [Deployment.authorized]
  cases hkey : requireApiKey site.apiKey apiKey with
  | ok key => exact (hp ⟨key, hkey⟩).discard
  | error e => exact .raise e

/-! ### The submits -/

theorem persistTask_accounts {row : TaskHistory} (h : Submitted site jobs old known row) :
    Accounts site jobs old known i (persistTask row) := by
  refine .tryCatch (.seq (.write (.insert h)) fun _ _ _ => .quiet (o := .commit []) rfl) ?_
  exact fun e _ _ => .seq (.quiet (o := .rollback) rfl) fun _ _ _ => .raise e

section Create

variable {apiKey header : Option String} {request : TaskCreateRequest}

theorem finishTask_accounts (hjob : jobs i = .create apiKey request header)
    (hkey : site.Accepts apiKey) {call : RcsCall} {v : Json} {code : String}
    (hcall : (i, call, .ok v) ∈ known.1) (hcode : extractTaskCode v = .ok code) :
    Accounts site jobs old known i (finishTask request header code) := by
  rw [finishTask]
  split
  · next key hheader =>
    exact .seq (.write (.setex (.created hjob hkey hheader hcall hcode))) fun _ _ _ => .ret trivial
  · exact .ret trivial

theorem submitTask_accounts (hjob : jobs i = .create apiKey request header)
    (hkey : site.Accepts apiKey) {robotType : Option RobotType}
    (htype : ∀ t ∈ robotType, t ∈ old.db.robotTypes ∧ t.name = request.robotType) :
    Accounts site jobs old known i (submitTask request header robotType) := by
  cases robotType with
  | none => exact .raise _
  | some robotType =>
      obtain ⟨htype, hname⟩ := htype robotType rfl
      refine AccountsFor.bind (Q := fun known v => (i, .submitTask (buildSubmitPayload request
        robotType.rcsTaskType), .ok v) ∈ known.1) ?_ fun v known₁ _ hcall => ?_
      · exact .perform (.call (.create hjob hkey htype hname)) fun v _ hcall _ => hcall
      · refine .bind (Q := fun _ code => extractTaskCode v = .ok code) (.ofExcept fun _ h => h)
          fun code known₂ hle hcode => ?_
        refine .seq (persistTask_accounts ?_) fun _ _ hle' =>
          finishTask_accounts hjob hkey (hle'.1 (hle.1 hcall)) hcode
        exact .create hjob hkey htype hname (hle.1 hcall) hcode

theorem createTask_accounts (hjob : jobs i = .create apiKey request header)
    (hkey : site.Accepts apiKey) :
    Accounts site jobs old known i (createTask request header) := by
  have huncached : ∀ known', Accounts site jobs old known' i (createUncached request header) := by
    intro known'
    refine AccountsFor.bind (Q := fun _ t => ∀ t' ∈ t, t' ∈ old.db.robotTypes ∧
      t'.name = request.robotType) ?_ fun robotType _ _ htype => submitTask_accounts hjob hkey htype
    refine .perform (.of_quiet rfl) fun t _ hlearn _ => ?_
    rintro t' rfl
    exact hlearn
  rw [createTask]
  split
  · refine .seq (.seq (.quiet rfl) fun _ _ _ => .ofExcept fun _ _ => trivial) fun found _ _ => ?_
    cases found with
    | some result => exact .ret trivial
    | none => exact huncached _
  · exact huncached _

end Create

section Raw

variable {apiKey header : Option String} {request : RcsRawSubmitRequest} {path : String}

theorem finishRaw_accounts (hjob : jobs i = .raw apiKey request header) (hkey : site.Accepts apiKey)
    {v : Json} {code : Option String} (hcall : (i, rawCall request path, .ok v) ∈ known.1)
    (hcode : taskCodeOf v = .ok code) (persisted : Bool) :
    Accounts site jobs old known i (finishRaw request path header (rawResult code persisted v)) := by
  rw [finishRaw]
  split
  · next key hheader =>
    exact .seq (.write (.setex (.submitted hjob hkey hheader hcall hcode persisted))) fun _ _ _ =>
      .ret trivial
  · exact .ret trivial

theorem recordRaw_accounts (hjob : jobs i = .raw apiKey request header) (hkey : site.Accepts apiKey)
    (hpath : rawSubmitPath request.path = .ok path) {v : Json}
    (hcall : (i, rawCall request path, .ok v) ∈ known.1) :
    Accounts site jobs old known i (recordRaw request path header v) := by
  refine AccountsFor.bind (Q := fun _ code => taskCodeOf v = .ok code) (.ofExcept fun _ h => h)
    fun code known₁ hle hcode => ?_
  split
  · next code hpersist =>
    refine .seq (persistTask_accounts ?_) fun _ _ hle' =>
      finishRaw_accounts hjob hkey (hle'.1 (hle.1 hcall)) hcode true
    exact .raw hjob hkey hpersist hpath (hle.1 hcall) hcode
  · exact finishRaw_accounts hjob hkey (hle.1 hcall) hcode false

theorem submitRaw_accounts (hjob : jobs i = .raw apiKey request header) (hkey : site.Accepts apiKey) :
    Accounts site jobs old known i (submitRaw request header) := by
  refine AccountsFor.bind (Q := fun _ path => rawSubmitPath request.path = .ok path)
    (.ofExcept fun _ h => h) fun path known₁ _ hpath => ?_
  have hsend : ∀ known', Accounts site jobs old known' i (sendRaw request path header) := by
    intro known'
    refine AccountsFor.bind (Q := fun known v => (i, rawCall request path, .ok v) ∈ known.1) ?_
      fun v _ _ hcall => recordRaw_accounts hjob hkey hpath hcall
    refine .tryCatch (.perform (.call (.raw hjob hkey hpath)) fun v _ hcall _ => hcall) ?_
    exact fun e _ _ => .raise _
  split
  · refine .seq (.seq (.quiet rfl) fun _ _ _ => .ofExcept fun _ _ => trivial) fun found _ _ => ?_
    cases found with
    | some result => exact .ret trivial
    | none => exact hsend _
  · exact hsend _

end Raw

/-! ### The settings -/

theorem configGet_accounts (hread : ReadsSettings site jobs) (key : String) :
    Accounts site jobs old known i (configGet key) := by
  refine .seq (.quiet rfl) fun cached _ _ => ?_
  cases cachedText cached with
  | some cached => exact .ret trivial
  | none =>
      refine AccountsFor.bind (Q := fun _ row => ∀ value, row = some (some value) →
        SettingValue site jobs old key value) ?_ fun row _ _ hrow => ?_
      · refine .perform (o := .selectConfig key) (.of_quiet rfl) fun row _ hlearn _ => ?_
        rintro value rfl
        exact hlearn
      · rcases row with _ | _ | value
        · exact .ret trivial
        · exact .ret trivial
        · exact .seq (.write (.set (.setting hread (hrow value rfl)))) fun _ _ _ => .ret trivial

theorem getConnectionSettings_accounts (hread : ReadsSettings site jobs) (rcsBaseUrl : String) :
    Accounts site jobs old known i (getConnectionSettings rcsBaseUrl) := by
  refine .seq (configGet_accounts hread _) fun _ _ _ =>
    .seq (configGet_accounts hread _) fun _ _ _ => ?_
  exact .ofExcept fun _ _ => trivial

theorem configSet_accounts (hread : ReadsSettings site jobs) {key value : String}
    (h : Configured site jobs key value) : Accounts site jobs old known i (configSet key value) := by
  refine .seq (.quiet rfl) fun row _ _ => .seq (.write (.commit ?_)) fun _ _ _ =>
    .write (.set (.setting hread (.inr h)))
  cases row with
  | none => exact h
  | some before => exact h

theorem updateSystemConfig_accounts {apiKey : Option String} {payload : ConnectionSettingsUpdate}
    (hjob : jobs i = .configure apiKey payload) (hkey : site.Accepts apiKey) (rcsBaseUrl : String) :
    Accounts site jobs old known i (updateSystemConfig rcsBaseUrl payload) := by
  have hread : ReadsSettings site jobs := ⟨i, apiKey, .inr ⟨payload, hjob⟩, hkey⟩
  refine withSession_accounts (.seq (configSet_accounts hread ?_) fun _ _ _ =>
    .seq (configSet_accounts hread ?_) fun _ _ _ => getConnectionSettings_accounts hread rcsBaseUrl)
  · exact ⟨i, apiKey, payload, hjob, hkey, .inl ⟨rfl, rfl⟩⟩
  · exact ⟨i, apiKey, payload, hjob, hkey, .inr ⟨rfl, rfl⟩⟩

theorem listRobotStates_accounts (service : RobotService) (keys : List String) :
    Accounts site jobs old known i (service.listRobotStates keys) := by
  induction keys generalizing known with
  | nil => exact .ret trivial
  | cons key keys ih => exact .seq (.quiet rfl) fun _ _ _ => .seq ih fun _ _ _ => .ret trivial

/-! ### Deliveries and workers -/

section Feedback

variable {requestId : String} {rawBody : ByteArray} {signature : Option String}
  {payload : TaskFeedbackPayload}

theorem logEvent_accounts (hjob : jobs i = .deliver requestId rawBody signature)
    (hpayload : site.webhook.payloadOf rawBody = .ok payload) {sigValid : Bool}
    (hsig : (site.webhook.service.verifyWebhookSignature rawBody signature).isOk = sigValid)
    (duplicate : Bool) :
    Accounts site jobs old known i (site.webhook.service.logEvent payload sigValid duplicate) := by
  subst hsig
  rw [WebhookService.logEvent]
  split
  · refine .tryCatch (.write (.commit ?_)) fun _ _ _ =>
      .quiet (o := .rollback) rfl
    exact ⟨i, requestId, rawBody, signature, payload, duplicate, hjob, hpayload, rfl⟩
  · exact .ret trivial

theorem handleVerified_accounts (hjob : jobs i = .deliver requestId rawBody signature)
    (hpayload : site.webhook.payloadOf rawBody = .ok payload)
    (hsig : site.webhook.service.verifyWebhookSignature rawBody signature = .ok ()) :
    Accounts site jobs old known i (site.webhook.service.handleVerified payload) := by
  have hdelivered : Delivered site jobs payload :=
    ⟨i, requestId, rawBody, signature, hjob, hpayload, hsig⟩
  have hok : (site.webhook.service.verifyWebhookSignature rawBody signature).isOk = true := by
    rw [hsig]
    rfl
  refine .seq (.write ⟨?_, fun _ hm => (by cases hm), nofun, nofun⟩) fun first _ _ => ?_
  · intro key value hentry
    cases hentry
    exact .marker hdelivered
  · cases first with
    | true =>
        refine .seq (logEvent_accounts hjob hpayload hok false) fun _ _ _ =>
          .seq (.write ⟨nofun, fun _ hm => (by cases hm), ?_, nofun⟩) fun _ _ _ => .ret trivial
        intro payload' hdelay
        cases hdelay
        exact hdelivered
    | false =>
        exact .seq (logEvent_accounts hjob hpayload hok true) fun _ _ _ => .ret trivial

theorem taskFeedback_accounts (hjob : jobs i = .deliver requestId rawBody signature) :
    Accounts site jobs old known i (site.webhook.taskFeedback requestId rawBody signature) := by
  refine AccountsFor.bind (Q := fun _ payload => site.webhook.payloadOf rawBody = .ok payload)
    (.ofExcept fun _ h => h) fun payload _ _ hpayload => .seq ?_
    fun _ _ _ => .ret trivial
  rw [WebhookService.handleTaskFeedback]
  split
  · next e he =>
    split
    · refine .seq (logEvent_accounts hjob hpayload ?_ false) fun _ _ _ => .raise e
      rw [show site.webhook.service.verifyWebhookSignature rawBody signature = .error e from he]
      rfl
    · exact .raise e
  · next u he => exact handleVerified_accounts hjob hpayload he

theorem processTaskFeedback_accounts (hjob : jobs i = .process payload) :
    Accounts site jobs old known i (processTaskFeedback payload) := by
  rw [processTaskFeedback]
  dsimp only
  split
  · exact .ret trivial
  · next hfields =>
    rw [not_or] at hfields
    -- The first operation learns that the payload is queued.
    refine AccountsFor.bind (Q := fun known _ => payload ∈ known.2) ?_ fun now known₁ _ hqueued => ?_
    · exact .perform (.of_quiet rfl) fun _ _ _ hqueued => hqueued payload hjob
    refine .seq (withSession_accounts ?_) fun _ known₂ hle => ?_
    · refine AccountsFor.bind (Q := fun known found => ∀ row ∈ found,
          row.robotTaskCode = strip payload.robotTaskCode) ?_ fun existing known₂ hle hrow => ?_
      · refine .perform (.of_quiet rfl) fun found _ hlearn _ => ?_
        rintro row rfl
        exact hlearn
      cases existing with
      | none => exact .ret trivial
      | some existing =>
          rw [applyFeedback]
          split
          · exact .ret trivial
          · next hterminal =>
            refine .seq (.write (.update ?_)) fun _ _ _ => .seq (.quiet rfl) fun _ _ _ =>
              .ret trivial
            exact ⟨payload, hle.2 hqueued, existing, now, rfl, hfields.2, hrow existing rfl,
              by simpa using hterminal, rfl⟩
    · refine .seq ?_ fun _ _ _ => .ret trivial
      rw [updateRobotState]
      split
      · exact .ret trivial
      · next amrCode hamr =>
        exact .seq (.write (.setex (.robot (hle.2 hqueued) hamr now))) fun _ _ _ => .ret trivial

end Feedback

/-! ### Any of them beside the others -/

/-- What a job performs is accounted for. -/
theorem serve_accounts (i : ι) : Accounts site jobs old known i ((jobs i).serve site) := by
  generalize hjob : jobs i = job
  cases job with
  | create apiKey request header =>
      exact authorized_accounts fun hkey => getDbSession_accounts (createTask_accounts hjob hkey)
  | raw apiKey request header =>
      exact authorized_accounts fun hkey => getDbSession_accounts (submitRaw_accounts hjob hkey)
  | configure apiKey payload =>
      exact authorized_accounts fun hkey => updateSystemConfig_accounts hjob hkey _
  | settings apiKey =>
      exact authorized_accounts fun hkey => getDbSession_accounts
        (getConnectionSettings_accounts ⟨i, apiKey, .inl hjob, hkey⟩ _)
  | robots apiKey keys => exact authorized_accounts fun _ => listRobotStates_accounts _ keys
  | deliver requestId rawBody signature =>
      exact (getDbSession_accounts (taskFeedback_accounts hjob)).discard
  | process payload => exact (processTaskFeedback_accounts hjob).discard

/-- **Everything is accounted for**, wherever a run of any jobs stands. -/
theorem run_accounted [DecidableEq ι] {expires : String → Prop}
    {G : Guard ι Op Ret PyExc Unit (World ι)} {c : Config ι Op Ret PyExc Unit (World ι)}
    (hsessions : ∀ i, old.sessions i = [])
    (h : Run (brokered jobs expires) G (launch site jobs old) c) :
    Accounted site jobs old c.shared :=
  (Run.keeps (Q := fun _ _ => True) (origins_governs expires)
    (fun hle h => h.mono hle) (fun _ _ => trivial) h (Accounted.start hsessions)
    fun i => ⟨i, rfl, serve_accounts i⟩).1

end Rcs

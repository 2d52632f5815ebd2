import RcsMiddleware.Client.Outcomes
import RcsMiddleware.Submit.Sequential
import RcsMiddleware.Support.Percent

/-!
# Submit — Paths

Where a raw submit may go.  Its path is checked before anything else is done, and the check is
meant to keep every request under the prefix of the RCS API.

* `asksFor_iff`: the path an input asks for, without the order in which `normalize_rcs_path` works.
* `rawSubmitPath_eq_ok`, `isInvalidRcsPath_of_error`: what the check accepts, and what it raises.
* `path_guarded_iff`: a submit is refused with `InvalidRcsPathError`, or stays under the prefix,
  unless the input is a URL that `urlparse` refuses, the prefix runs on without a slash, or two dots
  between slashes are escaped.
-/

namespace Rcs

open Support Support.Text Support.Prog Support.Percent

/-- An `InvalidRcsPathError`. -/
def PyExc.IsInvalidRcsPath (e : PyExc) : Prop :=
  ∃ err : AppError, e = .app err ∧ err.cls = .invalidRcsPathError

/-- The path is the prefix, or goes on after it with a slash, and none of its segments is `..` once
it is decoded. -/
def Contained (path : String) : Prop :=
  (path = rcsPathPrefix ∨ startsWith path (rcsPathPrefix ++ "/") = true) ∧
    "..".toList ∉ (unquote path.toList).splitOn '/'

instance (path : String) : Decidable (Contained path) := inferInstanceAs (Decidable (_ ∧ _))

/-- The operation calls RCS at this path, or does not call it. -/
def CallsAt (path : String) (o : Op) : Prop := ∀ call, o = .rcs call → call.path = path

/-- An operation is performed, and every call of RCS, whatever is answered, is at this path. -/
def Sends {α : Type} (path : String) (p : M α) : Prop :=
  ¬ p.Ended ∧ Only (CallsAt path) p

/-- The submit is refused at once, or sends a path that is contained. -/
def PathGuarded (request : RcsRawSubmitRequest) (idempotencyKey : Option String) : Prop :=
  (∃ e, submitRaw request idempotencyKey = .raise e ∧ e.IsInvalidRcsPath) ∨
    ∃ path, Contained path ∧ Sends path (submitRaw request idempotencyKey)

/-! ### What is asked for -/

/-- The text is a URL with scheme and host. -/
def isFullUrl (text : String) : Bool := startsWith text "http://" || startsWith text "https://"

/-- `urlparse` raises for the text that is given. -/
def UrlRefused (given : String) : Prop :=
  isFullUrl (strip given) = true ∧ ∃ message, Url.path (strip given) = .error message

/-- The text that is given asks for the path: as a URL with this path, or as the path itself with a
query behind it, where the first slash may be left out. -/
inductive AsksFor (given path : String) : Prop where
  | url (hurl : isFullUrl (strip given) = true) (hpath : Url.path (strip given) = .ok path)
  | text (hurl : isFullUrl (strip given) = false) {query : String}
      (hquery : query = "" ∨ startsWith query "?" = true) (hpath : '?' ∉ path.toList)
      (htext : path ++ query = strip given ∨ path ++ query = "/" ++ strip given)

/-- The path goes on after the prefix, and not with a slash. -/
def RunsOn (path : String) : Prop :=
  ∃ c rest, path.toList = rcsPathPrefix.toList ++ c :: rest ∧ c ≠ '/'

/-- Somewhere between two slashes stand two dots, where each may be an escape. -/
def SpellsParent (path : String) : Prop :=
  ∃ pre d d' post, path.toList = pre ++ ((d ++ d') ++ post) ∧ Between '/' pre post ∧
    Spells '.' d ∧ Spells '.' d'

/-- The path passes the check: it begins with the prefix, and no two dots stand in a row. -/
def Passes (path : String) : Prop :=
  startsWith path rcsPathPrefix = true ∧ hasSub path ".." = false

/-- The input is a URL that `urlparse` refuses, or asks for a path that passes the check and runs
on, or spells a parent segment. -/
def Evades (given : String) : Prop :=
  UrlRefused given ∨ ∃ path, AsksFor given path ∧ Passes path ∧ (RunsOn path ∨ SpellsParent path)

variable {given path : String}

theorem normalizeRcsPath_of_url {raw : String} (hraw : strip given = raw)
    (h : isFullUrl raw = true) : normalizeRcsPath given =
      match Url.path raw with
      | .ok path => .ok (before '?' (if path = "" then "/" else path))
      | .error message => .error (.valueError message) := by
  have hne : raw ≠ "" := by
    rintro rfl
    cases h
  rw [isFullUrl] at h
  rw [normalizeRcsPath, hraw, if_neg hne]
  dsimp only
  rw [if_pos h]
  cases Url.path raw <;> rfl

theorem normalizeRcsPath_of_text {raw : String} (hraw : strip given = raw)
    (h : isFullUrl raw = false) (hne : raw ≠ "") : normalizeRcsPath given =
      .ok (before '?' (if startsWith raw "/" then raw else "/" ++ raw)) := by
  rw [isFullUrl] at h
  rw [normalizeRcsPath, hraw, if_neg hne]
  dsimp only
  rw [if_neg (by rw [h]; exact Bool.false_ne_true)]
  rfl

theorem normalizeRcsPath_of_empty (h : strip given = "") : normalizeRcsPath given = .ok "" := by
  rw [normalizeRcsPath, h]
  rfl

theorem before_path {url : String} (h : Url.path url = .ok path) : before '?' path = path :=
  before_eq_iff.mpr ⟨Url.not_mem_path h, "", String.append_empty, .inl rfl⟩

theorem normalizeRcsPath_of_asksFor (hpre : startsWith path rcsPathPrefix = true)
    (h : AsksFor given path) : normalizeRcsPath given = .ok path := by
  cases h with
  | url hurl hpath =>
      have hne : path ≠ "" := by
        rintro rfl
        cases hpre
      rw [normalizeRcsPath_of_url rfl hurl, hpath]
      dsimp only
      rw [if_neg hne, before_path hpath]
  | @text hurl query hquery hmem htext =>
      have hbefore : before '?' (path ++ query) = path :=
        before_eq_iff.mpr ⟨hmem, query, rfl, hquery⟩
      obtain ⟨rest, rfl⟩ := startsWith_iff.mp hpre
      have hslash : rcsPathPrefix ++ rest ++ query = "/" ++ ("rcs/rtas" ++ rest ++ query) := by
        rw [String.append_assoc, String.append_assoc, ← String.append_assoc]
        rfl
      rcases htext with htext | htext
      · -- The text has its slash.
        have hstarts : startsWith (strip given) "/" = true := by
          rw [← htext, hslash]
          exact startsWith_iff.mpr ⟨_, rfl⟩
        have hne : strip given ≠ "" := by
          intro hnil
          rw [hnil] at hstarts
          cases hstarts
        rw [normalizeRcsPath_of_text rfl hurl hne, if_pos hstarts, ← htext, hbefore]
      · rw [hslash] at htext
        have htail : "rcs/rtas" ++ rest ++ query = strip given :=
          (String.append_right_inj _).mp htext
        obtain ⟨more, hr⟩ : ∃ more, (strip given).toList = 'r' :: more := by
          rw [← htail, String.toList_append, String.toList_append]
          exact ⟨_, rfl⟩
        have hstarts : startsWith (strip given) "/" = false := by
          rw [startsWith, hr]
          rfl
        have hne : strip given ≠ "" := by
          intro hnil
          rw [hnil] at hr
          cases hr
        rw [normalizeRcsPath_of_text rfl hurl hne, hstarts, ← htail, if_neg Bool.false_ne_true,
          ← hslash, hbefore]

theorem asksFor_of_normalizeRcsPath (hpre : startsWith path rcsPathPrefix = true)
    (h : normalizeRcsPath given = .ok path) : AsksFor given path := by
  cases hurl : isFullUrl (strip given) with
  | true =>
      rw [normalizeRcsPath_of_url rfl hurl] at h
      cases hp : Url.path (strip given) with
      | error message =>
          rw [hp] at h
          cases h
      | ok p =>
          rw [hp] at h
          have hbefore := Except.ok.inj h
          by_cases hne : p = ""
          · rw [if_pos hne] at hbefore
            rw [← hbefore] at hpre
            exact absurd hpre (by decide)
          · rw [if_neg hne, before_path hp] at hbefore
            rw [← hbefore]
            exact .url hurl hp
  | false =>
      by_cases hne : strip given = ""
      · rw [normalizeRcsPath_of_empty hne] at h
        cases h
        cases hpre
      · rw [normalizeRcsPath_of_text rfl hurl hne] at h
        obtain ⟨hmem, query, hquery, hq⟩ := before_eq_iff.mp (Except.ok.inj h)
        refine .text hurl hq hmem ?_
        rw [hquery]
        cases startsWith (strip given) "/" with
        | true => exact .inl rfl
        | false => exact .inr rfl

/-- **The path an input asks for** is what `normalize_rcs_path` makes of it, under the prefix. -/
theorem asksFor_iff (hpre : startsWith path rcsPathPrefix = true) :
    AsksFor given path ↔ normalizeRcsPath given = .ok path :=
  ⟨normalizeRcsPath_of_asksFor hpre, asksFor_of_normalizeRcsPath hpre⟩

/-- `normalize_rcs_path` raises when `urlparse` does. -/
theorem urlRefused_of_error {e : PyExc} (h : normalizeRcsPath given = .error e) :
    UrlRefused given := by
  cases hurl : isFullUrl (strip given) with
  | true =>
      rw [normalizeRcsPath_of_url rfl hurl] at h
      cases hp : Url.path (strip given) with
      | ok p =>
          rw [hp] at h
          cases h
      | error message => exact ⟨hurl, message, hp⟩
  | false =>
      by_cases hne : strip given = ""
      · rw [normalizeRcsPath_of_empty hne] at h
        cases h
      · rw [normalizeRcsPath_of_text rfl hurl hne] at h
        cases h

/-! ### The check -/

/-- The exceptions of the check. -/
def emptyPathError : PyExc :=
  .app (.mk' .invalidRcsPathError (some "Path is empty.") none (some []))

theorem rawSubmitPath_of_ok (h : normalizeRcsPath given = .ok path) : rawSubmitPath given =
    if path = "" then .error emptyPathError else (validateRcsPath path).map fun _ => path := by
  rw [rawSubmitPath, h]
  by_cases hne : path = ""
  · rw [if_pos hne, hne]
    rfl
  · rw [if_neg hne]
    change (if path = "" then _ else _) = _
    rw [if_neg hne]
    cases validateRcsPath path <;> rfl

theorem validateRcsPath_of_passes (h : Passes path) : validateRcsPath path = .ok () := by
  rw [validateRcsPath, h.1, h.2]
  rfl

/-- What does not pass the check is an invalid path. -/
theorem validateRcsPath_of_not_passes (h : ¬ Passes path) :
    ∃ e, validateRcsPath path = .error e ∧ e.IsInvalidRcsPath := by
  rw [Passes] at h
  rw [validateRcsPath]
  cases hpre : startsWith path rcsPathPrefix with
  | false => exact ⟨_, if_pos (Bool.or_true _), _, rfl, rfl⟩
  | true =>
      cases hsub : hasSub path ".." with
      | true => exact ⟨_, rfl, _, rfl, rfl⟩
      | false => exact absurd ⟨hpre, hsub⟩ h

/-- **What the check accepts**: an input that asks for a path that passes. -/
theorem rawSubmitPath_eq_ok :
    rawSubmitPath given = .ok path ↔ AsksFor given path ∧ Passes path := by
  constructor
  · intro h
    cases hn : normalizeRcsPath given with
    | error e =>
        rw [rawSubmitPath, hn] at h
        cases h
    | ok p =>
        rw [rawSubmitPath_of_ok hn] at h
        by_cases hne : p = ""
        · rw [if_pos hne] at h
          cases h
        rw [if_neg hne] at h
        by_cases hpasses : Passes p
        · rw [validateRcsPath_of_passes hpasses] at h
          cases h
          exact ⟨(asksFor_iff hpasses.1).mpr hn, hpasses⟩
        · obtain ⟨e, he, -⟩ := validateRcsPath_of_not_passes hpasses
          rw [he] at h
          cases h
  · rintro ⟨hasks, hpasses⟩
    have hne : path ≠ "" := by
      rintro rfl
      cases hpasses.1
    rw [rawSubmitPath_of_ok ((asksFor_iff hpasses.1).mp hasks), if_neg hne,
      validateRcsPath_of_passes hpasses]
    rfl

theorem rawSubmitPath_of_urlRefused (h : UrlRefused given) :
    ∃ message, rawSubmitPath given = .error (.valueError message) := by
  obtain ⟨hurl, message, hmessage⟩ := h
  refine ⟨message, ?_⟩
  rw [rawSubmitPath, normalizeRcsPath_of_url rfl hurl, hmessage]
  rfl

/-- **What the check raises**: an `InvalidRcsPathError`, unless `urlparse` raises. -/
theorem isInvalidRcsPath_of_error {e : PyExc} (h : rawSubmitPath given = .error e) :
    e.IsInvalidRcsPath ↔ ¬ UrlRefused given := by
  constructor
  · rintro ⟨err, rfl, -⟩ hurl
    obtain ⟨message, hmessage⟩ := rawSubmitPath_of_urlRefused hurl
    rw [hmessage] at h
    cases h
  · intro hurl
    cases hn : normalizeRcsPath given with
    | error e' => exact absurd (urlRefused_of_error hn) hurl
    | ok p =>
        rw [rawSubmitPath_of_ok hn] at h
        by_cases hne : p = ""
        · rw [if_pos hne] at h
          cases h
          exact ⟨_, rfl, rfl⟩
        rw [if_neg hne] at h
        by_cases hpasses : Passes p
        · rw [validateRcsPath_of_passes hpasses] at h
          cases h
        · obtain ⟨e', he, hinvalid⟩ := validateRcsPath_of_not_passes hpasses
          rw [he] at h
          cases h
          exact hinvalid

/-! ### What is contained -/

/-- Two dots are spelled by two spellings of a dot. -/
theorem unquote_eq_dots {cs : List Char} :
    unquote cs = "..".toList ↔ ∃ d d', cs = d ++ d' ∧ Spells '.' d ∧ Spells '.' d' := by
  have hdot : '.' ≠ '%' := by decide
  constructor
  · intro h
    obtain ⟨d, rest, rfl, hd, hrest⟩ := (unquote_eq_cons hdot).mp h
    obtain ⟨d', rest', rfl, hd', hnil⟩ := (unquote_eq_cons hdot).mp hrest
    rw [unquote_eq_nil.mp hnil, List.append_nil]
    exact ⟨d, d', rfl, hd, hd'⟩
  · rintro ⟨d, d', rfl, hd, hd'⟩
    have hlast := unquote_spelled hd' []
    rw [List.append_nil] at hlast
    rw [unquote_spelled hd, hlast]
    rfl

/-- A decoded path has a parent segment when the path spells one. -/
theorem mem_segments_iff : "..".toList ∈ (unquote path.toList).splitOn '/' ↔ SpellsParent path := by
  have hslash : '/' ∉ "..".toList := by decide
  rw [mem_splitOn_unquote (by decide) (by decide), and_iff_right hslash]
  constructor
  · rintro ⟨pre, mid, post, hpath, hbetween, hmid⟩
    obtain ⟨d, d', rfl, hd, hd'⟩ := unquote_eq_dots.mp hmid
    exact ⟨pre, d, d', post, hpath, hbetween, hd, hd'⟩
  · rintro ⟨pre, d, d', post, hpath, hbetween, hd, hd'⟩
    exact ⟨pre, d ++ d', post, hpath, hbetween, unquote_eq_dots.mpr ⟨d, d', rfl, hd, hd'⟩⟩

/-- A path that begins with the prefix ends there or goes on with a slash, or it runs on. -/
theorem not_runsOn_iff (hpre : startsWith path rcsPathPrefix = true) :
    ¬ RunsOn path ↔ path = rcsPathPrefix ∨ startsWith path (rcsPathPrefix ++ "/") = true := by
  obtain ⟨rest, rfl⟩ := startsWith_iff.mp hpre
  constructor
  · intro h
    cases hrest : rest.toList with
    | nil =>
        rw [String.toList_eq_nil_iff.mp hrest]
        exact .inl String.append_empty
    | cons c more =>
        have hc : c = '/' := by
          by_contra hne
          exact h ⟨c, more, by rw [String.toList_append, hrest], hne⟩
        refine .inr (startsWith_iff.mpr ⟨.ofList more, String.toList_injective ?_⟩)
        rw [String.toList_append, String.toList_append, String.toList_append, hrest, hc,
          List.append_assoc]
        exact congrArg (fun l => rcsPathPrefix.toList ++ '/' :: l) String.toList_ofList.symm
  · rintro h ⟨c, more, hc, hne⟩
    rw [String.toList_append] at hc
    have hrest := List.append_cancel_left hc
    rcases h with h | h
    · rw [String.append_eq_left_iff.mp h] at hrest
      cases hrest
    · obtain ⟨u, hu⟩ := startsWith_iff.mp h
      rw [String.append_assoc] at hu
      rw [(String.append_right_inj _).mp hu, String.toList_append] at hrest
      exact hne (List.cons.inj hrest).1.symm

/-- **A path that passes the check is contained** unless it runs on or spells a parent segment. -/
theorem contained_iff (hpasses : Passes path) :
    Contained path ↔ ¬ (RunsOn path ∨ SpellsParent path) := by
  rw [Contained, ← not_runsOn_iff hpasses.1, mem_segments_iff, not_or]

/-! ### The submit -/

variable {request : RcsRawSubmitRequest} {idempotencyKey : Option String}

theorem submitRaw_of_error {e : PyExc} (h : rawSubmitPath request.path = .error e) :
    submitRaw request idempotencyKey = .raise e := by
  rw [submitRaw, h]
  rfl

theorem rawCall_path : (rawCall request path).path = path := by
  rw [rawCall]
  cases request.sendSigned <;> rfl

theorem persistTask_callsAt (row : TaskHistory) : Only (CallsAt path) (persistTask row) := by
  refine (persistTask_sql row).mono fun o ho call heq => ?_
  rw [heq] at ho
  exact ho.elim

theorem redisSetex_callsAt (key : String) (ttl : Nat) (value : RedisValue) :
    CallsAt path (.redisSetex key ttl value) := by
  intro call h
  cases h

theorem redisGet_callsAt (key : String) : CallsAt path (.redisGet key) := by
  intro call h
  cases h

theorem finishRaw_callsAt (result : RcsRawSubmitResult) :
    Only (CallsAt path) (finishRaw request path idempotencyKey result) := by
  rw [finishRaw]
  cases truthy idempotencyKey with
  | none => exact .ret _
  | some key => exact .bind (.perform (redisSetex_callsAt _ _ _)) fun _ => .ret _

theorem sendRaw_callsAt : Only (CallsAt path) (sendRaw request path idempotencyKey) := by
  have hcall : CallsAt path (.rcs (rawCall request path)) := by
    rintro _ ⟨⟩
    exact rawCall_path
  refine .bind (.tryCatch (.perform hcall) fun e => .raise _) fun rcsResponse => ?_
  exact recordRaw_only (fun _ => persistTask_callsAt _) fun _ _ => finishRaw_callsAt _

theorem submitRaw_of_ok (h : rawSubmitPath request.path = .ok path) :
    submitRaw request idempotencyKey =
      match truthy idempotencyKey with
      | some key => (lookupRaw key request).bind fun
          | some cached => .ret cached
          | none => sendRaw request path idempotencyKey
      | none => sendRaw request path idempotencyKey := by
  rw [submitRaw, h]
  rfl

theorem path_eq_of_only {path' : String}
    (h : Only (CallsAt path') (sendRaw request path idempotencyKey)) : path' = path := by
  cases h with
  | op ho _ =>
      rw [← ho _ rfl]
      exact rawCall_path

/-- **A submit that passes the check** sends the path it asked for, and no other. -/
theorem sends_iff {path' : String} (h : rawSubmitPath request.path = .ok path) :
    Sends path' (submitRaw request idempotencyKey) ↔ path' = path := by
  rw [Sends, submitRaw_of_ok h]
  cases truthy idempotencyKey with
  | none =>
      refine ⟨fun hsends => path_eq_of_only hsends.2, ?_⟩
      rintro rfl
      exact ⟨fun hended => hended _ _ rfl, sendRaw_callsAt⟩
  | some key =>
      constructor
      · rintro ⟨-, honly⟩
        cases honly with
        | op _ hk => exact path_eq_of_only (hk (.ok none))
      · rintro rfl
        refine ⟨fun hended => hended _ _ rfl, .bind ?_ fun cached => ?_⟩
        · exact .bind (.perform (redisGet_callsAt _)) fun _ => .ofExcept _
        · cases cached with
          | some cached => exact .ret _
          | none => exact sendRaw_callsAt

/-- A submit that the check refuses is guarded when it is refused with the right exception. -/
theorem guarded_of_error {e : PyExc} (h : rawSubmitPath request.path = .error e) :
    PathGuarded request idempotencyKey ↔ e.IsInvalidRcsPath := by
  rw [PathGuarded, submitRaw_of_error h]
  constructor
  · rintro (⟨e', he, hinvalid⟩ | ⟨path, -, hended, -⟩)
    · cases he
      exact hinvalid
    · exact absurd (fun o k heq => by cases heq) hended
  · exact fun hinvalid => .inl ⟨e, rfl, hinvalid⟩

/-- A submit that the check accepts is guarded when its path is contained. -/
theorem guarded_of_ok (h : rawSubmitPath request.path = .ok path) :
    PathGuarded request idempotencyKey ↔ Contained path := by
  constructor
  · rintro (⟨e, he, -⟩ | ⟨path', hcontained, hsends⟩)
    · have hsends : Sends path (submitRaw request idempotencyKey) := (sends_iff h).mpr rfl
      rw [he] at hsends
      exact absurd (fun o k heq => by cases heq) hsends.1
    · rw [← (sends_iff h).mp hsends]
      exact hcontained
  · exact fun hcontained => .inr ⟨path, hcontained, (sends_iff h).mpr rfl⟩

/-- **When a submit is guarded.**  It is refused with an `InvalidRcsPathError` before anything is
done, or sends a path that is contained, exactly when its input does not evade the check. -/
theorem path_guarded_iff (request : RcsRawSubmitRequest) (idempotencyKey : Option String) :
    PathGuarded request idempotencyKey ↔ ¬ Evades request.path := by
  cases h : rawSubmitPath request.path with
  | error e =>
      rw [guarded_of_error h, isInvalidRcsPath_of_error h, Evades, not_or]
      refine (and_iff_left ?_).symm
      rintro ⟨path, hasks, hpasses, -⟩
      rw [rawSubmitPath_eq_ok.mpr ⟨hasks, hpasses⟩] at h
      cases h
  | ok path =>
      obtain ⟨hasks, hpasses⟩ := rawSubmitPath_eq_ok.mp h
      rw [guarded_of_ok h, contained_iff hpasses, not_iff_not]
      constructor
      · exact fun hbad => .inr ⟨path, hasks, hpasses, hbad⟩
      · rintro (hurl | ⟨path', hasks', hpasses', hbad⟩)
        · obtain ⟨message, hmessage⟩ := rawSubmitPath_of_urlRefused hurl
          rw [hmessage] at h
          cases h
        · obtain rfl : path' = path := by
            have h' := rawSubmitPath_eq_ok.mpr ⟨hasks', hpasses'⟩
            rw [h] at h'
            exact (Except.ok.inj h').symm
          exact hbad

/-- A raw submit for the path. -/
def pathRequest (path : String) (path_nonempty : path ≠ "") : RcsRawSubmitRequest where
  path := path
  path_nonempty := path_nonempty

/-- A text that asks for itself, and passes the check. -/
theorem not_guarded_of_text {given : String} {hne : given ≠ ""}
    (htext : isFullUrl given = false ∧ strip given = given ∧ '?' ∉ given.toList)
    (hpasses : startsWith given rcsPathPrefix = true ∧ hasSub given ".." = false)
    (hcontained : ¬ Contained given) : ¬ PathGuarded (pathRequest given hne) none := by
  obtain ⟨hurl, hstrip, hmem⟩ := htext
  have hasks : AsksFor given given :=
    .text (hstrip.symm ▸ hurl) (.inl rfl) hmem (.inl (String.append_empty.trans hstrip.symm))
  have hpath : rawSubmitPath (pathRequest given hne).path = .ok given :=
    rawSubmitPath_eq_ok.mpr ⟨hasks, hpasses⟩
  rwa [guarded_of_ok hpath]

theorem not_guarded_of_urlRefused {given : String} {hne : given ≠ ""} (h : UrlRefused given) :
    ¬ PathGuarded (pathRequest given hne) none := by
  obtain ⟨message, hpath⟩ : ∃ message, rawSubmitPath (pathRequest given hne).path =
    .error (.valueError message) := rawSubmitPath_of_urlRefused h
  rw [guarded_of_error hpath]
  rintro ⟨err, herr, -⟩
  cases herr

/-- **Submits that are not guarded**: two dots are escaped, the prefix runs on, and a URL is refused
by `urlparse`. -/
theorem unguarded_paths :
    ¬ PathGuarded (pathRequest "/rcs/rtas/%2e%2e/%2e%2e/admin" (by decide)) none ∧
      ¬ PathGuarded (pathRequest "/rcs/rtas-internal/x" (by decide)) none ∧
      ¬ PathGuarded (pathRequest "http://[/rcs/rtas/x" (by decide)) none := by
  refine ⟨not_guarded_of_text ?_ ?_ ?_, not_guarded_of_text ?_ ?_ ?_,
    not_guarded_of_urlRefused ⟨?_, "Invalid IPv6 URL", ?_⟩⟩
  all_goals decide

end Rcs

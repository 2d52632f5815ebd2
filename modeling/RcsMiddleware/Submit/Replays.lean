import RcsMiddleware.Submit.Concurrent
import RcsMiddleware.Submit.Envelopes
import RcsMiddleware.Submit.Sequential

/-!
# Submit — Replays

What a repeated raw submit is answered with.  `create_task` marks a result it takes from its cache
as cached; `submit_raw` returns the result as it was saved.

* `submitRaw_savesUnmarked`: the results `submit_raw` saves are not marked.
* `lookupRaw_of_saved`: a lookup returns the result that was saved.
* `replay_marked_iff`: when that is the result marked as cached.
-/

namespace Rcs

open Support Support.Text Support.Prog

/-! ### What is saved -/

/-- An entry the operation stores holds a result that is not marked as cached. -/
def Op.SavesUnmarked (request : RcsRawSubmitRequest) : Op → Prop
  | .redisSetex _ _ value =>
      ∃ path result, value = .json (rawEnvelope request path result) ∧ result.cached = false
  | _ => True

section Saves

variable {request : RcsRawSubmitRequest}

theorem finishRaw_savesUnmarked (path : String) (header : Option String)
    {result : RcsRawSubmitResult} (h : result.cached = false) :
    Only (Op.SavesUnmarked request) (finishRaw request path header result) := by
  rw [finishRaw]
  cases truthy header with
  | none => exact .ret _
  | some key => exact .bind (.perform ⟨path, result, rfl, h⟩) fun _ => .ret _

theorem recordRaw_savesUnmarked (path : String) (header : Option String) (rcsResponse : Json) :
    Only (Op.SavesUnmarked request) (recordRaw request path header rcsResponse) :=
  recordRaw_only (fun _ => persistTask_only trivial trivial trivial) fun _ _ =>
    finishRaw_savesUnmarked path header rfl

/-- **`submit_raw` marks no result** that it saves. -/
theorem submitRaw_savesUnmarked (request : RcsRawSubmitRequest) (header : Option String) :
    Only (Op.SavesUnmarked request) (submitRaw request header) := by
  have hsend : ∀ path, Only (Op.SavesUnmarked request) (sendRaw request path header) := fun path =>
    .bind (.tryCatch (.perform trivial) fun _ => .raise _) fun v =>
      recordRaw_savesUnmarked path header v
  refine .bind (.ofExcept _) fun path => ?_
  cases truthy header with
  | none => exact hsend path
  | some key =>
      refine .bind (.bind (.perform trivial) fun _ => .ofExcept _) fun cached => ?_
      cases cached with
      | none => exact hsend path
      | some cached => exact .ret cached

end Saves

/-! ### What is found -/

variable {ι : Type} [DecidableEq ι] {i : ι} {env : Env} {w w' : World ι} {key path path' : String}
  {request request' : RcsRawSubmitRequest} {result : RcsRawSubmitResult}

/-- A save that goes through leaves the envelope under the key. -/
theorem saveRaw_entry (h : ((saveRaw key request path result).run (respond i env) w).1 = .ok ()) :
    ((saveRaw key request path result).run (respond i env) w).2.redis (idemKey key) =
      some (.json (rawEnvelope request path result)) := by
  rw [saveRaw, run_perform, respond] at h ⊢
  cases hf : env.fault with
  | none => exact Function.update_self _ _ _
  | before e | after e =>
      rw [hf] at h
      cases h

/-- **A lookup returns the result that was saved**, for a request with the same fingerprint. -/
theorem lookupRaw_of_saved (j : ι)
    (hentry : w.redis (idemKey key) = some (.json (rawEnvelope request path result)))
    (hpath : normalizeRcsPath request'.path = .ok path')
    (hsame : rawFingerprint request.method path request.body request.sendSigned =
      rawFingerprint request'.method path' request'.body request'.sendSigned) :
    (lookupRaw key request').run (respond j {}) w = (.ok (some result), w) := by
  have hget : respond j {} (.redisGet (idemKey key)) w = (.ok (w.redis (idemKey key)), w) := rfl
  have hread : readRawCached key request' (w.redis (idemKey key)) = .ok (some result) := by
    rw [hentry]
    show (readRawEnvelope key request' (rawEnvelope request path result)).map some = _
    rw [readRawEnvelope_rawEnvelope key hpath, if_pos hsame]
    rfl
  rw [lookupRaw, bind_eq, run_bind, run_perform, hget, onOk_ok, run_ofExcept, hread]

/-- **A replay is marked as cached** exactly when the result was marked as it was saved.  The entry
is the one that was saved until it expires; `w'` is any world before that. -/
theorem replay_marked_iff (j : ι)
    (hsave : ((saveRaw key request path result).run (respond i env) w).1 = .ok ())
    (hkept : w'.redis (idemKey key) =
      ((saveRaw key request path result).run (respond i env) w).2.redis (idemKey key))
    (hpath : normalizeRcsPath request'.path = .ok path')
    (hsame : rawFingerprint request.method path request.body request.sendSigned =
      rawFingerprint request'.method path' request'.body request'.sendSigned) :
    ((lookupRaw key request').run (respond j {}) w').1 = .ok (some { result with cached := true }) ↔
      result.cached = true := by
  rw [lookupRaw_of_saved j (hkept.trans (saveRaw_entry hsave)) hpath hsame]
  constructor
  · intro h
    exact congrArg RcsRawSubmitResult.cached (Option.some.inj (Except.ok.inj h))
  · intro h
    obtain ⟨_, _, cached, _, _⟩ := result
    cases h
    rfl

/-- A result with the marker set is found as it was saved. -/
theorem replay_marked_marked :
    ((lookupRaw "k" sampleRawRequest).run (respond () {}) ((saveRaw "k" sampleRawRequest
      sampleRawRequest.path ⟨some "T1", some "pending", true, false, []⟩).run (respond () {})
        {}).2).1 = .ok (some ⟨some "T1", some "pending", true, false, []⟩) := by
  have hsave : ((saveRaw "k" sampleRawRequest sampleRawRequest.path
      ⟨some "T1", some "pending", true, false, []⟩).run (respond () {}) ({} : World Unit)).1 =
        .ok () := rfl
  exact (replay_marked_iff () hsave rfl (by rfl) rfl).mpr rfl

/-- The answer to the second of two equal requests with a key, served one after the other, and the
number of calls RCS has received. -/
def secondAnswer {α : Type} (serve : M α) (tables : Tables) : Except PyExc α × Nat :=
  let rcs : Env := accepted "T1"
  let first := serve.run (respond () rcs) { db := tables }
  let second := serve.run (respond () rcs) first.2
  (second.1, second.2.rcsLog.length)

/-- **A replay that is not marked.**  The second of two equal raw submits is answered from the cache
with `cached = false`; the second of two equal requests of `create_task`, with `cached = true`. -/
theorem replay_not_marked :
    (∃ result, secondAnswer (submitRaw sampleRawRequest (some "k")) {} = (.ok result, 1) ∧
      result.cached = false) ∧
    ∃ result, secondAnswer (createTask sampleRequest (some "k")) sampleTables = (.ok result, 1) ∧
      result.cached = true :=
  ⟨⟨_, rfl, rfl⟩, _, rfl, rfl⟩

end Rcs

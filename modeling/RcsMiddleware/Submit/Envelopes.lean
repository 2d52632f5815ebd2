import RcsMiddleware.Source.RcsSubmitService
import RcsMiddleware.Support.JsonText

/-!
# Submit — Envelopes

What the lookups of the two submit services make of the documents their saves store.  Each service
stores its result in an envelope with a fingerprint of the request, under a name of its own, so a
lookup gives back the result it finds for an equal request, and refuses any other document.

* `fingerprint_injective`: different requests of `create_task` have different fingerprints.
* `readEnvelope_envelope`, `readRawEnvelope_rawEnvelope`: an entry read by its own service.
* `readEnvelope_refuses`, `readRawEnvelope_refuses`: any other document.
-/

namespace Rcs

open Support Support.Text Support.Json

/-! ### The fingerprint -/

/-- The members of a request, in the order of their names. -/
theorem sortFields_request (robotType sourceCode targetCode priority : String) :
    sortFields [("robotType", robotType), ("sourceCode", sourceCode), ("targetCode", targetCode),
        ("priority", priority)] =
      [("priority", priority), ("robotType", robotType), ("sourceCode", sourceCode),
        ("targetCode", targetCode)] := by
  have h₁ : ¬ "targetCode" ≤ "priority" := by decide
  have h₂ : ¬ "sourceCode" ≤ "priority" := by decide
  have h₃ : ¬ "robotType" ≤ "priority" := by decide
  have h₄ : "robotType" ≤ "sourceCode" := by decide
  have h₅ : "sourceCode" ≤ "targetCode" := by decide
  simp [sortFields, List.insertionSort, List.orderedInsert, h₁, h₂, h₃, h₄, h₅]

theorem toList_fingerprint (r : TaskCreateRequest) : (fingerprint r).toList =
    "\x7b".toList ++ ((quote "priority").toList ++ (":".toList ++ (r.priority.repr.toList ++ ',' ::
      ((quote "robotType").toList ++ (":".toList ++ ((quote r.robotType).toList ++ (",".toList ++
      ((quote "sourceCode").toList ++ (":".toList ++ ((quote r.sourceCode).toList ++ (",".toList ++
      ((quote "targetCode").toList ++ (":".toList ++ ((quote r.targetCode).toList ++
        "\x7d".toList)))))))))))))) := by
  have hjoin : ∀ a b c d : String,
      ",".intercalate [a, b, c, d] = a ++ "," ++ b ++ "," ++ c ++ "," ++ d := fun _ _ _ _ => rfl
  rw [fingerprint, TaskCreateRequest.modelDump, dumpsSorted, dumpsWith]
  simp only [dumpsFields, dumpsWith, sortFields_request, List.map_cons, List.map_nil, hjoin,
    String.toList_append, List.append_assoc]
  rfl

/-- **Different requests have different fingerprints.** -/
theorem fingerprint_injective {r s : TaskCreateRequest} (h : fingerprint r = fingerprint s) :
    r = s := by
  have htext := congrArg String.toList h
  rw [toList_fingerprint, toList_fingerprint] at htext
  -- Read the members one after the other.
  have h₁ := List.append_cancel_left (List.append_cancel_left (List.append_cancel_left htext))
  obtain ⟨hpriority, h₁⟩ := digits_append_inj (c := ',') (d := ',') rfl rfl h₁
  have h₂ := List.append_cancel_left (List.append_cancel_left (List.cons.inj h₁).2)
  obtain ⟨hrobotType, h₂⟩ := quote_append_inj h₂
  have h₃ := List.append_cancel_left (List.append_cancel_left (List.append_cancel_left h₂))
  obtain ⟨hsourceCode, h₃⟩ := quote_append_inj h₃
  have h₄ := List.append_cancel_left (List.append_cancel_left (List.append_cancel_left h₃))
  obtain ⟨htargetCode, -⟩ := quote_append_inj h₄
  cases r
  cases s
  cases hpriority
  cases hrobotType
  cases hsourceCode
  cases htargetCode
  rfl

/-- The exception of a lookup of `create_task` that finds another request under its key. -/
def duplicateKeyError (key : String) : PyExc :=
  .app (.mk' .duplicateTaskError (some "Idempotency-Key reused with a different payload.") none
    (some [("idempotency_key", .str key)]))

/-- The exception of a lookup of `submit_raw` that finds another request under its key. -/
def duplicateRawKeyError (key : String) : PyExc :=
  .app (.mk' .duplicateTaskError (some "Idempotency-Key reused with a different RCS request.") none
    (some [("idempotency_key", .str key)]))

variable {key : String} {fields : List (String × Json)}

/-! ### Entries of `create_task` -/

/-- A lookup of `create_task` gives back what it finds for an equal request, now as cached. -/
theorem readEnvelope_envelope (key : String) (request request' : TaskCreateRequest)
    (result : TaskCreateResponseData) :
    readEnvelope key request (envelope request' result) =
      if fingerprint request' = fingerprint request then .ok { result with cached := true }
      else .error (duplicateKeyError key) := by
  have hstored : dictGet (envelope request' result) "request_fingerprint" =
      .ok (some (.str (fingerprint request'))) := rfl
  have hdata : dictGet (envelope request' result) "response" = .ok (some result.modelDump) := rfl
  have horEmpty : Json.orEmpty (some result.modelDump) = result.modelDump := rfl
  have hcode : cachedStr result.modelDump "robotTaskCode" = .ok result.robotTaskCode := rfl
  have hstatus : cachedStr result.modelDump "status" = .ok result.status := rfl
  by_cases hf : fingerprint request' = fingerprint request
  · rw [readEnvelope, hstored, if_pos hf]
    simp only [bind, Except.bind, Json.eqStr_str, hf, decide_true, if_true, hdata, horEmpty, hcode,
      hstatus]
    rfl
  · rw [readEnvelope, hstored, if_neg hf]
    simp only [bind, Except.bind, Json.eqStr_str, hf, decide_false]
    rfl

/-- A lookup of `create_task` refuses a document without its fingerprint. -/
theorem readEnvelope_refuses (key : String) (request : TaskCreateRequest)
    (h : Json.field fields "request_fingerprint" = none) :
    readEnvelope key request (.obj fields) = .error (duplicateKeyError key) := by
  rw [readEnvelope, dictGet_obj, h]
  rfl

/-! ### Entries of `submit_raw` -/

/-- A result is read as it was written. -/
theorem modelValidate_modelDump (result : RcsRawSubmitResult) :
    RcsRawSubmitResult.modelValidate result.modelDump = .ok result := by
  obtain ⟨code, status, cached, persisted, rcs⟩ := result
  cases code <;> cases status <;> rfl

theorem readRawEnvelope_rawEnvelope (key : String) {request : RcsRawSubmitRequest} {path : String}
    (hpath : normalizeRcsPath request.path = .ok path) (request' : RcsRawSubmitRequest)
    (path' : String) (result : RcsRawSubmitResult) :
    readRawEnvelope key request (rawEnvelope request' path' result) =
      if rawFingerprint request'.method path' request'.body request'.sendSigned =
          rawFingerprint request.method path request.body request.sendSigned then .ok result
      else .error (duplicateRawKeyError key) := by
  have hstored : dictGet (rawEnvelope request' path' result) "fingerprint" = .ok (some (.str
      (rawFingerprint request'.method path' request'.body request'.sendSigned))) := rfl
  have hdata : dictGet (rawEnvelope request' path' result) "result" = .ok (some result.modelDump) :=
    rfl
  have horEmpty : Json.orEmpty (some result.modelDump) = result.modelDump := rfl
  rw [readRawEnvelope, hpath]
  by_cases hf : rawFingerprint request'.method path' request'.body request'.sendSigned =
      rawFingerprint request.method path request.body request.sendSigned
  · rw [if_pos hf]
    simp only [bind, Except.bind, hstored, Json.eqStr_str, hf, decide_true, if_true, hdata, horEmpty]
    exact modelValidate_modelDump result
  · rw [if_neg hf]
    simp only [bind, Except.bind, hstored, Json.eqStr_str, hf, decide_false]
    rfl

theorem readRawEnvelope_refuses (key : String) {request : RcsRawSubmitRequest} {path : String}
    (hpath : normalizeRcsPath request.path = .ok path)
    (h : Json.field fields "fingerprint" = none) :
    readRawEnvelope key request (.obj fields) = .error (duplicateRawKeyError key) := by
  rw [readRawEnvelope, hpath]
  simp only [bind, Except.bind, dictGet_obj, h]
  rfl

end Rcs

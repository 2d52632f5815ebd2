import Mathlib.Data.Set.BooleanAlgebra
import Mathlib.Order.CompletePartialOrder
import RcsMiddleware.Submit.Envelopes
import RcsMiddleware.Support.Facts

/-!
# Submit — Recorded tasks

The entries of the idempotency caches and the rows of `task_history`.  The row and the entry are
written one after the other in two stores, and any step may fail.  The facts of `Facts.lean` are here
the codes of the committed rows, which no step takes away, and the note of a process is the code its
session has inserted.  The discipline: an entry may be stored when the task it names is recorded.

* `exec_recorded`: no step takes a committed row away.
* `Saved codes doc`: a document of one of the caches names a code among `codes`; what the lookups
  read from it does too (`Saved.readEnvelope`, `Saved.readRawEnvelope`).
* `recording_governs`: every step of the middleware is sound for the discipline.
-/

namespace Rcs

open Support Support.Text

/-! ### What is committed stays -/

/-- The codes of the committed rows. -/
def recorded {ι : Type} (w : World ι) : Set String :=
  { code | (w.db.tasks.find? code).isSome = true }

theorem find?_insert_isSome {t : TaskTable} {row : TaskHistory} (h : t.violated? row = none)
    {code : String} (hc : (t.find? code).isSome = true) :
    ((t.insert row h).find? code).isSome = true := by
  rw [TaskTable.find?_insert]
  split
  · rfl
  · exact hc

theorem find?_update_isSome {t : TaskTable} {code' : String} {u : StatusUpdate} {code : String}
    (hc : (t.find? code).isSome = true) : ((t.update code' u).find? code).isSome = true := by
  rw [TaskTable.find?_update]
  split
  · rwa [Option.isSome_map]
  · exact hc

/-- A change of a transaction takes no row away. -/
theorem Write.run_keeps {db db' : Tables} {write : Write} (h : write.run db = .ok db')
    {code : String} (hc : (db.tasks.find? code).isSome = true) :
    (db'.tasks.find? code).isSome = true := by
  cases write with
  | insertTask row =>
      cases hv : db.tasks.violated? row with
      | some column =>
          rw [Write.run, TaskTable.insert?_of_violated hv] at h
          cases h
      | none =>
          rw [Write.run, TaskTable.insert?_of_not_violated hv] at h
          cases h
          exact find?_insert_isSome hv hc
  | updateTask code' u =>
      cases h
      exact find?_update_isSome hc
  | insertLog row =>
      cases h
      exact hc
  | insertConfig _ _ | updateConfig _ _ _ =>
      simp only [Write.run] at h
      split at h <;> cases h <;> exact hc

/-- An inserted row is there. -/
theorem Write.run_inserts {db db' : Tables} {row : TaskHistory}
    (h : (Write.insertTask row).run db = .ok db') :
    (db'.tasks.find? row.robotTaskCode).isSome = true := by
  cases hv : db.tasks.violated? row with
  | some column =>
      rw [Write.run, TaskTable.insert?_of_violated hv] at h
      cases h
  | none =>
      rw [Write.run, TaskTable.insert?_of_not_violated hv] at h
      cases h
      show ((db.tasks.insert row hv).find? row.robotTaskCode).isSome = true
      rw [TaskTable.find?_insert, if_pos rfl]
      rfl

/-- A transaction keeps the rows there are and adds those it inserts. -/
theorem foldlM_keeps {writes : List Write} {db db' : Tables}
    (h : writes.foldlM Write.run db = .ok db') {code : String}
    (hc : (db.tasks.find? code).isSome = true ∨
      ∃ row, Write.insertTask row ∈ writes ∧ row.robotTaskCode = code) :
    (db'.tasks.find? code).isSome = true := by
  induction writes generalizing db with
  | nil =>
      cases h
      rcases hc with hc | ⟨row, hm, -⟩
      · exact hc
      · cases hm
  | cons write rest ih =>
      rw [List.foldlM_cons] at h
      cases hw : write.run db with
      | error column =>
          rw [hw] at h
          cases h
      | ok db₁ =>
          rw [hw] at h
          refine ih h ?_
          rcases hc with hc | ⟨row, hm, rfl⟩
          · exact .inl (Write.run_keeps hw hc)
          · rcases List.mem_cons.mp hm with rfl | hm
            · exact .inl (Write.run_inserts hw)
            · exact .inr ⟨row, hm, rfl⟩

variable {ι : Type} [DecidableEq ι] {i : ι} {w w' : World ι}

/-- What a commit that does not fail leaves. -/
theorem exec_commit {pending : List Write} {r : Except PyExc Unit}
    (h : Exec i (.commit pending) w r w') :
    recorded w ⊆ recorded w' ∧ (r = .ok () → ∀ code row, Write.insertTask row ∈ w.sessions i →
      row.robotTaskCode = code → code ∈ recorded w') := by
  have hbase : respond i {} (.commit pending) w = w.commit i pending := rfl
  have hcommit := exec_store h id
  rw [hbase, World.commit] at hcommit
  cases hdb : (w.sessions i ++ pending).foldlM Write.run w.db with
  | error column =>
      rw [hdb] at hcommit
      rcases hcommit with hok | ⟨e, rfl, rfl | rfl⟩
      · obtain ⟨rfl, rfl⟩ := Prod.mk.inj hok
        exact ⟨fun _ hc => hc, fun hr => by cases hr⟩
      · exact ⟨fun _ hc => hc, fun hr => by cases hr⟩
      · exact ⟨fun _ hc => hc, fun hr => by cases hr⟩
  | ok db =>
      rw [hdb] at hcommit
      have hkeep : ∀ code, code ∈ recorded w → (db.tasks.find? code).isSome = true :=
        fun code hc => foldlM_keeps hdb (.inl hc)
      rcases hcommit with hok | ⟨e, rfl, rfl | rfl⟩
      · obtain ⟨rfl, rfl⟩ := Prod.mk.inj hok
        refine ⟨hkeep, fun _ code row hm hc => ?_⟩
        exact foldlM_keeps hdb (.inr ⟨row, List.mem_append_left _ hm, hc⟩)
      · exact ⟨fun _ hc => hc, fun hr => by cases hr⟩
      · exact ⟨hkeep, fun hr => by cases hr⟩

/-- **No step takes a committed row away.** -/
theorem exec_recorded {o : Op} {r : Except PyExc (Ret o)} (h : Exec i o w r w') :
    recorded w ⊆ recorded w' := by
  by_cases ho : ∀ pending, o ≠ .commit pending
  · intro code hc
    show (w'.db.tasks.find? code).isSome = true
    rw [h.db ho]
    exact hc
  · obtain ⟨pending, rfl⟩ : ∃ pending, o = .commit pending := by simpa using ho
    exact (exec_commit h).1

/-! ### What is stored in Redis -/

/-- The value an operation stores. -/
def Op.stored? : Op → Option RedisValue
  | .redisSet _ value | .redisSetNx _ value _ | .redisSetex _ _ value => some value
  | _ => none

/-- An entry was there before, or has just been stored. -/
theorem exec_stored {o : Op} {r : Except PyExc (Ret o)} (h : Exec i o w r w') {key : String}
    {value : RedisValue} (hkey : w'.redis key = some value) :
    w.redis key = some value ∨ o.stored? = some value := by
  by_cases hsql : o.Sql
  · rw [(exec_sql h hsql).1] at hkey
    exact .inl hkey
  have hset : ∀ {key' value'}, (w.setRedis key' value').redis key = some value →
      w.redis key = some value ∨ value' = value := by
    intro key' value' h'
    rw [World.setRedis_redis, Function.update_apply] at h'
    split at h'
    · exact .inr (Option.some.inj h')
    · exact .inl h'
  have hbase : (respond i {} o w).2.redis key = some value →
      w.redis key = some value ∨ o.stored? = some value := by
    intro h'
    cases o with
    | redisSet key' value' | redisSetex key' _ value' => exact (hset h').imp_right (congrArg some)
    | redisSetNx key' value' ttl =>
        simp only [respond, Fault.strike] at h'
        split at h'
        · exact (hset h').imp_right (congrArg some)
        · exact .inl h'
    | redisGet _ | rcs _ | sign _ _ _ | http _ | delay _ | now => exact .inl h'
    | _ => exact absurd trivial hsql
  by_cases hout : o.Outside
  · obtain ⟨-, env, henv⟩ := h
    cases o with
    | rcs _ | sign _ _ _ | http _ | now =>
        cases henv
        exact .inl hkey
    | _ => exact hout.elim
  · rcases exec_store h hout with hok | ⟨e, -, rfl | rfl⟩
    · rw [← hok] at hbase
      exact hbase hkey
    · exact .inl hkey
    · exact hbase hkey

/-! ### The documents of the caches -/

/-- The result names a task among `codes`, if it claims to be recorded. -/
def RcsRawSubmitResult.NamesRecorded (codes : Set String) (result : RcsRawSubmitResult) : Prop :=
  result.persisted = true → ∃ code, code ∈ codes ∧ result.robotTaskCode = some code

/-- A document stored in Redis: an entry of `create_task`, one of `submit_raw`, or a document that
neither of them takes for one of its own. -/
inductive Saved (codes : Set String) : Json → Prop where
  | create (request : TaskCreateRequest) {result : TaskCreateResponseData}
      (h : result.robotTaskCode ∈ codes) : Saved codes (envelope request result)
  | raw (request : RcsRawSubmitRequest) (path : String) {result : RcsRawSubmitResult}
      (h : result.NamesRecorded codes) : Saved codes (rawEnvelope request path result)
  | other {fields : List (String × Json)}
      (hcreate : Json.field fields "request_fingerprint" = none)
      (hraw : Json.field fields "fingerprint" = none) : Saved codes (.obj fields)

theorem Saved.mono {codes codes' : Set String} {doc : Json} (h : Saved codes doc)
    (hle : codes ⊆ codes') : Saved codes' doc := by
  cases h with
  | create request h => exact .create request (hle h)
  | raw request path h =>
      refine .raw request path fun hp => ?_
      obtain ⟨code, hcode, hresult⟩ := h hp
      exact ⟨code, hle hcode, hresult⟩
  | other hcreate hraw => exact .other hcreate hraw

variable {codes : Set String}

/-- An entry of `create_task` names a recorded task. -/
theorem Saved.of_envelope {request : TaskCreateRequest} {result : TaskCreateResponseData}
    (h : Saved codes (envelope request result)) : result.robotTaskCode ∈ codes := by
  generalize hdoc : envelope request result = doc at h
  cases h with
  | create request' h =>
      simp only [envelope, TaskCreateResponseData.modelDump, Json.obj.injEq, List.cons.injEq,
        Prod.mk.injEq, Json.str.injEq, true_and, and_true] at hdoc
      rw [hdoc.2.1]
      exact h
  | raw request' path h => simp [envelope, rawEnvelope] at hdoc
  | other hcreate hraw =>
      cases hdoc
      cases hcreate

theorem jsonOpt_injective {a b : Option String} (h : jsonOpt a = jsonOpt b) : a = b := by
  cases a <;> cases b <;> simp_all [jsonOpt]

theorem Saved.of_rawEnvelope {request : RcsRawSubmitRequest} {path : String}
    {result : RcsRawSubmitResult} (h : Saved codes (rawEnvelope request path result)) :
    result.NamesRecorded codes := by
  generalize hdoc : rawEnvelope request path result = doc at h
  cases h with
  | create request' h => simp [envelope, rawEnvelope] at hdoc
  | raw request' path' h =>
      simp only [rawEnvelope, RcsRawSubmitResult.modelDump, Json.obj.injEq, List.cons.injEq,
        Prod.mk.injEq, Json.str.injEq, Json.bool.injEq, true_and, and_true] at hdoc
      obtain ⟨-, hcode, -, -, hpersisted, -⟩ := hdoc
      rw [RcsRawSubmitResult.NamesRecorded, hpersisted, jsonOpt_injective hcode]
      exact h
  | other hcreate hraw =>
      cases hdoc
      cases hraw

/-- A lookup of `create_task` answers with a recorded task. -/
theorem Saved.readEnvelope {doc : Json} (h : Saved codes doc) {key : String}
    {request : TaskCreateRequest} {result : TaskCreateResponseData}
    (hr : Rcs.readEnvelope key request doc = .ok result) : result.robotTaskCode ∈ codes := by
  cases h with
  | create request' h =>
      rw [readEnvelope_envelope] at hr
      split at hr
      · cases hr
        exact h
      · cases hr
  | raw request' path' h => cases (readEnvelope_refuses key request rfl).symm.trans hr
  | other hcreate hraw => cases (readEnvelope_refuses key request hcreate).symm.trans hr

theorem Saved.readRawEnvelope {doc : Json} (h : Saved codes doc) {key : String}
    {request : RcsRawSubmitRequest} {result : RcsRawSubmitResult}
    (hr : Rcs.readRawEnvelope key request doc = .ok result) : result.NamesRecorded codes := by
  cases hpath : normalizeRcsPath request.path with
  | error e =>
      rw [Rcs.readRawEnvelope, hpath] at hr
      cases hr
  | ok path =>
      cases h with
      | create request' h => cases (readRawEnvelope_refuses key hpath rfl).symm.trans hr
      | raw request' path' h =>
          rw [readRawEnvelope_rawEnvelope key hpath] at hr
          split at hr
          · cases hr
            exact h
          · cases hr
      | other hcreate hraw => cases (readRawEnvelope_refuses key hpath hraw).symm.trans hr

/-! ### The discipline -/

/-- A value the middleware stores. -/
def SavedValue (codes : Set String) : RedisValue → Prop
  | .text _ => True
  | .json doc => Saved codes doc

/-- What a process may note: a row its session has inserted, until the commit. -/
def Notes (codes inserted : Set String) :
    (o : Op) → Except PyExc (Ret o) → Set String → Prop
  | .insertTask row, .ok _, inserted' => inserted' = {row.robotTaskCode}
  | .commit _, .ok _, inserted' => inserted ⊆ codes ∧ inserted' = ∅
  | .redisGet _, .ok value, inserted' => (∀ v ∈ value, SavedValue codes v) ∧ inserted' = ∅
  | _, _, inserted' => inserted' = ∅

/-- Only values whose tasks are recorded are stored. -/
def recording : Discipline Op Ret PyExc (Set String) (Set String) where
  allows codes o := ∀ value ∈ o.stored?, SavedValue codes value
  learns := Notes

/-- What Redis holds is as the discipline has it. -/
def Consistent {ι : Type} (w : World ι) : Prop :=
  ∀ key value, w.redis key = some value → SavedValue (recorded w) value

/-- The session of `i` inserts rows with these codes. -/
def Inserts {ι : Type} (w : World ι) (i : ι) (inserted : Set String) : Prop :=
  ∀ code ∈ inserted, ∃ row, Write.insertTask row ∈ w.sessions i ∧ row.robotTaskCode = code

theorem SavedValue.mono {codes codes' : Set String} {value : RedisValue} (h : SavedValue codes value)
    (hle : codes ⊆ codes') : SavedValue codes' value := by
  cases value with
  | text s => trivial
  | json doc => exact Saved.mono h hle

omit [DecidableEq ι] in
theorem Inserts.empty (w : World ι) (i : ι) : Inserts w i ∅ := fun _ h => h.elim

/-- What a step lets its process note. -/
theorem exec_notes {o : Op} {r : Except PyExc (Ret o)} (h : Exec i o w r w') (hw : Consistent w)
    {inserted : Set String} (hi : Inserts w i inserted) :
    ∃ inserted', Inserts w' i inserted' ∧ Notes (recorded w') inserted o r inserted' := by
  cases r with
  | error e =>
      refine ⟨∅, .empty w' i, ?_⟩
      cases o <;> rfl
  | ok v =>
      cases o with
      | insertTask row =>
          refine ⟨{row.robotTaskCode}, ?_, rfl⟩
          have hok := exec_ok h id
          simp only [respond, Fault.strike] at hok
          cases hv : w.db.tasks.violated? row with
          | some column =>
              rw [hv] at hok
              cases hok
          | none =>
              rw [hv] at hok
              cases hok
              rintro code rfl
              refine ⟨row, ?_, rfl⟩
              rw [World.setSession_self]
              exact List.mem_append_right _ (List.mem_singleton_self _)
      | commit pending =>
          refine ⟨∅, .empty w' i, ?_, rfl⟩
          intro code hcode
          obtain ⟨row, hm, hrow⟩ := hi code hcode
          exact (exec_commit h).2 rfl code row hm hrow
      | redisGet key =>
          refine ⟨∅, .empty w' i, ?_, rfl⟩
          cases exec_ok h id
          exact fun value hvalue => hw key value hvalue
      | _ => exact ⟨∅, .empty w' i, rfl⟩

theorem recording_governs (expires : String → Prop) :
    recording.Governs (system expires : System ι Op Ret PyExc (World ι)) recorded Consistent
      Inserts where
  step := by
    intro i o w r w' inserted h hw hi ho
    have hle := exec_recorded h
    refine ⟨fun key value hkey => ?_, hle, exec_notes h hw hi, fun j inserted' hj hown => ?_⟩
    · rcases exec_stored h hkey with hold | hnew
      · exact (hw key value hold).mono hle
      · exact (ho value hnew).mono hle
    · intro code hcode
      rw [h.sessions_other hj]
      exact hown code hcode
  env := by
    rintro w w' ⟨key, -, rfl⟩ hw
    refine ⟨fun key' value hkey => ?_, le_rfl, fun _ _ h => h⟩
    rw [World.dropRedis_redis, Function.update_apply] at hkey
    split at hkey
    · cases hkey
    · exact hw key' value hkey

end Rcs

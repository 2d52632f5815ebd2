import RcsMiddleware.Source.Worker
import RcsMiddleware.Support.AbsorbingRegister

/-!
# Feedback — Executions

Executions of `process_task_feedback` for one task, beside the request that creates its row.  An
execution selects the row, decides, updates it and commits; the decision is made on the row it
selected, and the `UPDATE` has no condition on the status.

`Stands code target φ ws p`: a process with the program `p` left and the uncommitted changes `ws`
is in phase `φ` of an execution that is to write the status `target` to the task `code`.

* `processTaskFeedback_stands`: an execution starts in the phase `unread`.
* `Stands.simulates`: while no commit makes the row terminal beside an execution that is to write
  another status (`NoOvertaking`), executions are a run of `Support/AbsorbingRegister.lean`, in
  which the register is the committed status.
-/

namespace Rcs

open Support Support.Text
open Register (Phase)

variable {ι : Type} [DecidableEq ι] {α β : Type}

/-! ### Programs that leave the row alone -/

/-- The operation is no part of selecting or writing a row. -/
def Op.Harmless : Op → Prop
  | .selectTask _ | .insertTask _ | .updateTask _ _ | .commit _ => False
  | _ => True

/-- The operation may be part of creating a pending row, and of no update. -/
def Op.Creating : Op → Prop
  | .insertTask row => row.status = .pending
  | .selectTask _ | .updateTask _ _ => False
  | .commit pending => pending = []
  | _ => True

/-- The program raises, whatever happens, and writes no row before. -/
inductive Fails : M α → Prop where
  | raise (e : PyExc) : Fails (.raise e)
  | op {o : Op} {k : Except PyExc (Ret o) → M α} (ho : o.Harmless) (hk : ∀ r, Fails (k r)) :
      Fails (.op o k)

theorem Fails.bind {p : M α} (h : Fails p) (f : α → M β) : Fails (p.bind f) := by
  induction h with
  | raise e => exact .raise e
  | op ho _ ih => exact .op ho ih

/-- The change inserts a pending row. -/
def Write.InsertsPending : Write → Prop
  | .insertTask row => row.status = .pending
  | _ => False

theorem insertsPending_nil : ∀ write ∈ ([] : List Write), write.InsertsPending :=
  fun _ h => absurd h List.not_mem_nil

/-! ### The phases of an execution -/

/-- A process in a phase of an execution, with its uncommitted changes. -/
inductive Stands (code : String) (target : TaskStatus) : Phase → List Write → M α → Prop where
  | wait {o : Op} {k : Except PyExc (Ret o) → M α} (ho : o.Harmless)
      (hok : ∀ r, Stands code target .unread [] (k (.ok r))) (herr : ∀ e, Fails (k (.error e))) :
      Stands code target .unread [] (.op o k)
  | select {k : Except PyExc (Option TaskHistory) → M α}
      (hnone : Stands code target (.settled false) [] (k (.ok none)))
      (hlate : ∀ row : TaskHistory, row.status.terminal = true →
        Stands code target (.settled true) [] (k (.ok (some row))))
      (hread : ∀ row : TaskHistory, row.status.terminal = false →
        Stands code target .holding [] (k (.ok (some row))))
      (herr : ∀ e, Fails (k (.error e))) :
      Stands code target .unread [] (.op (.selectTask code) k)
  | update {u : StatusUpdate} {k : Except PyExc Nat → M α} (hu : u.status = target)
      (hok : ∀ n, Stands code target .holding [.updateTask code u] (k (.ok n)))
      (herr : ∀ e, Fails (k (.error e))) :
      Stands code target .holding [] (.op (.updateTask code u) k)
  | commit {u : StatusUpdate} {k : Except PyExc Unit → M α} (hu : u.status = target)
      (hok : Stands code target (.settled true) [] (k (.ok ())))
      (herr : ∀ e, Fails (k (.error e))) :
      Stands code target .holding [.updateTask code u] (.op (.commit []) k)
  | settled {saw : Bool} {ws : List Write} {p : M α} (hw : ∀ write ∈ ws, write.InsertsPending)
      (hp : Prog.Only Op.Creating p) : Stands code target (.settled saw) ws p
  | gone {ws : List Write} {p : M α} (hp : Fails p) : Stands code target .gone ws p

/-- What follows `_update_task_history`. -/
def afterUpdate (payload : TaskFeedbackPayload) (target : TaskStatus) (now : DateTime)
    (updated : Bool) : M FeedbackResult :=
  (withSession (return updated)).bind fun dbUpdated => do
    let cacheUpdated ← updateRobotState payload target now
    return { updated := dbUpdated, cacheUpdated := some cacheUpdated }

theorem afterUpdate_creating (payload : TaskFeedbackPayload) (target : TaskStatus)
    (now : DateTime) (updated : Bool) :
    Prog.Only Op.Creating (afterUpdate payload target now updated) := by
  refine .bind (.bind (.ret _) fun _ => .bind (.perform trivial) fun _ => .ret _) fun _ => ?_
  refine .bind ?_ fun _ => .ret _
  unfold updateRobotState
  cases truthy payload.amrCode with
  | none => exact .ret _
  | some amrCode => exact .bind (.perform trivial) fun _ => .ret _

/-- An exception inside the session closes it and goes on. -/
theorem fails_close (e : PyExc) (f : Bool → M α) :
    Fails ((((perform .close).bind fun _ => .raise e : M Bool).bind fun a =>
      (perform .close).bind fun _ => .ret a).bind f) := by
  refine .op trivial fun r => ?_
  cases r with
  | ok _ => exact .raise e
  | error e' => exact .raise e'

theorem status_statusUpdate {existing : TaskHistory} {method : String} {target : TaskStatus}
    {amrCode errorMsg : Option String} {now : DateTime} :
    (statusUpdate existing method target amrCode errorMsg now).status = target :=
  rfl

/-- **An execution starts unread**, when its payload names a task and a method. -/
theorem processTaskFeedback_stands (payload : TaskFeedbackPayload)
    (hcode : strip payload.robotTaskCode ≠ "") (hmethod : strip payload.method ≠ "") :
    Stands (strip payload.robotTaskCode) (targetStatus (strip payload.method)) .unread []
      (processTaskFeedback payload) := by
  unfold processTaskFeedback
  rw [if_neg (not_or.mpr ⟨hcode, hmethod⟩)]
  have hafter := afterUpdate_creating payload (targetStatus (strip payload.method))
  refine .wait trivial (fun now => ?_) fun e => .raise e
  refine .select ?_ (fun row hrow => ?_) (fun row hrow => ?_) fun e => fails_close e _
  · exact .settled insertsPending_nil (hafter now false)
  · show Stands _ _ _ _ ((withSession (applyFeedback (some row) _ _ _ _ _ now)).bind _)
    rw [applyFeedback, if_pos hrow]
    exact .settled insertsPending_nil (hafter now false)
  · show Stands _ _ _ _ ((withSession (applyFeedback (some row) _ _ _ _ _ now)).bind _)
    rw [applyFeedback, if_neg (Bool.eq_false_iff.mp hrow)]
    refine .update status_statusUpdate (fun n => ?_) fun e => fails_close e _
    refine .commit status_statusUpdate ?_ fun e => fails_close e _
    exact .settled insertsPending_nil (hafter now (0 < n))

/-- An execution whose payload names no task or no method does nothing. -/
theorem processTaskFeedback_blank {payload : TaskFeedbackPayload}
    (h : strip payload.robotTaskCode = "" ∨ strip payload.method = "") :
    processTaskFeedback payload = .ret { updated := false, reason := some "missing_fields" } := by
  unfold processTaskFeedback
  rw [if_pos h]
  rfl

theorem processTaskFeedback_starts (payload : TaskFeedbackPayload) :
    ∃ φ : Phase, (φ = .unread ∨ φ = .settled false) ∧
      Stands (strip payload.robotTaskCode) (targetStatus (strip payload.method)) φ []
        (processTaskFeedback payload) := by
  by_cases h : strip payload.robotTaskCode = "" ∨ strip payload.method = ""
  · rw [processTaskFeedback_blank h]
    exact ⟨.settled false, .inr rfl, .settled insertsPending_nil (.ret _)⟩
  · obtain ⟨hcode, hmethod⟩ := not_or.mp h
    exact ⟨.unread, .inl rfl, processTaskFeedback_stands payload hcode hmethod⟩

/-- What follows an execution creates no more than a pending row. -/
theorem Stands.bind {code : String} {target : TaskStatus} {φ : Phase} {ws : List Write} {p : M α}
    (h : Stands code target φ ws p) {f : α → M β} (hf : ∀ a, Prog.Only Op.Creating (f a)) :
    Stands code target φ ws (p.bind f) := by
  induction h with
  | wait ho _ herr ih => exact .wait ho ih fun e => (herr e).bind f
  | select _ _ _ herr ihnone ihlate ihread =>
      exact .select ihnone ihlate ihread fun e => (herr e).bind f
  | update hu _ herr ih => exact .update hu ih fun e => (herr e).bind f
  | commit hu _ herr ih => exact .commit hu ih fun e => (herr e).bind f
  | settled hw hp => exact .settled hw (hp.bind hf)
  | gone hp => exact .gone (hp.bind f)

/-- A process that has returned has ended its execution. -/
theorem Stands.settled_of_returned {code : String} {target : TaskStatus} {φ : Phase}
    {ws : List Write} {p : M α} (h : Stands code target φ ws p) (hp : p.returned = true) :
    ∃ saw, φ = .settled saw := by
  cases h with
  | wait _ _ _ | select _ _ _ _ | update _ _ _ | commit _ _ _ => cases hp
  | settled _ _ => exact ⟨_, rfl⟩
  | gone hf => cases hf <;> cases hp

/-- What a method asks for: `failed` when the table does not know it. -/
theorem targetStatus_cases (method : String) :
    (taskMethodToStatus.lookup method = none ∧ targetStatus method = .failed) ∨
      targetStatus method = .running ∨ targetStatus method = .completed := by
  rw [targetStatus]
  cases h : taskMethodToStatus.lookup method with
  | none => exact .inl ⟨rfl, rfl⟩
  | some status =>
      simp only [taskMethodToStatus, List.lookup_cons, List.lookup_nil] at h
      split at h
      · cases h
        exact .inr (.inl rfl)
      · split at h
        · cases h
          exact .inr (.inl rfl)
        · split at h <;> cases h
          exact .inr (.inr rfl)

/-- No feedback asks for the status a task is created with. -/
theorem targetStatus_ne_pending (method : String) : targetStatus method ≠ .pending := by
  intro h
  rcases targetStatus_cases method with ⟨-, h'⟩ | h' | h' <;> cases h.symm.trans h'

/-! ### Commits of pending rows -/

theorem run_insertsPending {db db' : Tables} {write : Write} (hw : write.InsertsPending)
    (h : write.run db = .ok db') (code : String) :
    db'.tasks.find? code = db.tasks.find? code ∨
      (db.tasks.find? code = none ∧ ∃ row, db'.tasks.find? code = some row ∧
        row.status = .pending) := by
  cases write with
  | insertTask row =>
      simp only [Write.run] at h
      cases hv : db.tasks.violated? row with
      | some column =>
          rw [TaskTable.insert?_of_violated hv] at h
          cases h
      | none =>
          rw [TaskTable.insert?_of_not_violated hv] at h
          cases h
          show (db.tasks.insert row hv).find? code = _ ∨
            _ ∧ ∃ new, (db.tasks.insert row hv).find? code = _ ∧ _
          rw [TaskTable.find?_insert]
          by_cases hc : row.robotTaskCode = code
          · rw [if_pos hc]
            -- The row is new, so the table had none with its code.
            have hnone : db.tasks.find? code = none := List.find?_eq_none.mpr fun old hm => by
              simpa [← hc] using fun he => TaskTable.violated?_eq_none.mp hv old hm (.inl he)
            exact .inr ⟨hnone, row, rfl, hw⟩
          · rw [if_neg hc]
            exact .inl rfl
  | _ => exact hw.elim

/-- A session of pending rows commits to the row there was, or to a pending one. -/
theorem foldlM_insertsPending {ws : List Write} (hw : ∀ write ∈ ws, write.InsertsPending)
    (code : String) : ∀ {db db' : Tables}, ws.foldlM Write.run db = .ok db' →
      db'.tasks.find? code = db.tasks.find? code ∨
        (db.tasks.find? code = none ∧ ∃ row, db'.tasks.find? code = some row ∧
          row.status = .pending) := by
  induction ws with
  | nil =>
      intro db db' h
      cases h
      exact .inl rfl
  | cons write rest ih =>
      intro db db' h
      rw [List.foldlM_cons] at h
      cases hrun : write.run db with
      | error column =>
          rw [hrun] at h
          cases h
      | ok db₁ =>
          rw [hrun] at h
          have hrest := ih (fun w hm => hw w (List.mem_cons_of_mem _ hm)) h
          rcases run_insertsPending (hw write List.mem_cons_self) hrun code with
            h₁ | ⟨h₁, row, h₂, h₃⟩
          · rwa [h₁] at hrest
          · rcases hrest with h₄ | ⟨h₄, -⟩
            · exact .inr ⟨h₁, row, h₄.trans h₂, h₃⟩
            · exact absurd (h₄.symm.trans h₂) nofun

/-! ### The condition -/

/-- The status an uncommitted change gives the task. -/
def Write.status? (code : String) : Write → Option TaskStatus
  | .updateTask code' u => if code' = code then some u.status else none
  | _ => none

/-- The statuses a process is to give the task: by the `UPDATE` it is at, and by those its
session holds. -/
def held (code : String) (p : M α) (ws : List Write) : List TaskStatus :=
  (match p with
    | .op (.updateTask code' u) _ => if code' = code then [u.status] else []
    | _ => []) ++ ws.filterMap (Write.status? code)

/-- No process commits a terminal status of the task while another one that has selected the row
is to give it a different status. -/
def NoOvertaking (code : String) : Guard ι Op Ret PyExc α (World ι) := fun c e _ =>
  e.op.isCommit → ∀ s ∈ (c.shared.sessions e.pid).filterMap (Write.status? code), s.terminal →
    ∀ j, j ≠ e.pid → ∀ s' ∈ held code (c.procs j) (c.shared.sessions j), s' = s

instance [Fintype ι] (code : String) (c : Config ι Op Ret PyExc α (World ι))
    (e : Event ι Op Ret PyExc) (c' : Config ι Op Ret PyExc α (World ι)) :
    Decidable (NoOvertaking code c e c') :=
  inferInstanceAs (Decidable (_ → ∀ s ∈ (c.shared.sessions e.pid).filterMap (Write.status? code),
    s.terminal → ∀ j, j ≠ e.pid → ∀ s' ∈ held code (c.procs j) (c.shared.sessions j), s' = s))

theorem Stands.target_held {code : String} {target : TaskStatus} {ws : List Write} {p : M α}
    (h : Stands code target .holding ws p) : target ∈ held code p ws := by
  cases h with
  | update hu _ _ => simp [held, hu]
  | commit hu _ _ => simp [held, Write.status?, hu]

/-! ### The simulation -/

/-- Process `i` has selected the task and found its row. -/
def Seen (code : String) (trace : List (Event ι Op Ret PyExc)) (i : ι) : Prop :=
  ∃ row, ⟨i, .selectTask code, .ok (some row)⟩ ∈ trace

/-- The event is a `SELECT` of the task that finds its row. -/
def finds (code : String) : Event ι Op Ret PyExc → Bool
  | ⟨_, .selectTask code', .ok (some _)⟩ => code' = code
  | _ => false

omit [DecidableEq ι] in
theorem seen_iff {code : String} {trace : List (Event ι Op Ret PyExc)} {i : ι} :
    Seen code trace i ↔ ∃ e ∈ trace, e.pid = i ∧ finds code e = true := by
  constructor
  · rintro ⟨row, hm⟩
    exact ⟨_, hm, rfl, decide_eq_true rfl⟩
  · rintro ⟨⟨pid, o, r⟩, hm, rfl, hf⟩
    unfold finds at hf
    split at hf
    · next pid' code' row heq =>
        injection heq with _ ho hr
        obtain rfl : code' = code := of_decide_eq_true hf
        subst ho
        cases hr
        exact ⟨row, hm⟩
    · cases hf

instance (code : String) (trace : List (Event ι Op Ret PyExc)) (i : ι) :
    Decidable (Seen code trace i) := decidable_of_iff' _ seen_iff

/-- Whether a process in this phase has found the row. -/
def Agrees : Phase → Prop → Prop
  | .unread, seen | .settled false, seen => ¬ seen
  | .holding, seen | .settled true, seen => seen
  | .gone, _ => True

/-- The processes in `c` stand for the abstract state `s`, whose register is the committed
status of the task. -/
structure Tracks (code : String) (target : ι → TaskStatus)
    (c : Config ι Op Ret PyExc α (World ι)) (s : Register.State ι TaskStatus) : Prop where
  value : s.value = (c.shared.db.tasks.find? code).map TaskHistory.status
  stands : ∀ i, Stands code (target i) (s.phase i) (c.shared.sessions i) (c.procs i)
  seen : ∀ i, Agrees (s.phase i) (Seen code c.trace i)

variable {code : String} {target : ι → TaskStatus} {c c' : Config ι Op Ret PyExc α (World ι)}
  {e : Event ι Op Ret PyExc} {s : Register.State ι TaskStatus} {expires : String → Prop}

/-- The register's moves, for a task. -/
abbrev StatusMove (target : ι → TaskStatus) :=
  Register.Move (fun st : TaskStatus => st.terminal = true) .pending target

/-- One process moves on, the others stand where they were. -/
theorem stands_update {i : ι} {p : M α} {w' : World ι} {φ : Phase}
    (h : ∀ j, Stands code (target j) (s.phase j) (c.shared.sessions j) (c.procs j))
    (hother : ∀ j, j ≠ i → w'.sessions j = c.shared.sessions j)
    (hi : Stands code (target i) φ (w'.sessions i) p) :
    ∀ j, Stands code (target j) (Function.update s.phase i φ j) (w'.sessions j)
      (Function.update c.procs i p j) := by
  refine forall_update₂ (P := fun j φ p => Stands code (target j) φ (w'.sessions j) p) hi
    fun j hj => ?_
  rw [hother j hj]
  exact h j

/-- As `stands_update`, in the phase the process was in. -/
theorem stands_stay {i : ι} {p : M α} {w' : World ι}
    (h : ∀ j, Stands code (target j) (s.phase j) (c.shared.sessions j) (c.procs j))
    (hother : ∀ j, j ≠ i → w'.sessions j = c.shared.sessions j)
    (hi : Stands code (target i) (s.phase i) (w'.sessions i) p) :
    ∀ j, Stands code (target j) (s.phase j) (w'.sessions j) (Function.update c.procs i p j) := by
  have hu := stands_update h hother hi
  rwa [Function.update_eq_self] at hu

omit [DecidableEq ι] in
theorem seen_cons_of_ne {i j : ι} {o : Op} {r : Except PyExc (Ret o)}
    {trace : List (Event ι Op Ret PyExc)} (h : o ≠ .selectTask code ∨ j ≠ i) :
    Seen code (⟨i, o, r⟩ :: trace) j ↔ Seen code trace j := by
  constructor
  · rintro ⟨row, hm⟩
    rcases List.mem_cons.mp hm with hm | hm
    · injection hm with hi ho
      rcases h with h | h
      · exact absurd ho.symm h
      · exact absurd hi h
    · exact ⟨row, hm⟩
  · rintro ⟨row, hm⟩
    exact ⟨row, List.mem_cons_of_mem _ hm⟩

/-- One process moves on and the trace grows. -/
theorem agrees_update {i : ι} {o : Op} {r : Except PyExc (Ret o)} {φ : Phase}
    (h : ∀ j, Agrees (s.phase j) (Seen code c.trace j))
    (hi : Agrees φ (Seen code (⟨i, o, r⟩ :: c.trace) i)) :
    ∀ j, Agrees (Function.update s.phase i φ j) (Seen code (⟨i, o, r⟩ :: c.trace) j) := by
  refine (Function.forall_update_iff s.phase
    fun j φ => Agrees φ (Seen code (⟨i, o, r⟩ :: c.trace) j)).mpr ⟨hi, fun j hj => ?_⟩
  rw [seen_cons_of_ne (.inr hj)]
  exact h j

omit [DecidableEq ι] in
/-- The trace grows by an event that finds no row. -/
theorem agrees_stay {i : ι} {o : Op} {r : Except PyExc (Ret o)}
    (h : ∀ j, Agrees (s.phase j) (Seen code c.trace j)) (ho : o ≠ .selectTask code) :
    ∀ j, Agrees (s.phase j) (Seen code (⟨i, o, r⟩ :: c.trace) j) := by
  intro j
  rw [seen_cons_of_ne (.inl ho)]
  exact h j

theorem Op.Harmless.ne_select {o : Op} (h : o.Harmless) : o ≠ .selectTask code := fun he => by
  subst he
  exact h

theorem Op.Creating.ne_select {o : Op} (h : o.Creating) : o ≠ .selectTask code := fun he => by
  subst he
  exact h

/-- A harmless operation keeps the session or empties it, and keeps the tables. -/
theorem Exec.harmless {i : ι} {o : Op} {w w' : World ι} {r : Except PyExc (Ret o)}
    (h : Exec i o w r w') (ho : o.Harmless) :
    (w'.sessions i = w.sessions i ∨ w'.sessions i = []) ∧ w'.db = w.db := by
  have hcommit : ∀ pending, o ≠ .commit pending := fun _ he => by
    subst he
    exact ho
  refine ⟨?_, h.db hcommit⟩
  by_cases hout : o.Outside
  · obtain ⟨-, env, henv⟩ := h
    cases o with
    | rcs _ | sign _ _ _ | http _ | now => cases henv; exact .inl rfl
    | _ => exact hout.elim
  have hbase : (respond i {} o w).2.sessions i = w.sessions i ∨
      (respond i {} o w).2.sessions i = [] := by
    cases o with
    | selectTask _ | insertTask _ | updateTask _ _ | commit _ => exact ho.elim
    | rollback | close => exact .inr (World.setSession_self _ _ _)
    | redisSetNx key value ttl =>
        simp only [respond, Fault.strike]
        split <;> exact .inl rfl
    | _ => exact .inl rfl
  rcases exec_store h hout with hr | ⟨-, -, rfl | rfl⟩
  · rw [← (Prod.mk.inj hr.symm).2]
    exact hbase
  · exact .inl rfl
  · exact hbase

/-- An execution that has not selected the row: it goes on, selects, or fails. -/
theorem tracks_unread (h : Tracks code target c s) (hs : Step (system expires) c e c')
    (hi : s.phase e.pid = .unread) :
    ∃ s', Relation.ReflTransGen (StatusMove target) s s' ∧ Tracks code target c' s' := by
  have hk := h.stands e.pid
  rw [hi] at hk
  generalize hp : c.procs e.pid = p at hk
  generalize hw : c.shared.sessions e.pid = ws at hk
  cases hk with
  | wait ho hok herr =>
      obtain ⟨r, w', -, hx, rfl⟩ := hs.inv_at hp
      obtain ⟨hsess, hdb⟩ := hx.harmless ho
      have hempty : w'.sessions e.pid = [] := by
        rcases hsess with hsess | hsess
        · exact hsess.trans hw
        · exact hsess
      have hvalue : s.value = (w'.db.tasks.find? code).map TaskHistory.status := by
        rw [hdb]
        exact h.value
      cases r with
      | ok v =>
          refine ⟨s, .refl, hvalue, stands_stay h.stands (fun j => hx.sessions_other) ?_,
            agrees_stay h.seen ho.ne_select⟩
          rw [hi, hempty]
          exact hok v
      | error x =>
          exact ⟨_, .single (.fail (.inl hi)), hvalue,
            stands_update h.stands (fun j => hx.sessions_other) (.gone (herr x)),
            agrees_update h.seen trivial⟩
  | select hnone hlate hread herr =>
      obtain ⟨r, w', -, hx, rfl⟩ := hs.inv_at hp
      have hno := h.seen e.pid
      rw [hi] at hno
      rcases exec_store hx id with hr | ⟨x, rfl, hr⟩
      · obtain ⟨rfl, rfl⟩ := Prod.mk.inj hr
        cases hrow : c.shared.db.tasks.find? code with
        | none =>
            have hv : s.value = none := by rw [h.value, hrow]; rfl
            refine ⟨_, .single (.missed hi hv), h.value,
              stands_update h.stands (fun _ _ => rfl) (hw ▸ hnone), agrees_update h.seen ?_⟩
            rintro ⟨row, hm⟩
            rcases List.mem_cons.mp hm with hm | hm
            · injection hm with _ _ hr
              cases hr
            · exact hno ⟨row, hm⟩
        | some row =>
            have hv : s.value = some row.status := by rw [h.value, hrow]; rfl
            cases ht : row.status.terminal with
            | true =>
                exact ⟨_, .single (.late hi hv ht), h.value,
                  stands_update h.stands (fun _ _ => rfl) (hw ▸ hlate row ht),
                  agrees_update h.seen ⟨row, List.mem_cons_self⟩⟩
            | false =>
                have hnt : ¬ row.status.terminal = true := by rw [ht]; exact Bool.false_ne_true
                exact ⟨_, .single (.read hi hv hnt), h.value,
                  stands_update h.stands (fun _ _ => rfl) (hw ▸ hread row ht),
                  agrees_update h.seen ⟨row, List.mem_cons_self⟩⟩
      · have hw' : w' = c.shared := by
          rcases hr with hr | hr <;> exact hr
        subst hw'
        exact ⟨_, .single (.fail (.inl hi)), h.value,
          stands_update h.stands (fun _ _ => rfl) (.gone (herr x)), agrees_update h.seen trivial⟩

/-- The `UPDATE` of one task, committed. -/
theorem commit_update {i : ι} {u : StatusUpdate} {w : World ι}
    (hw : w.sessions i = [.updateTask code u]) :
    respond i {} (.commit []) w = (.ok (), { w with
      db := { w.db with tasks := w.db.tasks.update code u }
      sessions := Function.update w.sessions i [] }) := by
  simp only [respond, Fault.strike, World.commit, hw]
  rfl

/-- An execution that has selected the row: it updates, commits, or fails. -/
theorem tracks_holding (h : Tracks code target c s) (hs : Step (system expires) c e c')
    (hG : NoOvertaking code c e c') (hi : s.phase e.pid = .holding) :
    ∃ s', Relation.ReflTransGen (StatusMove target) s s' ∧ Tracks code target c' s' := by
  have hk := h.stands e.pid
  rw [hi] at hk
  generalize hp : c.procs e.pid = p at hk
  generalize hw : c.shared.sessions e.pid = ws at hk
  cases hk with
  | @update u k hu hok herr =>
      obtain ⟨r, w', -, hx, rfl⟩ := hs.inv_at hp
      have hdb : w'.db = c.shared.db := hx.db fun _ he => by cases he
      have hvalue : s.value = (w'.db.tasks.find? code).map TaskHistory.status := by
        rw [hdb]
        exact h.value
      rcases exec_store hx id with hr | ⟨x, rfl, -⟩
      · obtain ⟨rfl, rfl⟩ := Prod.mk.inj hr
        refine ⟨s, .refl, hvalue, stands_stay h.stands (fun j => hx.sessions_other) ?_,
          agrees_stay h.seen fun he => by cases he⟩
        dsimp only
        rw [hi, World.setSession_self, hw, List.nil_append]
        exact hok _
      · exact ⟨_, .single (.fail (.inr hi)), hvalue,
          stands_update h.stands (fun j => hx.sessions_other) (.gone (herr x)),
          agrees_update h.seen trivial⟩
  | @commit u k hu hok herr =>
      obtain ⟨r, w', he, hx, rfl⟩ := hs.inv_at hp
      have hbase := commit_update hw
      have hvalue : (s.value.map fun _ => target e.pid) =
          ((c.shared.db.tasks.update code u).find? code).map TaskHistory.status := by
        rw [h.value, TaskTable.find?_update, if_pos rfl, Option.map_map, Option.map_map]
        congr 1
        funext row
        exact hu.symm
      -- Whoever else holds is about to write the same status, by the condition.
      have hclear : (target e.pid).terminal = true → Register.Clear target s e.pid := by
        intro ht j hj hphase
        have hheld := h.stands j
        rw [hphase] at hheld
        refine hG (by rw [he]; rfl) (target e.pid) ?_ ht j hj _ hheld.target_held
        rw [hw]
        simp [Write.status?, hu]
      rcases exec_store hx id with hr | ⟨x, rfl, hr | hr⟩
      · rw [hbase] at hr
        obtain ⟨rfl, rfl⟩ := Prod.mk.inj hr
        refine ⟨_, .single (.write hi (.inl rfl) hclear), hvalue,
          stands_update h.stands (fun j => hx.sessions_other) ?_, agrees_update h.seen ?_⟩
        · dsimp only
          rw [Function.update_self]
          exact hok
        · have hseen := h.seen e.pid
          rw [hi] at hseen
          exact (seen_cons_of_ne (.inl fun he => by cases he)).mpr hseen
      · subst hr
        exact ⟨_, .single (.fail (.inr hi)), h.value,
          stands_update h.stands (fun _ _ => rfl) (.gone (herr x)), agrees_update h.seen trivial⟩
      · rw [hbase] at hr
        subst hr
        exact ⟨_, .single (.write hi (.inr rfl) hclear), hvalue,
          stands_update h.stands (fun j => hx.sessions_other) (.gone (herr x)),
          agrees_update h.seen trivial⟩

/-- A creating operation keeps the session one of pending rows, and leaves the row of the task
as it was or creates it. -/
theorem Exec.creating {i : ι} {o : Op} {w w' : World ι} {r : Except PyExc (Ret o)}
    (h : Exec i o w r w') (ho : o.Creating) (hw : ∀ write ∈ w.sessions i, write.InsertsPending)
    (code : String) :
    (∀ write ∈ w'.sessions i, write.InsertsPending) ∧
      (w'.db.tasks.find? code = w.db.tasks.find? code ∨
        (w.db.tasks.find? code = none ∧ ∃ row, w'.db.tasks.find? code = some row ∧
          row.status = .pending)) := by
  by_cases hharm : o.Harmless
  · obtain ⟨hsess | hsess, hdb⟩ := h.harmless hharm
    · exact ⟨hsess ▸ hw, .inl (by rw [hdb])⟩
    · exact ⟨hsess ▸ insertsPending_nil, .inl (by rw [hdb])⟩
  have hout : ¬ o.Outside := fun hout => by
    cases o with
    | rcs _ | sign _ _ _ | http _ | now => exact hharm trivial
    | _ => exact hout.elim
  have hbase : (∀ write ∈ (respond i {} o w).2.sessions i, write.InsertsPending) ∧
      ((respond i {} o w).2.db.tasks.find? code = w.db.tasks.find? code ∨
        (w.db.tasks.find? code = none ∧ ∃ row,
          (respond i {} o w).2.db.tasks.find? code = some row ∧ row.status = .pending)) := by
    cases o with
    | insertTask row =>
        simp only [respond, Fault.strike]
        cases w.db.tasks.violated? row with
        | some column => exact ⟨hw, .inl rfl⟩
        | none =>
            refine ⟨?_, .inl rfl⟩
            rw [World.setSession_self]
            intro write hm
            rcases List.mem_append.mp hm with hm | hm
            · exact hw write hm
            · rw [List.mem_singleton.mp hm]
              exact ho
    | commit pending =>
        obtain rfl : pending = [] := ho
        simp only [respond, Fault.strike, World.commit, List.append_nil]
        cases hrun : (w.sessions i).foldlM Write.run w.db with
        | error column => exact ⟨by rw [World.setSession_self]; exact insertsPending_nil, .inl rfl⟩
        | ok db =>
            refine ⟨?_, foldlM_insertsPending hw code hrun⟩
            dsimp only
            rw [Function.update_self]
            exact insertsPending_nil
    | selectTask _ | updateTask _ _ => exact ho.elim
    | _ => exact absurd trivial hharm
  rcases exec_store h hout with hr | ⟨-, -, rfl | rfl⟩
  · rw [← (Prod.mk.inj hr.symm).2]
    exact hbase
  · exact ⟨hw, .inl rfl⟩
  · exact hbase

/-- A process that has ended its execution, or creates the row. -/
theorem tracks_settled (h : Tracks code target c s) (hs : Step (system expires) c e c')
    {saw : Bool} (hi : s.phase e.pid = .settled saw) :
    ∃ s', Relation.ReflTransGen (StatusMove target) s s' ∧ Tracks code target c' s' := by
  have hk := h.stands e.pid
  rw [hi] at hk
  generalize hp : c.procs e.pid = p at hk
  cases hk with
  | settled hw hp' =>
      cases hp' with
      | ret a => exact absurd hp hs.not_ret
      | raise x => exact absurd hp hs.not_raise
      | op ho hk =>
          obtain ⟨r, w', -, hx, rfl⟩ := hs.inv_at hp
          obtain ⟨hw', hrow⟩ := hx.creating ho hw code
          have hstands := stands_stay h.stands (fun j => hx.sessions_other)
            (hi ▸ Stands.settled hw' (hk r))
          rcases hrow with hrow | ⟨hnone, row, hrow, hpending⟩
          · exact ⟨s, .refl, by rw [h.value, hrow], hstands, agrees_stay h.seen ho.ne_select⟩
          · have hv : s.value = none := by rw [h.value, hnone]; rfl
            refine ⟨_, .single (.create hv), ?_, hstands, agrees_stay h.seen ho.ne_select⟩
            rw [hrow, Option.map_some, hpending]

/-- A process that has failed. -/
theorem tracks_gone (h : Tracks code target c s) (hs : Step (system expires) c e c')
    (hi : s.phase e.pid = .gone) : Tracks code target c' s := by
  have hk := h.stands e.pid
  rw [hi] at hk
  generalize hp : c.procs e.pid = p at hk
  cases hk with
  | gone hp' =>
      cases hp' with
      | raise x => exact absurd hp hs.not_raise
      | op ho hk =>
          obtain ⟨r, w', -, hx, rfl⟩ := hs.inv_at hp
          refine ⟨?_, stands_stay h.stands (fun j => hx.sessions_other) (hi ▸ .gone (hk r)),
            agrees_stay h.seen ho.ne_select⟩
          rw [(hx.harmless ho).2]
          exact h.value

omit [DecidableEq ι] in
/-- Processes that have not started stand for a register that none has read. -/
theorem Tracks.start {w : World ι} (hw : ∀ i, w.sessions i = []) {p : ι → M α} {φ : ι → Phase}
    (hφ : ∀ i, φ i = .unread ∨ φ i = .settled false)
    (hp : ∀ i, Stands code (target i) (φ i) [] (p i)) :
    Tracks code target (.start w p) ⟨(w.db.tasks.find? code).map TaskHistory.status, φ⟩ where
  value := rfl
  stands i := by
    show Stands code (target i) (φ i) (w.sessions i) (p i)
    rw [hw i]
    exact hp i
  seen i := by
    show Agrees (φ i) (Seen code [] i)
    have hno : ¬ Seen code ([] : List (Event ι Op Ret PyExc)) i := by
      rintro ⟨row, hm⟩
      cases hm
    rcases hφ i with h | h <;> rw [h] <;> exact hno

/-- **Executions are a run of the register**, while no commit makes the row terminal beside an
execution that is to write another status. -/
theorem Tracks.simulates (h : Run (system expires) (NoOvertaking code) c c')
    (hc : Tracks code target c s) :
    ∃ s', Relation.ReflTransGen (StatusMove target) s s' ∧ Tracks code target c' s' := by
  refine Run.simulate h ?_ ?_ hc
  · intro d d' e a hr hG hs
    cases hi : a.phase e.pid with
    | unread => exact tracks_unread hr hs hi
    | holding => exact tracks_holding hr hs hG hi
    | settled saw => exact tracks_settled hr hs hi
    | gone => exact ⟨a, .refl, tracks_gone hr hs hi⟩
  · rintro d w' a hr ⟨key, -, rfl⟩
    exact ⟨a, .refl, hr.value, hr.stands, hr.seen⟩

end Rcs

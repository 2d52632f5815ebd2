import RcsMiddleware.Feedback.Terminal
import RcsMiddleware.Source.Engine

/-!
# Feedback — Connections

The database connections of the executions of one worker process.  The engine outlives the event
loop of an execution, and the connection an execution returns stays in its pool, bound to a loop
that has ended; the next execution is handed it.  (The Redis client of `_update_robot_state` is
opened by each execution for itself.)

* `Transacts`: a program that holds a connection, ends its transaction, and takes no other.
* `Execution.outcome_returned`: an execution that names a task and a method is one use of the pool.
* `own_loop_iff`: every connection used was opened under the execution's own loop exactly when each
  execution finds the connection of the one before it lost or too old.
-/

namespace Rcs

open Support Support.Text

variable {σ S α : Type} {P : Pool Connection S poolSize} {d : Demand Connection}

/-! ### One transaction -/

/-- The operation neither takes a connection nor needs one. -/
abbrev Op.Free (o : Op) : Prop := o.isStatement = false

/-- A program that holds a connection: it ends its transaction, and takes no connection after. -/
inductive Transacts : M α → Prop where
  | goes {o : Op} {k : Except PyExc (Ret o) → M α} (ho : o.endsTransaction = false)
      (hk : ∀ r, Transacts (k r)) : Transacts (.op o k)
  | ends {o : Op} {k : Except PyExc (Ret o) → M α} (ho : o.endsTransaction = true)
      (hk : ∀ r, Prog.Only Op.Free (k r)) : Transacts (.op o k)

/-- The session has worked on `c` alone, and `c` is all that the process has. -/
structure WorkedOn (c : Connection) (t : EngineState S) : Prop where
  used : t.used ≠ []
  only : ∀ x ∈ t.used, x = c

/-- The session holds `c`. -/
structure CheckedOut (P : Pool Connection S poolSize) (c : Connection) (t : EngineState S) : Prop
    extends WorkedOn c t where
  held : t.connection = some c
  idle : P.idle t.pool = []

/-- The session has returned `c`. -/
structure CheckedIn (P : Pool Connection S poolSize) (c : Connection) (t : EngineState S) : Prop
    extends WorkedOn c t where
  free : t.connection = none
  idle : P.idle t.pool = [c]

variable {c : Connection} {t : EngineState S} {o : Op}

theorem WorkedOn.append (h : ∀ x ∈ t.used, x = c) {pool : S} {connection : Option Connection} :
    WorkedOn c (S := S) { pool := pool, connection := connection, used := t.used ++ [c] } where
  used := List.append_ne_nil_of_right_ne_nil _ (List.cons_ne_nil _ _)
  only x hx := by
    rcases List.mem_append.mp hx with hx | hx
    · exact h x hx
    · exact List.mem_singleton.mp hx

/-- The first statement of a session. -/
theorem checkedOut_of_connect {o : Option Connection} (hpool : P.idle t.pool = o.toList)
    (hfree : t.connection = none) (hused : t.used = []) :
    CheckedOut P (d.pick o) (t.connect P d) := by
  obtain ⟨hpick, hidle⟩ := Pool.checkout_toList (d := d) hpool
  rw [EngineState.connect_of_none hfree, hpick]
  exact ⟨WorkedOn.append (by rw [hused]; exact fun x hx => absurd hx List.not_mem_nil), rfl, hidle⟩

theorem CheckedOut.connect (h : CheckedOut P c t) : CheckedOut P c (t.connect P d) := by
  rw [EngineState.connect_of_some h.held]
  exact ⟨WorkedOn.append h.only, h.held, h.idle⟩

theorem CheckedOut.release (h : CheckedOut P c t) : CheckedIn P c (t.release P) := by
  rw [EngineState.release_of_some h.held]
  exact ⟨⟨h.used, h.only⟩, rfl, Pool.checkin_nil (by decide) h.idle⟩

/-- A statement, or an operation that is none. -/
theorem CheckedOut.step_goes (h : CheckedOut P c t) (ho : o.endsTransaction = false) :
    CheckedOut P c (t.step P d o) := by
  rw [EngineState.step, ho, if_neg Bool.false_ne_true]
  cases o.isStatement with
  | true => exact h.connect
  | false => exact h

theorem CheckedOut.step_ends (h : CheckedOut P c t) (ho : o.endsTransaction = true) :
    CheckedIn P c (t.step P d o) := by
  rw [EngineState.step, ho, if_pos rfl]
  cases o.isStatement with
  | true => exact h.connect.release
  | false => exact h.release

/-- Without a connection, an operation that needs none changes nothing. -/
theorem step_free (ho : o.Free) (hfree : t.connection = none) : t.step P d o = t := by
  rw [EngineState.step, ho, if_neg Bool.false_ne_true]
  cases o.endsTransaction with
  | true => exact EngineState.release_of_none hfree
  | false => rfl

variable {answers : (o : Op) → σ → Except PyExc (Ret o) × σ} {p : M α} {s : σ × EngineState S}

theorem run_free (hp : Prog.Only Op.Free p) (hfree : s.2.connection = none) :
    (p.run (withEngine P d answers) s).2.2 = s.2 := by
  refine hp.run_preserves (I := fun s' : σ × EngineState S => s'.2 = s.2)
    (fun o s' ho hs' => ?_) rfl
  show s'.2.step P d o = s.2
  rw [hs']
  exact step_free ho hfree

/-- **One transaction.**  A program that holds a connection uses it, and returns it. -/
theorem Transacts.run (hp : Transacts p) (h : CheckedOut P c s.2) :
    CheckedIn P c (p.run (withEngine P d answers) s).2.2 := by
  induction hp generalizing s with
  | goes ho _ ih => exact ih _ (h.step_goes ho)
  | ends ho hk =>
      have hreturned := h.step_ends (d := d) ho
      rw [Prog.run_op, run_free (hk _) hreturned.free]
      exact hreturned

/-! ### One execution -/

/-- An execution of `process_task_feedback`: its payload, its clock, how the stores answer, when it
reaches the database, and whether the connection that is idle by then has been lost.  One that could
not be opened, or that an error has invalidated, counts as lost. -/
structure Execution (σ : Type) where
  payload : TaskFeedbackPayload
  clock : DateTime
  store : (o : Op) → σ → Except PyExc (Ret o) × σ
  time : Nat
  lost : Bool := false

namespace Execution

variable (e : Execution σ) {loop : Nat} {pool : S} {idle : Option Connection}

/-- The execution names a task and a method. -/
def reachesDatabase : Bool :=
  strip e.payload.robotTaskCode != "" && strip e.payload.method != ""

/-- How the world answers the execution. -/
def respond : (o : Op) → σ → Except PyExc (Ret o) × σ
  | .now, s => (.ok e.clock, s)
  | o, s => e.store o s

/-- What its session asks of the pool, under `loop`. -/
def demand (loop : Nat) : Demand Connection := connectionDemand loop e.time e.lost

/-- `process_task_feedback`: the execution under its own loop, with the stores and the pool it
finds. -/
def outcome (P : Pool Connection S poolSize) (loop : Nat) (s : σ) (pool : S) :
    Except PyExc FeedbackResult × (σ × EngineState S) :=
  (processTaskFeedback e.payload).run (withEngine P (e.demand loop) e.respond) (s, { pool := pool })

theorem blank_of_not_reachesDatabase (h : e.reachesDatabase = false) :
    strip e.payload.robotTaskCode = "" ∨ strip e.payload.method = "" := by
  rcases Bool.and_eq_false_iff.mp h with h | h
  · exact .inl (bne_eq_false_iff_eq.mp h)
  · exact .inr (bne_eq_false_iff_eq.mp h)

theorem named_of_reachesDatabase (h : e.reachesDatabase = true) :
    ¬ (strip e.payload.robotTaskCode = "" ∨ strip e.payload.method = "") := by
  obtain ⟨hcode, hmethod⟩ := Bool.and_eq_true_iff.mp h
  exact not_or.mpr ⟨bne_iff_ne.mp hcode, bne_iff_ne.mp hmethod⟩

/-- An execution that names no task or no method uses no connection. -/
theorem outcome_blank (s : σ) (h : e.reachesDatabase = false) :
    (e.outcome P loop s pool).2 = (s, { pool := pool }) := by
  rw [outcome, processTaskFeedback_blank (e.blank_of_not_reachesDatabase h)]
  rfl

end Execution

theorem updateRobotState_free (payload : TaskFeedbackPayload) (target : TaskStatus)
    (now : DateTime) : Prog.Only Op.Free (updateRobotState payload target now) := by
  unfold updateRobotState
  cases truthy payload.amrCode with
  | none => exact .ret _
  | some amrCode => exact .bind (.perform rfl) fun _ => .ret _

/-- What follows the session of `_update_task_history`. -/
def afterSession (payload : TaskFeedbackPayload) (target : TaskStatus) (now : DateTime)
    (dbUpdated : Bool) : M FeedbackResult :=
  (updateRobotState payload target now).bind fun cacheUpdated =>
    .ret { updated := dbUpdated, cacheUpdated := some cacheUpdated }

theorem afterSession_free (payload : TaskFeedbackPayload) (target : TaskStatus) (now : DateTime)
    (dbUpdated : Bool) : Prog.Only Op.Free (afterSession payload target now dbUpdated) :=
  .bind (updateRobotState_free payload target now) fun _ => .ret _

/-- A session that is left by a value closes. -/
theorem transacts_return (value : Bool) {f : Bool → M α} (hf : ∀ b, Prog.Only Op.Free (f b)) :
    Transacts ((withSession (return value)).bind f) := by
  refine .ends rfl fun r => ?_
  cases r with
  | ok _ => exact hf value
  | error e => exact .raise e

/-- A session that is left by an exception closes. -/
theorem transacts_raise (e : PyExc) {f : Bool → M α} :
    Transacts ((withSession (.raise e)).bind f) := by
  refine .ends rfl fun r => ?_
  cases r with
  | ok _ => exact .raise e
  | error e' => exact .raise e'

/-- The session of `_update_task_history`, after its `SELECT`. -/
theorem applyFeedback_transacts (existing : Option TaskHistory) (robotTaskCode method : String)
    (target : TaskStatus) (amrCode errorMsg : Option String) (now : DateTime) {f : Bool → M α}
    (hf : ∀ b, Prog.Only Op.Free (f b)) :
    Transacts ((withSession
      (applyFeedback existing robotTaskCode method target amrCode errorMsg now)).bind f) := by
  cases existing with
  | none => exact transacts_return false hf
  | some row =>
      rw [applyFeedback]
      split
      · exact transacts_return false hf
      · refine .goes rfl fun r => ?_
        cases r with
        | error e => exact transacts_raise e
        | ok rowcount =>
            -- The commit ends the transaction; the close finds no connection.
            refine .ends rfl fun r => ?_
            have hclose : ∀ p : M Bool, Prog.Only Op.Free p →
                Prog.Only Op.Free ((withSession p).bind f) := fun p hp =>
              .bind (.tryFinally hp (.perform rfl)) hf
            cases r with
            | error e => exact hclose (.raise e) (.raise e)
            | ok _ => exact hclose (.ret _) (.ret _)

/-- An execution that names a task and a method reads its clock, and then its session selects. -/
theorem processTaskFeedback_session {payload : TaskFeedbackPayload}
    (h : ¬ (strip payload.robotTaskCode = "" ∨ strip payload.method = "")) :
    ∃ k, processTaskFeedback payload = .op .now k ∧ ∀ now, ∃ k',
      k (.ok now) = .op (.selectTask (strip payload.robotTaskCode)) k' ∧ ∀ r, Transacts (k' r) := by
  rw [processTaskFeedback, if_neg h]
  refine ⟨_, rfl, fun now => ⟨_, rfl, fun r => ?_⟩⟩
  have hfree := afterSession_free payload (targetStatus (strip payload.method)) now
  cases r with
  | error e => exact transacts_raise e
  | ok existing => exact applyFeedback_transacts existing _ _ _ _ _ now hfree

namespace Execution

variable (e : Execution σ) {loop : Nat} {pool : S} {idle : Option Connection}

/-- **An execution is one use of the pool**, when it names a task and a method. -/
theorem outcome_returned (s : σ) (h : e.reachesDatabase = true)
    (hidle : P.idle pool = idle.toList) :
    CheckedIn P ((e.demand loop).pick idle) (e.outcome P loop s pool).2.2 := by
  obtain ⟨k, hk, hnow⟩ := processTaskFeedback_session (e.named_of_reachesDatabase h)
  obtain ⟨k', hk', htransacts⟩ := hnow e.clock
  have hstart : (e.outcome P loop s pool) = (k (.ok e.clock)).run
      (withEngine P (e.demand loop) e.respond) (s, { pool := pool }) := by
    rw [outcome, hk, Prog.run_op]
    rfl
  have hout : CheckedOut P ((e.demand loop).pick idle)
      (({ pool := pool } : EngineState S).connect P (e.demand loop)) :=
    checkedOut_of_connect hidle rfl rfl
  rw [hstart, hk', Prog.run_op]
  exact (htransacts _).run hout

end Execution

/-! ### One worker process -/

/-- The connections that each execution of a worker process uses, with its event loop.  The loops
are numbered; the stores and the pool are those the execution before left. -/
def connectionsUsed (P : Pool Connection S poolSize) :
    Nat → σ → S → List (Execution σ) → List (Nat × List Connection)
  | _, _, _, [] => []
  | loop, s, pool, e :: es =>
      let after := (e.outcome P loop s pool).2
      (loop, after.2.used) :: connectionsUsed P (loop + 1) after.1 after.2.pool es

/-- The executions that reach the database, with their loops. -/
def reaching (loop : Nat) (es : List (Execution σ)) : List (Execution σ × Nat) :=
  (es.zipIdx loop).filter fun e => e.1.reachesDatabase

/-- What they ask of the pool. -/
def demands (loop : Nat) (es : List (Execution σ)) : List (Demand Connection) :=
  (reaching loop es).map fun e => e.1.demand e.2

/-- The connections were opened under the loop of the execution that uses them. -/
abbrev OwnLoop (used : List (Nat × List Connection)) : Prop :=
  ∀ entry ∈ used, ∀ c ∈ entry.2, c.loop = entry.1

theorem demands_cons_of_reaches {loop : Nat} {e : Execution σ} {es : List (Execution σ)}
    (h : e.reachesDatabase = true) :
    demands loop (e :: es) = e.demand loop :: demands (loop + 1) es := by
  simp only [demands, reaching, List.zipIdx_cons, List.filter_cons, h, if_true, List.map_cons]

theorem demands_cons_of_blank {loop : Nat} {e : Execution σ} {es : List (Execution σ)}
    (h : e.reachesDatabase = false) : demands loop (e :: es) = demands (loop + 1) es := by
  simp only [demands, reaching, List.zipIdx_cons, List.filter_cons, h, Bool.false_eq_true, if_false]

theorem ownLoop_cons {entry : Nat × List Connection} {used : List (Nat × List Connection)} :
    OwnLoop (entry :: used) ↔ (∀ c ∈ entry.2, c.loop = entry.1) ∧ OwnLoop used :=
  List.forall_mem_cons

/-- The executions of a worker process are uses of its pool, one after the other. -/
theorem ownLoop_iff_owned {loop : Nat} {s : σ} {pool : S} {idle : Option Connection}
    {es : List (Execution σ)} (hidle : P.idle pool = idle.toList) :
    OwnLoop (connectionsUsed P loop s pool es) ↔
      Demand.Owned Connection.loop (demands loop es) (Demand.serve idle (demands loop es)) := by
  induction es generalizing loop s pool idle with
  | nil => simp [OwnLoop, connectionsUsed, demands, reaching, Demand.Owned, Demand.serve]
  | cons e es ih =>
      rw [connectionsUsed, ownLoop_cons]
      cases hreach : e.reachesDatabase with
      | true =>
          have hret : CheckedIn P ((e.demand loop).pick idle) (e.outcome P loop s pool).2.2 :=
            e.outcome_returned s hreach hidle
          have hnext : P.idle (e.outcome P loop s pool).2.2.pool =
              (some ((e.demand loop).pick idle)).toList := hret.idle
          have hused : (∀ c ∈ (e.outcome P loop s pool).2.2.used, c.loop = loop) ↔
              ((e.demand loop).pick idle).loop = loop := by
            refine ⟨fun h => ?_, fun h c hc => ?_⟩
            · obtain ⟨c, hc⟩ := List.exists_mem_of_ne_nil _ hret.used
              rw [← hret.only c hc]
              exact h c hc
            · rw [hret.only c hc]
              exact h
          rw [demands_cons_of_reaches hreach, Demand.serve, Demand.Owned, List.forall₂_cons]
          exact and_congr hused (ih hnext)
      | false =>
          rw [demands_cons_of_blank hreach, e.outcome_blank s hreach]
          exact ⟨fun h => (ih hidle).mp h.2,
            fun h => ⟨fun c hc => absurd hc List.not_mem_nil, (ih hidle).mpr h⟩⟩

/-- The loops differ. -/
theorem demands_nodup (loop : Nat) (es : List (Execution σ)) :
    ((demands loop es).map fun d => d.new.loop).Nodup := by
  have hloops : (demands loop es).map (fun d => d.new.loop) = (reaching loop es).map Prod.snd := by
    rw [demands, List.map_map]
    rfl
  have hnumbers : ((es.zipIdx loop).map Prod.snd).Nodup := by
    rw [List.zipIdx_map_snd]
    exact List.nodup_range' 1
  rw [hloops]
  exact hnumbers.sublist (List.filter_sublist.map _)

/-- The connection of the execution before is not handed on. -/
theorem demand_fit_eq_false {a b : Execution σ} {i j : Nat} :
    (b.demand j).fit (a.demand i).new = false ↔
      b.lost = true ∨ a.time + poolRecycle < b.time := by
  rw [Execution.demand, connectionDemand, Bool.and_eq_false_iff, Bool.not_eq_false',
    decide_eq_false_iff_not, not_le]
  rfl

/-- **The execution's own loop.**  In a worker process, whatever the stores answer, every connection
that an execution uses was opened under its own loop if and only if, of the executions that name a
task and a method, each finds the connection of the one before it lost or older than
`pool_recycle`. -/
theorem own_loop_iff (P : Pool Connection S poolSize) (s : σ) (es : List (Execution σ)) :
    (∀ entry ∈ connectionsUsed P 0 s P.empty es, ∀ c ∈ entry.2, c.loop = entry.1) ↔
      (es.filter fun e => e.reachesDatabase).IsChain fun a b =>
        b.lost = true ∨ a.time + poolRecycle < b.time := by
  have hreaching : (es.filter fun e => e.reachesDatabase) = (reaching 0 es).map Prod.fst := by
    have hfst : es = (es.zipIdx 0).map Prod.fst := (List.zipIdx_map_fst 0 es).symm
    nth_rewrite 1 [hfst]
    rw [List.filter_map]
    rfl
  rw [hreaching, List.isChain_map]
  have hempty : P.idle P.empty = (none : Option Connection).toList := P.idle_empty
  refine (ownLoop_iff_owned hempty).trans ?_
  rw [Demand.serve_owned_iff (demands_nodup 0 es), demands, List.isChain_map]
  exact List.IsChain.iff fun _ _ => demand_fit_eq_false

/-! ### Two feedbacks in a row -/

/-- An execution that starts the task `T1`, on stores that answer, at a time. -/
def sampleExecution (time : Nat) : Execution (World Unit) where
  payload := startAndEnd false
  clock := ⟨2026, 1, 1, 0, 0, 0, 0⟩
  store := Rcs.respond () {}
  time := time

/-- **A connection of another loop.**  The second execution, five seconds after the first, is handed
the connection the first has opened. -/
theorem connection_of_another_loop :
    ∃ entry ∈ connectionsUsed (Pool.fifo Connection poolSize) 0 ({} : World Unit)
        (Pool.fifo Connection poolSize).empty [sampleExecution 0, sampleExecution 5],
      ∃ c ∈ entry.2, c.loop ≠ entry.1 := by
  have hused : connectionsUsed (Pool.fifo Connection poolSize) 0 ({} : World Unit)
      (Pool.fifo Connection poolSize).empty [sampleExecution 0, sampleExecution 5] =
        [(0, [⟨0, 0⟩]), (1, [⟨0, 0⟩])] := by
    decide
  rw [hused]
  decide

end Rcs

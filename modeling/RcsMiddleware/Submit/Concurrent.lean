import RcsMiddleware.Submit.Keyed

/-!
# Submit — Concurrent

Calls that carry one idempotency key and run at the same time.  The lookup and the save are two
separate Redis commands with the call of RCS between them, and nothing reserves the key in the
meantime, so two calls can both miss and both submit (`concurrent_submits_twice`).

**One submit a key** (`concurrent_submits_once`).  In every run in which each step succeeds, the
entry does not expire and no call's lookup misses while another call is between its missed lookup
and its save, RCS is called at most once.
-/

namespace Rcs

open Support

variable {ι : Type} [DecidableEq ι]

/-- Every step succeeds, and no lookup of `rk` misses while another call is in flight. -/
def OneAtATime {α : Type} (rk : String) : Guard ι Op Ret PyExc α (World ι) := fun c e c' =>
  Succeeds c e c' ∧ NoOverlap rk c e c'

instance [Fintype ι] {α : Type} (rk : String) (c : Config ι Op Ret PyExc α (World ι))
    (e : Event ι Op Ret PyExc) (c' : Config ι Op Ret PyExc α (World ι)) :
    Decidable (OneAtATime rk c e c') := inferInstanceAs (Decidable (_ ∧ _))

/-- Calls of the keyed shape, started together, call RCS at most once. -/
theorem keyed_works_le_one {α : Type} {rk : String} {w : World ι} (hlog : w.rcsLog = [])
    {p : M α} (hp : Keyed rk p) {c : Config ι Op Ret PyExc α (World ι)}
    (h : Run (system (· ≠ rk)) (OneAtATime rk) (.start w fun _ => p) c) :
    c.shared.rcsLog.length ≤ 1 := by
  have hstart : Refines rk (.start w fun _ : ι => p)
      ⟨(cachedDocument (w.redis rk)).isSome, 0, fun _ => .idle⟩ :=
    ⟨rfl, congrArg List.length hlog, fun _ => hp⟩
  obtain ⟨s, hs, hr⟩ := Keyed.simulates (fun _ hkey => hkey) h hstart
  rw [hr.works]
  exact Flights.works_le_one hs rfl fun _ _ => Stage.noConfusion

/-- Calls that have ended before their first operation do nothing. -/
theorem run_of_ended {α : Type} {expires : String → Prop} {G : Guard ι Op Ret PyExc α (World ι)}
    {w : World ι} {p : ι → M α} (hp : ∀ i o k, p i ≠ .op o k)
    {c : Config ι Op Ret PyExc α (World ι)} (h : Run (system expires) G (.start w p) c) :
    c.shared.rcsLog = w.rcsLog := by
  refine (Run.invariant (I := fun d => d.procs = p ∧ d.shared.rcsLog = w.rcsLog) h ?_ ?_
    ⟨rfl, rfl⟩).2
  · rintro d d' e ⟨hd, -⟩ - ⟨hk, -⟩
    exact absurd (hd ▸ hk) (hp _ _ _)
  · rintro d w' ⟨hd, hl⟩ ⟨key, -, rfl⟩
    exact ⟨hd, hl⟩

/-- **One submit a key**: however many calls of `create_task`, or of `submit_raw`, carry the
same key and the same request. -/
theorem concurrent_submits_once {key : String} (hkey : key ≠ "") {w : World ι}
    (hlog : w.rcsLog = []) :
    (∀ request c,
      Run (system (· ≠ idempotencyKey key)) (OneAtATime (idempotencyKey key))
        (.start w fun _ => createTask request (some key)) c → c.shared.rcsLog.length ≤ 1) ∧
    (∀ request c,
      Run (system (· ≠ idemKey key)) (OneAtATime (idemKey key))
        (.start w fun _ => submitRaw request (some key)) c → c.shared.rcsLog.length ≤ 1) := by
  refine ⟨fun request c h => keyed_works_le_one hlog (createTask_keyed request hkey) h,
    fun request c h => ?_⟩
  cases hpath : rawSubmitPath request.path with
  | ok path => exact keyed_works_le_one hlog (submitRaw_keyed request hkey hpath) h
  | error e =>
      have hended : ∀ (i : ι) o k, submitRaw request (some key) ≠ .op o k := by
        intro i o k
        unfold submitRaw
        rw [hpath]
        intro h'
        cases h'
      rw [run_of_ended hended h, hlog]
      exact Nat.zero_le 1

/-! ### Two calls -/

/-- A task request. -/
def sampleRequest : TaskCreateRequest where
  robotType := "AMR"
  sourceCode := "A"
  targetCode := "B"
  priority := 10
  robotType_length := by decide
  sourceCode_length := by decide
  targetCode_length := by decide
  priority_range := by decide

/-- A database that knows the robot type of `sampleRequest`. -/
def sampleTables : Tables := { robotTypes := [⟨"AMR", "CT71"⟩] }

/-- The answer of RCS that accepts a task under this code. -/
def acceptance (code : String) : Json := .obj [("data", .obj [("robotTaskCode", .str code)])]

/-- RCS accepts the task under this code. -/
def accepted (code : String) : Env := { rcs := .ok (acceptance code) }

/-- A raw request that asks for no row. -/
def sampleRawRequest : RcsRawSubmitRequest where
  path := "/rcs/rtas/api/robot/controller/task/submit"
  persistTask := false
  path_nonempty := by decide

/-- Two calls of `create_task`: both look the key up before either calls RCS. -/
def bothMiss : List (Bool × Env) :=
  [(false, {}), (true, {}), (false, {}), (false, accepted "T1"), (true, {}), (true, accepted "T2")]

/-- Two calls of `submit_raw`, likewise, run to their ends. -/
def bothMissRaw : List (Bool × Env) :=
  [(false, {}), (true, {}), (false, accepted "T1"), (true, accepted "T2"), (false, {}), (true, {})]

/-- Two calls of `create_task`: one runs to its end before the other looks the key up. -/
def inSuccession : List (Bool × Env) :=
  [(false, {}), (false, {}), (false, accepted "T1"), (false, {}), (false, {}), (false, {}),
    (true, {})]

theorem concurrent_submits_once_inSuccession :
    ∃ c, replay exec? (OneAtATime (idempotencyKey "k")) inSuccession
        (.start { db := sampleTables } fun _ : Bool => createTask sampleRequest (some "k")) = some c ∧
      c.shared.rcsLog.length ≤ 1 := by
  obtain ⟨c, hc⟩ := Option.isSome_iff_exists.mp (show (replay exec?
    (OneAtATime (idempotencyKey "k")) inSuccession (.start { db := sampleTables } fun _ : Bool =>
      createTask sampleRequest (some "k"))).isSome by decide)
  exact ⟨c, hc, (concurrent_submits_once (by decide) rfl).1 _ _
    (Run.of_replay Exec.of_exec? hc)⟩

/-- **Two submits for one key.**  Two calls of either operation, each of whose steps succeeds:
both lookups miss, and both calls reach RCS. -/
theorem concurrent_submits_twice :
    (∃ c, Run (system (· ≠ idempotencyKey "k")) Succeeds
        (.start { db := sampleTables } fun _ : Bool => createTask sampleRequest (some "k")) c ∧
      c.shared.rcsLog.length = 2) ∧
    ∃ c, Run (system (· ≠ idemKey "k")) Succeeds
        (.start {} fun _ : Bool => submitRaw sampleRawRequest (some "k")) c ∧
      c.shared.rcsLog.length = 2 ∧ ∀ i, (c.procs i).returned = true := by
  constructor
  · exact run_of_schedule bothMiss (by decide)
  · exact run_of_schedule bothMissRaw (by decide)

end Rcs

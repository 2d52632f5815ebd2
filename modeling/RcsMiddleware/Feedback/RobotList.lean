import RcsMiddleware.Feedback.Redelivery
import RcsMiddleware.Feedback.Successes
import RcsMiddleware.Source.RobotService

/-!
# Feedback — RobotList

What the list of robots shows after executions of `process_task_feedback` that return.  The worker
and the service agree on the form of the keys and on the names and texts in a document.

* `matches_iff`: the keys of the service's pattern are the keys the worker builds.
* `robotStatus?_entry`: the service reads what the worker has written.
* `scans_afterAll`: the keys there are after a sequence of executions.
* `list_reports_last`: one entry for each robot, from the last feedback processed for it.
-/

namespace Rcs

open Support Support.Text Support.Prog

variable {p : Processing} {ps : List Processing} {w : World Unit} {amrCode key : String}
  {service : RobotService}

/-- The service reads a float and a date as what the worker has written for them. -/
structure RobotService.ReadsBack (service : RobotService) : Prop where
  float : ∀ f, service.floatOf (.float f) = some f
  date : ∀ d : DateTime, d.Valid → service.fromIsoformat d.isoformat = some d

/-! ### Keys and documents -/

/-- **The keys of the pattern** are those of robots. -/
theorem matches_iff : globMatch robotStateScanPattern.toList key.toList = true ↔
    ∃ amrCode, key = robotStateKey amrCode := by
  have hbefore : "robot:".toList = ['r', 'o', 'b', 'o', 't', ':'] := by rfl
  have hafter : ":state".toList = [':', 's', 't', 'a', 't', 'e'] := by rfl
  have hpattern : robotStateScanPattern.toList = "robot:".toList ++ '*' :: ":state".toList := by
    rfl
  rw [hpattern, globMatch_around (by simp [hbefore]) (by simp [hafter])]
  constructor
  · rintro ⟨middle, h⟩
    refine ⟨.ofList middle, String.toList_inj.mp (h.trans ?_)⟩
    simp only [robotStateKey, String.toList_append, String.toList_ofList]
  · rintro ⟨amrCode, rfl⟩
    exact ⟨amrCode.toList, by rw [robotStateKey, String.toList_append, String.toList_append]⟩

/-- What the service reports of a feedback. -/
def Processing.reported (amrCode : String) (p : Processing) : RobotStatusResponse where
  amrCode := amrCode
  x := p.payload.x
  y := p.payload.y
  state := some p.target.value
  updatedAt := some p.clock

section Read

variable {fields : List (String × Json)} {name : String}

theorem validateOptFloat_jsonFloat (hreads : service.ReadsBack)
    {coordinate : Option PyFloat} (h : Json.field fields name = some (jsonFloat coordinate)) :
    validateOptFloat service.floatOf fields name = .ok coordinate := by
  rw [validateOptFloat, h]
  cases coordinate with
  | none => rfl
  | some f =>
      dsimp only [jsonFloat]
      rw [hreads.float]

theorem validateAmrCode_str (ha : amrCode ≠ "")
    (h : Json.field fields "amrCode" = some (.str amrCode)) (key : String) :
    validateAmrCode key fields = .ok amrCode := by
  have ht : (Json.str amrCode).truthy = true := bne_iff_ne.mpr ha
  rw [validateAmrCode, h]
  dsimp only
  rw [if_pos ht]

theorem readUpdatedAt_isoformat (hreads : service.ReadsBack) {d : DateTime} (hd : d.Valid)
    (h : Json.field fields "updatedAt" = some (.str d.isoformat)) :
    service.readUpdatedAt fields = .ok (some d) := by
  rw [RobotService.readUpdatedAt, h]
  dsimp only
  rw [hreads.date d hd]

theorem validateOptStr_str {s : String} (h : Json.field fields name = some (.str s)) :
    validateOptStr fields name = .ok (some s) := by
  rw [validateOptStr, h]

end Read

/-- **The service reads what the worker has written.** -/
theorem robotStatus?_entry (hreads : service.ReadsBack) (ha : amrCode ≠ "")
    (hclock : p.clock.Valid) (key : String) :
    service.robotStatus? key (some (p.entry amrCode)) = some (p.reported amrCode) := by
  obtain ⟨fields, hfields⟩ : ∃ fields, fields = [("amrCode", .str amrCode),
      ("x", jsonFloat p.payload.x), ("y", jsonFloat p.payload.y), ("state", .str p.target.value),
      ("lastTaskCode", .str p.payload.robotTaskCode), ("updatedAt", .str p.clock.isoformat)] :=
    ⟨_, rfl⟩
  have hentry : p.entry amrCode = .json (.obj fields) := by rw [hfields]; rfl
  have hx : Json.field fields "x" = some (jsonFloat p.payload.x) := by rw [hfields]; rfl
  have hy : Json.field fields "y" = some (jsonFloat p.payload.y) := by rw [hfields]; rfl
  have hstate : Json.field fields "state" = some (.str p.target.value) := by rw [hfields]; rfl
  have hschema : service.toSchema key fields = .ok (p.reported amrCode) := by
    rw [RobotService.toSchema, readUpdatedAt_isoformat hreads hclock (by rw [hfields]; rfl),
      validateAmrCode_str ha (by rw [hfields]; rfl), validateOptFloat_jsonFloat hreads hx,
      validateOptFloat_jsonFloat hreads hy, validateOptStr_str hstate]
    rfl
  have hread : service.robotStatus? key (some (.json (.obj fields))) =
      (service.toSchema key fields).toOption := by
    rw [hfields]
    rfl
  rw [hentry, hread, hschema]
  rfl

/-! ### The entries after a sequence -/

/-- No execution writes an entry for the empty code. -/
theorem foldl_onRedis_empty (redis : String → Option RedisValue) (ps : List Processing) :
    ps.foldl (fun redis p => p.onRedis redis) redis (robotStateKey "") =
      redis (robotStateKey "") := by
  induction ps generalizing redis with
  | nil => rfl
  | cons p ps ih =>
      rw [List.foldl_cons, ih, Processing.onRedis]
      cases ht : truthy p.payload.amrCode with
      | none => rfl
      | some amrCode =>
          dsimp only
          split_ifs
          · rfl
          · refine Function.update_of_ne (fun hkey => ?_) _ _
            exact (truthy_eq_some.mp ht).2 (robotStateKey_injective hkey).symm

/-- **A robot's entry** after executions that return, when it had none before. -/
theorem entry_afterAll (hs : w.sessions () = []) (hok : AllSucceed w ps)
    (hnone : w.redis (robotStateKey amrCode) = none) (ha : amrCode ≠ "") :
    (afterAll w ps).redis (robotStateKey amrCode) =
      (lastOf amrCode ps).map (Processing.entry amrCode) := by
  rw [hok.redis hs, foldl_onRedis ha, hnone, ← lastOf]
  cases lastOf amrCode ps <;> rfl

theorem mem_of_lastOf (h : lastOf amrCode ps = some p) : p ∈ ps :=
  List.mem_of_mem_filter (List.mem_of_getLast? h)

/-- What the service makes of a robot's key. -/
theorem robotStatus?_afterAll (hreads : service.ReadsBack)
    (hs : w.sessions () = []) (hok : AllSucceed w ps) (hclock : ∀ p ∈ ps, p.clock.Valid)
    (hnone : w.redis (robotStateKey amrCode) = none) :
    service.robotStatus? (robotStateKey amrCode) ((afterAll w ps).redis (robotStateKey amrCode)) =
      if amrCode = "" then none else (lastOf amrCode ps).map (Processing.reported amrCode) := by
  by_cases ha : amrCode = ""
  · subst ha
    rw [hok.redis hs, foldl_onRedis_empty, hnone, if_pos rfl]
    rfl
  · rw [entry_afterAll hs hok hnone ha, if_neg ha]
    cases hlast : lastOf amrCode ps with
    | none => rfl
    | some p =>
        rw [Option.map_some, Option.map_some,
          robotStatus?_entry hreads ha (hclock p (mem_of_lastOf hlast))]

/-! ### The list -/

theorem listRobotStates_run (keys : List String) :
    (service.listRobotStates keys).run (respond () {}) w =
      (.ok (keys.filterMap fun key => service.robotStatus? key (w.redis key)), w) := by
  induction keys with
  | nil => rfl
  | cons key keys ih =>
      have hget : respond () {} (.redisGet key) w = (.ok (w.redis key), w) := rfl
      rw [RobotService.listRobotStates, bind_eq, run_bind, run_perform, hget, onOk_ok, bind_eq,
        run_bind, ih, onOk_ok, List.filterMap_cons]
      cases service.robotStatus? key (w.redis key) <;> rfl

/-- **The list of robots.**  Before the executions there is no robot's entry; each of them returns,
and nothing expires.  The list has at most one entry for a code, and it has one, with the data of
the last feedback processed for the robot, for each code that is not empty and that a feedback with
a task code and a method has named. -/
theorem list_reports_last (hreads : service.ReadsBack) (hs : w.sessions () = [])
    (hnone : ∀ amrCode, w.redis (robotStateKey amrCode) = none) (hok : AllSucceed w ps)
    (hclock : ∀ p ∈ ps, p.clock.Valid) {keys : List String}
    (hscan : Scans (afterAll w ps) robotStateScanPattern keys) :
    ∃ results, (service.listRobotStates keys).run (respond () {}) (afterAll w ps) =
        (.ok results, afterAll w ps) ∧
      (results.map RobotStatusResponse.amrCode).Nodup ∧
      ∀ r, r ∈ results ↔
        r.amrCode ≠ "" ∧ ∃ p, lastOf r.amrCode ps = some p ∧ r = p.reported r.amrCode := by
  refine ⟨_, listRobotStates_run keys, ?_, fun r => ?_⟩
  · -- A response names the robot of the key it was read from.
    have hnamed : ∀ key ∈ keys, ∀ r, service.robotStatus? key ((afterAll w ps).redis key) = some r →
        key = robotStateKey r.amrCode := by
      intro key hkey r hr
      obtain ⟨amrCode, rfl⟩ := matches_iff.mp ((hscan.mem_iff key).mp hkey).1
      rw [robotStatus?_afterAll hreads hs hok hclock (hnone amrCode)] at hr
      split_ifs at hr
      obtain ⟨p, -, rfl⟩ := Option.map_eq_some_iff.mp hr
      rfl
    rw [List.Nodup, List.pairwise_map, List.pairwise_filterMap]
    refine hscan.nodup.imp_of_mem fun {key key'} hkey hkey' hne r hr r' hr' hcode => hne ?_
    rw [hnamed key hkey r hr, hnamed key' hkey' r' hr', hcode]
  · rw [List.mem_filterMap]
    constructor
    · rintro ⟨key, hkey, hr⟩
      obtain ⟨amrCode, rfl⟩ := matches_iff.mp ((hscan.mem_iff key).mp hkey).1
      rw [robotStatus?_afterAll hreads hs hok hclock (hnone amrCode)] at hr
      split_ifs at hr with ha
      obtain ⟨p, hlast, rfl⟩ := Option.map_eq_some_iff.mp hr
      exact ⟨ha, p, hlast, rfl⟩
    · rintro ⟨ha, p, hlast, hr⟩
      refine ⟨robotStateKey r.amrCode, (hscan.mem_iff _).mpr ⟨matches_iff.mpr ⟨_, rfl⟩, ?_⟩, ?_⟩
      · rw [entry_afterAll hs hok (hnone _) ha, hlast]
        rfl
      · rw [robotStatus?_afterAll hreads hs hok hclock (hnone _), if_neg ha, hlast, hr]
        rfl

/-- **The keys after executions** that return are those of the robots whose entries they write. -/
theorem scans_afterAll (hs : w.sessions () = []) (hok : AllSucceed w ps)
    (hnone : ∀ amrCode, w.redis (robotStateKey amrCode) = none) (codes : List String)
    (hnodup : codes.Nodup)
    (hcodes : ∀ amrCode, amrCode ∈ codes ↔ amrCode ≠ "" ∧ (lastOf amrCode ps).isSome = true) :
    Scans (afterAll w ps) robotStateScanPattern (codes.map robotStateKey) where
  nodup := hnodup.map fun _ _ => robotStateKey_injective
  mem_iff key := by
    rw [List.mem_map]
    constructor
    · rintro ⟨amrCode, hmem, rfl⟩
      obtain ⟨ha, hlast⟩ := (hcodes amrCode).mp hmem
      refine ⟨matches_iff.mpr ⟨_, rfl⟩, ?_⟩
      rw [entry_afterAll hs hok (hnone _) ha, Option.isSome_map]
      exact hlast
    · rintro ⟨hmatch, hsome⟩
      obtain ⟨amrCode, rfl⟩ := matches_iff.mp hmatch
      refine ⟨amrCode, (hcodes amrCode).mpr ?_, rfl⟩
      by_cases ha : amrCode = ""
      · subst ha
        rw [hok.redis hs, foldl_onRedis_empty, hnone] at hsome
        cases hsome
      · rw [entry_afterAll hs hok (hnone _) ha, Option.isSome_map] at hsome
        exact ⟨ha, hsome⟩

/-- Numbers read as floats, and dates as `isoformat` writes them. -/
def sampleRobotService : RobotService where
  floatOf
    | .float f => some f
    | .int i => some (.finite (decide (i < 0)) i.natAbs 0)
    | _ => none
  fromIsoformat := DateTime.fromIsoformat

theorem sampleRobotService_readsBack : sampleRobotService.ReadsBack :=
  ⟨fun _ => rfl, fun _ => DateTime.fromIsoformat_isoformat⟩

/-- The feedback `start` of `R1`, then that of `R2`, then the feedback `end` of `R1`. -/
def twoRobots : List Processing := [robotStart, otherStart, robotEnd]

theorem twoRobots_succeed : AllSucceed { db := pendingTables } twoRobots :=
  have hclean {w : World Unit} {p : Processing} := @Processing.succeeds_of_clean p w
  have hfirst := @afterAll_session { db := pendingTables } [robotStart] rfl
  have hsecond := @afterAll_session { db := pendingTables } [robotStart, otherStart] rfl
  ⟨hclean rfl rfl, hclean hfirst rfl, hclean hsecond rfl, trivial⟩

/-- After them there are the keys of both robots. -/
theorem scans_twoRobots :
    Scans (afterAll { db := pendingTables } twoRobots) robotStateScanPattern
      [robotStateKey "R1", robotStateKey "R2"] := by
  refine scans_afterAll rfl twoRobots_succeed (fun _ => rfl) ["R1", "R2"] (by decide)
    fun amrCode => ?_
  constructor
  · intro hmem
    rcases List.mem_pair.mp hmem with rfl | rfl
    · exact ⟨by decide, by rfl⟩
    · exact ⟨by decide, by rfl⟩
  · rintro ⟨-, hlast⟩
    obtain ⟨p, hp⟩ := Option.isSome_iff_exists.mp hlast
    have hwrites : p.Writes amrCode :=
      of_decide_eq_true (List.mem_filter.mp (List.mem_of_getLast? hp)).2
    have hmem : p ∈ [robotStart, otherStart, robotEnd] := mem_of_lastOf hp
    simp only [List.mem_cons, List.not_mem_nil, or_false] at hmem
    rcases hmem with rfl | rfl | rfl
    · cases hwrites.2
      exact List.mem_pair.mpr (.inl rfl)
    · cases hwrites.2
      exact List.mem_pair.mpr (.inr rfl)
    · cases hwrites.2
      exact List.mem_pair.mpr (.inl rfl)

/-- The list shows `R1` as its second feedback left it, and `R2`. -/
theorem list_reports_robotEnd :
    ∃ results, (sampleRobotService.listRobotStates [robotStateKey "R1", robotStateKey "R2"]).run
        (respond () {}) (afterAll { db := pendingTables } twoRobots) =
          (.ok results, afterAll { db := pendingTables } twoRobots) ∧
      robotEnd.reported "R1" ∈ results ∧ otherStart.reported "R2" ∈ results := by
  obtain ⟨results, hrun, -, hmem⟩ := list_reports_last sampleRobotService_readsBack rfl
    (fun _ => rfl) twoRobots_succeed (by decide) scans_twoRobots
  exact ⟨results, hrun, (hmem _).mpr ⟨by decide, robotEnd, by rfl, rfl⟩,
    (hmem _).mpr ⟨by decide, otherStart, by rfl, rfl⟩⟩

end Rcs

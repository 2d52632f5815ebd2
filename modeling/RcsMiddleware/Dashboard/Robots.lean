import RcsMiddleware.Feedback.RobotList
import RcsMiddleware.Source.StatsService

/-!
# Dashboard — Robots

The list of robots and their number, where `SCAN` may yield a key several times, as Redis allows it.

* `listed_distinct_iff`: the list has at most one entry for a key exactly when no key that is shown
  is yielded twice.
* `countActiveRobots_iff`: the number is that of the keys exactly when no key is yielded twice.
* `robots_once_iff`: both.
-/

namespace Rcs

open Support Support.Text Support.Prog

variable {w : World Unit} {keys : List String}

/-- The list is read from the keys, and no two of its entries from one key. -/
def ListedOnce (service : RobotService) (w : World Unit) (keys : List String) : Prop :=
  ∃ results, (service.listRobotStates keys).run (respond () {}) w = (.ok results, w) ∧
    FromDistinct (fun key => service.robotStatus? key (w.redis key)) keys results

/-- **The list** has at most one entry for a key. -/
theorem listed_distinct_iff (service : RobotService) (w : World Unit) (keys : List String) :
    ListedOnce service w keys ↔
      (keys.filter fun key => (service.robotStatus? key (w.redis key)).isSome).Nodup := by
  rw [← filterMap_distinct_iff]
  constructor
  · rintro ⟨results, hrun, hdistinct⟩
    rw [listRobotStates_run] at hrun
    obtain ⟨hresults, -⟩ := Prod.mk.inj hrun
    obtain rfl := Except.ok.inj hresults
    exact hdistinct
  · exact fun hdistinct => ⟨_, listRobotStates_run keys, hdistinct⟩

theorem countActiveRobots_eq (keys : List String) : countActiveRobots keys = keys.length := by
  rw [countActiveRobots, List.foldl_add_const, Nat.zero_add, Nat.one_mul]

/-- **The number** is that of the keys. -/
theorem countActiveRobots_iff (hscan : Enumerates (robotKeys w) keys) :
    countActiveRobots keys = (robotKeys w).ncard ↔ keys.Nodup := by
  rw [countActiveRobots_eq, hscan.length_eq_ncard_iff]

/-- **Robots are listed and counted once**, for a `SCAN` that yields each key at least once, exactly
when it yields none twice. -/
theorem robots_once_iff (service : RobotService) (hscan : Enumerates (robotKeys w) keys) :
    (ListedOnce service w keys ∧ countActiveRobots keys = (robotKeys w).ncard) ↔ keys.Nodup := by
  rw [listed_distinct_iff, countActiveRobots_iff hscan]
  exact and_iff_right_of_imp fun hnodup => hnodup.filter _

/-- What Redis has of one robot. -/
def oneRobot : World Unit where
  redis key := if key = "robot:R1:state" then some (.json (.obj [("amrCode", .str "R1")])) else none

/-- A `SCAN` of it, however often the key comes. -/
theorem enumerates_oneRobot {n : Nat} (hn : n ≠ 0) :
    Enumerates (robotKeys oneRobot) (List.replicate n "robot:R1:state") := by
  intro key
  rw [List.mem_replicate]
  constructor
  · rintro ⟨-, rfl⟩
    exact ⟨matches_iff.mpr ⟨"R1", rfl⟩, rfl⟩
  · rintro ⟨-, hsome⟩
    refine ⟨hn, ?_⟩
    by_contra hkey
    rw [oneRobot] at hsome
    simp [hkey] at hsome

theorem robots_once_sample :
    ListedOnce sampleRobotService oneRobot ["robot:R1:state"] ∧
      countActiveRobots ["robot:R1:state"] = (robotKeys oneRobot).ncard :=
  (robots_once_iff sampleRobotService (enumerates_oneRobot (n := 1) (by decide))).mpr
    (List.nodup_singleton _)

/-- **A robot that is listed and counted twice**: its key comes twice. -/
theorem robot_twice :
    Enumerates (robotKeys oneRobot) ["robot:R1:state", "robot:R1:state"] ∧
      (∃ robot, (sampleRobotService.listRobotStates ["robot:R1:state", "robot:R1:state"]).run
        (respond () {}) oneRobot = (.ok [robot, robot], oneRobot)) ∧
      countActiveRobots ["robot:R1:state", "robot:R1:state"] = 2 ∧
      (robotKeys oneRobot).ncard = 1 := by
  have hone := enumerates_oneRobot (n := 1) (by decide)
  refine ⟨enumerates_oneRobot (n := 2) (by decide), ?_, rfl, ?_⟩
  · refine ⟨⟨"R1", none, none, none, none⟩, ?_⟩
    rw [listRobotStates_run]
    rfl
  · exact (hone.length_eq_ncard_iff.mpr (List.nodup_singleton _)).symm

end Rcs

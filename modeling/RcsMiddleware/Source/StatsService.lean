import RcsMiddleware.Source.RobotService
import RcsMiddleware.Support.Repeats

/-!
# Source — StatsService

The number of active robots of the dashboard's statistics (`services/stats_service.py`), and what
Redis promises of the `SCAN` behind it (`utils/redis_helper.py`) while nothing changes.
-/

namespace Rcs

open Support Support.Text

/-- `_count_active_robots`, over the keys `SCAN` yields. -/
def countActiveRobots (scanned : List String) : Nat :=
  scanned.foldl (fun count _ => count + 1) 0

/-- The keys with an entry that match `REDIS_ROBOT_STATE_SCAN_PATTERN`. -/
def robotKeys {ι : Type} (w : World ι) : Set String := fun key =>
  globMatch robotStateScanPattern.toList key.toList = true ∧ (w.redis key).isSome = true

end Rcs

import RcsMiddleware.Source.World

/-!
# Source — Lifespan

What a worker process of the API server does before its first request and after its last one: the
`lifespan` of `main.py`, with `db/init_seed.py` and the module-level clients of `rcs2000_client.py`
and `redis_helper.py`.  The workers share the table of robot types, and each has module-level state
of its own.  The requests of a worker are served while its `lifespan` stands at `yield` (`serve`).
-/

namespace Rcs

open Support

/-- `DEFAULT_ROBOT_TYPES`. -/
def defaultRobotTypes : List RobotType :=
  [⟨"LMR", "PF-LMR-COMMON"⟩, ⟨"FMR", "PF-FMR-COMMON"⟩, ⟨"CT7", "PF-CTU-COMMON"⟩]

/-- The operations of a startup and a shutdown. -/
inductive BootOp where
  /-- `SELECT 1`. -/
  | selectOne
  /-- `SELECT name FROM robot_types`. -/
  | selectNames
  /-- `session.commit()` with these rows added. -/
  | commitTypes (added : List RobotType)
  | closeSession
  | getRedis
  | ping
  | initRcsClient
  /-- The `yield` of `lifespan`, which the server may end with an exception. -/
  | serve
  | shutdownRcsClient
  | closeRedis
  | dispose
  deriving DecidableEq

@[reducible] def BootRet : BootOp → Type
  | .selectNames => List String
  | _ => Unit

abbrev Boot := Prog BootOp BootRet PyExc

/-- The module-level state of a worker: whether `_singleton` and `_redis_client` are set, and whether
the engine has been disposed of. -/
structure Worker where
  rcsClient : Bool := false
  redisClient : Bool := false
  engineDisposed : Bool := false
  deriving DecidableEq, Repr

/-- The table of robot types, and the workers. -/
structure Server (ι : Type) where
  robotTypes : List RobotType := []
  workers : ι → Worker := fun _ => {}

namespace Server

variable {ι : Type}

/-- The names of the table. -/
def names (s : Server ι) : List String := s.robotTypes.map RobotType.name

/-- `COMMIT` of the rows: all of them, or none where a name is taken. -/
def commit (s : Server ι) (added : List RobotType) : Except PyExc Unit × Server ι :=
  if (s.names ++ added.map RobotType.name).Nodup then
    (.ok (), { s with robotTypes := s.robotTypes ++ added })
  else (.error (.integrityError "name"), s)

/-- Worker `i` in another state. -/
def setWorker [DecidableEq ι] (s : Server ι) (i : ι) (worker : Worker) : Server ι :=
  { s with workers := Function.update s.workers i worker }

end Server

/-- The outcome of an assignment behind a call: it is made only if the call returns. -/
def Fault.assign {σ : Type} (f : Fault) (s assigned : σ) : Except PyExc Unit × σ :=
  match f with
  | .none => (.ok (), assigned)
  | .before e | .after e => (.error e, s)

/-- What an operation of worker `i` answers and leaves behind. -/
def bootRespond {ι : Type} [DecidableEq ι] (i : ι) (fault : Fault) :
    (o : BootOp) → Server ι → Except PyExc (BootRet o) × Server ι
  | .selectOne, s | .ping, s | .closeSession, s | .serve, s => fault.strike s (.ok (), s)
  | .selectNames, s => fault.strike s (.ok s.names, s)
  | .commitTypes added, s => fault.strike s (s.commit added)
  | .getRedis, s =>
      if (s.workers i).redisClient then (.ok (), s)
      else fault.assign s (s.setWorker i { s.workers i with redisClient := true })
  | .initRcsClient, s =>
      if (s.workers i).rcsClient then (.ok (), s)
      else fault.assign s (s.setWorker i { s.workers i with rcsClient := true })
  | .shutdownRcsClient, s =>
      if (s.workers i).rcsClient then
        fault.assign s (s.setWorker i { s.workers i with rcsClient := false })
      else (.ok (), s)
  | .closeRedis, s =>
      if (s.workers i).redisClient then
        fault.assign s (s.setWorker i { s.workers i with redisClient := false })
      else (.ok (), s)
  | .dispose, s =>
      fault.strike s (.ok (), s.setWorker i { s.workers i with engineDisposed := true })

/-- The workers of the server; anything may fail in a worker that is not spared. -/
def server {ι : Type} [DecidableEq ι] (spared : ι → Bool) :
    System ι BootOp BootRet PyExc (Server ι) where
  exec i o s r s' := ∃ fault, (spared i = true → fault = .none) ∧ bootRespond i fault o s = (r, s')
  env _ _ := False

/-! ### The programs -/

/-- One operation as a program. -/
def bootPerform (o : BootOp) : Boot (BootRet o) := Prog.perform o

/-- The default types whose names are not in the table. -/
def missingTypes (existing : List String) : List RobotType :=
  defaultRobotTypes.filter fun spec => !existing.contains spec.name

/-- `seed_robot_types()`, in a session of its own. -/
def seedRobotTypes : Boot Unit :=
  Prog.tryFinally (do
      let existing ← bootPerform .selectNames
      if missingTypes existing ≠ [] then bootPerform (.commitTypes (missingTypes existing))
      else return ())
    (bootPerform .closeSession)

/-- `lifespan`, from the check of the database to the end. -/
def lifespan : Boot Unit := do
  Prog.tryFinally (bootPerform .selectOne) (bootPerform .closeSession)
  bootPerform .getRedis
  bootPerform .ping
  bootPerform .initRcsClient
  Prog.tryCatch seedRobotTypes fun _ => return ()
  Prog.tryFinally (bootPerform .serve) do
    bootPerform .shutdownRcsClient
    bootPerform .closeRedis
    bootPerform .dispose

end Rcs

import RcsMiddleware.Source.World
import RcsMiddleware.Support.Pool

/-!
# Source — Engine

`db/session.py`: the engine, which belongs to the process, and the connections of a session.  A
session takes a connection from the engine's pool at its first statement, works on it until its
transaction ends, by `commit()`, `rollback()` or `close()`, and then returns it.  The pool is
SQLAlchemy's: a parameter, of which `Support/Pool.lean` says what is relied on.
-/

namespace Rcs

open Support

/-- `pool_size`. -/
def poolSize : Nat := 10

/-- `pool_recycle`, in seconds. -/
def poolRecycle : Nat := 1800

/-- A database connection: the event loop it was opened in and is bound to, and when that was. -/
structure Connection where
  loop : Nat
  openedAt : Nat
  deriving DecidableEq, Repr

/-- What a session under `loop` asks of the pool at `time`.  An idle connection is replaced when it
is older than `pool_recycle`, or when `pool_pre_ping` finds it lost. -/
def connectionDemand (loop time : Nat) (lost : Bool) : Demand Connection where
  fit c := !lost && decide (time ≤ c.openedAt + poolRecycle)
  new := { loop := loop, openedAt := time }

/-- The operation is sent over the session's connection as a statement. -/
def Op.isStatement : Op → Bool
  | .selectRobotType _ | .selectTask _ | .insertTask _ | .updateTask _ _ | .selectConfig _ => true
  -- A commit first flushes what is pending.
  | .commit pending => !pending.isEmpty
  | _ => false

/-- The operation ends the session's transaction. -/
def Op.endsTransaction : Op → Bool
  | .commit _ | .rollback | .close => true
  | _ => false

/-- The engine's pool, the connection the session holds, and those its statements were sent
over. -/
structure EngineState (S : Type) where
  pool : S
  connection : Option Connection := none
  used : List Connection := []

namespace EngineState

variable {S : Type} {size : Nat} (P : Pool Connection S size) (d : Demand Connection)

/-- A statement: it is sent over the connection the session holds, or takes one. -/
def connect (t : EngineState S) : EngineState S :=
  match t.connection with
  | some c => { t with used := t.used ++ [c] }
  | none =>
      let (c, pool) := P.checkout d t.pool
      { pool := pool, connection := some c, used := t.used ++ [c] }

/-- The end of a transaction. -/
def release (t : EngineState S) : EngineState S :=
  match t.connection with
  | some c => { t with pool := P.checkin c t.pool, connection := none }
  | none => t

/-- What an operation of the session does to its connection. -/
def step (o : Op) (t : EngineState S) : EngineState S :=
  let t := if o.isStatement then t.connect P d else t
  if o.endsTransaction then t.release P else t

variable {P d} {t : EngineState S}

theorem connect_of_some {c : Connection} (h : t.connection = some c) :
    t.connect P d = { t with used := t.used ++ [c] } := by
  rw [connect, h]

theorem connect_of_none (h : t.connection = none) :
    t.connect P d = { pool := (P.checkout d t.pool).2, connection := some (P.checkout d t.pool).1,
                      used := t.used ++ [(P.checkout d t.pool).1] } := by
  rw [connect, h]

theorem release_of_some {c : Connection} (h : t.connection = some c) :
    t.release P = { t with pool := P.checkin c t.pool, connection := none } := by
  rw [release, h]

theorem release_of_none (h : t.connection = none) : t.release P = t := by
  rw [release, h]

end EngineState

/-- Stores and engine side by side: the stores answer, and the session keeps its connection. -/
def withEngine {S σ : Type} {size : Nat} (P : Pool Connection S size) (d : Demand Connection)
    (respond : (o : Op) → σ → Except PyExc (Ret o) × σ) (o : Op) (s : σ × EngineState S) :
    Except PyExc (Ret o) × (σ × EngineState S) :=
  ((respond o s.1).1, (respond o s.1).2, s.2.step P d o)

end Rcs

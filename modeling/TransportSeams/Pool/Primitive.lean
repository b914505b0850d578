import TransportSeams.Error
import TransportSeams.Pool.Tracker

/-!
The primitives through which clients use a pool: an acquire primitive hands out a connection, a
create primitive opens one. Each is stock, a wrapper around another one, or a client's own, which
may do as it likes with the pool and the connections it opens.
-/

set_option autoImplicit false
set_option relaxedAutoImplicit false

namespace TransportSeams

/-- What a client's own primitive can see and change. -/
structure PoolTurn where
  pool : Pool
  nextConnection : ConnectionId

abbrev PoolAction : Type :=
  ExceptT SeamError (StateM PoolTurn) Connection

namespace PoolAction

/-- Opens a connection of a fixed type to the pool's host. -/
def opening (type : TransportType) : PoolAction := do
  let turn ← get
  set { turn with nextConnection := ⟨turn.nextConnection.index + 1⟩ }
  return ⟨turn.nextConnection, turn.pool.host, type, false⟩

/-- Takes the next idle connection, and opens one of a fixed type when there is none. -/
def takingOrOpening (type : TransportType) : PoolAction := do
  let turn ← get
  match turn.pool.takeIdle? with
  | some (connection, pool) =>
    set { turn with pool := pool }
    return connection
  | none => opening type

def refusing (reason : String) : PoolAction :=
  throw (.pool (.refused reason))

end PoolAction

inductive Create where
  /-- Opens a connection of the type bound at the pool's class. -/
  | stock
  /-- Tells the tracker of each connection that `inner` opens. -/
  | tracked (inner : Create) (tracker : TrackerId)
  | custom (action : PoolAction)

inductive Acquire where
  /-- Reuses the next live idle connection, and else opens one through the create seam. -/
  | stock
  /-- Asks `inner` until it hands out an instance of the pool's connection type, skipping at most
  `limit` other connections. `fallback` holds the type where the pool's class has none. -/
  | checked (inner : Acquire) (fallback : SeamKey) (limit : Nat)
  | custom (action : PoolAction)

end TransportSeams

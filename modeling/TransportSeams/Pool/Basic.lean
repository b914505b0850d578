import TransportSeams.KeyMap
import TransportSeams.Transport.Connection

/-!
Connection pools. A pool names the seam targets that its clients look up and keeps its idle
connections as a stack, the one to be taken next first.
-/

set_option autoImplicit false
set_option relaxedAutoImplicit false

namespace TransportSeams

structure PoolId where
  index : Nat
deriving DecidableEq, Repr

theorem PoolId.index_injective {a b : PoolId} (h : a.index = b.index) : a = b := by
  cases a
  cases b
  simp_all

instance : KeyOrder PoolId :=
  KeyOrder.pullback PoolId.index PoolId.index_injective

structure Pool where
  /-- The seam target that holds the connection type and the pool's two primitives. -/
  className : String
  /-- The seam target that holds the liveness probe. -/
  probeTarget : String
  host : String
  idle : List Connection
deriving DecidableEq, Repr, Inhabited

namespace Pool

def new (className probeTarget host : String) : Pool :=
  ⟨className, probeTarget, host, []⟩

def takeIdle? (pool : Pool) : Option (Connection × Pool) :=
  match pool.idle with
  | [] => none
  | connection :: rest => some (connection, { pool with idle := rest })

def putIdle (pool : Pool) (connection : Connection) : Pool :=
  { pool with idle := connection :: pool.idle }

def idleIds (pool : Pool) : List ConnectionId :=
  pool.idle.map Connection.id

end Pool

end TransportSeams

import TransportSeams.Registry.Operations

/-!
Handing out and opening connections through the seams of a pool. Every lookup is made when it is
needed, so a primitive sees the values that are installed at that moment.
-/

set_option autoImplicit false
set_option relaxedAutoImplicit false

namespace TransportSeams

namespace Seam

def connectionType (className : String) : SeamKey :=
  ⟨className, "ConnectionCls"⟩

def create (className : String) : SeamKey :=
  ⟨className, "new_conn"⟩

def acquire (className : String) : SeamKey :=
  ⟨className, "get_conn"⟩

def probe (target : String) : SeamKey :=
  ⟨target, "is_connection_dropped"⟩

end Seam

namespace Registry

/-- The pool's liveness probe, and without one the connection's own mark. -/
def isDropped (registry : Registry) (pool : Pool) (connection : Connection) : Bool :=
  match registry.value? (Seam.probe pool.probeTarget) with
  | some (.probe probe) => probe.isDropped connection
  | _ => connection.dropped

def transportAt (registry : Registry) (key : SeamKey) : Except SeamError TransportType :=
  match registry.value? key with
  | some (.transport type) => .ok type
  | some other => .error (.pool (.wrongKind key other.kind .transport))
  | none => .error (.unknownSeam key)

/-- The type bound at the pool's class, or at `fallback` where the class has no such seam. -/
def expectedType (registry : Registry) (className : String) (fallback : SeamKey) :
    Except SeamError TransportType :=
  let key := Seam.connectionType className
  if registry.contains key then registry.transportAt key
  else if registry.contains fallback then registry.transportAt fallback
  else .error (.unknownSeam key)

end Registry

namespace Action

def track (id : TrackerId) (pool : PoolId) (connection : Connection) : Action Unit := do
  putTracker id ((← tracker id).add pool connection)

def untrack (id : TrackerId) (pool : PoolId) (connection : Connection) : Action Unit := do
  putTracker id ((← tracker id).remove pool connection)

def putIdle (id : PoolId) (connection : Connection) : Action Unit := do
  putPool id ((← pool id).putIdle connection)

def takeIdle? (id : PoolId) : Action (Option Connection) := do
  match (← pool id).takeIdle? with
  | none => return none
  | some (connection, rest) =>
    putPool id rest
    return some connection

/-- Drops idle connections that are no longer alive and takes the first one that is. -/
def takeLive? (registryId : RegistryId) (id : PoolId) : Action (Option Connection) := do
  let registry ← Action.registry registryId
  let pool ← Action.pool id
  match pool.idle.dropWhile (registry.isDropped pool) with
  | [] =>
    putPool id { pool with idle := [] }
    return none
  | connection :: rest =>
    putPool id { pool with idle := rest }
    return some connection

/-- Lets a client's own primitive act on a pool. -/
def perform (id : PoolId) (action : PoolAction) : Action (Except SeamError Connection) := do
  let world ← get
  let (result, turn) := action.run.run ⟨world.pools.get id, world.nextConnection⟩
  set { world with
    pools := world.pools.put id turn.pool
    nextConnection := turn.nextConnection }
  return result

end Action

namespace Attempt

/-- Opens a connection of the type bound at the pool's class. -/
def openBound (registryId : RegistryId) (id : PoolId) : Attempt Connection := do
  let pool ← Action.pool id
  let registry ← Action.registry registryId
  let type ← ofExcept (registry.transportAt (Seam.connectionType pool.className))
  Action.openConnection type pool.host

end Attempt

def Create.run (registryId : RegistryId) (id : PoolId) : Create → Attempt Connection
  | .stock => Attempt.openBound registryId id
  | .tracked inner tracker => do
    let connection ← inner.run registryId id
    Action.track tracker id connection
    return connection
  | .custom action => Attempt.ofOutcome (Action.perform id action)

namespace Attempt

/-- Opens a connection through the pool's create seam. -/
def newConnection (registryId : RegistryId) (id : PoolId) : Attempt Connection := do
  let key := Seam.create (← Action.pool id).className
  match (← Action.registry registryId).value? key with
  | some (.create _ primitive) => primitive.run registryId id
  | some other => throw (.pool (.wrongKind key other.kind .create))
  | none => throw (.unknownSeam key)

/-- The next live idle connection, and else a new one. -/
def reuseOrOpen (registryId : RegistryId) (id : PoolId) : Attempt Connection := do
  match ← Action.takeLive? registryId id with
  | some connection => return connection
  | none => newConnection registryId id

/-- Asks `original` until it gives an instance of `expected`. The number says how many others may
still be skipped, and `limit` how many could be at first. -/
def skipStale (original : Attempt Connection) (className : String) (expected : TransportType)
    (limit : Nat) : Nat → Attempt Connection
  | 0 => do
    let connection ← original
    if connection.isInstanceOf expected then return connection
    else throw (.pool (.exhausted className expected.name limit))
  | left + 1 => do
    let connection ← original
    if connection.isInstanceOf expected then return connection
    else
      Action.emit
        (.staleDiscarded className connection.id connection.transport.name expected.name)
      skipStale original className expected limit left

/-- `original`, narrowed to instances of the type that the pool expects at the start of the call. -/
def checked (original : Attempt Connection) (fallback : SeamKey) (limit : Nat)
    (registryId : RegistryId) (id : PoolId) : Attempt Connection := do
  let className := (← Action.pool id).className
  let registry ← Action.registry registryId
  let expected ← ofExcept (registry.expectedType className fallback)
  skipStale original className expected limit limit

end Attempt

def Acquire.run (registryId : RegistryId) (id : PoolId) : Acquire → Attempt Connection
  | .stock => Attempt.reuseOrOpen registryId id
  | .checked inner fallback limit =>
    Attempt.checked (inner.run registryId id) fallback limit registryId id
  | .custom action => Attempt.ofOutcome (Action.perform id action)

namespace Attempt

/-- Hands out a connection through the pool's acquire seam. -/
def getConnection (registryId : RegistryId) (id : PoolId) : Attempt Connection := do
  let key := Seam.acquire (← Action.pool id).className
  match (← Action.registry registryId).value? key with
  | some (.acquire _ primitive) => primitive.run registryId id
  | some other => throw (.pool (.wrongKind key other.kind .acquire))
  | none => throw (.unknownSeam key)

end Attempt

end TransportSeams

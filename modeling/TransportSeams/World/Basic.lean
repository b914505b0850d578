import TransportSeams.Event
import TransportSeams.Registry.Basic
import TransportSeams.Store
import TransportSeams.Stub.Shelf
import TransportSeams.Substitute.Cache

/-!
The world that operations act on: the supplies of fresh identities, the shared objects, and the
trace of events. An `Action` always succeeds; an `Attempt` may fail, and what it has changed by then
stays changed. Nothing reads the trace.
-/

set_option autoImplicit false
set_option relaxedAutoImplicit false

namespace TransportSeams

structure RegistryId where
  index : Nat
deriving DecidableEq, Repr

structure World where
  nextTransport : TransportId
  nextConnection : ConnectionId
  nextFunction : FunctionId
  /-- The next identity of a registry, pool, tracker, cache or shelf. -/
  nextObject : Nat
  registries : Store RegistryId Registry
  pools : Store PoolId Pool
  trackers : Store TrackerId Tracker
  caches : Store CacheId SubstituteCache
  shelves : Store ShelfId StubShelf
  /-- The events so far, the newest first. -/
  trace : List Event

abbrev Action : Type → Type :=
  StateM World

abbrev Attempt : Type → Type :=
  ExceptT SeamError Action

namespace Attempt

variable {α : Type}

def ofExcept (result : Except SeamError α) : Attempt α :=
  ExceptT.mk (pure result)

/-- An action whose outcome may be an error. -/
def ofOutcome (action : Action (Except SeamError α)) : Attempt α :=
  ExceptT.mk action

/-- The outcome of an attempt, as a value. -/
def outcome (attempt : Attempt α) : Action (Except SeamError α) :=
  attempt.run

/-- An attempt that hands its failure on as a value. -/
def observe (attempt : Attempt α) : Attempt (Except SeamError α) :=
  ExceptT.lift attempt.outcome

end Attempt

namespace World

def initial : World :=
  ⟨⟨1⟩, ⟨1⟩, ⟨1⟩, 1, Store.empty, Store.empty, Store.empty, Store.empty, Store.empty, []⟩

instance : Inhabited World :=
  ⟨initial⟩

/-- The events so far, the oldest first. -/
def events (world : World) : List Event :=
  world.trace.reverse

end World

namespace Action

def freshTransport : Action TransportId :=
  modifyGet fun world =>
    (world.nextTransport, { world with nextTransport := ⟨world.nextTransport.index + 1⟩ })

def freshConnection : Action ConnectionId :=
  modifyGet fun world =>
    (world.nextConnection, { world with nextConnection := ⟨world.nextConnection.index + 1⟩ })

def freshFunction : Action FunctionId :=
  modifyGet fun world =>
    (world.nextFunction, { world with nextFunction := ⟨world.nextFunction.index + 1⟩ })

def freshObject : Action Nat :=
  modifyGet fun world => (world.nextObject, { world with nextObject := world.nextObject + 1 })

def emit (event : Event) : Action Unit :=
  modify fun world => { world with trace := event :: world.trace }

def registry (id : RegistryId) : Action Registry :=
  return (← get).registries.get id

def putRegistry (id : RegistryId) (registry : Registry) : Action Unit :=
  modify fun world => { world with registries := world.registries.put id registry }

def newRegistry : Action RegistryId := do
  let id : RegistryId := ⟨← freshObject⟩
  putRegistry id Registry.empty
  return id

def pool (id : PoolId) : Action Pool :=
  return (← get).pools.get id

def putPool (id : PoolId) (pool : Pool) : Action Unit :=
  modify fun world => { world with pools := world.pools.put id pool }

def newPool (pool : Pool) : Action PoolId := do
  let id : PoolId := ⟨← freshObject⟩
  putPool id pool
  return id

def tracker (id : TrackerId) : Action Tracker :=
  return (← get).trackers.get id

def putTracker (id : TrackerId) (tracker : Tracker) : Action Unit :=
  modify fun world => { world with trackers := world.trackers.put id tracker }

def newTracker (type : TransportType) : Action TrackerId := do
  let id : TrackerId := ⟨← freshObject⟩
  putTracker id (Tracker.new type)
  return id

def cache (id : CacheId) : Action SubstituteCache :=
  return (← get).caches.get id

def putCache (id : CacheId) (cache : SubstituteCache) : Action Unit :=
  modify fun world => { world with caches := world.caches.put id cache }

def newCache : Action CacheId := do
  let id : CacheId := ⟨← freshObject⟩
  putCache id SubstituteCache.empty
  return id

def shelf (id : ShelfId) : Action StubShelf :=
  return (← get).shelves.get id

def putShelf (id : ShelfId) (shelf : StubShelf) : Action Unit :=
  modify fun world => { world with shelves := world.shelves.put id shelf }

def newShelf : Action ShelfId := do
  let id : ShelfId := ⟨← freshObject⟩
  putShelf id StubShelf.empty
  return id

/-- A library's own connection type. -/
def plainType (name : String) : Action TransportType :=
  return .root ⟨← freshTransport, name, .unavailable⟩

/-- A stub type with an empty session slot. -/
def instrumentedType (name : String) (base? : Option TransportType) : Action TransportType :=
  return .ofBase? ⟨← freshTransport, name, .unbound⟩ base?

def openConnection (type : TransportType) (host : String) : Action Connection :=
  return ⟨← freshConnection, host, type, false⟩

end Action

end TransportSeams

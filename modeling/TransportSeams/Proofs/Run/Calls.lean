import TransportSeams.Proofs.Evaluation
import TransportSeams.SelfCheck

/-!
The calls of the library. Its users make them one after the other. Runs differ in which calls they
make, and in what is kept of the answers and passed on.
-/

set_option autoImplicit false
set_option relaxedAutoImplicit false

namespace TransportSeams

variable {α : Type}

inductive Call : Type → Type where
  | newRegistry : Call RegistryId
  | register (registry : RegistryId) (manifest : Manifest) : Call (Except SeamError Unit)
  | registerReference (registry : RegistryId) (backends : List Backend) :
      Call (Except SeamError Unit)
  | readRegistry (registry : RegistryId) : Call Registry
  | install (registry : RegistryId) (key : SeamKey) (binding : Binding) :
      Call (Except SeamError Binding)
  | reset (registry : RegistryId) : Call Nat
  | plainType (name : String) : Call TransportType
  | instrumentedType (name : String) (base? : Option TransportType) : Call TransportType
  | newFunction : Call FunctionId
  | newShelf : Call ShelfId
  | addBase (shelf : ShelfId) (key : StubKey) (base : TransportType) : Call Unit
  | newCache : Call CacheId
  | readCache (cache : CacheId) : Call SubstituteCache
  | substitute (cache : CacheId) (base : TransportType) (session : SessionId) : Call TransportType
  | resolve (cache : CacheId) (session : SessionId) (value : SeamValue) : Call SeamValue
  | stub (stubs : StubCatalog) (backend : Backend) (name : String) : Call (Option TransportType)
  | intercept (stubs : StubCatalog) (backend : Backend) (name : String) (session : SessionId)
      (original : Handler) : Call (Option Handler)
  | adapt (adapter : Adapter) (context : AdapterContext) : Call AdapterOutput
  | newBuilder (registry : RegistryId) (session : Session) : Call Builder
  | build (builder : Builder) : Call (List Resource)
  | buildPatch (registry : RegistryId) (cache : CacheId) (session : SessionId) (spec : PatchSpec) :
      Call (Option PatchHandle)
  | enter (resource : Resource) : Call (Except SeamError Resource)
  | exit (resource : Resource) : Call (Except SeamError Resource)
  | enterRestore (restore : ForceRestore) : Call (Except SeamError ForceRestore)
  | exitRestore (restore : ForceRestore) : Call (Except SeamError ForceRestore)
  | openScope (session : SessionId) (resources : List Resource) : Call (Except SeamError Scope)
  | start (builder : Builder) : Call (Except SeamError Scope)
  | unwind (scope : Scope) : Call (TeardownReport × Scope)
  | close (scope : Scope) : Call TeardownReport
  | newPool (pool : Pool) : Call PoolId
  | readPool (pool : PoolId) : Call Pool
  | openConnection (type : TransportType) (host : String) : Call Connection
  | getConnection (registry : RegistryId) (pool : PoolId) : Call (Except SeamError Connection)
  | newConnection (registry : RegistryId) (pool : PoolId) : Call (Except SeamError Connection)
  | acquire (primitive : Acquire) (registry : RegistryId) (pool : PoolId) :
      Call (Except SeamError Connection)
  | create (primitive : Create) (registry : RegistryId) (pool : PoolId) :
      Call (Except SeamError Connection)
  | putConnection (pool : PoolId) (connection : Connection) : Call Unit
  | takeIdle (pool : PoolId) : Call (Option Connection)
  | newTracker (type : TransportType) : Call TrackerId
  | readTracker (tracker : TrackerId) : Call Tracker
  | track (tracker : TrackerId) (pool : PoolId) (connection : Connection) : Call Unit
  | untrack (tracker : TrackerId) (pool : PoolId) (connection : Connection) : Call Unit
  | drain (tracker : TrackerId) : Call DrainReport
  | callHandler (registry : RegistryId) (key : SeamKey) (request : Request) :
      Call (Option (Except SeamError Response))
  | selfCheck (config : Config) : Call (Except SeamError SelfCheckSummary)

namespace Call

/-- What the call does. A seam without a handler has no response. -/
def perform : Call α → Action α
  | newRegistry => Action.newRegistry
  | register registry manifest => (Attempt.registerBackend registry manifest).outcome
  | registerReference registry backends => (Reference.register registry backends).outcome
  | readRegistry registry => Action.registry registry
  | install registry key binding => (Attempt.install registry key binding).outcome
  | reset registry => Action.resetToPristine registry
  | plainType name => Action.plainType name
  | instrumentedType name base? => Action.instrumentedType name base?
  | newFunction => Action.freshFunction
  | newShelf => Action.newShelf
  | addBase shelf key base => do
    Action.putShelf shelf ((← Action.shelf shelf).withBase key base)
  | newCache => Action.newCache
  | readCache cache => Action.cache cache
  | substitute cache base session => Action.substitute cache base session
  | resolve cache session value => value.resolve cache session
  | stub stubs backend name => stubs.transport? backend name
  | intercept stubs backend name session original => stubs.intercept? backend name session original
  | adapt adapter context => adapter.build context
  | newBuilder registry session => Builder.new registry session
  | build builder => builder.build
  | buildPatch registry cache session spec => Action.buildPatch? registry cache session spec
  | enter resource => resource.enter.outcome
  | exit resource => resource.exit.outcome
  | enterRestore restore => restore.enter.outcome
  | exitRestore restore => restore.exit.outcome
  | openScope session resources => (Scope.enter session resources).outcome
  | start builder => builder.start.outcome
  | unwind scope => scope.unwind
  | close scope => scope.close
  | newPool pool => Action.newPool pool
  | readPool pool => Action.pool pool
  | openConnection type host => Action.openConnection type host
  | getConnection registry pool => (Attempt.getConnection registry pool).outcome
  | newConnection registry pool => (Attempt.newConnection registry pool).outcome
  | acquire primitive registry pool => (primitive.run registry pool).outcome
  | create primitive registry pool => (primitive.run registry pool).outcome
  | putConnection pool connection => Action.putIdle pool connection
  | takeIdle pool => Action.takeIdle? pool
  | newTracker type => Action.newTracker type
  | readTracker tracker => Action.tracker tracker
  | track tracker pool connection => Action.track tracker pool connection
  | untrack tracker pool connection => Action.untrack tracker pool connection
  | drain tracker => Action.drain tracker
  | callHandler registry key request => do
    match (← Action.registry registry).value? key with
    | some (.handler handler) => return some (handler.answer request)
    | _ => return none
  | selfCheck config => (SelfCheck.run config).outcome

def on (call : Call α) (world : World) : α × World :=
  call.perform.on world

@[simp]
theorem on_register (id : RegistryId) (manifest : Manifest) (world : World) :
    (register id manifest).on world = (Attempt.registerBackend id manifest).on world :=
  rfl

@[simp]
theorem on_enter (resource : Resource) (world : World) :
    (enter resource).on world = resource.enter.on world :=
  rfl

@[simp]
theorem on_exit (resource : Resource) (world : World) :
    (exit resource).on world = resource.exit.on world :=
  rfl

@[simp]
theorem on_enterRestore (restore : ForceRestore) (world : World) :
    (enterRestore restore).on world = restore.enter.on world :=
  rfl

@[simp]
theorem on_exitRestore (restore : ForceRestore) (world : World) :
    (exitRestore restore).on world = restore.exit.on world :=
  rfl

@[simp]
theorem on_openScope (session : SessionId) (resources : List Resource) (world : World) :
    (openScope session resources).on world = (Scope.enter session resources).on world :=
  rfl

@[simp]
theorem on_close (scope : Scope) (world : World) : (close scope).on world = scope.close.on world :=
  rfl

@[simp]
theorem on_unwind (scope : Scope) (world : World) :
    (unwind scope).on world = scope.unwind.on world :=
  rfl

@[simp]
theorem on_getConnection (registry : RegistryId) (pool : PoolId) (world : World) :
    (getConnection registry pool).on world = (Attempt.getConnection registry pool).on world :=
  rfl

@[simp]
theorem on_newConnection (registry : RegistryId) (pool : PoolId) (world : World) :
    (newConnection registry pool).on world = (Attempt.newConnection registry pool).on world :=
  rfl

end Call

end TransportSeams

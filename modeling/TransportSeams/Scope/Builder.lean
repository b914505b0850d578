import TransportSeams.Adapter.Catalog
import TransportSeams.Config.Basic
import TransportSeams.Scope.Basic

/-!
Building the resources of a session: for every adapter in build order its patches and then its
guards, and at the end the session's own patches. Seams that the registry does not hold and backends
that it has not recorded add nothing.
-/

set_option autoImplicit false
set_option relaxedAutoImplicit false

namespace TransportSeams

structure Builder where
  registry : RegistryId
  session : Session
  catalog : Catalog
  acquireLimit : Nat
  cache : CacheId

namespace Builder

def new (registry : RegistryId) (session : Session) : Action Builder := do
  return ⟨registry, session, .standard, Config.defaultAcquireLimit, ← Action.newCache⟩

def withCatalog (builder : Builder) (catalog : Catalog) : Builder :=
  { builder with catalog := catalog }

def withConfig (builder : Builder) (config : Config) : Builder :=
  { builder with
    catalog := builder.catalog.without config.disabledBackends
    acquireLimit := config.acquireLimit }

def context (builder : Builder) : AdapterContext :=
  ⟨builder.registry, builder.session, builder.cache, builder.acquireLimit⟩

/-- The patches of the specifications whose seams are registered, in order. -/
def buildPatches (builder : Builder) : List PatchSpec → Action (List Resource)
  | [] => return []
  | spec :: rest => do
    let handle? ← Action.buildPatch? builder.registry builder.cache builder.session.id spec
    let handles ← builder.buildPatches rest
    return (handle?.map Resource.patch).toList ++ handles

def buildAdapter (builder : Builder) (adapter : Adapter) : Action (List Resource) := do
  if (← Action.registry builder.registry).hasBackend adapter.backend then
    let output ← adapter.build builder.context
    let patches ← builder.buildPatches output.specs
    return patches ++ output.guards.map Resource.poolGuard
  else
    Action.emit (.backendSkipped adapter.backend builder.session.id)
    return []

def buildAdapters (builder : Builder) : List Adapter → Action (List Resource)
  | [] => return []
  | adapter :: rest => do
    let resources ← builder.buildAdapter adapter
    let others ← builder.buildAdapters rest
    return resources ++ others

def build (builder : Builder) : Action (List Resource) := do
  let adapted ← builder.buildAdapters builder.catalog.values
  let custom ← builder.buildPatches builder.session.customPatches
  let resources := adapted ++ custom
  let cache ← Action.cache builder.cache
  Action.emit (.built builder.session.id resources.length cache.size)
  return resources

/-- Builds the resources and enters them. -/
def start (builder : Builder) : Attempt Scope := do
  Scope.enter builder.session.id (← builder.build)

end Builder

end TransportSeams

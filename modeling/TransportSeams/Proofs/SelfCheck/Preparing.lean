import TransportSeams.Proofs.SelfCheck.Building
import TransportSeams.Proofs.SelfCheck.Stocking

/-!
What the self-check does before its session opens. It registers the enabled reference manifests in
a registry of its own, stocks the pools and sets up a builder; by then the registry suits every
enabled stack, and its pool classes and its handlers are at rest.
-/

set_option autoImplicit false
set_option relaxedAutoImplicit false

namespace TransportSeams

open World

namespace Registry.HasReferences

variable {registry : Registry} {backends : List Backend}

theorem binding?_eq (has : registry.HasReferences backends) :
    registry.binding? = registry.pristineBinding? := by
  funext key
  rw [binding?, pristineBinding?]
  cases found : registry.slot? key with
  | none => rfl
  | some slot => exact congrArg some (has.held found).2.1

theorem handles (has : registry.HasReferences backends) {key : SeamKey}
    (known : registry.contains key = true) (handled : Reference.isHandled key = true) :
    ∃ site : HandlerSite, site.key = key ∧ site.backend ∈ backends ∧ ∃ function,
      registry.binding? key = some ⟨.handler (.network function key.text), Option.none⟩ := by
  obtain ⟨slot, found⟩ := (contains_iff_slot? _ _).1 known
  obtain ⟨enabled, rest, world, listed⟩ := has.held found
  have declared := has.declared found
  have handles : slot.backend.hasHandlers = true := by
    rw [← Reference.isHandled_declared declared, handled]
  obtain ⟨function, pristine⟩ := Reference.handler_of_mem_manifest handles listed
  refine ⟨⟨slot.backend, key, of_decide_eq_true handles, declared⟩, rfl, enabled, function, ?_⟩
  rw [binding?, found, Option.map_some, rest, Slot.pristineBinding, pristine]

theorem suits (has : registry.HasReferences backends) {backend : Backend}
    (enabled : backend ∈ backends)
    (atRest : ∀ site : PoolSite, site.backend ∈ backends → site.AtRest registry) :
    registry.Suits backend where
  recorded := has.recorded backend enabled
  contained := has.contained backend enabled
  handled handles key declared := by
    obtain ⟨site, -, -, function, held⟩ := has.handles (has.contained backend enabled key declared)
      ((Reference.isHandled_declared declared).trans handles)
    exact ⟨_, by rw [value?, held]; rfl⟩
  offered site same := ⟨.stock, .stock, (atRest site (same ▸ enabled)).offers⟩

end Registry.HasReferences

namespace SelfCheck

/-- The self-check up to its session: the builder of the session and the stocked pools. -/
def prepare (config : Config) : Attempt (Builder × List PoolId) := do
  let registry ← Action.newRegistry
  Reference.register registry config.enabledBackends
  let pools ← makePools registry (poolClasses config.enabledBackends)
  let session := Session.new sessionId (.standard (← Action.newShelf))
  return ((← Builder.new registry session).withConfig config, pools)

structure Ready (config : Config) (builder : Builder) (stock : List (PoolSite × PoolId))
    (world : World) : Prop where
  session : builder.session.id = sessionId
  limit : builder.acquireLimit = config.acquireLimit
  serves : builder.Serves config.enabledBackends world
  references : (world.registries.get builder.registry).HasReferences config.enabledBackends
  atRest (site : PoolSite) : site.backend ∈ config.enabledBackends →
    site.AtRest (world.registries.get builder.registry)
  classes : stock.map Prod.fst = sites config.enabledBackends
  stocked : ∀ entry ∈ stock, entry.1.IsStocked (world.pools.get entry.2)
  distinct : (stock.map Prod.snd).Nodup

theorem on_prepare (config : Config) (world : World) : ∃ builder stock left,
    (prepare config).on world = (.ok (builder, stock.map Prod.snd), left) ∧
      Ready config builder stock left := by
  let id : RegistryId := ⟨world.nextObject⟩
  let opened := (Action.newRegistry.on world).2
  have empty : opened.registries.get id = .empty :=
    (Store.get_put world.registries id id _).trans (if_pos rfl)
  have none : (opened.registries.get id).HasReferences [] := by
    rw [empty]
    exact .none
  have distinct : ([] ++ config.enabledBackends).Nodup :=
    (by decide : Backend.all.Nodup).sublist List.filter_sublist
  obtain ⟨registered, run, has⟩ := Reference.on_register distinct none
  have atRest (site : PoolSite) (enabled : site.backend ∈ config.enabledBackends) :
      site.AtRest (registered.registries.get id) :=
    Reference.register_atRest run (.inr ⟨enabled, fun key _ => by rw [empty]; rfl⟩)
  obtain ⟨stock, stocked, run', classes, stocks⟩ :=
    on_makePools fun site listed => atRest site (mem_sites.1 listed)
  rw [← poolClasses_eq] at run'
  rw [← stocks.kept] at has atRest
  let shelf : ShelfId := ⟨stocked.nextObject⟩
  let cache : CacheId := ⟨stocked.nextObject + 1⟩
  let session := Session.new sessionId (.standard shelf)
  let shelved := (Action.newShelf.on stocked).2
  let left := (Action.newCache.on shelved).2
  have unbound : left.shelves.get shelf = .empty :=
    (Store.get_put stocked.shelves shelf shelf _).trans (if_pos rfl)
  have bound : left.caches.get cache = .empty :=
    (Store.get_put stocked.caches cache cache _).trans (if_pos rfl)
  refine ⟨⟨id, session, Catalog.standard.without config.disabledBackends, config.acquireLimit,
    cache⟩, stock, left, ?_, rfl, rfl, ⟨⟨_, rfl, rfl⟩, rfl, ⟨⟨shelf, rfl, ?_⟩, ?_⟩, ?_⟩, has,
    atRest, classes, stocks.stocked, stocks.distinct⟩
  · have new : Action.newRegistry.on world = (id, opened) := rfl
    simp only [prepare, Attempt.on_bind, Attempt.on_lift, new, run, run']
    rfl
  · rw [unbound]
    intro key type held
    cases held
  · show (left.caches.get cache).IsBound
    rw [bound]
    intro key type held
    cases held
  · exact fun backend enabled => has.suits enabled atRest

end SelfCheck

end TransportSeams

import TransportSeams.Proofs.Run.Pooling
import TransportSeams.Proofs.SelfCheck.Building

/-!
The scope of a session that has just been started. It lies over the registry as it was before: each
seam of the session's stacks holds a binding of the session, the pool classes are dressed for it
with guards of their own, and the handlers are wrapped.
-/

set_option autoImplicit false
set_option relaxedAutoImplicit false

namespace TransportSeams

open World Adapter

/-- The scope is open, and what it has entered lies over the registry as it was before. -/
structure Scope.LiesOver (scope : Scope) (id : RegistryId) (before during : Registry) : Prop where
  isOpen : scope.closed = false
  same : during.SameSeams before
  shown : during.binding? = overlay before before.binding? scope.entered
  saved : AllSaved id before before.binding? scope.entered
  distinct : (guardsOf scope.entered).Pairwise fun a b => a.tracker ≠ b.tracker

structure PoolSite.IsShown (site : PoolSite) (layer : PoolLayer) (registry : Registry) :
    Prop where
  offers : registry.Offers site (creating [layer]) (acquiring site [layer])
  type : registry.value? site.connectionType = some (.transport layer.guard.connectionType)
  probe : ∃ function, registry.value? site.probe = some (.probe ⟨function, fun _ => false⟩)
  owned : layer.guard.connectionType.owner? = some layer.session

structure Builder.Opens (builder : Builder) (old : World) (scope : Scope) (new : World) :
    Prop where
  liesOver : scope.LiesOver builder.registry (old.registries.get builder.registry)
    (new.registries.get builder.registry)
  built : scope.entered.map Resource.unentered = (builder.build.on old).1.reverse
  apart : (builder.build.on old).2.DiffersAtSeams new

namespace Builder

variable {builder : Builder} {backends : List Backend} {world old new : World} {scope : Scope}

theorem Serves.on_start (serves : builder.Serves backends world) :
    ∃ scope left, builder.start.on world = (.ok scope, left) ∧
      builder.Opens world scope left := by
  obtain ⟨all, left, run, built, apart, same, shown, saved⟩ :=
    Builder.on_start serves.keeps world
  have distinct : (guardsOf all).Pairwise fun a b => a.tracker ≠ b.tracker := by
    rw [guardsOf_entered built, List.pairwise_reverse]
    refine serves.standard.build_newGuards.increasing.imp fun earlier same => ?_
    rw [same] at earlier
    exact Nat.lt_irrefl _ earlier
  exact ⟨⟨builder.session.id, all, false⟩, left, run,
    ⟨⟨rfl, same, shown, saved, distinct⟩, built, apart⟩⟩

namespace Opens

theorem size_eq (opens : builder.Opens old scope new) :
    scope.size = (builder.build.on old).1.length := by
  rw [← List.length_reverse, ← opens.built, List.length_map]
  rfl

theorem guards_eq (opens : builder.Opens old scope new) :
    guardsOf scope.entered = (guardsOf (builder.build.on old).1).reverse :=
  guardsOf_entered opens.built

theorem pools_eq (opens : builder.Opens old scope new) (serves : builder.Serves backends old) :
    new.pools = old.pools := by
  rw [opens.apart]
  exact serves.build_extends.pools

theorem shows (opens : builder.Opens old scope new) {key : SeamKey} {binding : Binding}
    (shown : lastShown? (old.registries.get builder.registry) key (builder.build.on old).1 =
      some binding) :
    (new.registries.get builder.registry).binding? key = some binding := by
  rw [opens.liesOver.shown, overlay, findSome?_entered opens.built, shown]
  rfl

theorem shows_value (opens : builder.Opens old scope new) {key : SeamKey} {value : SeamValue}
    {owner? : Option SessionId}
    (shown : lastShown? (old.registries.get builder.registry) key (builder.build.on old).1 =
      some ⟨value, owner?⟩) :
    (new.registries.get builder.registry).value? key = some value := by
  rw [Registry.value?, opens.shows shown]
  rfl

theorem owns (opens : builder.Opens old scope new) (serves : builder.Serves backends old)
    {key : SeamKey} (listed : key ∈ backends.flatMap fun backend =>
      (Adapter.standard backend).declaredSeams) :
    ∃ value, (new.registries.get builder.registry).binding? key =
        some ⟨value, some builder.session.id⟩ ∧
      (value.asHandler? = none ∨ Reference.isHandled key = true) := by
  rw [← serves.length_build.1] at listed
  obtain ⟨handle, member, rfl, shown⟩ :=
    owned_of_isBuilt (build_isBuilt serves.keeps old) (old.registries.get builder.registry) listed
  exact ⟨handle.replacement, opens.shows shown, serves.build_placed _ member⟩

theorem shows_layer (opens : builder.Opens old scope new) (serves : builder.Serves backends old)
    {site : PoolSite} (enabled : site.backend ∈ backends)
    (offers : (old.registries.get builder.registry).Offers site .stock .stock) :
    ∃ guard ∈ guardsOf scope.entered,
      site.IsShown ⟨builder.session.id, builder.acquireLimit, guard⟩
        (new.registries.get builder.registry) ∧
      new.trackers.get guard.tracker = Tracker.new guard.connectionType := by
  obtain ⟨guard, ⟨type, create, acquire, probe, guarded⟩, owned, empty⟩ :=
    serves.dresses enabled offers (old.registries.get builder.registry)
  refine ⟨guard, ?_, ⟨⟨?_, ?_⟩, opens.shows_value type, ?_, owned⟩, ?_⟩
  · rw [opens.guards_eq, List.mem_reverse]
    exact guarded
  · obtain ⟨function, shown⟩ := create
    exact ⟨function, opens.shows_value shown⟩
  · obtain ⟨function, shown⟩ := acquire
    exact ⟨function, opens.shows_value shown⟩
  · obtain ⟨function, shown⟩ := probe
    exact ⟨function, opens.shows_value shown⟩
  · rw [opens.apart]
    exact empty

theorem wraps (opens : builder.Opens old scope new) (serves : builder.Serves backends old)
    {site : HandlerSite} (enabled : site.backend ∈ backends) {inner : Handler}
    {owner? : Option SessionId}
    (held : (old.registries.get builder.registry).binding? site.key =
      some ⟨.handler inner, owner?⟩) :
    ∃ function, (new.registries.get builder.registry).value? site.key =
      some (.handler (recording builder.context site.backend site.key function inner)) := by
  obtain ⟨function, shown⟩ :=
    serves.wraps enabled held (old.registries.get builder.registry)
  exact ⟨function, opens.shows_value shown⟩

end Opens

end Builder

end TransportSeams

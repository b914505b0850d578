import TransportSeams.Proofs.SelfCheck.Registering

/-!
What a session builds over a registry that suits all of its stacks: one patch at each seam that the
stacks declare, and two guards for each stack with pools. Every patch is the session's, and a patch
is a handler at the seams of handler stacks only.
-/

set_option autoImplicit false
set_option relaxedAutoImplicit false

namespace TransportSeams

open World Adapter

section Built

variable {id : RegistryId} {session : SessionId} {registry : Registry} {resources : List Resource}

theorem length_eq_of_isBuilt
    (built : ∀ resource ∈ resources, resource.IsBuilt id session registry) :
    resources.length = (keysOf resources).length + (guardsOf resources).length := by
  induction resources with
  | nil => rfl
  | cons resource rest ih =>
    obtain ⟨first, others⟩ := List.forall_mem_cons.1 built
    have counted := ih others
    cases resource with
    | patch handle =>
      show rest.length + 1 = (keysOf rest).length + 1 + (guardsOf rest).length
      omega
    | poolGuard guard =>
      show rest.length + 1 = (keysOf rest).length + ((guardsOf rest).length + 1)
      omega
    | forceRestore restore => exact first.elim

theorem owned_of_isBuilt
    (built : ∀ resource ∈ resources, resource.IsBuilt id session registry) (before : Registry)
    {key : SeamKey} (listed : key ∈ keysOf resources) :
    ∃ handle : PatchHandle, .patch handle ∈ resources ∧ handle.key = key ∧
      lastShown? before key resources = some ⟨handle.replacement, some session⟩ := by
  cases shown : lastShown? before key resources with
  | none =>
    obtain ⟨handle, member, here⟩ := mem_keysOf.1 listed
    have covered := List.findSome?_eq_none_iff.1 shown _ (List.mem_reverse.2 member)
    rw [Resource.shown?, if_pos here] at covered
    cases covered
  | some binding =>
    obtain ⟨resource, member, shows⟩ := List.exists_of_findSome?_eq_some shown
    have made := built resource (List.mem_reverse.1 member)
    cases resource with
    | patch handle =>
      rw [Resource.shown?] at shows
      split at shows
      · rename_i here
        refine ⟨handle, List.mem_reverse.1 member, here, shows ▸ ?_⟩
        rw [PatchHandle.binding, made.2.1]
      · cases shows
    | poolGuard guard => cases shows
    | forceRestore restore => exact made.elim

end Built

/-- The builder has the standard adapters of the backends, for a session with standard stubs and
nothing of its own, over a registry that suits all of them. -/
structure Builder.Serves (builder : Builder) (backends : List Backend) (world : World) : Prop where
  catalog : ∃ disabled, builder.catalog = Catalog.standard.without disabled ∧
    backends = Backend.all.filter fun backend => !disabled.contains backend
  plain : builder.session.customPatches = []
  ready : builder.context.IsReady world
  suits : ∀ backend ∈ backends, (world.registries.get builder.registry).Suits backend

def Resource.IsPlaced : Resource → Prop
  | .patch handle => handle.replacement.asHandler? = none ∨ Reference.isHandled handle.key = true
  | _ => True

theorem SeamValue.resolve_unhandled {value : SeamValue} (plain : value.asHandler? = none)
    (cache : CacheId) (session : SessionId) (world : World) :
    ((value.resolve cache session).on world).1.asHandler? = none := by
  cases value with
  | transport type =>
    rw [resolve, Action.on_ite]
    split <;> rfl
  | handler held => cases plain
  | _ => rfl

namespace Builder

variable {builder : Builder} {backend : Backend} {backends : List Backend} {world : World}

theorem buildAdapter_complete (ready : builder.context.IsReady world)
    (suits : (world.registries.get builder.registry).Suits backend) :
    keysOf ((builder.buildAdapter (.standard backend)).on world).1 =
        (Adapter.standard backend).declaredSeams ∧
      (guardsOf ((builder.buildAdapter (.standard backend)).on world).1).length =
        if backend.hasPools then 2 else 0 := by
  obtain ⟨keys, guards⟩ := keys_standard ready suits
  have grown := Adapter.standard_extends backend builder.context ready.stubs_extends world
  rw [on_buildAdapter, if_pos (by rw [backend_standard]; exact suits.recorded)]
  refine ⟨?_, ?_⟩
  · simp only [keysOf_append, keysOf_guards, List.append_nil, keysOf_buildPatches, keys]
    refine List.filter_eq_self.2 fun key listed => ?_
    rw [grown.registries]
    exact suits.contained key listed
  · simp only [guardsOf_append, guardsOf_buildPatches, guardsOf_map, List.nil_append]
    exact guards

theorem buildAdapters_complete (ready : builder.context.IsReady world)
    (suits : ∀ backend ∈ backends, (world.registries.get builder.registry).Suits backend) :
    keysOf ((builder.buildAdapters (backends.map .standard)).on world).1 =
        (backends.flatMap fun backend => (Adapter.standard backend).declaredSeams) ∧
      (guardsOf ((builder.buildAdapters (backends.map .standard)).on world).1).length =
        2 * (backends.filter Backend.hasPools).length := by
  induction backends generalizing world with
  | nil => exact ⟨rfl, rfl⟩
  | cons backend rest ih =>
    obtain ⟨first, others⟩ := List.forall_mem_cons.1 suits
    obtain ⟨keys, guards⟩ := buildAdapter_complete ready first
    have grown : world.Extends ((builder.buildAdapter (.standard backend)).on world).2 :=
      buildAdapter_extends ready
    obtain ⟨keys', guards'⟩ := ih (ready.later grown) (by rwa [grown.registries])
    rw [List.map_cons, on_buildAdapters_cons]
    refine ⟨?_, ?_⟩
    · rw [keysOf_append, keys, keys', List.flatMap_cons]
    · rw [guardsOf_append, List.length_append, guards, guards', List.filter_cons]
      split
      · rw [List.length_cons]
        omega
      · exact Nat.zero_add _

theorem buildAdapter_placed (backend : Backend) (world : World) :
    ∀ resource ∈ ((builder.buildAdapter (.standard backend)).on world).1, resource.IsPlaced := by
  intro resource member
  rw [on_buildAdapter] at member
  split at member
  · rcases List.mem_append.1 member with member | member
    · obtain ⟨spec, listed, middle, -, rfl⟩ := mem_buildPatches (R := World.KeepsRegistries)
        (fun _ _ _ => rfl) (fun type => Action.substitute_keepsRegistries _ type _) member
      cases handles : backend.hasHandlers with
      | false =>
        exact .inl (SeamValue.resolve_unhandled
          (standard_unhandled builder.context world handles spec listed) _ _ _)
      | true =>
        refine .inr ?_
        have declared := standard_declares backend builder.context world spec listed
        exact (Reference.isHandled_declared declared).trans handles
    · obtain ⟨guard, -, rfl⟩ := List.mem_map.1 member
      trivial
  · cases member

theorem buildAdapters_placed (backends : List Backend) (world : World) :
    ∀ resource ∈ ((builder.buildAdapters (backends.map .standard)).on world).1,
      resource.IsPlaced := by
  induction backends generalizing world with
  | nil => exact List.forall_mem_nil _
  | cons backend rest ih =>
    rw [List.map_cons, on_buildAdapters_cons]
    intro resource member
    rcases List.mem_append.1 member with member | member
    · exact buildAdapter_placed backend world resource member
    · exact ih _ resource member

namespace Serves

theorem sublist (serves : builder.Serves backends world) : backends.Sublist Backend.all := by
  obtain ⟨disabled, -, rfl⟩ := serves.catalog
  exact List.filter_sublist

theorem standard (serves : builder.Serves backends world) : builder.IsStandard world := by
  obtain ⟨disabled, catalog, -⟩ := serves.catalog
  exact ⟨⟨disabled, catalog⟩, serves.ready⟩

theorem keeps (serves : builder.Serves backends world) : builder.KeepsRegistries := by
  obtain ⟨shelf, stubs, -⟩ := serves.ready.stubs
  obtain ⟨disabled, catalog, -⟩ := serves.catalog
  refine keepsRegistries_of_moves (stubs ▸ StubCatalog.standard_keepsRegistries shelf) ?_
  intro adapter member
  rw [catalog, Catalog.values_standard_without] at member
  obtain ⟨backend, -, rfl⟩ := List.mem_map.1 member
  exact Adapter.standard_keepsRegistries backend

theorem on_build (serves : builder.Serves backends world) :
    builder.build.on world =
      let adapted := (builder.buildAdapters (backends.map .standard)).on world
      (adapted.1, adapted.2.telling (.built builder.session.id adapted.1.length
        (adapted.2.caches.get builder.cache).size)) := by
  obtain ⟨disabled, catalog, rfl⟩ := serves.catalog
  rw [Builder.on_build, catalog, Catalog.values_standard_without, serves.plain]
  simp only [buildPatches, Action.on_pure, List.append_nil]

theorem length_build (serves : builder.Serves backends world) :
    keysOf (builder.build.on world).1 =
        (backends.flatMap fun backend => (Adapter.standard backend).declaredSeams) ∧
      (builder.build.on world).1.length = (Reference.seamsOf backends).length +
        2 * (backends.filter Backend.hasPools).length := by
  have built := build_isBuilt serves.keeps world
  obtain ⟨keys, guards⟩ := buildAdapters_complete serves.ready serves.suits
  rw [length_eq_of_isBuilt built]
  rw [serves.on_build, keys, guards, ← Reference.keys_seamsOf, List.length_map]
  exact ⟨rfl, rfl⟩

theorem build_extends (serves : builder.Serves backends world) :
    world.Extends (builder.build.on world).2 := by
  rw [serves.on_build]
  exact trans_of Extends (buildAdapters_extends backends serves.ready) (Action.emit_extends _ _)

theorem build_placed (serves : builder.Serves backends world) :
    ∀ resource ∈ (builder.build.on world).1, resource.IsPlaced := by
  rw [serves.on_build]
  exact buildAdapters_placed backends world

theorem dresses (serves : builder.Serves backends world) {site : PoolSite}
    (enabled : site.backend ∈ backends) {create : Create} {acquire : Acquire}
    (offers : (world.registries.get builder.registry).Offers site create acquire)
    (before : Registry) :
    ∃ guard, site.IsDressed builder.session.id builder.acquireLimit create acquire guard before
        (builder.build.on world).1 ∧
      guard.connectionType.owner? = some builder.session.id ∧
      (builder.build.on world).2.trackers.get guard.tracker =
        Tracker.new guard.connectionType := by
  have suits := serves.suits site.backend enabled
  have contained : ∀ key ∈ site.seams,
      (world.registries.get builder.registry).contains key = true :=
    fun key seam => suits.contained key (site.declared key seam)
  have distinct : backends.Nodup := (by decide : Backend.all.Nodup).sublist serves.sublist
  obtain ⟨guard, stub, dressed, fits⟩ := buildAdapters_dresses before distinct enabled
    serves.ready suits.recorded contained offers
  rw [serves.on_build]
  exact ⟨guard, dressed, fits.owned, fits.empty⟩

theorem wraps (serves : builder.Serves backends world) {site : HandlerSite}
    (enabled : site.backend ∈ backends) {inner : Handler} {owner? : Option SessionId}
    (held : (world.registries.get builder.registry).binding? site.key =
      some ⟨.handler inner, owner?⟩) (before : Registry) :
    ∃ function, lastShown? before site.key (builder.build.on world).1 =
      some ⟨.handler (recording builder.context site.backend site.key function inner),
        some builder.session.id⟩ := by
  obtain ⟨shelf, stubs, -⟩ := serves.ready.stubs
  obtain ⟨disabled, catalog, same⟩ := serves.catalog
  have leaves : builder.session.Leaves site.key := by
    intro spec member
    rw [serves.plain] at member
    cases member
  have admitted := site.admits_standard disabled stubs leaves
  rw [← catalog] at admitted
  have known : builder.catalog.contains site.backend = true := by
    rw [catalog, Catalog.contains_standard_without, List.contains_iff_mem, ← same]
    exact enabled
  obtain ⟨adapter, found⟩ := Option.isSome_iff_exists.1 known
  obtain ⟨rfl, -⟩ := admitted.own found
  obtain ⟨middle, kept, shown⟩ := builder.lastShown?_build_enabled admitted.leaves admitted.others
    serves.keeps found before world
  have recorded := (serves.suits site.backend enabled).recorded
  rw [← kept.get_eq] at recorded held
  obtain ⟨function, wraps⟩ := builder.buildAdapter_wraps before stubs recorded held
  exact ⟨function, shown.trans wraps⟩

end Serves

end Builder

end TransportSeams

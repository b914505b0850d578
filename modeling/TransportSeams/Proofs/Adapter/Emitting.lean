import TransportSeams.Proofs.Adapter.Handlers
import TransportSeams.Proofs.Adapter.Ordering

/-!
Adapters that find what they wrap. With standard stubs, and where the registry holds primitives at
its pool classes and handlers at its handler seams, the adapter of a stack emits one patch for each
of the seams that it declares, and one guard for each of its pool classes. Patches are handlers at
the seams of handler stacks only.
-/

set_option autoImplicit false
set_option relaxedAutoImplicit false

namespace TransportSeams

open World Adapter

namespace Backend

def hasPools (backend : Backend) : Bool :=
  backend ∈ [sessions, pooled]

def hasHandlers (backend : Backend) : Bool :=
  backend ∈ [asyncFetch, clientSession, dualClient]

end Backend

/-- The registry has recorded the stack with all of its seams and holds what its adapter wraps. -/
structure Registry.Suits (registry : Registry) (backend : Backend) : Prop where
  recorded : registry.hasBackend backend = true
  contained : ∀ key ∈ (Adapter.standard backend).declaredSeams, registry.contains key = true
  handled : backend.hasHandlers = true → ∀ key ∈ (Adapter.standard backend).declaredSeams,
    ∃ inner, registry.value? key = some (.handler inner)
  offered (site : PoolSite) : site.backend = backend →
    ∃ create acquire, registry.Offers site create acquire

namespace Adapter

variable {context : AdapterContext} {shelf : ShelfId} {backend : Backend} {world : World}

section Standard

variable (stubs : context.session.stubs = .standard shelf)

include stubs

theorem lends_standard (backend : Backend) (name : String) (world : World) :
    ∃ stub left,
      (context.session.stubs.transport? backend name).on world = (some stub, left) := by
  rw [stubs]
  exact ⟨_, _, rfl⟩

theorem keys_swapTypes (backend : Backend) (seams : List TypeSeam) (world : World) :
    ((swapTypes context backend seams).on world).1.map PatchSpec.key =
      seams.map TypeSeam.key := by
  induction seams generalizing world with
  | nil => rfl
  | cons seam rest ih =>
    obtain ⟨stub, left, lends⟩ := lends_standard stubs backend seam.stub world
    simp only [swapTypes, swapType, Action.on_bind, Action.on_pure, lends, Option.toList_some,
      List.singleton_append, List.map_cons, ih]

theorem names_schemeStubs (schemes : List (String × String)) (world : World) :
    (((schemeStubs context schemes).on world).1.map fun entry => (entry.1, entry.2.1)) =
      schemes := by
  induction schemes generalizing world with
  | nil => rfl
  | cons scheme rest ih =>
    obtain ⟨stub, left, lends⟩ := lends_standard stubs .timeoutHttp scheme.2 world
    simp only [schemeStubs, Action.on_bind, Action.on_pure, lends, Option.map_some,
      Option.toList_some, List.singleton_append, List.map_cons, ih]

theorem keys_interceptSeams (backend : Backend) {seams : List SeamKey}
    (handled : ∀ key ∈ seams, ∃ inner,
      (world.registries.get context.registry).value? key = some (.handler inner)) :
    ((interceptSeams context backend seams).on world).1.map PatchSpec.key = seams := by
  induction seams generalizing world with
  | nil => rfl
  | cons key rest ih =>
    obtain ⟨⟨inner, held⟩, others⟩ := List.forall_mem_cons.1 handled
    rw [on_interceptSeams_cons, on_interceptSeam backend stubs held]
    exact congrArg (key :: ·) (ih others)

end Standard

theorem keys_buildPoolClasses {classes : List PoolClass}
    (pools : backend ∈ [Backend.sessions, .pooled])
    (listed : ∀ poolClass ∈ classes, poolClass ∈ poolClasses) (ready : context.IsReady world)
    (offered : ∀ site : PoolSite, site.backend = backend → ∃ create acquire,
      (world.registries.get context.registry).Offers site create acquire) :
    ((buildPoolClasses context backend classes).on world).1.specs.map PatchSpec.key =
        classes.flatMap (·.seams backend) ∧
      ((buildPoolClasses context backend classes).on world).1.guards.length = classes.length := by
  induction classes generalizing world with
  | nil => exact ⟨rfl, rfl⟩
  | cons poolClass rest ih =>
    obtain ⟨here, others⟩ := List.forall_mem_cons.1 listed
    let site : PoolSite := ⟨backend, poolClass, pools, here⟩
    obtain ⟨create, acquire, offers⟩ := offered site rfl
    obtain ⟨stub, guard, creating, acquiring, middle, run, grown, -⟩ :=
      on_buildPoolClass ready offers
    obtain ⟨keys, guards⟩ := ih others (ready.later grown) (by rwa [grown.registries])
    have built : (buildPoolClass context backend poolClass).on world = _ := run
    rw [on_buildPoolClasses_cons, built]
    refine ⟨?_, ?_⟩
    · simp only [AdapterOutput.specs_append, List.map_append, keys, List.flatMap_cons]
      rfl
    · simp only [AdapterOutput.guards_append, List.length_append, guards, List.length_cons,
        List.length_nil]
      omega

theorem keys_pooling (pools : backend ∈ [Backend.sessions, .pooled])
    (ready : context.IsReady world)
    (offered : ∀ site : PoolSite, site.backend = backend → ∃ create acquire,
      (world.registries.get context.registry).Offers site create acquire) :
    (((pooling backend).build context).on world).1.specs.map PatchSpec.key =
        (pooling backend).declaredSeams ∧
      (((pooling backend).build context).on world).1.guards.length = 2 := by
  obtain ⟨shelf, stubs, -⟩ := ready.stubs
  let types := (swapTypes context backend (connectionSeams backend)).on world
  have grown : world.Extends (Action.freshFunction.on types.2).2 :=
    trans_of Extends (swapTypes_moves ready.stubs_extends backend _ world)
      (Action.freshFunction_extends types.2)
  obtain ⟨keys, guards⟩ := keys_buildPoolClasses pools (fun _ listed => listed)
    (ready.later grown) (by rwa [grown.registries])
  refine ⟨?_, ?_⟩
  · simp only [on_build_pooling, AdapterOutput.specs_append, AdapterOutput.ofSpecs,
      List.map_append, keys_swapTypes stubs]
    exact congrArg (_ ++ ·) keys
  · rw [guards_build_pooling]
    exact guards

/-- The adapter emits a patch for each seam that it declares, and guards for its pool classes. -/
theorem keys_standard (ready : context.IsReady world)
    (suits : (world.registries.get context.registry).Suits backend) :
    (((Adapter.standard backend).build context).on world).1.specs.map PatchSpec.key =
        (Adapter.standard backend).declaredSeams ∧
      (((Adapter.standard backend).build context).on world).1.guards.length =
        if backend.hasPools then 2 else 0 := by
  obtain ⟨shelf, stubs, -⟩ := ready.stubs
  have types (backend : Backend) (seams : List TypeSeam) :
      (((direct backend seams).build context).on world).1.specs.map PatchSpec.key =
          (direct backend seams).declaredSeams ∧
        (((direct backend seams).build context).on world).1.guards.length = 0 :=
    ⟨keys_swapTypes stubs backend seams world, rfl⟩
  have wrapped (handles : backend.hasHandlers = true) (seams : List SeamKey)
      (same : (Adapter.standard backend).declaredSeams = seams) :
      (((handlers backend seams).build context).on world).1.specs.map PatchSpec.key =
          (handlers backend seams).declaredSeams ∧
        (((handlers backend seams).build context).on world).1.guards.length = 0 :=
    ⟨keys_interceptSeams stubs backend (same ▸ suits.handled handles), rfl⟩
  cases backend with
  | sessions => exact keys_pooling (by decide) ready suits.offered
  | pooled => exact keys_pooling (by decide) ready suits.offered
  | timeoutHttp =>
    have names := names_schemeStubs stubs timeoutSchemes world
    have named := congrArg (List.map fun scheme => (⟨"timeout_http", scheme.2⟩ : SeamKey)) names
    refine ⟨?_, rfl⟩
    simp only [standard, timeoutHttp, Action.on_bind, Action.on_pure, AdapterOutput.ofSpecs,
      List.map_append, List.map_map] at named ⊢
    refine congrArg₂ (· ++ ·) named ?_
    split
    · rename_i none
      rw [List.isEmpty_iff.1 none] at names
      cases names
    · rfl
  | stdHttp => exact types _ _
  | aws => exact types _ _
  | certHttp => exact types _ _
  | asyncFetch => exact wrapped rfl _ rfl
  | clientSession => exact wrapped rfl _ rfl
  | dualClient => exact wrapped rfl _ rfl

section Unhandled

def Unhandled (specs : List PatchSpec) : Prop :=
  ∀ spec ∈ specs, spec.replacement.asHandler? = none

theorem Unhandled.append {first last : List PatchSpec} (unhandled : Unhandled first)
    (others : Unhandled last) : Unhandled (first ++ last) :=
  fun spec member => (List.mem_append.1 member).elim (unhandled spec) (others spec)

theorem swapTypes_unhandled (backend : Backend) (seams : List TypeSeam) (world : World) :
    Unhandled ((swapTypes context backend seams).on world).1 := by
  induction seams generalizing world with
  | nil => exact List.forall_mem_nil _
  | cons seam rest ih =>
    simp only [swapTypes, swapType, Action.on_bind, Action.on_pure]
    refine Unhandled.append ?_ (ih _)
    split
    · exact List.forall_mem_singleton.2 rfl
    · exact List.forall_mem_nil _

theorem buildPoolClasses_unhandled (backend : Backend) (classes : List PoolClass)
    (world : World) : Unhandled ((buildPoolClasses context backend classes).on world).1.specs := by
  induction classes generalizing world with
  | nil => exact List.forall_mem_nil _
  | cons poolClass rest ih =>
    rw [on_buildPoolClasses_cons]
    refine Unhandled.append ?_ (ih _)
    simp only [buildPoolClass, Action.on_bind]
    split
    · exact List.forall_mem_nil _
    · simp only [Action.on_bind, Action.on_pure, AdapterOutput.specs_append]
      refine .append (.append (List.forall_mem_singleton.2 rfl) ?_) ?_
      · simp only [trackCreate, Action.on_bind, Action.on_registry]
        split
        · exact List.forall_mem_singleton.2 rfl
        · exact List.forall_mem_nil _
      · simp only [checkAcquire, Action.on_bind, Action.on_registry]
        split
        · exact List.forall_mem_singleton.2 rfl
        · exact List.forall_mem_nil _

theorem standard_unhandled (context : AdapterContext) (world : World)
    (plain : backend.hasHandlers = false) :
    Unhandled (((Adapter.standard backend).build context).on world).1.specs := by
  have types (backend : Backend) (seams : List TypeSeam) :
      Unhandled (((direct backend seams).build context).on world).1.specs :=
    swapTypes_unhandled backend seams world
  have pooled (backend : Backend) :
      Unhandled (((pooling backend).build context).on world).1.specs := by
    rw [on_build_pooling]
    exact ((swapTypes_unhandled backend _ _).append (List.forall_mem_singleton.2 rfl)).append
      (buildPoolClasses_unhandled backend _ _)
  cases backend with
  | sessions => exact pooled _
  | pooled => exact pooled _
  | timeoutHttp =>
    simp only [standard, timeoutHttp, Action.on_bind, Action.on_pure, AdapterOutput.ofSpecs]
    refine Unhandled.append (fun spec member => ?_) ?_
    · obtain ⟨entry, -, rfl⟩ := List.mem_map.1 member
      rfl
    · split
      · exact List.forall_mem_nil _
      · exact List.forall_mem_singleton.2 rfl
  | stdHttp => exact types _ _
  | aws => exact types _ _
  | certHttp => exact types _ _
  | asyncFetch => cases plain
  | clientSession => cases plain
  | dualClient => cases plain

end Unhandled

end Adapter

end TransportSeams

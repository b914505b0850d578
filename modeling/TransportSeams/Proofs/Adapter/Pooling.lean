import TransportSeams.Proofs.Adapter.Covering
import TransportSeams.Proofs.World.Extension

/-!
What the adapter of a pooling stack makes of a pool class for a session with standard stubs: it
replaces the probe, the connection type and the two primitives, wraps the primitives that the
registry holds when it builds, and adds a guard over the tracker of the create primitive.
-/

set_option autoImplicit false
set_option relaxedAutoImplicit false

namespace TransportSeams

open World Adapter

structure Registry.Offers (registry : Registry) (site : PoolSite) (create : Create)
    (acquire : Acquire) : Prop where
  create : ∃ function, registry.value? site.create = some (.create function create)
  acquire : ∃ function, registry.value? site.acquire = some (.acquire function acquire)

structure AdapterContext.IsReady (context : AdapterContext) (world : World) : Prop where
  stubs : ∃ shelf, context.session.stubs = .standard shelf ∧
    (world.shelves.get shelf).IsUnbound
  bound : (world.caches.get context.cache).IsBound

theorem AdapterContext.IsReady.later {context : AdapterContext} {world later : World}
    (ready : context.IsReady world) (grown : world.Extends later) : context.IsReady later := by
  obtain ⟨shelf, stubs, unbound⟩ := ready.stubs
  exact ⟨⟨shelf, stubs, grown.unbound shelf unbound⟩, grown.bound context.cache ready.bound⟩

theorem AdapterContext.IsReady.stubs_extends {context : AdapterContext} {world : World}
    (ready : context.IsReady world) : context.session.stubs.Moves Extends := by
  obtain ⟨shelf, stubs, -⟩ := ready.stubs
  rw [stubs]
  exact StubCatalog.standard_extends shelf

structure PoolGuard.IsFor (guard : PoolGuard) (context : AdapterContext) (stub : TransportType)
    (world : World) : Prop where
  slot : stub.hasSessionSlot = true
  owned : guard.connectionType.owner? = some context.session.id
  again : ∀ later, world.Extends later →
    (Action.substitute context.cache stub context.session.id).on later =
      (guard.connectionType, later)
  empty : world.trackers.get guard.tracker = Tracker.new guard.connectionType
  issued : guard.tracker.index < world.nextObject

theorem PoolGuard.IsFor.later {guard : PoolGuard} {context : AdapterContext}
    {stub : TransportType} {world later : World} (fits : guard.IsFor context stub world)
    (grown : world.Extends later) : guard.IsFor context stub later where
  slot := fits.slot
  owned := fits.owned
  again last lastGrown := fits.again last (trans_of Extends grown lastGrown)
  empty := (grown.trackers guard.tracker fits.issued).trans fits.empty
  issued := Nat.lt_of_lt_of_le fits.issued grown.nextObject

theorem PoolGuard.IsFor.on_resolve {guard : PoolGuard} {context : AdapterContext}
    {stub : TransportType} {world later : World} (fits : guard.IsFor context stub world)
    (grown : world.Extends later) :
    ((SeamValue.transport stub).resolve context.cache context.session.id).on later =
      (.transport guard.connectionType, later) := by
  rw [SeamValue.resolve, Action.on_ite, if_pos fits.slot, Action.on_bind, fits.again later grown]
  rfl

namespace Adapter

variable {context : AdapterContext} {site : PoolSite} {world : World} {create : Create}
  {acquire : Acquire}

def classSpecs (context : AdapterContext) (site : PoolSite) (create : Create) (acquire : Acquire)
    (stub : TransportType) (tracker : TrackerId) (creating acquiring : FunctionId) :
    List PatchSpec :=
  [⟨site.connectionType, .transport stub⟩,
    ⟨site.create, .create creating (.tracked create tracker)⟩,
    ⟨site.acquire, .acquire acquiring (.checked acquire site.fallback context.acquireLimit)⟩]

theorem on_trackCreate {function : FunctionId} (type : TransportType)
    (held : (world.registries.get context.registry).value? site.create =
      some (.create function create)) :
    (trackCreate context type site.create).on world =
      (⟨[⟨site.create, .create world.nextFunction (.tracked create ⟨world.nextObject⟩)⟩],
        [⟨⟨world.nextObject⟩, type⟩]⟩,
        (Action.freshFunction.on ((Action.newTracker type).on world).2).2) := by
  simp only [trackCreate, Action.on_bind, Action.on_registry, held]
  rfl

theorem on_checkAcquire {function : FunctionId} (fallback : SeamKey)
    (held : (world.registries.get context.registry).value? site.acquire =
      some (.acquire function acquire)) :
    (checkAcquire context fallback site.acquire).on world =
      (.ofSpecs [⟨site.acquire,
        .acquire world.nextFunction (.checked acquire fallback context.acquireLimit)⟩],
        (Action.freshFunction.on world).2) := by
  simp only [checkAcquire, Action.on_bind, Action.on_registry, held]
  rfl

theorem on_buildPoolClass (ready : context.IsReady world)
    (offers : (world.registries.get context.registry).Offers site create acquire) :
    ∃ stub guard creating acquiring left,
      (buildPoolClass context site.backend site.poolClass).on world =
        (⟨classSpecs context site create acquire stub guard.tracker creating acquiring, [guard]⟩,
          left) ∧ world.Extends left ∧ guard.IsFor context stub left := by
  obtain ⟨shelf, stubs, unbound⟩ := ready.stubs
  obtain ⟨⟨f, creates⟩, ⟨g, acquires⟩⟩ := offers
  -- the stub, its substitute, the tracker and the two functions are made one after the other
  let key : StubKey := ⟨site.backend, site.poolClass.connection⟩
  let lent := (Action.shelvedStub shelf key).on world
  let bound := (Action.substitute context.cache lent.1 context.session.id).on lent.2
  let tracked := (Action.freshFunction.on ((Action.newTracker bound.1).on bound.2).2).2
  let left := (Action.freshFunction.on tracked).2
  have lentGrown : world.Extends lent.2 := Action.shelvedStub_extends shelf key world
  have boundGrown : lent.2.Extends bound.2 := Action.substitute_extends _ _ _ _
  have trackerGrown : bound.2.Extends ((Action.newTracker bound.1).on bound.2).2 :=
    Action.newTracker_extends bound.1 bound.2
  have trackedGrown : bound.2.Extends tracked :=
    trans_of Extends trackerGrown (Action.freshFunction_extends _)
  have leftGrown : tracked.Extends left := Action.freshFunction_extends tracked
  have toBound : world.Extends bound.2 := trans_of Extends lentGrown boundGrown
  have toTracked : world.Extends tracked := trans_of Extends toBound trackedGrown
  rw [← toBound.registries] at creates
  rw [← toTracked.registries] at acquires
  refine ⟨lent.1, ⟨⟨bound.2.nextObject⟩, bound.1⟩, bound.2.nextFunction, tracked.nextFunction,
    left, ?_, trans_of Extends toTracked leftGrown, ?_⟩
  · have lends : (context.session.stubs.transport? site.backend site.poolClass.connection).on
        world = (some lent.1, lent.2) := by
      rw [stubs]
      rfl
    have tracks := on_trackCreate bound.1 creates
    have checks := on_checkAcquire site.fallback acquires
    have run : (buildPoolClass context site.backend site.poolClass).on world =
        let wrapped := (trackCreate context bound.1 site.create).on bound.2
        let narrowed := (checkAcquire context site.fallback site.acquire).on wrapped.2
        (AdapterOutput.ofSpecs [⟨site.connectionType, .transport lent.1⟩] ++ wrapped.1 ++
          narrowed.1, narrowed.2) := by
      simp only [buildPoolClass, Action.on_bind, lends]
      rfl
    rw [run, tracks]
    exact congrArg (fun narrowed => (_ ++ narrowed.1, narrowed.2)) checks
  · refine ⟨?_, ?_, ?_, ?_, ?_⟩
    · have slot := Action.slot_shelvedStub unbound key
      simp [TransportType.hasSessionSlot, lent, slot]
    · exact Action.owner?_substitute (lentGrown.bound _ ready.bound) _ _
    · intro later grown
      exact Action.on_substitute_again _ _ _
        (trans_of Extends (trans_of Extends trackedGrown leftGrown) grown)
    · exact (Store.get_put bound.2.trackers ⟨bound.2.nextObject⟩ ⟨bound.2.nextObject⟩
        (Tracker.new bound.1)).trans (if_pos rfl)
    · exact Nat.lt_succ_self bound.2.nextObject

theorem poolClasses_disjoint : ∀ backend ∈ [Backend.sessions, .pooled],
    poolClasses.Pairwise fun a b => ∀ key ∈ b.seams backend,
      key ∉ Seam.probe (probeTarget backend) :: a.seams backend := by
  decide

theorem on_buildPoolClasses_cons (context : AdapterContext) (backend : Backend)
    (poolClass : PoolClass) (rest : List PoolClass) (world : World) :
    (buildPoolClasses context backend (poolClass :: rest)).on world =
      let output := (buildPoolClass context backend poolClass).on world
      let others := (buildPoolClasses context backend rest).on output.2
      (output.1 ++ others.1, others.2) :=
  rfl

theorem on_buildPoolClasses {classes : List PoolClass} (listed : site.poolClass ∈ classes)
    (disjoint : classes.Pairwise fun a b => ∀ key ∈ b.seams site.backend,
      key ∉ Seam.probe (probeTarget site.backend) :: a.seams site.backend)
    (ready : context.IsReady world)
    (offers : (world.registries.get context.registry).Offers site create acquire) :
    ∃ stub guard creating acquiring first last output left,
      (buildPoolClasses context site.backend classes).on world = (output, left) ∧
        output.specs = first ++
          (classSpecs context site create acquire stub guard.tracker creating acquiring ++ last) ∧
        (∀ spec ∈ last, spec.key ∉ site.seams) ∧ guard ∈ output.guards ∧
        world.Extends left ∧ guard.IsFor context stub left := by
  induction classes generalizing world with
  | nil => cases listed
  | cons poolClass rest ih =>
    obtain ⟨apart, disjoint'⟩ := List.pairwise_cons.1 disjoint
    have stubs := ready.stubs_extends
    have restGrown (world : World) :
        world.Extends ((buildPoolClasses context site.backend rest).on world).2 :=
      buildPoolClasses_moves stubs Action.freshFunction_extends Action.newTracker_extends
        (fun type => Action.substitute_extends _ type _) site.backend rest world
    by_cases here : poolClass = site.poolClass
    · subst here
      obtain ⟨stub, guard, creating, acquiring, middle, run, grown, fits⟩ :=
        on_buildPoolClass ready offers
      have all := on_buildPoolClasses_cons context site.backend site.poolClass rest world
      simp only [run] at all
      refine ⟨stub, guard, creating, acquiring, [], _, _, _, all, rfl, ?_, ?_, ?_, ?_⟩
      · intro spec member
        have declared := buildPoolClasses_declares site.backend rest middle spec member
        obtain ⟨other, listed', key⟩ := List.mem_flatMap.1 declared
        exact apart other listed' _ key
      · exact List.mem_append_left _ List.mem_cons_self
      · exact trans_of Extends grown (restGrown middle)
      · exact fits.later (restGrown middle)
    · have listed' : site.poolClass ∈ rest := by
        simpa [Ne.symm here] using listed
      let built := (buildPoolClass context site.backend poolClass).on world
      have grown : world.Extends built.2 :=
        buildPoolClass_moves stubs Action.freshFunction_extends Action.newTracker_extends
          (fun type => Action.substitute_extends _ type _) site.backend poolClass world
      obtain ⟨stub, guard, creating, acquiring, first, last, output, left, run, specs, absent,
        guards, grown', fits⟩ :=
          ih listed' disjoint' (ready.later grown) (by rwa [grown.registries])
      refine ⟨stub, guard, creating, acquiring, built.1.specs ++ first, last, built.1 ++ output,
        left, ?_, ?_, absent, List.mem_append_right _ guards, trans_of Extends grown grown', fits⟩
      · rw [on_buildPoolClasses_cons]
        exact congrArg (fun others => (built.1 ++ others.1, others.2)) run
      · show built.1.specs ++ output.specs = _
        rw [specs, List.append_assoc]

theorem probe_undeclared : ∀ backend ∈ [Backend.sessions, .pooled],
    Seam.probe (probeTarget backend) ∉ poolClasses.flatMap (·.seams backend) := by
  decide

theorem on_build_pooling (context : AdapterContext) (backend : Backend) (world : World) :
    ((pooling backend).build context).on world =
      let types := (swapTypes context backend (connectionSeams backend)).on world
      let probe : PatchSpec := ⟨Seam.probe (probeTarget backend),
        .probe ⟨types.2.nextFunction, fun _ => false⟩⟩
      let classes :=
        (buildPoolClasses context backend poolClasses).on (Action.freshFunction.on types.2).2
      (.ofSpecs (types.1 ++ [probe]) ++ classes.1, classes.2) :=
  rfl

theorem guards_build_pooling (context : AdapterContext) (backend : Backend) (world : World) :
    (((pooling backend).build context).on world).1.guards =
      ((buildPoolClasses context backend poolClasses).on (Action.freshFunction.on
        ((swapTypes context backend (connectionSeams backend)).on world).2).2).1.guards := by
  rw [on_build_pooling]
  exact List.nil_append _

theorem on_pooling (ready : context.IsReady world)
    (offers : (world.registries.get context.registry).Offers site create acquire) :
    ∃ stub guard creating acquiring probing first second last output left,
      ((Adapter.standard site.backend).build context).on world = (output, left) ∧
        output.specs = first ++ ⟨site.probe, .probe ⟨probing, fun _ => false⟩⟩ :: (second ++
          (classSpecs context site create acquire stub guard.tracker creating acquiring ++ last)) ∧
        (∀ spec ∈ second, spec.key ≠ site.probe) ∧ (∀ spec ∈ last, spec.key ∉ site.seams) ∧
        guard ∈ output.guards ∧ world.Extends left ∧ guard.IsFor context stub left := by
  let types := (swapTypes context site.backend (connectionSeams site.backend)).on world
  have typesGrown : world.Extends types.2 :=
    swapTypes_moves ready.stubs_extends site.backend _ world
  have probeGrown : world.Extends (Action.freshFunction.on types.2).2 :=
    trans_of Extends typesGrown (Action.freshFunction_extends types.2)
  obtain ⟨stub, guard, creating, acquiring, second, last, output, left, run, specs, absent, guards,
    grown, fits⟩ := on_buildPoolClasses site.listed
      (poolClasses_disjoint site.backend site.pooling) (ready.later probeGrown)
      (by rwa [probeGrown.registries])
  have declared : ∀ spec ∈ output.specs, spec.key ∈ poolClasses.flatMap (·.seams site.backend) :=
    fun spec member => buildPoolClasses_declares site.backend poolClasses
      (Action.freshFunction.on types.2).2 spec (by rwa [run])
  rw [specs] at declared
  refine ⟨stub, guard, creating, acquiring, types.2.nextFunction, types.1, second, last,
    .ofSpecs (types.1 ++ [⟨site.probe, .probe ⟨types.2.nextFunction, fun _ => false⟩⟩]) ++ output,
    left, ?_, ?_, ?_, absent, List.mem_append_right _ guards, trans_of Extends probeGrown grown,
    fits⟩
  · rw [site.standard_eq_pooling, on_build_pooling]
    exact congrArg (fun classes => (AdapterOutput.ofSpecs (types.1 ++
      [⟨site.probe, .probe ⟨types.2.nextFunction, fun _ => false⟩⟩]) ++ classes.1, classes.2)) run
  · show types.1 ++ [_] ++ output.specs = _
    rw [specs, List.append_assoc]
    rfl
  · intro spec member same
    have listed := declared spec (List.mem_append_left _ member)
    rw [same] at listed
    exact probe_undeclared site.backend site.pooling listed

end Adapter

/-- What resources show at the seams of the class for a session: its substitute, the wrapped
primitives, and a probe that finds no connection dropped. -/
structure PoolSite.IsDressed (site : PoolSite) (session : SessionId) (limit : Nat)
    (create : Create) (acquire : Acquire) (guard : PoolGuard) (before : Registry)
    (resources : List Resource) : Prop where
  type : lastShown? before site.connectionType resources =
    some ⟨.transport guard.connectionType, some session⟩
  create : ∃ function, lastShown? before site.create resources =
    some ⟨.create function (.tracked create guard.tracker), some session⟩
  acquire : ∃ function, lastShown? before site.acquire resources =
    some ⟨.acquire function (.checked acquire site.fallback limit), some session⟩
  probe : ∃ function, lastShown? before site.probe resources =
    some ⟨.probe ⟨function, fun _ => false⟩, some session⟩
  guard : guard ∈ guardsOf resources

theorem PoolSite.IsDressed.append {site : PoolSite} {session : SessionId} {limit : Nat}
    {create : Create} {acquire : Acquire} {guard : PoolGuard} {before : Registry}
    {resources : List Resource}
    (dressed : site.IsDressed session limit create acquire guard before resources)
    (first last : List Resource)
    (firstApart : ∀ key ∈ site.seams, lastShown? before key first = none)
    (lastApart : ∀ key ∈ site.seams, lastShown? before key last = none) :
    site.IsDressed session limit create acquire guard before (first ++ (resources ++ last)) := by
  have shown (key : SeamKey) (listed : key ∈ site.seams) :
      lastShown? before key (first ++ (resources ++ last)) = lastShown? before key resources := by
    rw [lastShown?_append, lastShown?_append, firstApart key listed, lastApart key listed,
      Option.none_or, Option.or_none]
  simp only [site.mem_seams_iff] at shown
  obtain ⟨type, creates, acquires, probes, guarded⟩ := dressed
  refine ⟨?_, ?_, ?_, ?_, ?_⟩
  · rwa [shown site.connectionType (.inr (.inl rfl))]
  · rwa [shown site.create (.inr (.inr (.inl rfl)))]
  · rwa [shown site.acquire (.inr (.inr (.inr rfl)))]
  · rwa [shown site.probe (.inl rfl)]
  · simp only [guardsOf, List.filterMap_append, List.mem_append]
    exact .inr (.inl guarded)

namespace Builder

variable {builder : Builder} {site : PoolSite} {world : World} {create : Create}
  {acquire : Acquire}

theorem buildAdapter_dresses (before : Registry) (ready : builder.context.IsReady world)
    (recorded : (world.registries.get builder.registry).hasBackend site.backend = true)
    (contained : ∀ key ∈ site.seams,
      (world.registries.get builder.registry).contains key = true)
    (offers : (world.registries.get builder.registry).Offers site create acquire) :
    ∃ guard stub, site.IsDressed builder.session.id builder.acquireLimit create acquire guard
        before ((builder.buildAdapter (.standard site.backend)).on world).1 ∧
      guard.IsFor builder.context stub
        ((builder.buildAdapter (.standard site.backend)).on world).2 := by
  obtain ⟨stub, guard, creating, acquiring, probing, first, second, last, output, left, run, specs,
    probeLast, absent, guards, grown, fits⟩ := Adapter.on_pooling ready offers
  have patchesGrown (specs : List PatchSpec) :
      left.Extends ((builder.buildPatches specs).on left).2 :=
    buildPatches_moves (fun event _ => Action.emit_extends event)
      (fun type => Action.substitute_extends _ type _) specs left
  have built : (builder.buildAdapter (.standard site.backend)).on world =
      (((builder.buildPatches output.specs).on left).1 ++ output.guards.map Resource.poolGuard,
        ((builder.buildPatches output.specs).on left).2) := by
    rw [on_buildAdapter, if_pos]
    · simp only [run]
    · rwa [Adapter.backend_standard]
  rw [built]
  let probed : PatchSpec := ⟨site.probe, .probe ⟨probing, fun _ => false⟩⟩
  let swapped : PatchSpec := ⟨site.connectionType, .transport stub⟩
  let tracked : PatchSpec := ⟨site.create, .create creating (.tracked create guard.tracker)⟩
  let narrowed : PatchSpec :=
    ⟨site.acquire, .acquire acquiring (.checked acquire site.fallback builder.acquireLimit)⟩
  have split : output.specs =
      first ++ probed :: (second ++ swapped :: tracked :: narrowed :: last) :=
    specs
  have known : ∀ key ∈ site.seams, (left.registries.get builder.registry).contains key = true := by
    rw [grown.registries]
    exact contained
  have lastApart {key : SeamKey} (listed : key ∈ site.seams) : ∀ spec ∈ last, spec.key ≠ key :=
    fun spec member same => absent spec member (same ▸ listed)
  refine ⟨guard, stub, ⟨?_, ⟨creating, ?_⟩, ⟨acquiring, ?_⟩, ⟨probing, ?_⟩, ?_⟩,
    fits.later (patchesGrown _)⟩
  · have later : ∀ spec ∈ tracked :: narrowed :: last, spec.key ≠ site.connectionType := by
      intro spec member
      simp only [List.mem_cons] at member
      rcases member with rfl | rfl | member
      · exact site.create_ne_connectionType
      · exact site.acquire_ne_connectionType
      · exact lastApart site.connectionType_mem_seams spec member
    have type := lastShown?_output before
      (by simp [split] :
        output.specs = (first ++ probed :: second) ++ swapped :: tracked :: narrowed :: last)
      (known _ site.connectionType_mem_seams) later
    have made := fits.on_resolve (patchesGrown (first ++ probed :: second))
    refine type.trans ?_
    exact congrArg (fun turn => some (Binding.mk (Prod.fst turn) (some builder.session.id))) made
  · apply lastShown?_output before
      (by simp [split] : output.specs =
        (first ++ probed :: (second ++ [swapped])) ++ tracked :: narrowed :: last)
      (known _ site.create_mem_seams)
    intro spec member
    rcases List.mem_cons.1 member with rfl | member
    · exact site.acquire_ne_create
    · exact lastApart site.create_mem_seams spec member
  · exact lastShown?_output before
      (by simp [split] : output.specs =
        (first ++ probed :: (second ++ [swapped, tracked])) ++ narrowed :: last)
      (known _ site.acquire_mem_seams) (lastApart site.acquire_mem_seams)
  · apply lastShown?_output before split (known _ site.probe_mem_seams)
    intro spec member
    simp only [List.mem_append, List.mem_cons] at member
    rcases member with member | rfl | rfl | rfl | member
    · exact probeLast spec member
    · exact site.connectionType_ne_probe
    · exact site.create_ne_probe
    · exact site.acquire_ne_probe
    · exact lastApart site.probe_mem_seams spec member
  · refine List.mem_filterMap.2 ⟨.poolGuard guard, List.mem_append_right _ ?_, rfl⟩
    exact List.mem_map_of_mem guards

theorem buildAdapter_extends {backend : Backend} (ready : builder.context.IsReady world) :
    world.Extends ((builder.buildAdapter (.standard backend)).on world).2 :=
  buildAdapter_moves (fun event _ => Action.emit_extends event)
    (fun type => Action.substitute_extends _ type _)
    (Adapter.standard_extends backend builder.context ready.stubs_extends) world

theorem buildAdapters_extends (backends : List Backend)
    (ready : builder.context.IsReady world) :
    world.Extends ((builder.buildAdapters (backends.map .standard)).on world).2 := by
  refine buildAdapters_moves (fun event _ => Action.emit_extends event)
    (fun type => Action.substitute_extends _ type _) (fun adapter member => ?_) world
  obtain ⟨backend, -, rfl⟩ := List.mem_map.1 member
  exact Adapter.standard_extends backend builder.context ready.stubs_extends

theorem buildAdapters_apart {backends : List Backend} (absent : site.backend ∉ backends)
    (before : Registry) (world : World) : ∀ key ∈ site.seams, lastShown? before key
      ((builder.buildAdapters (backends.map .standard)).on world).1 = none :=
  fun key listed => buildAdapters_avoided (fun adapter member => by
    obtain ⟨backend, enabled, rfl⟩ := List.mem_map.1 member
    have apart : backend ≠ site.backend := fun same => absent (same ▸ enabled)
    exact Adapter.standard_avoids (site.not_declared apart key listed)) before world

theorem buildAdapters_dresses (before : Registry) {backends : List Backend}
    (distinct : backends.Nodup) (enabled : site.backend ∈ backends)
    (ready : builder.context.IsReady world)
    (recorded : (world.registries.get builder.registry).hasBackend site.backend = true)
    (contained : ∀ key ∈ site.seams,
      (world.registries.get builder.registry).contains key = true)
    (offers : (world.registries.get builder.registry).Offers site create acquire) :
    ∃ guard stub, site.IsDressed builder.session.id builder.acquireLimit create acquire guard
        before ((builder.buildAdapters (backends.map .standard)).on world).1 ∧
      guard.IsFor builder.context stub
        ((builder.buildAdapters (backends.map .standard)).on world).2 := by
  induction backends generalizing world with
  | nil => cases enabled
  | cons backend rest ih =>
    obtain ⟨absent, distinct'⟩ := List.nodup_cons.1 distinct
    have grown : world.Extends ((builder.buildAdapter (.standard backend)).on world).2 :=
      buildAdapter_extends ready
    rw [List.map_cons, on_buildAdapters_cons]
    by_cases here : backend = site.backend
    · subst here
      obtain ⟨guard, stub, dressed, fits⟩ :=
        buildAdapter_dresses before ready recorded contained offers
      exact ⟨guard, stub,
        dressed.append [] _ (fun _ _ => rfl) (buildAdapters_apart absent before _),
        fits.later (buildAdapters_extends rest (ready.later grown))⟩
    · have enabled' : site.backend ∈ rest := by
        simpa [Ne.symm here] using enabled
      rw [← grown.registries] at recorded contained offers
      obtain ⟨guard, stub, dressed, fits⟩ :=
        ih distinct' enabled' (ready.later grown) recorded contained offers
      refine ⟨guard, stub, ?_, fits⟩
      have all := dressed.append ((builder.buildAdapter (.standard backend)).on world).1 []
        (fun key listed => buildAdapter_avoided
          (Adapter.standard_avoids (site.not_declared here key listed)) before world)
        (fun _ _ => rfl)
      rwa [List.append_nil] at all

end Builder

/-- The guards were made between the two worlds: each has a tracker of its own, which is empty. -/
structure NewGuards (old new : World) (guards : List PoolGuard) : Prop where
  grown : old.Extends new
  increasing : guards.Pairwise fun a b => a.tracker.index < b.tracker.index
  issued : ∀ guard ∈ guards,
    old.nextObject ≤ guard.tracker.index ∧ guard.tracker.index < new.nextObject
  empty : ∀ guard ∈ guards,
    new.trackers.get guard.tracker = Tracker.new guard.connectionType

namespace NewGuards

variable {old middle new : World} {guards first last : List PoolGuard}

theorem none (grown : old.Extends new) : NewGuards old new [] :=
  ⟨grown, .nil, (fun _ member => nomatch member), (fun _ member => nomatch member)⟩

theorem append (made : NewGuards old middle first) (others : NewGuards middle new last) :
    NewGuards old new (first ++ last) := by
  refine ⟨trans_of Extends made.grown others.grown, ?_, ?_, ?_⟩
  · refine List.pairwise_append.2 ⟨made.increasing, others.increasing, ?_⟩
    intro a member b member'
    have before := made.issued a member
    have after := others.issued b member'
    omega
  · intro guard member
    rcases List.mem_append.1 member with member | member
    · obtain ⟨low, high⟩ := made.issued guard member
      have grown := others.grown.nextObject
      exact ⟨low, by omega⟩
    · obtain ⟨low, high⟩ := others.issued guard member
      have grown := made.grown.nextObject
      exact ⟨by omega, high⟩
  · intro guard member
    rcases List.mem_append.1 member with member | member
    · exact (others.grown.trackers _ (made.issued guard member).2).trans (made.empty guard member)
    · exact others.empty guard member

theorem earlier (grown : old.Extends middle) (made : NewGuards middle new guards) :
    NewGuards old new guards :=
  (none grown).append made

theorem later (made : NewGuards old middle guards) (grown : middle.Extends new) :
    NewGuards old new guards := by
  have all := made.append (none grown)
  rwa [List.append_nil] at all

end NewGuards

namespace Adapter

variable {context : AdapterContext} {world : World}

theorem trackCreate_newGuards (type : TransportType) (key : SeamKey) :
    NewGuards world ((trackCreate context type key).on world).2
      ((trackCreate context type key).on world).1.guards := by
  simp only [trackCreate, Action.on_bind, Action.on_registry]
  split
  · refine ⟨trans_of Extends (Action.newTracker_extends type world)
      (Action.freshFunction_extends _), List.pairwise_singleton _ _, ?_, ?_⟩
    · intro guard member
      obtain rfl := List.mem_singleton.1 member
      exact ⟨Nat.le_refl _, Nat.lt_succ_self _⟩
    · intro guard member
      obtain rfl := List.mem_singleton.1 member
      exact (Store.get_put world.trackers ⟨world.nextObject⟩ ⟨world.nextObject⟩
        (Tracker.new type)).trans (if_pos rfl)
  · exact .none (refl_of Extends world)

theorem checkAcquire_newGuards (fallback key : SeamKey) :
    NewGuards world ((checkAcquire context fallback key).on world).2
      ((checkAcquire context fallback key).on world).1.guards := by
  simp only [checkAcquire, Action.on_bind, Action.on_registry]
  split
  · exact .none (Action.freshFunction_extends world)
  · exact .none (refl_of Extends world)

theorem buildPoolClass_newGuards (stubs : context.session.stubs.Moves Extends)
    (backend : Backend) (poolClass : PoolClass) (world : World) :
    NewGuards world ((buildPoolClass context backend poolClass).on world).2
      ((buildPoolClass context backend poolClass).on world).1.guards := by
  have lent := stubs.transport backend poolClass.connection world
  simp only [buildPoolClass, Action.on_bind]
  generalize (context.session.stubs.transport? backend poolClass.connection).on world = turn
    at lent ⊢
  obtain ⟨stub?, middle⟩ := turn
  cases stub? with
  | none => exact .none lent
  | some stub =>
    let bound := (Action.substitute context.cache stub context.session.id).on middle
    let wrapped := (trackCreate context bound.1 (Seam.create (poolClass.target backend))).on bound.2
    let narrowed := (checkAcquire context ⟨connectionTarget backend, poolClass.connection⟩
      (Seam.acquire (poolClass.target backend))).on wrapped.2
    have boundGrown : middle.Extends bound.2 := Action.substitute_extends _ _ _ middle
    have wrappedMade : NewGuards bound.2 wrapped.2 wrapped.1.guards := trackCreate_newGuards _ _
    have narrowedMade : NewGuards wrapped.2 narrowed.2 narrowed.1.guards :=
      checkAcquire_newGuards _ _
    simp only [Action.on_bind, Action.on_pure]
    show NewGuards world narrowed.2 ([] ++ wrapped.1.guards ++ narrowed.1.guards)
    rw [List.nil_append]
    exact (wrappedMade.append narrowedMade).earlier (trans_of Extends lent boundGrown)

theorem buildPoolClasses_newGuards (stubs : context.session.stubs.Moves Extends)
    (backend : Backend) (classes : List PoolClass) (world : World) :
    NewGuards world ((buildPoolClasses context backend classes).on world).2
      ((buildPoolClasses context backend classes).on world).1.guards := by
  induction classes generalizing world with
  | nil => exact .none (refl_of Extends world)
  | cons poolClass rest ih =>
    rw [on_buildPoolClasses_cons]
    exact (buildPoolClass_newGuards stubs backend poolClass world).append (ih _)

theorem standard_newGuards (stubs : context.session.stubs.Moves Extends) (backend : Backend)
    (world : World) :
    NewGuards world (((Adapter.standard backend).build context).on world).2
      (((Adapter.standard backend).build context).on world).1.guards := by
  have types (backend : Backend) (seams : List TypeSeam) :
      NewGuards world (((direct backend seams).build context).on world).2
        (((direct backend seams).build context).on world).1.guards :=
    .none (swapTypes_moves stubs backend seams world)
  have wrapped (backend : Backend) (seams : List SeamKey) :
      NewGuards world (((handlers backend seams).build context).on world).2
        (((handlers backend seams).build context).on world).1.guards :=
    .none (interceptSeams_moves stubs backend seams world)
  have pooled (backend : Backend) : NewGuards world (((pooling backend).build context).on world).2
      (((pooling backend).build context).on world).1.guards := by
    have types := swapTypes_moves stubs backend (connectionSeams backend) world
    have probe := Action.freshFunction_extends
      ((swapTypes context backend (connectionSeams backend)).on world).2
    rw [guards_build_pooling, on_build_pooling]
    exact (buildPoolClasses_newGuards stubs backend poolClasses _).earlier
      (trans_of Extends types probe)
  cases backend with
  | sessions => exact pooled .sessions
  | pooled => exact pooled .pooled
  | stdHttp => exact types _ _
  | aws => exact types _ _
  | timeoutHttp => exact .none (schemeStubs_moves stubs timeoutSchemes world)
  | certHttp => exact types _ _
  | asyncFetch => exact wrapped _ _
  | clientSession => exact wrapped _ _
  | dualClient => exact wrapped _ _

end Adapter

namespace Builder

variable {builder : Builder} {site : PoolSite} {world : World} {create : Create}
  {acquire : Acquire}

theorem guardsOf_append (first last : List Resource) :
    guardsOf (first ++ last) = guardsOf first ++ guardsOf last :=
  List.filterMap_append

theorem guardsOf_map (guards : List PoolGuard) :
    guardsOf (guards.map Resource.poolGuard) = guards := by
  rw [guardsOf, List.filterMap_map]
  exact List.filterMap_some

theorem buildAdapter_newGuards (ready : builder.context.IsReady world) (backend : Backend) :
    NewGuards world ((builder.buildAdapter (.standard backend)).on world).2
      (guardsOf ((builder.buildAdapter (.standard backend)).on world).1) := by
  rw [on_buildAdapter]
  split
  · have made := Adapter.standard_newGuards ready.stubs_extends backend world
    simp only [guardsOf_append, guardsOf_buildPatches, guardsOf_map, List.nil_append]
    exact made.later (buildPatches_moves (fun event _ => Action.emit_extends event)
      (fun type => Action.substitute_extends _ type _) _ _)
  · exact .none (Action.emit_extends _ world)

theorem buildAdapters_newGuards (ready : builder.context.IsReady world)
    (backends : List Backend) :
    NewGuards world ((builder.buildAdapters (backends.map .standard)).on world).2
      (guardsOf ((builder.buildAdapters (backends.map .standard)).on world).1) := by
  induction backends generalizing world with
  | nil => exact .none (refl_of Extends world)
  | cons backend rest ih =>
    rw [List.map_cons, on_buildAdapters_cons]
    simp only [guardsOf_append]
    exact (buildAdapter_newGuards ready backend).append
      (ih (ready.later (buildAdapter_extends ready)))

end Builder

structure Builder.IsStandard (builder : Builder) (world : World) : Prop where
  catalog : ∃ disabled, builder.catalog = Catalog.standard.without disabled
  ready : builder.context.IsReady world

namespace Builder

variable {builder : Builder} {site : PoolSite} {world : World} {create : Create}
  {acquire : Acquire}

theorem on_build_standard (standard : builder.IsStandard world) :
    ∃ (backends : List Backend) (adapted : List Resource) (middle left : World),
      (∀ backend, builder.catalog.contains backend = true ↔ backend ∈ backends) ∧
        backends.Nodup ∧
        (builder.buildAdapters (backends.map .standard)).on world = (adapted, middle) ∧
        builder.build.on world =
          (adapted ++ ((builder.buildPatches builder.session.customPatches).on middle).1, left) ∧
        middle.Extends left := by
  obtain ⟨disabled, catalog⟩ := standard.catalog
  have built := on_build builder world
  rw [catalog, Catalog.values_standard_without] at built
  refine ⟨Backend.all.filter fun backend => !disabled.contains backend, _, _,
    (builder.build.on world).2, ?_, ?_, rfl, ?_, ?_⟩
  · intro backend
    rw [catalog, Catalog.contains_standard_without, List.contains_iff_mem]
  · exact List.Pairwise.filter _ (by decide : Backend.all.Nodup)
  · rw [built]
    rfl
  · rw [built]
    exact trans_of Extends (buildPatches_moves (fun event _ => Action.emit_extends event)
      (fun type => Action.substitute_extends _ type _) _ _) (Action.emit_extends _ _)

end Builder

end TransportSeams

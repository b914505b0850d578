import TransportSeams.Proofs.Adapter.Answering

/-!
Adapters that agree on stubs and substitutes. A stub that is lent steadily is the same one on every
path on which an adapter asks for it: at the seams of a stack, in the table of the schemes, and for
the tracker of a pool class.
-/

set_option autoImplicit false
set_option relaxedAutoImplicit false

namespace TransportSeams

open World Adapter

/-- A patch that an adapter may emit, given what the catalog answers: the stub of a type seam at
that seam, the schemes with the stubs of their types, or one at another seam. -/
inductive PatchSpec.IsLent (lent : Backend → String → Option TransportType) (backend : Backend) :
    PatchSpec → Prop where
  | type {seam : TypeSeam} {stub : TransportType} :
    seam ∈ typeSeams backend → lent backend seam.stub = some stub →
      IsLent lent backend ⟨seam.key, .transport stub⟩
  | schemes {entries : List (String × SeamValue)} :
    (∀ entry ∈ entries, ∃ name stub, (entry.1, name) ∈ timeoutSchemes ∧
      lent .timeoutHttp name = some stub ∧ entry.2 = .transport stub) →
        IsLent lent backend ⟨schemeTable, .table (.ofList entries)⟩
  | other {spec : PatchSpec} :
    spec.key ∉ typeKeys → spec.key ≠ schemeTable → IsLent lent backend spec

namespace PatchSpec.IsLent

variable {lent : Backend → String → Option TransportType} {backend : Backend} {spec : PatchSpec}

theorem type_of_key (isLent : spec.IsLent lent backend) {other : Backend} {seam : TypeSeam}
    (listed : seam ∈ typeSeams other) (here : spec.key = seam.key) :
    ∃ stub, lent other seam.stub = some stub ∧ spec.replacement = .transport stub := by
  cases isLent with
  | type swapped answered =>
    obtain ⟨rfl, named⟩ := eq_of_key_eq listed swapped here
    exact ⟨_, named ▸ answered, rfl⟩
  | schemes entries =>
    have table : schemeTable = seam.key := here
    exact absurd (table ▸ mem_typeKeys listed) schemeTable_not_mem_typeKeys
  | other types schemes => exact absurd (here ▸ mem_typeKeys listed) types

theorem schemes_of_key (isLent : spec.IsLent lent backend) (here : spec.key = schemeTable) :
    ∃ entries, spec.replacement = .table (.ofList entries) ∧
      ∀ entry ∈ entries, ∃ name stub, (entry.1, name) ∈ timeoutSchemes ∧
        lent .timeoutHttp name = some stub ∧ entry.2 = .transport stub := by
  cases isLent with
  | type swapped answered => exact absurd (here ▸ mem_typeKeys swapped) schemeTable_not_mem_typeKeys
  | schemes entries => exact ⟨_, rfl, entries⟩
  | other types schemes => exact absurd here schemes

end PatchSpec.IsLent

structure PoolGuard.Tracks (guard : PoolGuard) (site : PoolSite)
    (lent : Backend → String → Option TransportType) (bind : TransportId → TransportType)
    (world : World) : Prop where
  issued : guard.tracker.index < world.nextObject
  type : ∃ stub, lent site.backend site.poolClass.connection = some stub ∧
    guard.connectionType = bind stub.id ∧
      (world.trackers.get guard.tracker).connectionType = bind stub.id

def PatchSpec.Feeds (spec : PatchSpec) (site : PoolSite) (guard : PoolGuard) : Prop :=
  spec.key = site.create ∧ ∃ function primitive,
    spec.replacement = .create function (.tracked primitive guard.tracker)

/-- What an adapter has emitted by the time of a world: patches with the catalog's stubs, and a
guard for each create wrapper, with a wrapper at a registered seam for each guard. -/
structure AdapterOutput.Agrees (output : AdapterOutput)
    (lent : Backend → String → Option TransportType) (bind : TransportId → TransportType)
    (backend : Backend) (registry : RegistryId) (world : World) : Prop where
  specs : ∀ spec ∈ output.specs, spec.IsLent lent backend
  creates (site : PoolSite) : ∀ spec ∈ output.specs, spec.key = site.create →
    ∃ guard ∈ output.guards, guard.Tracks site lent bind world ∧ spec.Feeds site guard
  guards : ∀ guard ∈ output.guards, ∃ site, guard.Tracks site lent bind world ∧
    (world.registries.get registry).contains site.create = true ∧
      ∃ spec ∈ output.specs, spec.Feeds site guard

namespace PoolSite

variable (site : PoolSite)

private theorem primitives_apart : ∀ backend ∈ [Backend.sessions, .pooled],
    ∀ poolClass ∈ poolClasses, ∀ key ∈ [Seam.probe (probeTarget backend),
      Seam.create (poolClass.target backend), Seam.acquire (poolClass.target backend)],
        key ∉ typeKeys ∧ key ≠ schemeTable := by
  decide

theorem key_ne_create {backend : Backend} {seam : TypeSeam} (listed : seam ∈ typeSeams backend) :
    seam.key ≠ site.create := by
  intro same
  refine (primitives_apart site.backend site.pooling site.poolClass site.listed site.create
    (List.mem_cons_of_mem _ List.mem_cons_self)).1 ?_
  rw [← same]
  exact mem_typeKeys listed

theorem schemeTable_ne_create : schemeTable ≠ site.create :=
  (primitives_apart site.backend site.pooling site.poolClass site.listed site.create
    (List.mem_cons_of_mem _ List.mem_cons_self)).2.symm

theorem isLent_of_key {lent : Backend → String → Option TransportType} {backend : Backend}
    {spec : PatchSpec} (key : spec.key ∈ [site.probe, site.create, site.acquire]) :
    spec.IsLent lent backend := by
  obtain ⟨types, schemes⟩ :=
    primitives_apart site.backend site.pooling site.poolClass site.listed _ key
  exact .other types schemes

end PoolSite

theorem PoolGuard.Tracks.later {guard : PoolGuard} {site : PoolSite}
    {lent : Backend → String → Option TransportType} {bind : TransportId → TransportType}
    {world later : World} (tracks : guard.Tracks site lent bind world)
    (kept : world.Retains later) : guard.Tracks site lent bind later := by
  obtain ⟨issued, stub, lends, held, tracked⟩ := tracks
  refine ⟨Nat.lt_of_lt_of_le issued kept.nextObject, stub, lends, held, ?_⟩
  rw [kept.types guard.tracker issued, tracked]

namespace AdapterOutput.Agrees

variable {lent : Backend → String → Option TransportType} {bind : TransportId → TransportType}
  {backend : Backend} {registry : RegistryId} {world after : World}

theorem of_specs {output : AdapterOutput} (unguarded : output.guards = [])
    (are : ∀ spec ∈ output.specs, spec.IsLent lent backend)
    (apart : ∀ site : PoolSite, ∀ spec ∈ output.specs, spec.key ≠ site.create) :
    output.Agrees lent bind backend registry world where
  specs := are
  creates site spec member here := absurd here (apart site spec member)
  guards guard member := by
    rw [unguarded] at member
    cases member

theorem empty : AdapterOutput.empty.Agrees lent bind backend registry world :=
  of_specs rfl (List.forall_mem_nil _) fun _ => List.forall_mem_nil _

theorem of_guard {spec : PatchSpec} {guard : PoolGuard} {site : PoolSite}
    (feeds : spec.Feeds site guard) (tracks : guard.Tracks site lent bind world)
    (known : (world.registries.get registry).contains site.create = true) :
    (AdapterOutput.mk [spec] [guard]).Agrees lent bind backend registry world := by
  refine ⟨fun other member => ?_, fun other made member here => ?_, fun other member => ?_⟩
  · obtain rfl := List.mem_singleton.1 member
    refine site.isLent_of_key ?_
    rw [feeds.1]
    exact List.mem_cons_of_mem _ List.mem_cons_self
  · obtain rfl := List.mem_singleton.1 member
    obtain rfl := PoolSite.eq_of_create_eq (feeds.1.symm.trans here)
    exact ⟨guard, List.mem_cons_self, tracks, feeds⟩
  · obtain rfl := List.mem_singleton.1 member
    exact ⟨site, tracks, known, spec, List.mem_cons_self, feeds⟩

theorem later {output : AdapterOutput} (agrees : output.Agrees lent bind backend registry world)
    (kept : world.Retains after) : output.Agrees lent bind backend registry after where
  specs := agrees.specs
  creates site spec member here := by
    obtain ⟨guard, listed, tracks, feeds⟩ := agrees.creates site spec member here
    exact ⟨guard, listed, tracks.later kept, feeds⟩
  guards guard member := by
    obtain ⟨site, tracks, known, fed⟩ := agrees.guards guard member
    exact ⟨site, tracks.later kept, kept.seams registry _ known, fed⟩

theorem append {first last : AdapterOutput}
    (agrees : first.Agrees lent bind backend registry world)
    (others : last.Agrees lent bind backend registry world) :
    (first ++ last).Agrees lent bind backend registry world := by
  refine ⟨fun spec member => ?_, fun site spec member here => ?_, fun guard member => ?_⟩
  · rcases List.mem_append.1 member with member | member
    · exact agrees.specs spec member
    · exact others.specs spec member
  · rcases List.mem_append.1 member with member | member
    · obtain ⟨guard, listed, fits⟩ := agrees.creates site spec member here
      exact ⟨guard, List.mem_append_left _ listed, fits⟩
    · obtain ⟨guard, listed, fits⟩ := others.creates site spec member here
      exact ⟨guard, List.mem_append_right _ listed, fits⟩
  · rcases List.mem_append.1 member with member | member
    · obtain ⟨site, tracks, known, spec, listed, feeds⟩ := agrees.guards guard member
      exact ⟨site, tracks, known, spec, List.mem_append_left _ listed, feeds⟩
    · obtain ⟨site, tracks, known, spec, listed, feeds⟩ := others.guards guard member
      exact ⟨site, tracks, known, spec, List.mem_append_right _ listed, feeds⟩

end AdapterOutput.Agrees

namespace Adapter

variable {context : AdapterContext} {start world last : World}
  {bind : TransportId → TransportType}

theorem trackCreate_cases (context : AdapterContext) (site : PoolSite) (type : TransportType)
    (world : World) :
    let tracked := (trackCreate context type site.create).on world
    tracked.1 = .empty ∨ ∃ spec guard, tracked.1 = ⟨[spec], [guard]⟩ ∧ spec.Feeds site guard ∧
      guard.connectionType = type ∧ guard.tracker.index < tracked.2.nextObject ∧
      (tracked.2.trackers.get guard.tracker).connectionType = type ∧
      (tracked.2.registries.get context.registry).contains site.create = true := by
  intro tracked
  by_cases offers : ∃ function primitive,
      (world.registries.get context.registry).value? site.create =
        some (.create function primitive)
  · obtain ⟨function, primitive, held⟩ := offers
    obtain ⟨binding, shown, -⟩ := Option.map_eq_some_iff.1 held
    refine .inr ⟨⟨site.create, .create world.nextFunction (.tracked primitive ⟨world.nextObject⟩)⟩,
      ⟨⟨world.nextObject⟩, type⟩, ?_⟩
    dsimp only [tracked]
    rw [on_trackCreate type held]
    refine ⟨rfl, ⟨rfl, _, _, rfl⟩, rfl, Nat.lt_succ_self _, ?_, Registry.contains_of_binding? shown⟩
    exact congrArg Tracker.connectionType ((Store.get_put _ _ _ _).trans (if_pos rfl))
  · refine .inl ?_
    simp only [tracked, trackCreate, Action.on_bind, Action.on_registry]
    split
    · rename_i function primitive held
      exact absurd ⟨function, primitive, held⟩ offers
    · rfl

private theorem handlers_apart : ∀ backend ∈ [Backend.asyncFetch, .clientSession, .dualClient],
    backend ∉ [Backend.sessions, .pooled] ∧ ∀ key ∈ (Adapter.standard backend).declaredSeams,
      key ∉ typeKeys ∧ key ≠ schemeTable := by
  decide

theorem handlers_agrees {backend : Backend} {lent : Backend → String → Option TransportType}
    {registry : RegistryId} {later : World}
    (listed : backend ∈ [Backend.asyncFetch, .clientSession, .dualClient]) :
    (((Adapter.standard backend).build context).on world).1.Agrees lent bind backend registry
      later := by
  obtain ⟨unpooled, apart⟩ := handlers_apart backend listed
  have declared := standard_declares backend context world
  refine .of_specs ?_ (fun spec member => ?_) fun site spec member here => ?_
  · simp only [List.mem_cons, List.not_mem_nil, or_false] at listed
    rcases listed with rfl | rfl | rfl <;> rfl
  · obtain ⟨types, schemes⟩ := apart spec.key (declared spec member)
    exact .other types schemes
  · have different : backend ≠ site.backend := fun same => unpooled (same ▸ site.pooling)
    exact site.not_declared different _ site.create_mem_seams (here ▸ declared spec member)

section Lending

variable (lends : context.session.stubs.LendsSteadily start) (reached : start.Retains world)

include lends reached

theorem swapTypes_agrees {backend : Backend} {seams : List TypeSeam}
    (listed : ∀ seam ∈ seams, seam ∈ typeSeams backend)
    (kept : ((swapTypes context backend seams).on world).2.Retains last) :
    (AdapterOutput.ofSpecs ((swapTypes context backend seams).on world).1).Agrees
      (context.session.stubs.answer last) bind backend context.registry
      ((swapTypes context backend seams).on world).2 := by
  have swapped : ∀ spec ∈ ((swapTypes context backend seams).on world).1, ∃ seam ∈ seams, ∃ stub,
      context.session.stubs.answer last backend seam.stub = some stub ∧
        ⟨seam.key, .transport stub⟩ = spec := by
    intro spec member
    rw [swapTypes_eq lends reached kept] at member
    obtain ⟨seam, swapped, found⟩ := List.mem_filterMap.1 member
    exact ⟨seam, swapped, Option.map_eq_some_iff.1 found⟩
  refine .of_specs rfl (fun spec member => ?_) fun site spec member => ?_
  · obtain ⟨seam, swaps, stub, lent, rfl⟩ := swapped spec member
    exact .type (listed seam swaps) lent
  · obtain ⟨seam, swaps, stub, -, rfl⟩ := swapped spec member
    exact site.key_ne_create (listed seam swaps)

theorem direct_agrees (backend : Backend)
    (kept : (((direct backend (typeSeams backend)).build context).on world).2.Retains last) :
    (((direct backend (typeSeams backend)).build context).on world).1.Agrees
      (context.session.stubs.answer last) bind backend context.registry
      (((direct backend (typeSeams backend)).build context).on world).2 :=
  swapTypes_agrees lends reached (fun _ listed => listed) kept

theorem timeoutHttp_agrees (kept : ((timeoutHttp.build context).on world).2.Retains last) :
    ((timeoutHttp.build context).on world).1.Agrees (context.session.stubs.answer last) bind
      .timeoutHttp context.registry ((timeoutHttp.build context).on world).2 := by
  let stubs := (schemeStubs context timeoutSchemes).on world
  have lent : ∀ entry ∈ stubs.1, (entry.1, entry.2.1) ∈ timeoutSchemes ∧
      context.session.stubs.answer last .timeoutHttp entry.2.1 = some entry.2.2 :=
    fun entry => (mem_schemeStubs_iff lends reached kept entry.1 entry.2.1 entry.2.2).1
  have typed : ∀ entry ∈ stubs.1,
      (⟨⟨"timeout_http", entry.2.1⟩, entry.2.1⟩ : TypeSeam) ∈ typeSeams .timeoutHttp :=
    fun entry listed => List.mem_map.2 ⟨(entry.1, entry.2.1), (lent entry listed).1, rfl⟩
  let table : List PatchSpec := if stubs.1.isEmpty then [] else
    [⟨schemeTable, .table (.ofList (stubs.1.map fun entry => (entry.1, .transport entry.2.2)))⟩]
  have run : (timeoutHttp.build context).on world =
      (.ofSpecs (stubs.1.map (fun entry =>
        ⟨⟨"timeout_http", entry.2.1⟩, .transport entry.2.2⟩)) ++ .ofSpecs table, stubs.2) :=
    rfl
  have tabled : ∀ spec ∈ table, spec = ⟨schemeTable, .table (.ofList (stubs.1.map fun entry =>
      (entry.1, .transport entry.2.2)))⟩ := by
    intro spec member
    dsimp only [table] at member
    split at member
    · cases member
    · exact List.mem_singleton.1 member
  rw [run]
  refine .append (.of_specs rfl ?_ ?_) (.of_specs rfl ?_ ?_)
  · intro spec member
    obtain ⟨entry, listed, rfl⟩ := List.mem_map.1 member
    exact .type (typed entry listed) (lent entry listed).2
  · intro site spec member
    obtain ⟨entry, listed, rfl⟩ := List.mem_map.1 member
    exact site.key_ne_create (typed entry listed)
  · intro spec member
    rw [tabled spec member]
    refine .schemes fun entry listed => ?_
    obtain ⟨stub, held, rfl⟩ := List.mem_map.1 listed
    obtain ⟨named, answered⟩ := lent stub held
    exact ⟨stub.2.1, stub.2.2, named, answered, rfl⟩
  · intro site spec member
    rw [tabled spec member]
    exact site.schemeTable_ne_create

variable (follows : (last.caches.get context.cache).Follows context.session.id bind)

include follows

theorem buildPoolClass_agrees (site : PoolSite)
    (kept : ((buildPoolClass context site.backend site.poolClass).on world).2.Retains last) :
    ((buildPoolClass context site.backend site.poolClass).on world).1.Agrees
      (context.session.stubs.answer last) bind site.backend context.registry
      ((buildPoolClass context site.backend site.poolClass).on world).2 := by
  let asked := (context.session.stubs.transport? site.backend site.poolClass.connection).on world
  cases lent : asked.1 with
  | none =>
    rw [buildPoolClass_unlent lent]
    exact .empty
  | some stub =>
    let bound := (Action.substitute context.cache stub context.session.id).on asked.2
    let tracked := (trackCreate context bound.1 site.create).on bound.2
    let checked := (checkAcquire context site.fallback site.acquire).on tracked.2
    have run : (buildPoolClass context site.backend site.poolClass).on world =
        (.ofSpecs [⟨site.connectionType, .transport stub⟩] ++ tracked.1 ++ checked.1, checked.2) :=
      buildPoolClass_lent lent
    have fromAsked : asked.2.Retains last :=
      trans_of Retains (asked_retains_buildPoolClass context site world) kept
    rw [run] at kept ⊢
    -- from each step on, nothing is undone until the end
    have fromTracked : tracked.2.Retains checked.2 :=
      checkAcquire_moves Action.freshFunction_retains _ _ tracked.2
    have fromBound : bound.2.Retains tracked.2 :=
      trackCreate_moves Action.freshFunction_retains Action.newTracker_retains _ _ bound.2
    have toLast : bound.2.Retains last :=
      trans_of Retains fromBound (trans_of Retains fromTracked kept)
    have answered : context.session.stubs.answer last site.backend site.poolClass.connection =
        some stub :=
      (lends.steady reached fromAsked).trans lent
    have type : bound.1 = bind stub.id := by
      have foreign : stub.isBoundTo context.session.id = false := by
        simp [TransportType.isBoundTo, TransportType.owner?, lends.unbound reached lent]
      rw [Action.substitute_eq (follows.earlier toLast), if_neg (by simp [foreign])]
    have acquires : ∀ spec ∈ checked.1.specs, spec.key = site.acquire := fun spec member =>
      List.mem_singleton.1 ((checkAcquire_emits _ _ _).subset (List.mem_map_of_mem member))
    refine .append (.append (.of_specs rfl ?_ ?_) ?_) (.of_specs (guards_checkAcquire _ _) ?_ ?_)
    · intro spec member
      obtain rfl := List.mem_singleton.1 member
      exact .type site.typeSeam_mem answered
    · intro other spec member
      obtain rfl := List.mem_singleton.1 member
      simp [PoolSite.connectionType, PoolSite.create, Seam.connectionType, Seam.create]
    · rcases trackCreate_cases context site bound.1 bound.2 with
        none | ⟨spec, guard, made, feeds, held, issued, tracks, known⟩
      · exact none ▸ .empty
      · have fits : guard.Tracks site (context.session.stubs.answer last) bind tracked.2 :=
          ⟨issued, stub, answered, held.trans type, tracks.trans type⟩
        exact made ▸ (AdapterOutput.Agrees.of_guard feeds fits known).later fromTracked
    · intro spec member
      refine site.isLent_of_key ?_
      rw [acquires spec member]
      simp
    · intro other spec member
      rw [acquires spec member]
      simp [PoolSite.acquire, PoolSite.create, Seam.acquire, Seam.create]

theorem buildPoolClasses_agrees {backend : Backend}
    (pooling : backend ∈ [Backend.sessions, .pooled]) {classes : List PoolClass}
    (listed : ∀ poolClass ∈ classes, poolClass ∈ poolClasses)
    (kept : ((buildPoolClasses context backend classes).on world).2.Retains last) :
    ((buildPoolClasses context backend classes).on world).1.Agrees
      (context.session.stubs.answer last) bind backend context.registry
      ((buildPoolClasses context backend classes).on world).2 := by
  induction classes generalizing world with
  | nil => exact .empty
  | cons poolClass rest ih =>
    obtain ⟨here, others⟩ := List.forall_mem_cons.1 listed
    rw [on_buildPoolClasses_cons] at kept ⊢
    dsimp only at kept ⊢
    have first := buildPoolClass_retains lends backend poolClass world
    have later := buildPoolClasses_retains lends backend rest
      ((buildPoolClass context backend poolClass).on world).2
    have agrees := buildPoolClass_agrees lends reached follows ⟨backend, poolClass, pooling, here⟩
      (trans_of Retains later kept)
    exact (agrees.later later).append (ih (trans_of Retains reached first) others kept)

theorem pooling_agrees {backend : Backend} (pooling : backend ∈ [Backend.sessions, .pooled])
    (kept : (((Adapter.pooling backend).build context).on world).2.Retains last) :
    (((Adapter.pooling backend).build context).on world).1.Agrees
      (context.session.stubs.answer last) bind backend context.registry
      (((Adapter.pooling backend).build context).on world).2 := by
  let site : PoolSite := ⟨backend, _, pooling, List.mem_cons_self⟩
  let swapped := (swapTypes context backend (connectionSeams backend)).on world
  let probed := Action.freshFunction.on swapped.2
  let probe : PatchSpec := ⟨site.probe, .probe ⟨probed.1, fun _ => false⟩⟩
  let classes := (buildPoolClasses context backend poolClasses).on probed.2
  have run : ((Adapter.pooling backend).build context).on world =
      (.ofSpecs swapped.1 ++ .ofSpecs [probe] ++ classes.1, classes.2) :=
    on_build_pooling context backend world
  rw [run] at kept ⊢
  have fromProbed : probed.2.Retains classes.2 :=
    buildPoolClasses_retains lends backend poolClasses probed.2
  have fromSwapped : swapped.2.Retains classes.2 :=
    trans_of Retains (Action.freshFunction_retains swapped.2) fromProbed
  have toProbed : start.Retains probed.2 :=
    trans_of Retains reached (trans_of Retains (swapTypes_moves lends.moves backend _ world)
      (Action.freshFunction_retains swapped.2))
  have typed : ∀ seam ∈ connectionSeams backend, seam ∈ typeSeams backend := by
    rw [site.typeSeams_eq]
    exact fun seam listed => List.mem_append_left _ listed
  refine .append (.append ?_ (.of_specs rfl ?_ ?_)) ?_
  · exact (swapTypes_agrees lends reached typed (trans_of Retains fromSwapped kept)).later
      fromSwapped
  · intro spec member
    obtain rfl := List.mem_singleton.1 member
    exact site.isLent_of_key List.mem_cons_self
  · intro other spec member
    obtain rfl := List.mem_singleton.1 member
    simp [probe, PoolSite.probe, PoolSite.create, Seam.probe, Seam.create]
  · exact buildPoolClasses_agrees lends toProbed follows pooling (fun _ listed => listed) kept

/-- Whatever the stack, what its adapter emits agrees with the catalog and the cache. -/
theorem standard_agrees (backend : Backend)
    (kept : (((Adapter.standard backend).build context).on world).2.Retains last) :
    (((Adapter.standard backend).build context).on world).1.Agrees
      (context.session.stubs.answer last) bind backend context.registry
      (((Adapter.standard backend).build context).on world).2 := by
  cases backend with
  | stdHttp => exact direct_agrees lends reached .stdHttp kept
  | sessions => exact pooling_agrees lends reached follows List.mem_cons_self kept
  | aws => exact direct_agrees lends reached .aws kept
  | pooled =>
    exact pooling_agrees lends reached follows (List.mem_cons_of_mem _ List.mem_cons_self) kept
  | timeoutHttp => exact timeoutHttp_agrees lends reached kept
  | certHttp => exact direct_agrees lends reached .certHttp kept
  | asyncFetch => exact handlers_agrees List.mem_cons_self
  | clientSession => exact handlers_agrees (List.mem_cons_of_mem _ List.mem_cons_self)
  | dualClient =>
    exact handlers_agrees (List.mem_cons_of_mem _ (List.mem_cons_of_mem _ List.mem_cons_self))

end Lending

end Adapter

end TransportSeams

import TransportSeams.Proofs.Adapter.Agreement
import TransportSeams.Proofs.Scope.Building

/-!
One substitute for one stub. All that a builder makes comes from specifications whose types it binds
to its session, and what the cache holds in the end says to which substitutes: it is the same one at
every seam where a stub is put, in every table, and for the trackers of the pool classes.
-/

set_option autoImplicit false
set_option relaxedAutoImplicit false

namespace TransportSeams

open World Adapter

def PatchHandle.spec (handle : PatchHandle) : PatchSpec :=
  ⟨handle.key, handle.replacement⟩

namespace Builder

def handle (builder : Builder) (bind : TransportId → TransportType) (spec : PatchSpec) :
    PatchHandle :=
  ⟨builder.registry, spec.key, spec.replacement.mapTypes (·.boundBy builder.session.id bind),
    builder.session.id, none⟩

def handles (builder : Builder) (bind : TransportId → TransportType) (specs : List PatchSpec)
    (registry : Registry) : List PatchHandle :=
  (specs.filter fun spec => registry.contains spec.key).map (builder.handle bind)

def lent (builder : Builder) (world : World) : Backend → String → Option TransportType :=
  builder.session.stubs.answer world

/-- Resources agree on the substitutes: each patch is one of a specification, the type seams have
the substitutes for their stubs, the schemes those for the types of the direct seams, and each
create wrapper has a guard whose tracker is over the substitute for the stub of its class. -/
structure Agrees (builder : Builder) (bind : TransportId → TransportType) (world : World)
    (resources : List Resource) : Prop where
  patches : ∀ handle, .patch handle ∈ resources → ∃ spec, builder.handle bind spec = handle
  types (backend : Backend) : ∀ seam ∈ typeSeams backend, ∀ handle, .patch handle ∈ resources →
    handle.key = seam.key → ∃ stub, builder.lent world backend seam.stub = some stub ∧
      handle.replacement = .transport (bind stub.id)
  schemes : ∀ handle, .patch handle ∈ resources → handle.key = schemeTable →
    ∃ table : SeamTable none, handle.replacement = .table table ∧
      ∀ scheme value, table.find? scheme = some value → ∃ name stub,
        (scheme, name) ∈ timeoutSchemes ∧ builder.lent world .timeoutHttp name = some stub ∧
          value = .transport (bind stub.id)
  creates (site : PoolSite) : ∀ handle, .patch handle ∈ resources → handle.key = site.create →
    ∃ guard, .poolGuard guard ∈ resources ∧ guard.Tracks site (builder.lent world) bind world ∧
      handle.spec.Feeds site guard
  guards : ∀ guard, .poolGuard guard ∈ resources → ∃ site,
    guard.Tracks site (builder.lent world) bind world ∧
      ∃ handle, .patch handle ∈ resources ∧ handle.spec.Feeds site guard

namespace Agrees

variable {builder : Builder} {bind : TransportId → TransportType} {world last : World}

theorem nil : builder.Agrees bind last [] where
  patches _ := nofun
  types _ _ _ _ := nofun
  schemes _ := nofun
  creates _ _ := nofun
  guards _ := nofun

theorem append {first rest : List Resource} (agrees : builder.Agrees bind last first)
    (others : builder.Agrees bind last rest) : builder.Agrees bind last (first ++ rest) where
  patches handle member :=
    (List.mem_append.1 member).elim (agrees.patches handle) (others.patches handle)
  types backend seam listed handle member :=
    (List.mem_append.1 member).elim (agrees.types backend seam listed handle)
      (others.types backend seam listed handle)
  schemes handle member :=
    (List.mem_append.1 member).elim (agrees.schemes handle) (others.schemes handle)
  creates site handle member here := by
    rcases List.mem_append.1 member with member | member
    · obtain ⟨guard, listed, fits⟩ := agrees.creates site handle member here
      exact ⟨guard, List.mem_append_left _ listed, fits⟩
    · obtain ⟨guard, listed, fits⟩ := others.creates site handle member here
      exact ⟨guard, List.mem_append_right _ listed, fits⟩
  guards guard member := by
    rcases List.mem_append.1 member with member | member
    · obtain ⟨site, tracks, handle, listed, feeds⟩ := agrees.guards guard member
      exact ⟨site, tracks, handle, List.mem_append_left _ listed, feeds⟩
    · obtain ⟨site, tracks, handle, listed, feeds⟩ := others.guards guard member
      exact ⟨site, tracks, handle, List.mem_append_right _ listed, feeds⟩

theorem owner? {resources : List Resource} (agrees : builder.Agrees bind last resources)
    (owned : ∀ id, (bind id).owner? = some builder.session.id) {handle : PatchHandle}
    (member : .patch handle ∈ resources) {type : TransportType}
    (within : type ∈ handle.replacement.types) (slot : type.hasSessionSlot = true) :
    type.owner? = some builder.session.id := by
  obtain ⟨spec, rfl⟩ := agrees.patches handle member
  exact SeamValue.owner?_of_mem_types owned within slot

end Agrees

section Built

variable {builder : Builder} {bind : TransportId → TransportType} {start world last : World}

theorem feeds_handle {spec : PatchSpec} {site : PoolSite} {guard : PoolGuard}
    (feeds : spec.Feeds site guard) : (builder.handle bind spec).spec.Feeds site guard := by
  obtain ⟨here, function, primitive, wraps⟩ := feeds
  refine ⟨here, function, primitive, ?_⟩
  show spec.replacement.mapTypes _ = _
  rw [wraps, SeamValue.mapTypes]

theorem mem_handles {specs : List PatchSpec} {registry : Registry} {handle : PatchHandle} :
    handle ∈ builder.handles bind specs registry ↔ ∃ spec ∈ specs,
      registry.contains spec.key = true ∧ builder.handle bind spec = handle := by
  simp only [handles, List.mem_map, List.mem_filter, and_assoc]

theorem buildPatches_retains (builder : Builder) (specs : List PatchSpec) :
    (builder.buildPatches specs).Moves Retains :=
  buildPatches_moves (fun event _ => Action.emit_retains event)
    (fun type => Action.substitute_retains builder.cache type builder.session.id) specs

theorem buildPatches_eq {specs : List PatchSpec}
    (follows : (((builder.buildPatches specs).on world).2.caches.get builder.cache).Follows
      builder.session.id bind) :
    ((builder.buildPatches specs).on world).1 =
      (builder.handles bind specs (world.registries.get builder.registry)).map .patch := by
  induction specs generalizing world with
  | nil => rfl
  | cons spec rest ih =>
    let built :=
      (Action.buildPatch? builder.registry builder.cache builder.session.id spec).on world
    have kept : built.2.registries = world.registries :=
      Action.buildPatch?_keepsRegistries _ _ _ spec world
    have later : built.2.Retains ((builder.buildPatches rest).on built.2).2 :=
      builder.buildPatches_retains rest built.2
    have others : ((builder.buildPatches rest).on built.2).1 =
        (builder.handles bind rest (built.2.registries.get builder.registry)).map .patch :=
      ih follows
    rw [kept] at others
    rw [on_buildPatches_cons]
    -- what the cache holds in the end it held when the first patch was built, or got for it
    show (built.1.map Resource.patch).toList ++ _ = _
    rw [others]
    have followed := follows.earlier later
    dsimp only [built] at followed ⊢
    rw [Action.on_buildPatch?] at followed ⊢
    cases known : (world.registries.get builder.registry).contains spec.key with
    | false =>
      simp [handles, known]
    | true =>
      rw [known, if_pos rfl] at followed
      rw [if_pos rfl, SeamValue.resolve_eq spec.replacement followed]
      simp [handles, known, handle]

theorem Agrees.of_output {output : AdapterOutput} {backend : Backend}
    (agrees : output.Agrees (builder.lent last) bind backend builder.registry world)
    (toLast : world.Retains last)
    (unbound : ∀ {backend name stub}, builder.lent last backend name = some stub →
      stub.slot = .unbound) :
    builder.Agrees bind last
      ((builder.handles bind output.specs (world.registries.get builder.registry)).map .patch ++
        output.guards.map .poolGuard) := by
  let registry := world.registries.get builder.registry
  let resources : List Resource :=
    (builder.handles bind output.specs registry).map .patch ++ output.guards.map .poolGuard
  have patched (handle : PatchHandle) : .patch handle ∈ resources ↔
      ∃ spec ∈ output.specs, registry.contains spec.key = true ∧
        builder.handle bind spec = handle := by
    simp [resources, mem_handles]
  have guarded (guard : PoolGuard) : .poolGuard guard ∈ resources ↔ guard ∈ output.guards := by
    simp [resources]
  have bound (stub : TransportType) (empty : stub.slot = .unbound) :
      (SeamValue.transport stub).mapTypes (·.boundBy builder.session.id bind) =
        .transport (bind stub.id) := by
    rw [SeamValue.mapTypes, TransportType.boundBy_of_unbound empty]
  refine ⟨fun handle member => ?_, fun backend seam listed handle member here => ?_,
    fun handle member here => ?_, fun site handle member here => ?_, fun guard member => ?_⟩
  · obtain ⟨spec, -, -, made⟩ := (patched handle).1 member
    exact ⟨spec, made⟩
  · obtain ⟨spec, emitted, -, rfl⟩ := (patched handle).1 member
    obtain ⟨stub, lent, holds⟩ := (agrees.specs spec emitted).type_of_key listed here
    refine ⟨stub, lent, ?_⟩
    rw [handle, holds, bound stub (unbound lent)]
  · obtain ⟨spec, emitted, -, rfl⟩ := (patched handle).1 member
    obtain ⟨entries, holds, named⟩ := (agrees.specs spec emitted).schemes_of_key here
    refine ⟨(SeamTable.ofList entries).mapTypes (·.boundBy builder.session.id bind), ?_, ?_⟩
    · rw [handle, holds, SeamValue.mapTypes]
    · intro scheme value held
      rw [SeamTable.find?_mapTypes] at held
      obtain ⟨entry, found, rfl⟩ := Option.map_eq_some_iff.1 held
      obtain ⟨name, stub, scheduled, lent, rfl⟩ := named _ (SeamTable.mem_of_find?_ofList found)
      exact ⟨name, stub, scheduled, lent, bound stub (unbound lent)⟩
  · obtain ⟨spec, emitted, -, rfl⟩ := (patched handle).1 member
    obtain ⟨guard, listed, tracks, feeds⟩ := agrees.creates site spec emitted here
    exact ⟨guard, (guarded guard).2 listed, tracks.later toLast, feeds_handle feeds⟩
  · obtain ⟨site, tracks, known, spec, emitted, feeds⟩ :=
      agrees.guards guard ((guarded guard).1 member)
    refine ⟨site, tracks.later toLast, builder.handle bind spec, ?_, feeds_handle feeds⟩
    exact (patched _).2 ⟨spec, emitted, feeds.1 ▸ known, rfl⟩

theorem on_buildAdapters_append (builder : Builder) (first rest : List Adapter) (world : World) :
    (builder.buildAdapters (first ++ rest)).on world =
      let built := (builder.buildAdapters first).on world
      let others := (builder.buildAdapters rest).on built.2
      (built.1 ++ others.1, others.2) := by
  induction first generalizing world with
  | nil => rfl
  | cons adapter first ih =>
    simp only [List.cons_append, on_buildAdapters_cons, ih, List.append_assoc]

theorem emitted_retains (backend : Backend)
    (recorded : (world.registries.get builder.registry).hasBackend backend = true)
    (kept : ((builder.buildAdapter (.standard backend)).on world).2.Retains last) :
    (((Adapter.standard backend).build builder.context).on world).2.Retains last := by
  rw [on_buildAdapter, backend_standard, if_pos recorded] at kept
  exact trans_of Retains (builder.buildPatches_retains _ _) kept

section Lending

variable (lends : builder.session.stubs.LendsSteadily start) (reached : start.Retains world)
  (follows : (last.caches.get builder.cache).Follows builder.session.id bind)

section Adapters

include lends

theorem buildAdapter_retains (backend : Backend) :
    (builder.buildAdapter (.standard backend)).Moves Retains :=
  buildAdapter_moves (fun event _ => Action.emit_retains event)
    (fun type => Action.substitute_retains builder.cache type builder.session.id)
    (standard_retains backend builder.context lends.moves)

theorem buildAdapters_retains {adapters : List Adapter}
    (standard : ∀ adapter ∈ adapters, ∃ backend, adapter = .standard backend) :
    (builder.buildAdapters adapters).Moves Retains := by
  refine buildAdapters_moves (fun event _ => Action.emit_retains event)
    (fun type => Action.substitute_retains builder.cache type builder.session.id) ?_
  intro adapter member
  obtain ⟨backend, rfl⟩ := standard adapter member
  exact standard_retains backend builder.context lends.moves

theorem buildAdapter_builds (backend : Backend)
    (recorded : (world.registries.get builder.registry).hasBackend backend = true)
    {spec : PatchSpec}
    (emitted : spec ∈ (((Adapter.standard backend).build builder.context).on world).1.specs)
    (known : (world.registries.get builder.registry).contains spec.key = true) :
    ∃ handle, .patch handle ∈ ((builder.buildAdapter (.standard backend)).on world).1 ∧
      handle.key = spec.key := by
  rw [on_buildAdapter, backend_standard, if_pos recorded]
  have made : world.Retains (((Adapter.standard backend).build builder.context).on world).2 :=
    standard_retains backend builder.context lends.moves world
  obtain ⟨middle, built⟩ := builder.patch_mem_buildPatches emitted
    (made.seams builder.registry spec.key known)
  exact ⟨_, List.mem_append_left _ built, rfl⟩

theorem buildAdapters_builds {adapters : List Adapter}
    (standard : ∀ adapter ∈ adapters, ∃ backend, adapter = .standard backend)
    (kept : ((builder.buildAdapters adapters).on world).2.Retains last) {backend : Backend}
    (enabled : .standard backend ∈ adapters) :
    ∃ middle, world.Retains middle ∧
      (builder.session.stubs.Moves World.KeepsRegistries → world.KeepsRegistries middle) ∧
      ((builder.buildAdapter (.standard backend)).on middle).2.Retains last ∧
      ∀ resource ∈ ((builder.buildAdapter (.standard backend)).on middle).1,
        resource ∈ ((builder.buildAdapters adapters).on world).1 := by
  obtain ⟨front, back, rfl⟩ := List.append_of_mem enabled
  obtain ⟨before, later⟩ := List.forall_mem_append.1 standard
  obtain ⟨-, after⟩ := List.forall_mem_cons.1 later
  simp only [on_buildAdapters_append, on_buildAdapters_cons] at kept ⊢
  -- the adapter builds in the world that those before it in the catalog leave
  refine ⟨((builder.buildAdapters front).on world).2, buildAdapters_retains lends before world,
    fun keeps => ?_, trans_of Retains (buildAdapters_retains lends after _) kept,
    fun resource member => List.mem_append_right _ (List.mem_append_left _ member)⟩
  refine buildAdapters_keepsRegistries ?_ world
  intro adapter member
  obtain ⟨backend, rfl⟩ := before adapter member
  exact standard_keepsRegistries backend builder.context keeps

end Adapters

include lends reached follows

theorem buildAdapter_agrees (backend : Backend)
    (kept : ((builder.buildAdapter (.standard backend)).on world).2.Retains last) :
    builder.Agrees bind last ((builder.buildAdapter (.standard backend)).on world).1 := by
  rw [on_buildAdapter] at kept ⊢
  split at kept
  · rename_i recorded
    let output := ((Adapter.standard backend).build builder.context).on world
    let patches := (builder.buildPatches output.1.specs).on output.2
    have patched : output.2.Retains patches.2 := builder.buildPatches_retains _ output.2
    have toLast : output.2.Retains last := trans_of Retains patched kept
    have agrees : output.1.Agrees (builder.lent last) bind backend builder.registry output.2 :=
      standard_agrees lends reached follows backend toLast
    have built : patches.1 = (builder.handles bind output.1.specs
        (output.2.registries.get builder.registry)).map .patch :=
      buildPatches_eq (follows.earlier kept)
    rw [if_pos recorded]
    show builder.Agrees bind last (patches.1 ++ _)
    rw [built]
    refine .of_output agrees toLast fun lent => ?_
    exact lends.unbound (trans_of Retains reached
      (trans_of Retains (standard_retains backend builder.context lends.moves world) toLast)) lent
  · rename_i missing
    rw [if_neg missing]
    exact .nil

theorem buildAdapters_agrees {adapters : List Adapter}
    (standard : ∀ adapter ∈ adapters, ∃ backend, adapter = .standard backend)
    (kept : ((builder.buildAdapters adapters).on world).2.Retains last) :
    builder.Agrees bind last ((builder.buildAdapters adapters).on world).1 := by
  induction adapters generalizing world with
  | nil => exact .nil
  | cons adapter rest ih =>
    obtain ⟨⟨backend, rfl⟩, others⟩ := List.forall_mem_cons.1 standard
    rw [on_buildAdapters_cons] at kept ⊢
    have first := buildAdapter_retains lends backend world
    have later : ((builder.buildAdapter (.standard backend)).on world).2.Retains last :=
      trans_of Retains (buildAdapters_retains lends others _) kept
    exact (buildAdapter_agrees lends reached follows backend later).append
      (ih (trans_of Retains reached first) others kept)

omit follows

theorem buildAdapters_covers {adapters : List Adapter}
    (standard : ∀ adapter ∈ adapters, ∃ backend, adapter = .standard backend)
    (kept : ((builder.buildAdapters adapters).on world).2.Retains last) {backend : Backend}
    (enabled : .standard backend ∈ adapters)
    (recorded : (world.registries.get builder.registry).hasBackend backend = true)
    {seam : TypeSeam} (listed : seam ∈ typeSeams backend)
    (known : (world.registries.get builder.registry).contains seam.key = true)
    {stub : TransportType} (lent : builder.lent last backend seam.stub = some stub) :
    ∃ handle, .patch handle ∈ ((builder.buildAdapters adapters).on world).1 ∧
      handle.key = seam.key := by
  obtain ⟨middle, kept', -, toLast, among⟩ := buildAdapters_builds lends standard kept enabled
  have recorded' := kept'.records builder.registry backend recorded
  have emitted := standard_covers lends (trans_of Retains reached kept') listed
    (emitted_retains backend recorded' toLast) lent
  obtain ⟨handle, member, here⟩ := buildAdapter_builds lends backend recorded' emitted
    (kept'.seams builder.registry seam.key known)
  exact ⟨handle, among _ member, here⟩

theorem buildAdapters_wraps {adapters : List Adapter}
    (standard : ∀ adapter ∈ adapters, ∃ backend, adapter = .standard backend)
    (keeps : builder.session.stubs.Moves World.KeepsRegistries)
    (kept : ((builder.buildAdapters adapters).on world).2.Retains last) (site : PoolSite)
    (enabled : .standard site.backend ∈ adapters)
    (recorded : (world.registries.get builder.registry).hasBackend site.backend = true)
    {function : FunctionId} {primitive : Create}
    (held : (world.registries.get builder.registry).value? site.create =
      some (.create function primitive)) {stub : TransportType}
    (lent : builder.lent last site.backend site.poolClass.connection = some stub) :
    ∃ handle, .patch handle ∈ ((builder.buildAdapters adapters).on world).1 ∧
      handle.key = site.create := by
  obtain ⟨middle, kept', same, toLast, among⟩ := buildAdapters_builds lends standard kept enabled
  have registries : middle.registries = world.registries := same keeps
  have recorded' := kept'.records builder.registry site.backend recorded
  rw [← registries] at held
  obtain ⟨spec, emitted, here⟩ := standard_wraps lends (trans_of Retains reached kept') site keeps
    (emitted_retains site.backend recorded' toLast) lent held
  have known : (middle.registries.get builder.registry).contains spec.key = true := by
    obtain ⟨binding, shown, -⟩ := Option.map_eq_some_iff.1 held
    rw [here]
    exact Registry.contains_of_binding? shown
  obtain ⟨handle, member, here'⟩ := buildAdapter_builds lends site.backend recorded' emitted known
  exact ⟨handle, among _ member, here'.trans here⟩

end Lending

end Built

def adapted (builder : Builder) (world : World) : List Resource × World :=
  (builder.buildAdapters builder.catalog.values).on world

/-- What is built in a world agrees with what the cache and the catalog say in a later one. First
come the patches and guards of the adapters, which agree on the substitutes, cover all type seams
that they can and guard all pool classes with a create primitive; then the session's own patches,
bound to the same substitutes. Every type with a session slot is the session's, at any depth. -/
structure BuildAgrees (builder : Builder) (bind : TransportId → TransportType)
    (later world : World) : Prop where
  parts : (builder.build.on world).1 = (builder.adapted world).1 ++
    (builder.handles bind builder.session.customPatches
      ((builder.adapted world).2.registries.get builder.registry)).map .patch
  agrees : builder.Agrees bind later (builder.adapted world).1
  covers (backend : Backend) : .standard backend ∈ builder.catalog.values →
    (world.registries.get builder.registry).hasBackend backend = true →
      ∀ seam ∈ typeSeams backend, ∀ stub, builder.lent later backend seam.stub = some stub →
        (world.registries.get builder.registry).contains seam.key = true →
          ∃ handle, .patch handle ∈ (builder.adapted world).1 ∧ handle.key = seam.key
  wraps (site : PoolSite) : builder.session.stubs.Moves World.KeepsRegistries →
    .standard site.backend ∈ builder.catalog.values →
      (world.registries.get builder.registry).hasBackend site.backend = true →
        ∀ stub, builder.lent later site.backend site.poolClass.connection = some stub →
          ∀ function primitive, (world.registries.get builder.registry).value? site.create =
            some (.create function primitive) →
              ∃ guard, .poolGuard guard ∈ (builder.adapted world).1 ∧
                guard.Tracks site (builder.lent later) bind later
  bound : ∀ handle, .patch handle ∈ (builder.build.on world).1 →
    ∀ type ∈ handle.replacement.types, type.hasSessionSlot = true →
      type.owner? = some builder.session.id

theorem build_agrees {builder : Builder} {bind : TransportId → TransportType}
    {start world last : World}
    (standard : ∀ adapter ∈ builder.catalog.values, ∃ backend, adapter = .standard backend)
    (lends : builder.session.stubs.LendsSteadily start) (reached : start.Retains world)
    (kept : (builder.build.on world).2.Retains last)
    (follows : (last.caches.get builder.cache).Follows builder.session.id bind)
    (owned : ∀ id, (bind id).owner? = some builder.session.id) :
    builder.BuildAgrees bind last world := by
  let adapted := builder.adapted world
  let custom := (builder.buildPatches builder.session.customPatches).on adapted.2
  have fromCustom : custom.2.Retains last :=
    trans_of Retains (Action.emit_retains _ custom.2) kept
  have fromAdapted : adapted.2.Retains last :=
    trans_of Retains (builder.buildPatches_retains _ adapted.2) fromCustom
  have agrees : builder.Agrees bind last adapted.1 :=
    buildAdapters_agrees lends reached follows standard fromAdapted
  have customized : custom.1 = (builder.handles bind builder.session.customPatches
      (adapted.2.registries.get builder.registry)).map .patch :=
    buildPatches_eq (follows.earlier fromCustom)
  have parts : (builder.build.on world).1 = adapted.1 ++
      (builder.handles bind builder.session.customPatches
        (adapted.2.registries.get builder.registry)).map .patch := by
    rw [← customized, on_build]
    rfl
  refine ⟨parts, agrees, ?_, ?_, ?_⟩
  · intro backend enabled recorded seam listed stub lent known
    exact buildAdapters_covers lends reached standard fromAdapted enabled recorded listed known lent
  · intro site keeps enabled recorded stub lent function primitive held
    obtain ⟨handle, member, here⟩ := buildAdapters_wraps lends reached standard keeps fromAdapted
      site enabled recorded held lent
    obtain ⟨guard, guarded, tracks, -⟩ := agrees.creates site handle member here
    exact ⟨guard, guarded, tracks⟩
  · intro handle member type within slot
    rw [parts] at member
    rcases List.mem_append.1 member with member | member
    · exact agrees.owner? owned member within slot
    · obtain ⟨made, listed, same⟩ := List.mem_map.1 member
      obtain rfl := Resource.patch.inj same
      obtain ⟨spec, -, -, rfl⟩ := mem_handles.1 listed
      exact SeamValue.owner?_of_mem_types owned within slot

end Builder

end TransportSeams

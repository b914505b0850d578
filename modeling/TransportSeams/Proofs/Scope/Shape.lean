import TransportSeams.Proofs.Adapter.Shape
import TransportSeams.Proofs.Run.Rebuilding
import TransportSeams.Proofs.Scope.Locality
import TransportSeams.Reference.Manifests

/-!
The exact shape of a build. With default adapters and standard stubs, and whatever the registry
holds, the resources are those that the registry calls for: stack by stack in build order the
patches at the declared seams that it has, without those that it holds nothing to wrap at, and after
them a guard for each wrapped create primitive, then the session's own patches. Building changes no
registry, and starting changes none but these seams.
-/

set_option autoImplicit false
set_option relaxedAutoImplicit false

namespace TransportSeams

open World

namespace Catalog

def Keeps (keep : Backend → Bool) (catalog : Catalog) : Prop :=
  catalog.entries = (Backend.all.filter keep).map fun backend => (backend, .standard backend)

variable {keep : Backend → Bool} {catalog : Catalog}

theorem keeps_standard : standard.Keeps fun _ => true :=
  rfl

theorem Keeps.without (kept : catalog.Keeps keep) (disabled : List Backend) :
    (catalog.without disabled).Keeps fun backend => !disabled.contains backend && keep backend := by
  show catalog.entries.filter (fun entry => !disabled.contains entry.1) = _
  rw [kept, List.filter_map, ← List.filter_filter]
  rfl

theorem Keeps.reduced (kept : catalog.Keeps keep) (reductions : List (List Backend)) :
    ∃ keep', (reductions.foldl Catalog.without catalog).Keeps keep' := by
  induction reductions generalizing catalog keep with
  | nil => exact ⟨keep, kept⟩
  | cons disabled rest ih => exact ih (kept.without disabled)

theorem Keeps.contains_eq (kept : catalog.Keeps keep) (backend : Backend) :
    catalog.contains backend = keep backend := by
  rw [Bool.eq_iff_iff, KeyMap.contains, ← KeyMap.mem_keys_iff, KeyMap.keys, kept]
  simp [Backend.mem_all]

theorem values_reduced (reductions : List (List Backend)) :
    (reductions.foldl without standard).values =
      (Backend.all.filter (reductions.foldl without standard).contains).map Adapter.standard := by
  obtain ⟨keep, kept⟩ := keeps_standard.reduced reductions
  rw [KeyMap.values, kept, List.map_map, funext kept.contains_eq]
  rfl

end Catalog

namespace Builder

variable {builder : Builder} {registry : Registry} {shelf : ShelfId} {world : World}

structure Patches (builder : Builder) (registry : Registry) (backend : Backend) (key : SeamKey)
    (handle : PatchHandle) : Prop where
  inside : handle.registry = builder.registry
  here : handle.key = key
  owner : handle.owner = builder.session.id
  waits : handle.saved? = none
  value : handle.replacement.IsFor registry builder.session.id backend key

/-- The seams where the adapter of a stack builds a patch, in the order in which it declares
them. -/
def patched (registry : Registry) (backend : Backend) : List SeamKey :=
  (Adapter.standard backend).declaredSeams.filter fun key =>
    registry.contains key && registry.accepts backend key

structure Part where
  handles : List PatchHandle
  guards : List PoolGuard

def Part.resources (part : Part) : List Resource :=
  part.handles.map .patch ++ part.guards.map .poolGuard

structure Part.IsFor (builder : Builder) (registry : Registry) (backend : Backend) (part : Part) :
    Prop where
  handles : List.Forall₂ (builder.Patches registry backend) (patched registry backend) part.handles
  guards : List.Forall₂ (fun handle guard => guard.IsBehind handle.replacement)
    (part.handles.filter fun handle => handle.replacement.kind = .create) part.guards

def activeStacks (builder : Builder) (registry : Registry) : List Backend :=
  Backend.all.filter fun backend =>
    registry.hasBackend backend && builder.catalog.contains backend

/-- What is built is what the registry calls for. The patches of the session's own have their types
replaced by the substitutes of the cache. -/
def Shapes (builder : Builder) (registry : Registry) (bind : TransportId → TransportType)
    (resources : List Resource) : Prop :=
  ∃ parts, List.Forall₂ (fun backend part => Part.IsFor builder registry backend part)
      (builder.activeStacks registry) parts ∧
    resources = parts.flatMap Part.resources ++
      (builder.handles bind builder.session.customPatches registry).map .patch

/-- The seams that the enabled adapters declare, and those of the session's own patches. -/
def reach (builder : Builder) : List SeamKey :=
  builder.catalog.values.flatMap Adapter.declaredSeams ++
    builder.session.customPatches.map PatchSpec.key

theorem patches_handle {spec : PatchSpec} {backend : Backend} {key : SeamKey}
    (bind : TransportId → TransportType) (here : spec.key = key)
    (value : spec.replacement.IsFor registry builder.session.id backend key) :
    builder.Patches registry backend key (builder.handle bind spec) where
  inside := rfl
  here := here
  owner := rfl
  waits := rfl
  value :=
    { kind := (SeamValue.kind_mapTypes _ _).trans value.kind
      wraps := fun wrapper => by
        obtain ⟨held, found, wraps⟩ := value.wraps wrapper
        have same : (builder.handle bind spec).replacement = spec.replacement :=
          wraps.mapTypes_eq _
        exact ⟨held, found, same ▸ wraps⟩ }

theorem part_isFor {backend : Backend} {output : AdapterOutput}
    (fits : output.IsFor registry builder.session.id backend
      (Adapter.standard backend).declaredSeams) (bind : TransportId → TransportType) :
    Part.IsFor builder registry backend
      ⟨builder.handles bind output.specs registry, output.guards⟩ where
  handles := by
    rw [patched, ← List.filter_filter, handles, List.forall₂_map_right_iff]
    have kept := List.rel_filter (p := registry.contains)
      (q := fun spec => registry.contains spec.key) ?_ fits.specs
    · refine kept.imp fun key spec fit => ?_
      exact patches_handle bind fit.1 fit.2
    · rintro key spec ⟨here, -⟩
      show registry.contains key = true ↔ registry.contains spec.key = true
      rw [here]
  guards := by
    -- what is wrapped is there, so that none of the create wrappers is left out
    have known : ∀ spec ∈ output.specs.filter fun spec => spec.replacement.kind = .create,
        registry.contains spec.key = true := by
      intro spec member
      obtain ⟨emitted, create⟩ := List.mem_filter.1 member
      obtain ⟨kind, wraps⟩ := fits.of_mem spec emitted
      rw [of_decide_eq_true create] at kind
      obtain ⟨held, found, -⟩ := wraps (kind ▸ rfl)
      obtain ⟨binding, shown, -⟩ := Option.map_eq_some_iff.1 found
      exact Registry.contains_of_binding? shown
    have created : (builder.handles bind output.specs registry).filter
        (fun handle => handle.replacement.kind = .create) =
          (output.specs.filter fun spec => spec.replacement.kind = .create).map
            (builder.handle bind) := by
      rw [handles, List.filter_map]
      simp only [Function.comp_def, handle, SeamValue.kind_mapTypes]
      rw [List.filter_comm, List.filter_eq_self.2 known]
    rw [created, List.forall₂_map_left_iff]
    refine fits.guards.imp fun spec guard behind => ?_
    obtain ⟨function, primitive, value⟩ := behind
    refine ⟨function, primitive, ?_⟩
    show spec.replacement.mapTypes _ = _
    rw [value]
    rfl

theorem Part.IsFor.keysOf_eq {backend : Backend} {part : Part}
    (fits : part.IsFor builder registry backend) :
    keysOf part.resources = patched registry backend := by
  have keys : List.Forall₂ (fun key handle => key = PatchHandle.key handle)
      (patched registry backend) part.handles := fits.handles.imp fun _ _ patch => patch.here.symm
  rw [← List.forall₂_map_right_iff (f := PatchHandle.key), List.forall₂_eq_eq_eq] at keys
  rw [Part.resources, keysOf_append, keysOf_guards, keysOf_patches, List.append_nil, keys]

theorem keysOf_parts {backends : List Backend} {parts : List Part}
    (fits : List.Forall₂ (fun backend part => Part.IsFor builder registry backend part) backends
      parts) :
    keysOf (parts.flatMap Part.resources) = backends.flatMap (patched registry) := by
  induction fits with
  | nil => rfl
  | cons fit _ ih => rw [List.flatMap_cons, keysOf_append, ih, fit.keysOf_eq, List.flatMap_cons]

theorem Shapes.keysOf_eq {bind : TransportId → TransportType} {resources : List Resource}
    (shapes : builder.Shapes registry bind resources) :
    keysOf resources = (builder.activeStacks registry).flatMap (patched registry) ++
      (builder.session.customPatches.map PatchSpec.key).filter registry.contains := by
  obtain ⟨parts, fits, rfl⟩ := shapes
  rw [keysOf_append, keysOf_parts fits, keysOf_patches, handles, List.filter_map, List.map_map]
  rfl

section Standard

variable (stubs : builder.session.stubs = .standard shelf)

include stubs

theorem standard_keeps (backend : Backend) :
    ((Adapter.standard backend).build builder.context).Moves World.KeepsRegistries :=
  Adapter.standard_keepsRegistries backend builder.context
    (stubs ▸ StubCatalog.standard_keepsRegistries shelf)

theorem buildAdapter_part {backend : Backend}
    (here : world.registries.get builder.registry = registry)
    (recorded : registry.hasBackend backend = true) :
    ∃ part : Part, ((builder.buildAdapter (.standard backend)).on world).1 = part.resources ∧
      part.IsFor builder registry backend := by
  let output := ((Adapter.standard backend).build builder.context).on world
  have kept : output.2.registries = world.registries := standard_keeps stubs backend world
  have lends : builder.context.session.stubs = .standard shelf := stubs
  have fits : output.1.IsFor registry builder.session.id backend _ :=
    Adapter.standard_isFor lends backend here
  let last := ((builder.buildPatches output.1.specs).on output.2).2
  have built : ((builder.buildPatches output.1.specs).on output.2).1 =
      (builder.handles (builder.substitutes last) output.1.specs
        (output.2.registries.get builder.registry)).map .patch :=
    buildPatches_eq (builder.substitutes_follows last)
  rw [kept, here] at built
  refine ⟨_, ?_, part_isFor fits (builder.substitutes last)⟩
  rw [on_buildAdapter, Adapter.backend_standard, here, if_pos recorded]
  exact congrArg (· ++ _) built

theorem buildAdapters_parts_of_standard (backends : List Backend)
    (here : world.registries.get builder.registry = registry) :
    ∃ parts, List.Forall₂ (fun backend part => Part.IsFor builder registry backend part)
        (backends.filter registry.hasBackend) parts ∧
      ((builder.buildAdapters (backends.map .standard)).on world).1 =
        parts.flatMap Part.resources := by
  induction backends generalizing world with
  | nil => exact ⟨[], .nil, rfl⟩
  | cons backend rest ih =>
    have kept : ((builder.buildAdapter (.standard backend)).on world).2.registries =
        world.registries :=
      buildAdapter_keepsRegistries (standard_keeps stubs backend) world
    obtain ⟨parts, fits, built⟩ := ih (by rwa [kept])
    rw [List.map_cons, on_buildAdapters_cons]
    dsimp only
    rw [built]
    cases recorded : registry.hasBackend backend with
    | true =>
      obtain ⟨part, first, fit⟩ := buildAdapter_part stubs here recorded
      rw [List.filter_cons_of_pos recorded, first]
      exact ⟨part :: parts, .cons fit fits, rfl⟩
    | false =>
      refine ⟨parts, by rwa [List.filter_cons_of_neg (by simp [recorded])], ?_⟩
      rw [on_buildAdapter, Adapter.backend_standard, here, if_neg (by simp [recorded])]
      rfl

variable {reductions : List (List Backend)}
  (reduced : builder.catalog = reductions.foldl Catalog.without .standard)

include reduced

theorem keepsRegistries_of_reduced : builder.KeepsRegistries := by
  intro adapter member
  rw [reduced, Catalog.values_reduced] at member
  obtain ⟨backend, -, rfl⟩ := List.mem_map.1 member
  exact standard_keeps stubs backend

theorem build_shapes : builder.Shapes (world.registries.get builder.registry)
    (builder.substitutes (builder.build.on world).2) (builder.build.on world).1 := by
  let adapted := (builder.buildAdapters builder.catalog.values).on world
  have kept : adapted.2.registries = world.registries :=
    buildAdapters_keepsRegistries (keepsRegistries_of_reduced stubs reduced) world
  have values : builder.catalog.values =
      (Backend.all.filter builder.catalog.contains).map Adapter.standard := by
    rw [reduced, Catalog.values_reduced]
  obtain ⟨parts, fits, built⟩ := buildAdapters_parts_of_standard stubs
    (Backend.all.filter builder.catalog.contains)
    (rfl : world.registries.get builder.registry = world.registries.get builder.registry)
  rw [← values] at built
  rw [List.filter_filter] at fits
  have customized : ((builder.buildPatches builder.session.customPatches).on adapted.2).1 =
      (builder.handles (builder.substitutes (builder.build.on world).2)
        builder.session.customPatches (adapted.2.registries.get builder.registry)).map .patch :=
    buildPatches_eq (builder.substitutes_follows (builder.build.on world).2)
  rw [kept] at customized
  exact ⟨parts, fits, congrArg₂ (· ++ ·) built customized⟩

theorem keysOf_build_subset : keysOf (builder.build.on world).1 ⊆ builder.reach := by
  intro key listed
  rw [(build_shapes stubs reduced).keysOf_eq, List.mem_append] at listed
  refine List.mem_append.2 (listed.imp (fun declared => ?_) List.mem_of_mem_filter)
  obtain ⟨backend, enabled, declares⟩ := List.mem_flatMap.1 declared
  rw [reduced, Catalog.values_reduced, ← reduced]
  have contained : builder.catalog.contains backend = true :=
    (Bool.and_eq_true_iff.1 (List.mem_filter.1 enabled).2).2
  exact List.mem_flatMap.2 ⟨.standard backend,
    List.mem_map_of_mem (List.mem_filter.2 ⟨Backend.mem_all backend, contained⟩),
    List.mem_of_mem_filter declares⟩

/-- Whatever the registry holds, a session with standard stubs and default adapters builds what the
registry calls for and starts, and it reaches no other seams than the ones that its adapters declare
and those of its own patches. -/
theorem build_exact (world : World) :
    (builder.build.on world).2.registries = world.registries ∧
    builder.Shapes (world.registries.get builder.registry)
      (builder.substitutes (builder.build.on world).2) (builder.build.on world).1 ∧
    (∃ scope, (builder.start.on world).1 = .ok scope) ∧
    world.ChangesOnly builder.registry builder.reach (builder.start.on world).2 := by
  have keeps := keepsRegistries_of_reduced stubs reduced
  have kept := build_keepsRegistries keeps world
  have within : ∀ resource ∈ (builder.build.on world).1,
      resource.IsWithin builder.registry builder.reach := fun resource member =>
    ((build_isBuilt keeps world resource member).isWithin member).mono
      (keysOf_build_subset stubs reduced)
  obtain ⟨all, left, run, -⟩ := on_start keeps world
  have entered : (builder.build.on world).2.ChangesOnly builder.registry builder.reach left :=
    Scope.enterAll_changesOnly within run
  rw [run]
  exact ⟨kept, build_shapes stubs reduced, ⟨_, rfl⟩,
    trans_of (ChangesOnly builder.registry builder.reach) kept.changesOnly entered⟩

end Standard

section Sparse

/-- Two stacks with a few of their seams, and values of other kinds at some of them. -/
private def sparse : Attempt Unit := do
  let type : SeamValue := .transport (← Action.plainType "HttpConnection")
  Attempt.registerBackend ⟨0⟩ ⟨.sessions, Reference.version .sessions, false,
    [(⟨"sessions.connection", "HttpConnection"⟩, type)]⟩
  Attempt.registerBackend ⟨0⟩ ⟨.pooled, Reference.version .pooled, false,
    [(⟨"pooled.connection", "HttpConnection"⟩, type),
      (Seam.create "pooled.HttpConnectionPool", .create (← Action.freshFunction) .stock),
      (Seam.acquire "pooled.HttpConnectionPool", type),
      (Seam.create "pooled.HttpsConnectionPool", type),
      (Seam.acquire "pooled.HttpsConnectionPool", .acquire (← Action.freshFunction) .stock)]⟩
  let handler ← Reference.handlerSeam "async_fetch.CurlAsyncHttpClient" "fetch_impl"
  Attempt.registerBackend ⟨0⟩ ⟨.asyncFetch, Reference.version .asyncFetch, false,
    [(⟨"async_fetch.SimpleAsyncHttpClient", "fetch_impl"⟩, type), handler]⟩

private def sparseWorld : World :=
  (sparse.on .initial).2

/-- A session with patches of its own, one of them at a seam that is not registered, and without the
adapters of two stacks. -/
private def sparseBuilder : Builder where
  registry := ⟨0⟩
  session :=
    { id := ⟨"tape"⟩
      customPatches :=
        [⟨⟨"std_http", "HttpConnection"⟩, .probe ⟨⟨90⟩, fun _ => true⟩⟩,
          ⟨⟨"sessions.connection", "HttpConnection"⟩, .probe ⟨⟨91⟩, fun _ => true⟩⟩]
      stubs := .standard ⟨0⟩ }
  catalog := (Catalog.standard.without [.sessions]).without [.aws]
  acquireLimit := 4
  cache := ⟨0⟩

theorem build_exact_sparse :
    keysOf (sparseBuilder.build.on sparseWorld).1 =
      [⟨"pooled.connection", "HttpConnection"⟩, ⟨"pooled.HttpConnectionPool", "new_conn"⟩,
        ⟨"pooled.HttpsConnectionPool", "get_conn"⟩,
        ⟨"async_fetch.CurlAsyncHttpClient", "fetch_impl"⟩,
        ⟨"sessions.connection", "HttpConnection"⟩] ∧
    (guardsOf (sparseBuilder.build.on sparseWorld).1).length = 1 ∧
    (∃ scope, (sparseBuilder.start.on sparseWorld).1 = .ok scope) ∧
    sparseWorld.ChangesOnly ⟨0⟩ sparseBuilder.reach (sparseBuilder.start.on sparseWorld).2 := by
  have stubs : sparseBuilder.session.stubs = .standard ⟨0⟩ := rfl
  have reduced : sparseBuilder.catalog =
      [[Backend.sessions], [.aws]].foldl Catalog.without .standard := rfl
  obtain ⟨-, shapes, starts, changes⟩ := build_exact stubs reduced sparseWorld
  refine ⟨?_, by decide +kernel, starts, changes⟩
  rw [shapes.keysOf_eq]
  decide +kernel

end Sparse

end Builder

end TransportSeams

import TransportSeams.Proofs.Run.Turns
import TransportSeams.Proofs.Scope.Building

/-!
Resources that cannot fail. A resource is alive in a world when the seams that it may install at are
registered there: the seam of a patch, and the seams that a restore has saved. No step takes a seam
away from a registry, so a resource that is alive stays alive; while it is, entering and leaving it
succeed. What builders build is alive.
-/

set_option autoImplicit false
set_option relaxedAutoImplicit false

namespace TransportSeams

namespace World

def KeepsSeams (old new : World) : Prop :=
  ∀ id, (old.registries.get id).KeepsSeams (new.registries.get id)

instance : IsPreorder World KeepsSeams where
  refl _ _ _ _ held := held
  trans _ _ _ first second id := (first id).trans (second id)

theorem KeepsOrigins.keepsSeams {old new : World} (kept : old.KeepsOrigins new) :
    old.KeepsSeams new :=
  fun id => .of_same (kept id).sameSeams

theorem KeepsRegistries.keepsSeams {old new : World} (kept : old.KeepsRegistries new) :
    old.KeepsSeams new :=
  kept.keepsOrigins.keepsSeams

theorem keepsSeams_withRegistry (world : World) {id : RegistryId} {registry : Registry}
    (keeps : (world.registries.get id).KeepsSeams registry) :
    world.KeepsSeams (world.withRegistry id registry) := by
  intro other
  rw [withRegistry, Store.get_put]
  split
  · rename_i here
    exact here ▸ keeps
  · exact fun _ _ held => held

end World

open World

theorem Attempt.registerBackend_keepsSeams (id : RegistryId) (manifest : Manifest) :
    (registerBackend id manifest).Moves KeepsSeams := by
  intro world
  cases registered : (world.registries.get id).register manifest with
  | error error =>
    rw [on_registerBackend_refused registered]
    exact refl_of KeepsSeams world
  | ok result =>
    rw [on_registerBackend registered]
    exact world.keepsSeams_withRegistry (Registry.grows_of_register registered).keepsSeams

def Builder.KeepsSeams (builder : Builder) : Prop :=
  ∀ adapter ∈ builder.catalog.values, (adapter.build builder.context).Moves World.KeepsSeams

theorem Builder.KeepsRegistries.keepsSeams {builder : Builder} (keeps : builder.KeepsRegistries) :
    builder.KeepsSeams :=
  fun adapter member world => (keeps adapter member world).keepsSeams

namespace Resource

/-- Every seam that the resource may install at is registered. -/
def IsLive (world : World) : Resource → Prop
  | patch handle => (world.registries.get handle.registry).contains handle.key = true
  | poolGuard _ => True
  | forceRestore restore => ∀ saved, restore.saved? = some saved → ∀ entry ∈ saved,
      (world.registries.get restore.registry).contains entry.1 = true

variable {resource : Resource} {world old new : World}

theorem IsLive.kept (live : resource.IsLive old) (keeps : old.KeepsSeams new) :
    resource.IsLive new := by
  cases resource with
  | patch handle => exact (keeps handle.registry).contains _ live
  | poolGuard guard => trivial
  | forceRestore restore =>
    exact fun saved entered entry member =>
      (keeps restore.registry).contains _ (live saved entered entry member)

theorem IsBuilt.isLive {id : RegistryId} {session : SessionId}
    (built : resource.IsBuilt id session (world.registries.get id)) : resource.IsLive world := by
  cases resource with
  | patch handle =>
    obtain ⟨rfl, -, -, contained⟩ := built
    exact contained
  | poolGuard guard => trivial
  | forceRestore restore => exact built.elim

theorem IsLive.enter (live : resource.IsLive world) : ∃ opened left,
    resource.enter.on world = (.ok opened, left) ∧ opened.IsLive left := by
  have keeps := (resource.enter_keepsOrigins world).keepsSeams
  cases resource with
  | patch handle =>
    cases entered : handle.saved? with
    | some previous =>
      exact ⟨.patch handle, world, by simp [Resource.enter, PatchHandle.enter, entered], live⟩
    | none =>
      obtain ⟨slot, held⟩ := (Registry.contains_iff_slot? _ _).1 live
      have run : (Resource.patch handle).enter.on world =
          (.ok (.patch { handle with saved? := some slot.current }),
            (handle.enter.on world).2) := by
        simp only [Resource.enter, Attempt.on_bind, PatchHandle.on_enter entered held]
        rfl
      rw [run] at keeps
      exact ⟨_, _, run, (keeps handle.registry).contains _ live⟩
  | poolGuard guard => exact ⟨.poolGuard guard, world, rfl, trivial⟩
  | forceRestore restore =>
    cases entered : restore.saved? with
    | some previous =>
      exact ⟨.forceRestore restore, world,
        by simp [Resource.enter, ForceRestore.enter, entered], live⟩
    | none =>
      obtain ⟨saved, left, run, -, -, bindings, -⟩ := ForceRestore.on_enter entered world
      have run' : (Resource.forceRestore restore).enter.on world =
          (.ok (.forceRestore { restore with saved? := some saved }), left) := by
        simp only [Resource.enter, Attempt.on_bind, run]
        rfl
      rw [run'] at keeps
      refine ⟨_, _, run', fun saved' same entry member => ?_⟩
      obtain rfl := Option.some.inj same
      exact (keeps restore.registry).contains _
        (Registry.contains_of_binding? (bindings entry member))

theorem IsLive.exit (live : resource.IsLive world) : ∃ left,
    resource.exit.on world = (.ok resource.unentered, left) ∧ resource.unentered.IsLive left := by
  have keeps := (resource.exit_keepsOrigins world).keepsSeams
  suffices run : ∃ left, resource.exit.on world = (.ok resource.unentered, left) by
    obtain ⟨left, run⟩ := run
    rw [run] at keeps
    refine ⟨left, run, ?_⟩
    cases resource with
    | patch handle => exact (keeps handle.registry).contains _ live
    | poolGuard guard => trivial
    | forceRestore restore => exact fun saved entered => nomatch entered
  cases resource with
  | patch handle =>
    cases entered : handle.saved? with
    | none =>
      refine ⟨world, ?_⟩
      cases handle
      cases entered
      rfl
    | some previous =>
      obtain ⟨slot, held⟩ := (Registry.contains_iff_slot? _ _).1 live
      refine ⟨(handle.exit.on world).2, ?_⟩
      simp only [Resource.exit, Attempt.on_bind, PatchHandle.on_exit entered held]
      rfl
  | poolGuard guard => exact ⟨((Action.drainForGuard guard.tracker).on world).2, rfl⟩
  | forceRestore restore =>
    cases entered : restore.saved? with
    | none =>
      refine ⟨world, ?_⟩
      cases restore
      cases entered
      rfl
    | some saved =>
      obtain ⟨left, run, -, -, -⟩ := ForceRestore.on_exit entered (live saved entered)
      refine ⟨left, ?_⟩
      simp only [Resource.exit, Attempt.on_bind, run]
      rfl

end Resource

namespace Scope

theorem enterAll_live (session : SessionId) {resources entered : List Resource} {world : World}
    (live : ∀ resource ∈ resources, resource.IsLive world)
    (opened : ∀ resource ∈ entered, resource.IsLive world) :
    ∃ all left, (enterAll session resources entered).on world =
        (.ok ⟨session, all, false⟩, left) ∧
      all.length = resources.length + entered.length ∧
      ∀ resource ∈ all, resource.IsLive left := by
  induction resources generalizing entered world with
  | nil => exact ⟨entered, world, rfl, (Nat.zero_add _).symm, opened⟩
  | cons resource rest ih =>
    obtain ⟨first, others⟩ := List.forall_mem_cons.1 live
    have keeps := (resource.enter_keepsOrigins world).keepsSeams
    obtain ⟨now, middle, run, lives⟩ := first.enter
    rw [run] at keeps
    obtain ⟨all, left, run', length, alive⟩ :=
      ih (fun other member => (others other member).kept keeps)
        (List.forall_mem_cons.2 ⟨lives, fun other member => (opened other member).kept keeps⟩)
    refine ⟨all, left, ?_, ?_, alive⟩
    · simp only [enterAll, Attempt.on_bind, Attempt.on_observe, run, run']
    · rw [length, List.length_cons, List.length_cons]
      omega

theorem exitAll_live (session : SessionId) {entered : List Resource} {world : World}
    (live : ∀ resource ∈ entered, resource.IsLive world) (report : TeardownReport) :
    ((exitAll session entered report).on world).1 =
      ⟨report.exited + entered.length, report.failures⟩ := by
  induction entered generalizing report world with
  | nil => rfl
  | cons resource rest ih =>
    obtain ⟨first, others⟩ := List.forall_mem_cons.1 live
    have keeps := (resource.exit_keepsOrigins world).keepsSeams
    obtain ⟨middle, run, -⟩ := first.exit
    rw [run] at keeps
    have step : (exitAll session (resource :: rest) report).on world =
        (exitAll session rest report.addExit).on middle := by
      simp only [exitAll, Action.on_bind, Attempt.on_outcome, run]
    rw [step, ih (fun other member => (others other member).kept keeps), TeardownReport.addExit,
      List.length_cons]
    simp only [Nat.add_assoc, Nat.add_comm 1]

theorem on_unwind {scope : Scope} (isOpen : scope.closed = false) (world : World) :
    scope.unwind.on world =
      ((((exitAll scope.session scope.entered .empty).on world).1, ⟨scope.session, [], true⟩),
        ((exitAll scope.session scope.entered .empty).on world).2) := by
  unfold unwind
  rw [isOpen]
  rfl

theorem on_unwind_closed {scope : Scope} (closed : scope.closed = true) (world : World) :
    scope.unwind.on world = ((.empty, scope), world) := by
  unfold unwind
  rw [closed]
  rfl

end Scope

theorem Action.substitute_keepsSeams (id : CacheId) (base : TransportType)
    (session : SessionId) : (Action.substitute id base session).Moves KeepsSeams :=
  fun world => (substitute_keepsRegistries id base session world).keepsSeams

theorem Action.emit_keepsSeams (event : Event) : (emit event).Moves KeepsSeams :=
  fun world => refl_of KeepsSeams world

theorem Action.buildPatch?_isLive {registry : RegistryId} {cache : CacheId} {session : SessionId}
    {spec : PatchSpec} {world : World} {handle : PatchHandle}
    (built : ((buildPatch? registry cache session spec).on world).1 = some handle) :
    (Resource.patch handle).IsLive ((buildPatch? registry cache session spec).on world).2 := by
  have keeps : world.KeepsSeams ((buildPatch? registry cache session spec).on world).2 :=
    buildPatch?_moves (fun event _ => emit_keepsSeams event)
      (fun type => substitute_keepsSeams cache type session) spec world
  rw [on_buildPatch?] at built keeps ⊢
  split at built
  · rename_i known
    rw [if_pos known] at keeps ⊢
    obtain rfl := Option.some.inj built
    exact (keeps registry).contains _ known
  · cases built

namespace Builder

variable {builder : Builder}

theorem buildPatches_keepsSeams (builder : Builder) (specs : List PatchSpec) :
    (builder.buildPatches specs).Moves World.KeepsSeams :=
  buildPatches_moves (fun event _ => Action.emit_keepsSeams event)
    (fun type => Action.substitute_keepsSeams builder.cache type builder.session.id) specs

theorem build_keepsSeams (keeps : builder.KeepsSeams) : builder.build.Moves World.KeepsSeams :=
  build_moves (fun event _ => Action.emit_keepsSeams event)
    (fun type => Action.substitute_keepsSeams builder.cache type builder.session.id) keeps

theorem buildPatches_isLive (builder : Builder) (specs : List PatchSpec) (world : World) :
    ∀ resource ∈ ((builder.buildPatches specs).on world).1,
      resource.IsLive ((builder.buildPatches specs).on world).2 :=
  fun resource built => (builder.buildPatches_isBuilt specs world resource built).isLive.kept
    (builder.buildPatches_keepsSeams specs world)

theorem buildAdapter_isLive (adapter : Adapter) (world : World) :
    ∀ resource ∈ ((builder.buildAdapter adapter).on world).1,
      resource.IsLive ((builder.buildAdapter adapter).on world).2 := by
  intro resource built
  rw [on_buildAdapter] at built ⊢
  split at built
  · rename_i recorded
    rw [if_pos recorded]
    rcases List.mem_append.1 built with built | built
    · exact builder.buildPatches_isLive _ _ resource built
    · obtain ⟨guard, -, rfl⟩ := List.mem_map.1 built
      trivial
  · cases built

theorem buildAdapters_isLive {adapters : List Adapter}
    (keeps : ∀ adapter ∈ adapters,
      (adapter.build builder.context).Moves World.KeepsSeams) (world : World) :
    ∀ resource ∈ ((builder.buildAdapters adapters).on world).1,
      resource.IsLive ((builder.buildAdapters adapters).on world).2 := by
  induction adapters generalizing world with
  | nil => exact fun resource built => nomatch built
  | cons adapter rest ih =>
    obtain ⟨-, others⟩ := List.forall_mem_cons.1 keeps
    rw [on_buildAdapters_cons]
    intro resource built
    rcases List.mem_append.1 built with built | built
    · exact (buildAdapter_isLive adapter world resource built).kept
        (buildAdapters_moves (fun event _ => Action.emit_keepsSeams event)
          (fun type => Action.substitute_keepsSeams _ type _) others _)
    · exact ih others _ resource built

theorem build_isLive (keeps : builder.KeepsSeams) (world : World) :
    ∀ resource ∈ (builder.build.on world).1, resource.IsLive (builder.build.on world).2 := by
  intro resource built
  rw [on_build] at built ⊢
  rcases List.mem_append.1 built with built | built
  · exact (buildAdapters_isLive keeps world resource built).kept
      (builder.buildPatches_keepsSeams _ _)
  · exact builder.buildPatches_isLive _ _ resource built

end Builder

end TransportSeams

import TransportSeams.Proofs.Adapter.Lending
import TransportSeams.Proofs.Adapter.Pooling

/-!
What a session gets at the seams of a pool class, whatever the registry holds there and whichever of
them are missing: its substitute, and wrappers around the primitives that are there, with a guard
for each tracker. Where a seam is missing or holds something else, the others are built all the
same.
-/

set_option autoImplicit false
set_option relaxedAutoImplicit false

namespace TransportSeams

open World Adapter

/-- The patches for the class among those of an adapter: a type with a session slot, wrappers around
the primitives that the registry held in `world`, made since then, and a guard for each tracker.
Where there is a wrapper, there is the type, and the create wrapper if there was a primitive. -/
structure PoolSite.IsSpecified (site : PoolSite) (context : AdapterContext) (world : World)
    (specs : List PatchSpec) (guards : List PoolGuard) : Prop where
  types : ∀ spec ∈ specs, spec.key = site.connectionType →
    ∃ stub, spec.replacement = .transport stub ∧ stub.hasSessionSlot = true
  creates : ∀ spec ∈ specs, spec.key = site.create →
    ∃ function primitive made guard,
      (world.registries.get context.registry).value? site.create =
        some (.create function primitive) ∧
      spec.replacement = .create made (.tracked primitive guard.tracker) ∧
      world.nextFunction.index ≤ made.index ∧ guard ∈ guards
  acquires : ∀ spec ∈ specs, spec.key = site.acquire →
    ∃ function primitive made,
      (world.registries.get context.registry).value? site.acquire =
        some (.acquire function primitive) ∧
      spec.replacement = .acquire made (.checked primitive site.fallback context.acquireLimit) ∧
      world.nextFunction.index ≤ made.index
  typed : ∀ spec ∈ specs, spec.key = site.create ∨ spec.key = site.acquire →
    site.connectionType ∈ specs.map PatchSpec.key
  created {function : FunctionId} {primitive : Create} :
    (world.registries.get context.registry).value? site.create =
        some (.create function primitive) →
      ∀ spec ∈ specs, spec.key = site.acquire → site.create ∈ specs.map PatchSpec.key

namespace PoolSite

variable {site : PoolSite} {context : AdapterContext} {world : World}

theorem mem_class_seams_iff (site : PoolSite) (key : SeamKey) :
    key ∈ site.poolClass.seams site.backend ↔
      key = site.connectionType ∨ key = site.create ∨ key = site.acquire := by
  simp [PoolClass.seams, connectionType, create, acquire, target]

theorem IsSpecified.of_patches {stub : TransportType} (slot : stub.hasSessionSlot = true)
    {creates acquires : List PatchSpec} {guards : List PoolGuard}
    (wrapsCreate : ∀ spec ∈ creates, ∃ function primitive made guard,
      (world.registries.get context.registry).value? site.create =
          some (.create function primitive) ∧
        spec = ⟨site.create, .create made (.tracked primitive guard.tracker)⟩ ∧
        world.nextFunction.index ≤ made.index ∧ guard ∈ guards)
    (wrapsAcquire : ∀ spec ∈ acquires, ∃ function primitive made,
      (world.registries.get context.registry).value? site.acquire =
          some (.acquire function primitive) ∧
        spec = ⟨site.acquire, .acquire made
          (.checked primitive site.fallback context.acquireLimit)⟩ ∧
        world.nextFunction.index ≤ made.index)
    (wraps : ∀ function primitive, (world.registries.get context.registry).value? site.create =
      some (.create function primitive) → site.create ∈ creates.map PatchSpec.key) :
    site.IsSpecified context world
      (⟨site.connectionType, .transport stub⟩ :: (creates ++ acquires)) guards := by
  have isCreate (spec : PatchSpec) (member : spec ∈ creates) : spec.key = site.create := by
    obtain ⟨_, _, _, _, -, rfl, -, -⟩ := wrapsCreate spec member
    rfl
  have isAcquire (spec : PatchSpec) (member : spec ∈ acquires) : spec.key = site.acquire := by
    obtain ⟨_, _, _, -, rfl, -⟩ := wrapsAcquire spec member
    rfl
  refine ⟨?_, ?_, ?_, fun _ _ _ => List.mem_cons_self, ?_⟩
  · intro spec member here
    simp only [List.mem_cons, List.mem_append] at member
    rcases member with rfl | member | member
    · exact ⟨stub, rfl, slot⟩
    · exact absurd ((isCreate spec member).symm.trans here) site.create_ne_connectionType
    · exact absurd ((isAcquire spec member).symm.trans here) site.acquire_ne_connectionType
  · intro spec member here
    simp only [List.mem_cons, List.mem_append] at member
    rcases member with rfl | member | member
    · exact absurd here.symm site.create_ne_connectionType
    · obtain ⟨function, primitive, made, guard, held, rfl, new, guarded⟩ := wrapsCreate spec member
      exact ⟨function, primitive, made, guard, held, rfl, new, guarded⟩
    · exact absurd ((isAcquire spec member).symm.trans here) site.acquire_ne_create
  · intro spec member here
    simp only [List.mem_cons, List.mem_append] at member
    rcases member with rfl | member | member
    · exact absurd here.symm site.acquire_ne_connectionType
    · exact absurd (here.symm.trans (isCreate spec member)) site.acquire_ne_create
    · obtain ⟨function, primitive, made, held, rfl, new⟩ := wrapsAcquire spec member
      exact ⟨function, primitive, made, held, rfl, new⟩
  · intro function primitive held _ _ _
    rw [List.map_cons, List.map_append]
    exact List.mem_cons_of_mem _ (List.mem_append_left _ (wraps function primitive held))

theorem IsSpecified.of_absent {specs : List PatchSpec}
    (absent : ∀ spec ∈ specs, spec.key ∉ site.poolClass.seams site.backend)
    (guards : List PoolGuard) : site.IsSpecified context world specs guards := by
  simp only [mem_class_seams_iff, not_or] at absent
  refine ⟨?_, ?_, ?_, ?_, ?_⟩
  · exact fun spec member here => absurd here (absent spec member).1
  · exact fun spec member here => absurd here (absent spec member).2.1
  · exact fun spec member here => absurd here (absent spec member).2.2
  · rintro spec member (here | here)
    · exact absurd here (absent spec member).2.1
    · exact absurd here (absent spec member).2.2
  · exact fun _ spec member here => absurd here (absent spec member).2.2

theorem IsSpecified.append {first last : List PatchSpec} {guards guards' : List PoolGuard}
    (specified : site.IsSpecified context world first guards)
    (others : site.IsSpecified context world last guards') :
    site.IsSpecified context world (first ++ last) (guards ++ guards') := by
  refine ⟨?_, ?_, ?_, ?_, ?_⟩
  · intro spec member here
    rcases List.mem_append.1 member with member | member
    · exact specified.types spec member here
    · exact others.types spec member here
  · intro spec member here
    rcases List.mem_append.1 member with member | member
    · obtain ⟨function, primitive, made, guard, held, wraps, new, guarded⟩ :=
        specified.creates spec member here
      exact ⟨function, primitive, made, guard, held, wraps, new, List.mem_append_left _ guarded⟩
    · obtain ⟨function, primitive, made, guard, held, wraps, new, guarded⟩ :=
        others.creates spec member here
      exact ⟨function, primitive, made, guard, held, wraps, new, List.mem_append_right _ guarded⟩
  · intro spec member here
    rcases List.mem_append.1 member with member | member
    · exact specified.acquires spec member here
    · exact others.acquires spec member here
  · intro spec member here
    rw [List.map_append, List.mem_append]
    rcases List.mem_append.1 member with member | member
    · exact .inl (specified.typed spec member here)
    · exact .inr (others.typed spec member here)
  · intro function primitive held spec member here
    rw [List.map_append, List.mem_append]
    rcases List.mem_append.1 member with member | member
    · exact .inl (specified.created held spec member here)
    · exact .inr (others.created held spec member here)

theorem IsSpecified.earlier {middle : World} {specs : List PatchSpec} {guards : List PoolGuard}
    (grown : world.Continues middle) (specified : site.IsSpecified context middle specs guards) :
    site.IsSpecified context world specs guards := by
  obtain ⟨types, creates, acquires, typed, created⟩ := specified
  rw [grown.grown.registries] at creates acquires created
  refine ⟨types, ?_, ?_, typed, created⟩
  · intro spec member here
    obtain ⟨function, primitive, made, guard, held, wraps, new, guarded⟩ := creates spec member here
    exact ⟨function, primitive, made, guard, held, wraps, Nat.le_trans grown.functions new, guarded⟩
  · intro spec member here
    obtain ⟨function, primitive, made, held, wraps, new⟩ := acquires spec member here
    exact ⟨function, primitive, made, held, wraps, Nat.le_trans grown.functions new⟩

end PoolSite

namespace Adapter

variable {context : AdapterContext} {world : World} {site : PoolSite}

theorem trackCreate_specified {middle : World} (grown : world.Continues middle)
    (type : TransportType) :
    (∀ spec ∈ ((trackCreate context type site.create).on middle).1.specs,
      ∃ function primitive made guard,
        (world.registries.get context.registry).value? site.create =
            some (.create function primitive) ∧
          spec = ⟨site.create, .create made (.tracked primitive guard.tracker)⟩ ∧
          world.nextFunction.index ≤ made.index ∧
          guard ∈ ((trackCreate context type site.create).on middle).1.guards) ∧
      ∀ function primitive, (world.registries.get context.registry).value? site.create =
          some (.create function primitive) →
        site.create ∈
          ((trackCreate context type site.create).on middle).1.specs.map PatchSpec.key := by
  simp only [trackCreate, Action.on_bind, Action.on_registry, grown.grown.registries]
  split
  · rename_i function primitive held
    refine ⟨fun spec member => ?_, fun _ _ _ => List.mem_singleton.2 rfl⟩
    exact ⟨function, primitive, middle.nextFunction, ⟨⟨middle.nextObject⟩, type⟩, held,
      List.mem_singleton.1 member, grown.functions, List.mem_singleton.2 rfl⟩
  · rename_i other
    exact ⟨List.forall_mem_nil _,
      fun function primitive held => (other function primitive held).elim⟩

theorem checkAcquire_specified {middle : World} (grown : world.Continues middle) :
    ∀ spec ∈ ((checkAcquire context site.fallback site.acquire).on middle).1.specs,
      ∃ function primitive made,
        (world.registries.get context.registry).value? site.acquire =
            some (.acquire function primitive) ∧
          spec = ⟨site.acquire, .acquire made
            (.checked primitive site.fallback context.acquireLimit)⟩ ∧
          world.nextFunction.index ≤ made.index := by
  simp only [checkAcquire, Action.on_bind, Action.on_registry, grown.grown.registries]
  split
  · rename_i function primitive held
    exact fun spec member => ⟨function, primitive, middle.nextFunction, held,
      List.mem_singleton.1 member, grown.functions⟩
  · exact List.forall_mem_nil _

theorem trackCreate_continues (type : TransportType) (key : SeamKey) :
    (trackCreate context type key).Moves Continues :=
  trackCreate_moves Action.freshFunction_continues Action.newTracker_continues type key

theorem guards_checkAcquire (fallback key : SeamKey) :
    ((checkAcquire context fallback key).on world).1.guards = [] := by
  simp only [checkAcquire, Action.on_bind, Action.on_registry]
  split <;> rfl

theorem buildPoolClass_specified (lawful : context.IsLawful world) :
    site.IsSpecified context world
      ((buildPoolClass context site.backend site.poolClass).on world).1.specs
      ((buildPoolClass context site.backend site.poolClass).on world).1.guards := by
  have lent := lawful.stubs.moves.transport site.backend site.poolClass.connection world
  simp only [buildPoolClass, Action.on_bind]
  cases stub? : ((context.session.stubs.transport? site.backend
      site.poolClass.connection).on world).1 with
  | none =>
    exact .of_absent (List.forall_mem_nil _) []
  | some stub =>
    have slot := lawful.stubs.slot (refl_of Continues world) stub?
    generalize ((context.session.stubs.transport? site.backend
      site.poolClass.connection).on world).2 = middle at lent ⊢
    let bound := (Action.substitute context.cache stub context.session.id).on middle
    let tracked := (trackCreate context bound.1 site.create).on bound.2
    have toBound : world.Continues bound.2 :=
      trans_of Continues lent (Action.substitute_continues _ stub _ middle)
    have toTracked : world.Continues tracked.2 :=
      trans_of Continues toBound (trackCreate_continues bound.1 site.create bound.2)
    obtain ⟨wraps, tracks⟩ := trackCreate_specified toBound bound.1
    have specified : site.IsSpecified context world _ _ :=
      .of_patches slot wraps (checkAcquire_specified toTracked) tracks
    simp only [Action.on_bind, Action.on_pure, AdapterOutput.specs_append,
      AdapterOutput.guards_append, guards_checkAcquire, List.append_nil]
    exact specified

theorem buildPoolClasses_specified {classes : List PoolClass}
    (apart : ∀ poolClass ∈ classes, poolClass ≠ site.poolClass →
      ∀ key ∈ poolClass.seams site.backend, key ∉ site.poolClass.seams site.backend)
    (lawful : context.IsLawful world) :
    site.IsSpecified context world
      ((buildPoolClasses context site.backend classes).on world).1.specs
      ((buildPoolClasses context site.backend classes).on world).1.guards := by
  induction classes generalizing world with
  | nil =>
    exact .of_absent (List.forall_mem_nil _) []
  | cons poolClass rest ih =>
    obtain ⟨first, others⟩ := List.forall_mem_cons.1 apart
    have grown : world.Continues ((buildPoolClass context site.backend poolClass).on world).2 :=
      buildPoolClass_moves lawful.stubs.moves Action.freshFunction_continues
        Action.newTracker_continues (fun type => Action.substitute_continues _ type _) site.backend
        poolClass world
    rw [on_buildPoolClasses_cons]
    refine .append ?_ ((ih others (lawful.later grown)).earlier grown)
    by_cases here : poolClass = site.poolClass
    · rw [here]
      exact buildPoolClass_specified lawful
    · refine .of_absent (fun spec member => first here spec.key ?_) _
      exact (buildPoolClass_emits site.backend poolClass world).subset (List.mem_map_of_mem member)

private theorem classes_apart : ∀ backend ∈ [Backend.sessions, .pooled],
    ∀ poolClass ∈ poolClasses, ∀ other ∈ poolClasses, other ≠ poolClass →
      ∀ key ∈ other.seams backend, key ∉ poolClass.seams backend := by
  intro backend pooling poolClass listed other listed' different
  simp only [poolClasses, List.mem_cons, List.not_mem_nil, or_false] at pooling listed listed'
  rcases pooling with rfl | rfl <;> rcases listed with rfl | rfl <;>
    rcases listed' with rfl | rfl <;> first | exact absurd rfl different | decide

private theorem connections_apart : ∀ backend ∈ [Backend.sessions, .pooled],
    ∀ poolClass ∈ poolClasses,
      ∀ key ∈ (connectionSeams backend).map TypeSeam.key ++ [Seam.probe (probeTarget backend)],
        key ∉ poolClass.seams backend := by
  decide

theorem standard_specified (backend : Backend) (lawful : context.IsLawful world) :
    site.IsSpecified context world (((Adapter.standard backend).build context).on world).1.specs
      (((Adapter.standard backend).build context).on world).1.guards := by
  by_cases here : backend = site.backend
  · subst here
    let types := (swapTypes context site.backend (connectionSeams site.backend)).on world
    have typed : world.Continues types.2 := swapTypes_moves lawful.stubs.moves _ _ world
    have grown : world.Continues (Action.freshFunction.on types.2).2 :=
      trans_of Continues typed (Action.freshFunction_continues types.2)
    have classes := buildPoolClasses_specified
      (classes_apart site.backend site.pooling site.poolClass site.listed) (lawful.later grown)
    rw [site.standard_eq_pooling, on_build_pooling]
    refine PoolSite.IsSpecified.append (.of_absent ?_ []) (classes.earlier grown)
    intro spec member
    refine connections_apart site.backend site.pooling site.poolClass site.listed spec.key ?_
    rw [List.mem_append]
    rcases List.mem_append.1 member with member | member
    · exact .inl ((swapTypes_emits _ _ _).subset (List.mem_map_of_mem member))
    · obtain rfl := List.mem_singleton.1 member
      exact .inr (List.mem_singleton.2 rfl)
  · refine .of_absent (fun spec member listed => ?_) _
    exact site.not_declared here spec.key (List.mem_cons_of_mem _ listed)
      (standard_declares backend context world spec member)

end Adapter

/-- What a builder's resources have for the class, built in `world`: the session's substitute at its
connection type and new wrappers around the primitives that the registry held, with a guard for each
tracker. Where there is a wrapper, there is the substitute if the seam for it is registered, and the
create wrapper if there was a primitive. -/
structure PoolSite.IsOutfitted (site : PoolSite) (builder : Builder) (world : World)
    (resources : List Resource) : Prop where
  types : ∀ handle, .patch handle ∈ resources → handle.key = site.connectionType →
    ∃ type, handle.replacement = .transport type ∧ type.owner? = some builder.session.id
  creates : ∀ handle, .patch handle ∈ resources → handle.key = site.create →
    ∃ function primitive made guard,
      (world.registries.get builder.registry).value? site.create =
        some (.create function primitive) ∧
      handle.replacement = .create made (.tracked primitive guard.tracker) ∧
      world.nextFunction.index ≤ made.index ∧ .poolGuard guard ∈ resources
  acquires : ∀ handle, .patch handle ∈ resources → handle.key = site.acquire →
    ∃ function primitive made,
      (world.registries.get builder.registry).value? site.acquire =
        some (.acquire function primitive) ∧
      handle.replacement = .acquire made (.checked primitive site.fallback builder.acquireLimit) ∧
      world.nextFunction.index ≤ made.index
  typed : site.create ∈ keysOf resources ∨ site.acquire ∈ keysOf resources →
    (world.registries.get builder.registry).contains site.connectionType = true →
      site.connectionType ∈ keysOf resources
  created {function : FunctionId} {primitive : Create} :
    (world.registries.get builder.registry).value? site.create =
        some (.create function primitive) →
      site.acquire ∈ keysOf resources → site.create ∈ keysOf resources

namespace PoolSite.IsOutfitted

variable {site : PoolSite} {builder : Builder} {world : World}

theorem of_absent {resources : List Resource}
    (absent : ∀ key ∈ site.poolClass.seams site.backend, key ∉ keysOf resources) :
    site.IsOutfitted builder world resources := by
  have missing (key : SeamKey) (seam : key ∈ site.poolClass.seams site.backend)
      (handle : PatchHandle) (member : .patch handle ∈ resources) : handle.key ≠ key :=
    fun here => absent key seam (mem_keysOf.2 ⟨handle, member, here⟩)
  simp only [mem_class_seams_iff, forall_eq_or_imp, forall_eq] at absent missing
  obtain ⟨type, create, acquire⟩ := missing
  refine ⟨?_, ?_, ?_, ?_, fun _ listed => absurd listed absent.2.2⟩
  · exact fun handle member here => absurd here (type handle member)
  · exact fun handle member here => absurd here (create handle member)
  · exact fun handle member here => absurd here (acquire handle member)
  · rintro (listed | listed)
    · exact absurd listed absent.2.1
    · exact absurd listed absent.2.2

theorem flatten {parts : List (List Resource)}
    (each : ∀ part ∈ parts, site.IsOutfitted builder world part) :
    site.IsOutfitted builder world parts.flatten := by
  have part_of_key {key : SeamKey} (listed : key ∈ keysOf parts.flatten) :
      ∃ part ∈ parts, key ∈ keysOf part := by
    obtain ⟨handle, member, here⟩ := mem_keysOf.1 listed
    obtain ⟨part, listed, member⟩ := List.mem_flatten.1 member
    exact ⟨part, listed, mem_keysOf.2 ⟨handle, member, here⟩⟩
  have key_of_part {key : SeamKey} {part : List Resource} (listed : part ∈ parts)
      (member : key ∈ keysOf part) : key ∈ keysOf parts.flatten := by
    obtain ⟨handle, covers, here⟩ := mem_keysOf.1 member
    exact mem_keysOf.2 ⟨handle, List.mem_flatten.2 ⟨part, listed, covers⟩, here⟩
  refine ⟨?_, ?_, ?_, ?_, ?_⟩
  · intro handle member here
    obtain ⟨part, listed, member⟩ := List.mem_flatten.1 member
    exact (each part listed).types handle member here
  · intro handle member here
    obtain ⟨part, listed, member⟩ := List.mem_flatten.1 member
    obtain ⟨function, primitive, made, guard, held, wraps, new, guarded⟩ :=
      (each part listed).creates handle member here
    exact ⟨function, primitive, made, guard, held, wraps, new,
      List.mem_flatten.2 ⟨part, listed, guarded⟩⟩
  · intro handle member here
    obtain ⟨part, listed, member⟩ := List.mem_flatten.1 member
    exact (each part listed).acquires handle member here
  · rintro (covered | covered) known
    · obtain ⟨part, listed, member⟩ := part_of_key covered
      exact key_of_part listed ((each part listed).typed (.inl member) known)
    · obtain ⟨part, listed, member⟩ := part_of_key covered
      exact key_of_part listed ((each part listed).typed (.inr member) known)
  · intro function primitive held covered
    obtain ⟨part, listed, member⟩ := part_of_key covered
    exact key_of_part listed ((each part listed).created held member)

theorem of_specified {specs : List PatchSpec} {guards : List PoolGuard} {left : World}
    (specified : site.IsSpecified builder.context world specs guards)
    (lawful : builder.context.IsLawful world) (grown : world.Continues left) :
    site.IsOutfitted builder world
      (((builder.buildPatches specs).on left).1 ++ guards.map Resource.poolGuard) := by
  -- a patch among the resources is one that has been built
  have spec_of_patch {handle : PatchHandle}
      (member : .patch handle ∈
        ((builder.buildPatches specs).on left).1 ++ guards.map Resource.poolGuard) :
      ∃ spec ∈ specs, ∃ middle, world.Continues middle ∧ handle.key = spec.key ∧
        handle.replacement =
          ((spec.replacement.resolve builder.cache builder.session.id).on middle).1 := by
    rcases List.mem_append.1 member with member | member
    · obtain ⟨spec, listed, middle, moved, made⟩ := Builder.mem_buildPatches (R := Continues)
        (fun event _ => Action.emit_continues event)
        (fun type => Action.substitute_continues _ type _) member
      cases made
      exact ⟨spec, listed, middle, trans_of Continues grown moved, rfl, rfl⟩
    · simp at member
  have covers {key : SeamKey} : key ∈ keysOf
      (((builder.buildPatches specs).on left).1 ++ guards.map Resource.poolGuard) ↔
        key ∈ specs.map PatchSpec.key ∧
          (world.registries.get builder.registry).contains key = true := by
    rw [keysOf_append, keysOf_guards, List.append_nil, Builder.keysOf_buildPatches,
      grown.grown.registries, List.mem_filter]
  refine ⟨?_, ?_, ?_, ?_, ?_⟩
  · intro handle member here
    obtain ⟨spec, listed, middle, moved, key, replaces⟩ := spec_of_patch member
    obtain ⟨stub, lends, slot⟩ := specified.types spec listed (key.symm.trans here)
    refine ⟨_, ?_, Action.owner?_substitute (moved.grown.bound _ lawful.bound) stub _⟩
    rw [replaces, lends, SeamValue.resolve, Action.on_ite, if_pos slot]
    rfl
  · intro handle member here
    obtain ⟨spec, listed, middle, moved, key, replaces⟩ := spec_of_patch member
    obtain ⟨function, primitive, made, guard, held, wraps, new, guarded⟩ :=
      specified.creates spec listed (key.symm.trans here)
    refine ⟨function, primitive, made, guard, held, ?_, new,
      List.mem_append_right _ (List.mem_map_of_mem guarded)⟩
    rw [replaces, wraps]
    rfl
  · intro handle member here
    obtain ⟨spec, listed, middle, moved, key, replaces⟩ := spec_of_patch member
    obtain ⟨function, primitive, made, held, wraps, new⟩ :=
      specified.acquires spec listed (key.symm.trans here)
    refine ⟨function, primitive, made, held, ?_, new⟩
    rw [replaces, wraps]
    rfl
  · intro wrapped known
    have wrapped : site.create ∈ specs.map PatchSpec.key ∨
        site.acquire ∈ specs.map PatchSpec.key :=
      wrapped.imp (fun listed => (covers.1 listed).1) (fun listed => (covers.1 listed).1)
    refine covers.2 ⟨?_, known⟩
    rcases wrapped with wrapped | wrapped
    · obtain ⟨spec, listed, here⟩ := List.mem_map.1 wrapped
      exact specified.typed spec listed (.inl here)
    · obtain ⟨spec, listed, here⟩ := List.mem_map.1 wrapped
      exact specified.typed spec listed (.inr here)
  · intro function primitive held wrapped
    obtain ⟨spec, listed, here⟩ := List.mem_map.1 (covers.1 wrapped).1
    obtain ⟨binding, shown, -⟩ := Option.map_eq_some_iff.1 held
    exact covers.2 ⟨specified.created held spec listed here, Registry.contains_of_binding? shown⟩

end PoolSite.IsOutfitted

end TransportSeams

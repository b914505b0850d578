import TransportSeams.Proofs.Adapter.Pooling
import TransportSeams.Proofs.Run.Overlay
import TransportSeams.Proofs.World.Retention

/-!
Runs of nested sessions with standard stubs and standard adapters. What such sessions build on is
sustained throughout a run: shelves lend stubs that are bound to no session, caches hold substitutes
that are bound to theirs, trackers keep their types, and recorded backends stay recorded.
-/

set_option autoImplicit false
set_option relaxedAutoImplicit false

namespace TransportSeams

open World

theorem Attempt.registerBackend_sustains (id : RegistryId) (manifest : Manifest) :
    (registerBackend id manifest).Moves Sustains := by
  intro world
  cases registered : (world.registries.get id).register manifest with
  | error error =>
    rw [on_registerBackend_refused registered]
    exact refl_of Sustains world
  | ok outcome =>
    rw [on_registerBackend registered]
    refine ⟨Nat.le_refl _, fun _ _ => rfl, fun _ h => h, fun _ h => h, ?_⟩
    intro other backend recorded
    simp only [registries_telling, withRegistry, Store.get_put]
    split
    · rename_i here
      subst here
      exact Registry.hasBackend_register registered recorded
    · exact recorded

theorem Builder.new_sustains (registry : RegistryId) (session : Session) :
    (Builder.new registry session).Moves Sustains := by
  intro world
  refine ⟨Nat.le_succ _, fun _ _ => rfl, ?_, fun _ h => h, fun _ _ h => h⟩
  intro id bound
  show ((world.caches.put ⟨world.nextObject⟩ .empty).get id).IsBound
  rw [Store.get_put]
  split
  · intro key type held
    cases held
  · exact bound

theorem Action.newPool_sustains (pool : Pool) : (Action.newPool pool).Moves Sustains :=
  fun _ => ⟨Nat.le_succ _, fun _ _ => rfl, fun _ h => h, fun _ h => h, fun _ _ h => h⟩

namespace Builder

variable {builder : Builder} {world : World}

theorem IsStandard.later {later : World} (standard : builder.IsStandard world)
    (sustains : world.Sustains later) : builder.IsStandard later := by
  obtain ⟨shelf, stubs, unbound⟩ := standard.ready.stubs
  exact ⟨standard.catalog, ⟨shelf, stubs, sustains.unbound shelf unbound⟩,
    sustains.bound _ standard.ready.bound⟩

theorem IsStandard.build_extends (standard : builder.IsStandard world) :
    world.Extends (builder.build.on world).2 := by
  obtain ⟨backends, adapted, middle, left, -, -, adapts, built, grown⟩ := on_build_standard standard
  have first := buildAdapters_extends backends standard.ready
  rw [adapts] at first
  rw [built]
  exact trans_of Extends first grown

theorem IsStandard.start_sustains (standard : builder.IsStandard world) :
    world.Sustains (builder.start.on world).2 := by
  have entered := Scope.enterAll_keepsSupplies builder.session.id (builder.build.on world).1 []
    (builder.build.on world).2
  exact trans_of Sustains standard.build_extends.sustains entered.sustains

end Builder

/-- Sessions have standard stubs and standard adapters, and scopes are opened by starting them. -/
def Operation.NestsSessions : Operation → Prop
  | newBuilder session catalog _ =>
    (∃ shelf, session.stubs = .standard shelf) ∧
      ∃ disabled, catalog = Catalog.standard.without disabled
  | enter _ | restore => False
  | _ => True

theorem Operation.NestsSessions.pure {operation : Operation} (nests : operation.NestsSessions) :
    operation.BuildsPurely := by
  cases operation with
  | newBuilder session catalog limit =>
    obtain ⟨⟨shelf, stubs⟩, disabled, rfl⟩ := nests
    refine ⟨stubs ▸ StubCatalog.standard_keepsRegistries shelf, ?_⟩
    rw [Catalog.values_standard_without]
    intro adapter member
    obtain ⟨backend, -, rfl⟩ := List.mem_map.1 member
    exact Adapter.standard_keepsRegistries backend
  | _ => trivial

theorem Operation.NestsSessions.opensByStarting {operation : Operation}
    (nests : operation.NestsSessions) : operation.OpensByStarting := by
  cases operation with
  | enter index => exact nests
  | restore => exact nests
  | _ => trivial

structure Stage.IsSupplied (stage : Stage) : Prop where
  shelves : ∀ id, (stage.world.shelves.get id).IsUnbound
  builders : ∀ builder ∈ stage.builders, builder.IsStandard stage.world

namespace Stage

variable {stage : Stage}

theorem world_openScope (stage : Stage) (builder : Builder) (call : Call (Except SeamError Scope)) :
    (stage.openScope builder call).world = (call.on stage.world).2 := by
  unfold openScope
  generalize call.on stage.world = turn
  obtain ⟨outcome, left⟩ := turn
  cases outcome <;> rfl

theorem world_checkOut (stage : Stage) (pool : PoolId) (call : Call (Except SeamError Connection)) :
    (stage.checkOut pool call).world = (call.on stage.world).2 := by
  unfold checkOut
  generalize call.on stage.world = turn
  obtain ⟨outcome, left⟩ := turn
  cases outcome <;> rfl

theorem closeNewest_sustains (stage : Stage) : stage.world.Sustains stage.closeNewest.world := by
  unfold closeNewest
  split
  · exact refl_of Sustains _
  · rename_i scope rest frames
    exact (Scope.close_keepsSupplies scope stage.world).sustains
  · rename_i restore rest frames
    exact (ForceRestore.exit_moves Attempt.install_keepsSupplies restore stage.world).sustains

theorem IsSupplied.step_sustains (supplied : stage.IsSupplied) {operation : Operation}
    (nests : operation.NestsSessions) : stage.world.Sustains (stage.step operation).world := by
  cases operation with
  | register manifest => exact Attempt.registerBackend_sustains stage.registry manifest stage.world
  | newBuilder session catalog limit =>
    exact Builder.new_sustains stage.registry session stage.world
  | build index =>
    simp only [step]
    split
    · exact refl_of Sustains _
    · rename_i builder found
      exact (supplied.builders builder (List.mem_of_getElem? found)).build_extends.sustains
  | enter index => exact nests.elim
  | start index =>
    simp only [step]
    split
    · exact refl_of Sustains _
    · rename_i builder found
      rw [world_openScope]
      exact (supplied.builders builder (List.mem_of_getElem? found)).start_sustains
  | restore => exact nests.elim
  | close => exact stage.closeNewest_sustains
  | newPool pool => exact Action.newPool_sustains pool stage.world
  | getConnection pool =>
    simp only [step, world_checkOut]
    exact (Attempt.getConnection_differsAtPools stage.registry pool
      stage.world).keepsSupplies.sustains
  | newConnection pool =>
    simp only [step, world_checkOut]
    exact (Attempt.newConnection_differsAtPools stage.registry pool
      stage.world).keepsSupplies.sustains
  | putConnection index =>
    show stage.world.Sustains (stage.putBack index).world
    unfold putBack
    split
    · exact refl_of Sustains _
    · exact (Action.putPool_differsAtPools _ _ stage.world).keepsSupplies.sustains
  | markDropped index => exact refl_of Sustains _
  | call seam request => exact refl_of Sustains _

theorem builders_openScope (stage : Stage) (builder : Builder)
    (call : Call (Except SeamError Scope)) :
    (stage.openScope builder call).builders = stage.builders := by
  unfold openScope
  generalize call.on stage.world = turn
  obtain ⟨outcome, left⟩ := turn
  cases outcome <;> rfl

theorem builders_checkOut (stage : Stage) (pool : PoolId)
    (call : Call (Except SeamError Connection)) :
    (stage.checkOut pool call).builders = stage.builders := by
  unfold checkOut
  generalize call.on stage.world = turn
  obtain ⟨outcome, left⟩ := turn
  cases outcome <;> rfl

theorem mem_builders_step {operation : Operation} {builder : Builder}
    (member : builder ∈ (stage.step operation).builders) :
    builder ∈ stage.builders ∨ ∃ session catalog limit,
      operation = .newBuilder session catalog limit ∧
        builder = ⟨stage.registry, session, catalog, limit, ⟨stage.world.nextObject⟩⟩ := by
  cases operation with
  | newBuilder session catalog limit =>
    rcases List.mem_append.1 member with member | member
    · exact .inl member
    · exact .inr ⟨session, catalog, limit, rfl, List.mem_singleton.1 member⟩
  | build index =>
    simp only [step] at member
    split at member <;> exact .inl member
  | enter index =>
    simp only [step] at member
    split at member
    · exact .inl member
    · rw [builders_openScope] at member
      exact .inl member
  | start index =>
    simp only [step] at member
    split at member
    · exact .inl member
    · rw [builders_openScope] at member
      exact .inl member
  | restore =>
    simp only [step, openRestore] at member
    split at member <;> exact .inl member
  | close =>
    simp only [step, closeNewest] at member
    split at member <;> exact .inl member
  | getConnection pool =>
    rw [step, builders_checkOut] at member
    exact .inl member
  | newConnection pool =>
    rw [step, builders_checkOut] at member
    exact .inl member
  | putConnection index =>
    simp only [step, putBack] at member
    split at member <;> exact .inl member
  | _ => exact .inl member

theorem IsSupplied.step (supplied : stage.IsSupplied) {operation : Operation}
    (nests : operation.NestsSessions) : (stage.step operation).IsSupplied := by
  have sustains := supplied.step_sustains nests
  refine ⟨fun id => sustains.unbound id (supplied.shelves id), fun builder member => ?_⟩
  rcases mem_builders_step member with member | ⟨session, catalog, limit, rfl, rfl⟩
  · exact (supplied.builders builder member).later sustains
  · obtain ⟨⟨shelf, stubs⟩, disabled, rfl⟩ := nests
    refine ⟨⟨disabled, rfl⟩, ⟨shelf, stubs, sustains.unbound shelf (supplied.shelves shelf)⟩, ?_⟩
    intro key type held
    change ((stage.world.caches.put ⟨stage.world.nextObject⟩ SubstituteCache.empty).get
      ⟨stage.world.nextObject⟩).find? key = some type at held
    rw [Store.get_put, if_pos rfl] at held
    cases held

end Stage

end TransportSeams

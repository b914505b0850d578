import TransportSeams.Proofs.World.Extension

/-!
What adapters build on: stub catalogs that lend types with a session slot and only add to the world,
and a cache of substitutes. The functions that are made while building are new.
-/

set_option autoImplicit false
set_option relaxedAutoImplicit false

namespace TransportSeams

open World

/-- The second world extends the first one, and what functions it has made since are new. -/
structure World.Continues (old new : World) : Prop where
  grown : old.Extends new
  functions : old.nextFunction.index ≤ new.nextFunction.index

instance : IsPreorder World Continues where
  refl world := ⟨refl_of Extends world, Nat.le_refl _⟩
  trans _ _ _ first second :=
    ⟨trans_of Extends first.grown second.grown, Nat.le_trans first.functions second.functions⟩

namespace Action

theorem emit_continues (event : Event) : (emit event).Moves Continues :=
  fun world => ⟨emit_extends event world, Nat.le_refl _⟩

theorem freshFunction_continues : freshFunction.Moves Continues :=
  fun world => ⟨freshFunction_extends world, Nat.le_succ _⟩

theorem newTracker_continues (type : TransportType) : (newTracker type).Moves Continues :=
  fun world => ⟨newTracker_extends type world, Nat.le_refl _⟩

theorem substitute_continues (id : CacheId) (base : TransportType) (session : SessionId) :
    (substitute id base session).Moves Continues := by
  intro world
  refine ⟨substitute_extends id base session world, ?_⟩
  cases own : base.isBoundTo session with
  | true => exact on_substitute_self own id world ▸ Nat.le_refl _
  | false =>
    cases made : (world.caches.get id).find? ⟨base.id, session⟩ with
    | some type => exact on_substitute_made own made ▸ Nat.le_refl _
    | none => exact on_substitute_new own made ▸ Nat.le_refl _

theorem shelvedStub_continues (id : ShelfId) (key : StubKey) :
    (shelvedStub id key).Moves Continues := by
  intro world
  refine ⟨shelvedStub_extends id key world, ?_⟩
  rw [shelvedStub, on_bind, on_shelf]
  split <;> exact Nat.le_refl _

end Action

/-- From a world on, the catalog adds to worlds and changes nothing that is there, and the types
that it lends have a session slot. -/
structure StubCatalog.LendsFrom (stubs : StubCatalog) (world : World) : Prop where
  moves : stubs.Moves Continues
  slot {later : World} {backend : Backend} {name : String} {stub : TransportType} :
    world.Continues later → ((stubs.transport? backend name).on later).1 = some stub →
      stub.hasSessionSlot = true

theorem StubCatalog.LendsFrom.later {stubs : StubCatalog} {world later : World}
    (lends : stubs.LendsFrom world) (grown : world.Continues later) : stubs.LendsFrom later :=
  ⟨lends.moves, fun grown' => lends.slot (trans_of Continues grown grown')⟩

theorem StubCatalog.standard_lends {id : ShelfId} {world : World}
    (unbound : (world.shelves.get id).IsUnbound) : (StubCatalog.standard id).LendsFrom world where
  moves := by
    constructor
    · exact fun backend name => Action.moves_map some (Action.shelvedStub_continues id _)
    · exact fun _ _ _ _ => Action.moves_bind Action.freshFunction_continues fun _ =>
        Action.moves_pure _
  slot {later backend name stub} grown lent := by
    have empty := Action.slot_shelvedStub (grown.grown.unbound id unbound) ⟨backend, name⟩
    have lent : ((Action.shelvedStub id ⟨backend, name⟩).on later).1 = stub := Option.some.inj lent
    rw [lent] at empty
    simp [TransportType.hasSessionSlot, empty]

structure AdapterContext.IsLawful (context : AdapterContext) (world : World) : Prop where
  stubs : context.session.stubs.LendsFrom world
  bound : (world.caches.get context.cache).IsBound

theorem AdapterContext.IsLawful.later {context : AdapterContext} {world later : World}
    (lawful : context.IsLawful world) (grown : world.Continues later) : context.IsLawful later :=
  ⟨lawful.stubs.later grown, grown.grown.bound _ lawful.bound⟩

theorem Adapter.standard_continues (backend : Backend) :
    (Adapter.standard backend).Moves Continues :=
  standard_moves (R := Continues) Action.freshFunction_continues Action.newTracker_continues
    Action.substitute_continues backend

end TransportSeams

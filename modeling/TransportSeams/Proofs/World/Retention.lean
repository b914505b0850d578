import TransportSeams.Proofs.Scope.Supplies
import TransportSeams.Proofs.World.Extension

/-!
What is done for good. What sessions build on is sustained: shelves lend stubs that are bound to no
session, caches hold substitutes that are bound to theirs, trackers keep their types, and recorded
backends stay recorded. Besides, a registered seam stays registered, a type keeps the substitute
that it got in a cache, and a name the stub that it got on a shelf. Building, entering and leaving
take none of it back.
-/

set_option autoImplicit false
set_option relaxedAutoImplicit false

namespace TransportSeams

namespace World

/-- What sessions build on in the first world is there in the second one. -/
structure Sustains (old new : World) : Prop where
  nextObject : old.nextObject ≤ new.nextObject
  types (id : TrackerId) : id.index < old.nextObject →
    (new.trackers.get id).connectionType = (old.trackers.get id).connectionType
  bound (id : CacheId) : (old.caches.get id).IsBound → (new.caches.get id).IsBound
  unbound (id : ShelfId) : (old.shelves.get id).IsUnbound → (new.shelves.get id).IsUnbound
  records (id : RegistryId) (backend : Backend) :
    (old.registries.get id).hasBackend backend = true →
      (new.registries.get id).hasBackend backend = true

instance : IsPreorder World Sustains where
  refl _ := ⟨Nat.le_refl _, fun _ _ => rfl, fun _ h => h, fun _ h => h, fun _ _ h => h⟩
  trans _ _ _ first second :=
    { nextObject := Nat.le_trans first.nextObject second.nextObject
      types := fun id earlier =>
        (second.types id (Nat.lt_of_lt_of_le earlier first.nextObject)).trans
          (first.types id earlier)
      bound := fun id bound => second.bound id (first.bound id bound)
      unbound := fun id unbound => second.unbound id (first.unbound id unbound)
      records := fun id backend recorded =>
        second.records id backend (first.records id backend recorded) }

theorem Extends.sustains {old new : World} (grown : old.Extends new) : old.Sustains new where
  nextObject := grown.nextObject
  types id earlier := by rw [grown.trackers id earlier]
  bound := grown.bound
  unbound := grown.unbound
  records id backend recorded := by rwa [grown.registries]

theorem KeepsSupplies.sustains {old new : World} (kept : old.KeepsSupplies new) :
    old.Sustains new where
  nextObject := Nat.le_of_eq kept.nextObject.symm
  types id _ := kept.types id
  bound id bound := by rwa [kept.caches]
  unbound id unbound := by rwa [kept.shelves]
  records id backend recorded := by
    unfold Registry.hasBackend at recorded ⊢
    rwa [kept.records id]

/-- Nothing that is done for good in the first world is undone in the second one. -/
structure Retains (old new : World) : Prop extends Sustains old new where
  seams (id : RegistryId) (key : SeamKey) :
    (old.registries.get id).contains key = true → (new.registries.get id).contains key = true
  substitutes (id : CacheId) (key : SubstituteKey) (type : TransportType) :
    (old.caches.get id).find? key = some type → (new.caches.get id).find? key = some type
  stubs (id : ShelfId) (key : StubKey) (type : TransportType) :
    (old.shelves.get id).stub? key = some type → (new.shelves.get id).stub? key = some type

instance : IsPreorder World Retains where
  refl world :=
    ⟨refl_of Sustains world, fun _ _ h => h, fun _ _ _ h => h, fun _ _ _ h => h⟩
  trans _ _ _ first second :=
    { toSustains := trans_of Sustains first.toSustains second.toSustains
      seams := fun id key known => second.seams id key (first.seams id key known)
      substitutes := fun id key type made =>
        second.substitutes id key type (first.substitutes id key type made)
      stubs := fun id key type made => second.stubs id key type (first.stubs id key type made) }

variable {old new : World}

theorem Extends.retains (grown : old.Extends new)
    (stubs : ∀ id key type, (old.shelves.get id).stub? key = some type →
      (new.shelves.get id).stub? key = some type) : old.Retains new where
  toSustains := grown.sustains
  seams id key known := by rwa [grown.registries]
  substitutes := grown.substitutes
  stubs := stubs

theorem KeepsSupplies.retains (kept : old.KeepsSupplies new)
    (seams : ∀ id key, (old.registries.get id).contains key = true →
      (new.registries.get id).contains key = true) : old.Retains new where
  toSustains := kept.sustains
  seams := seams
  substitutes id key type made := by rwa [kept.caches]
  stubs id key type made := by rwa [kept.shelves]

end World

open World

namespace Action

theorem emit_retains (event : Event) : (emit event).Moves Retains :=
  fun world => (emit_extends event world).retains fun _ _ _ h => h

theorem freshFunction_retains : freshFunction.Moves Retains :=
  fun world => (freshFunction_extends world).retains fun _ _ _ h => h

theorem newTracker_retains (type : TransportType) : (newTracker type).Moves Retains :=
  fun world => (newTracker_extends type world).retains fun _ _ _ h => h

theorem substitute_retains (id : CacheId) (base : TransportType) (session : SessionId) :
    (substitute id base session).Moves Retains := by
  intro world
  refine (substitute_extends id base session world).retains ?_
  cases own : base.isBoundTo session with
  | true => exact on_substitute_self own id world ▸ fun _ _ _ h => h
  | false =>
    cases made : (world.caches.get id).find? ⟨base.id, session⟩ with
    | some type => exact on_substitute_made own made ▸ fun _ _ _ h => h
    | none => exact on_substitute_new own made ▸ fun _ _ _ h => h

theorem drainForGuard_retains (id : TrackerId) : (drainForGuard id).Moves Retains := by
  intro world
  have kept := drainForGuard_keepsRegistries id world
  refine (drainForGuard_keepsSupplies id world).retains fun registry key known => ?_
  rwa [kept.get_eq]

theorem shelvedStub_retains (id : ShelfId) (key : StubKey) :
    (shelvedStub id key).Moves Retains := by
  intro world
  refine (shelvedStub_extends id key world).retains fun other name type made => ?_
  cases held : (world.shelves.get id).stub? key with
  | some stub =>
    rw [on_shelvedStub_held held]
    exact made
  | none =>
    rw [on_shelvedStub_new held, Store.get_put]
    split
    · rename_i same
      subst same
      have different : key ≠ name := by
        rintro rfl
        rw [held] at made
        cases made
      rw [StubShelf.stub?_withStub, if_neg different, made]
    · exact made

theorem stub?_shelvedStub (id : ShelfId) (key : StubKey) (world : World) :
    (((shelvedStub id key).on world).2.shelves.get id).stub? key =
      some ((shelvedStub id key).on world).1 := by
  cases held : (world.shelves.get id).stub? key with
  | some stub => rw [on_shelvedStub_held held, held]
  | none =>
    rw [on_shelvedStub_new held, Store.get_put, if_pos rfl, StubShelf.stub?_withStub, if_pos rfl]

end Action

theorem Attempt.install_retains (id : RegistryId) (key : SeamKey) (binding : Binding) :
    (install id key binding).Moves Retains := by
  intro world
  refine (install_keepsSupplies id key binding world).retains fun other name known => ?_
  cases held : (world.registries.get id).slot? key with
  | none => rwa [on_install_missing held]
  | some slot =>
    rw [on_install held]
    simp only [withRegistry, Store.get_put]
    split
    · rename_i same
      rwa [Registry.contains_withBinding, same]
    · exact known

theorem Scope.enterAll_retains (session : SessionId) (resources entered : List Resource) :
    (enterAll session resources entered).Moves Retains :=
  enterAll_moves Action.emit_retains Attempt.install_retains Action.drainForGuard_retains session
    resources entered

theorem Scope.close_retains (scope : Scope) : scope.close.Moves Retains :=
  close_moves Action.emit_retains Attempt.install_retains Action.drainForGuard_retains scope

theorem Adapter.standard_retains (backend : Backend) : (Adapter.standard backend).Moves Retains :=
  standard_moves (R := Retains) Action.freshFunction_retains Action.newTracker_retains
    Action.substitute_retains backend

theorem StubCatalog.on_transport_standard (id : ShelfId) (backend : Backend) (name : String)
    (world : World) :
    ((StubCatalog.standard id).transport? backend name).on world =
      (some ((Action.shelvedStub id ⟨backend, name⟩).on world).1,
        ((Action.shelvedStub id ⟨backend, name⟩).on world).2) :=
  rfl

/-- From a world on, the catalog undoes nothing, as it has no means to, gives the same answer to a
name whenever it is asked, and lends types with an empty session slot. -/
structure StubCatalog.LendsSteadily (stubs : StubCatalog) (start : World) : Prop where
  moves : stubs.Moves Retains
  steady {world later : World} {backend : Backend} {name : String} :
    start.Retains world → ((stubs.transport? backend name).on world).2.Retains later →
      ((stubs.transport? backend name).on later).1 = ((stubs.transport? backend name).on world).1
  unbound {world : World} {backend : Backend} {name : String} {stub : TransportType} :
    start.Retains world → ((stubs.transport? backend name).on world).1 = some stub →
      stub.slot = .unbound

theorem StubCatalog.standard_steady {id : ShelfId} {start : World}
    (unbound : (start.shelves.get id).IsUnbound) :
    (StubCatalog.standard id).LendsSteadily start where
  moves := by
    constructor
    · exact fun _ _ => Action.moves_map some (Action.shelvedStub_retains id _)
    · exact fun _ _ _ _ => Action.moves_bind Action.freshFunction_retains fun _ =>
        Action.moves_pure _
  steady {world later backend name} _ kept := by
    have held := kept.stubs id _ _ (Action.stub?_shelvedStub id ⟨backend, name⟩ world)
    rw [on_transport_standard, on_transport_standard, Action.on_shelvedStub_held held]
  unbound {world backend name stub} kept lent := by
    have empty := Action.slot_shelvedStub (kept.unbound id unbound) ⟨backend, name⟩
    rw [on_transport_standard] at lent
    rwa [Option.some.inj lent] at empty

/-- A catalog with some of the names left out lends the others as it did before. -/
theorem StubCatalog.LendsSteadily.restrict {stubs : StubCatalog} {start : World}
    (lends : stubs.LendsSteadily start) (keeps intercepts : Backend → String → Bool) :
    (stubs.restrict keeps intercepts).LendsSteadily start where
  moves := restrict_moves lends.moves keeps intercepts
  steady {world later backend name} reached kept := by
    simp only [StubCatalog.restrict] at kept ⊢
    split at kept
    · rename_i allowed
      simp only [allowed, if_true]
      exact lends.steady reached kept
    · rename_i refused
      simp only [refused]
      rfl
  unbound {world backend name stub} reached lent := by
    simp only [StubCatalog.restrict] at lent
    split at lent
    · exact lends.unbound reached lent
    · cases lent

end TransportSeams

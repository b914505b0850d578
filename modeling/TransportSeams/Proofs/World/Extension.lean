import TransportSeams.Proofs.Adapter.Effects

/-!
What building adds to a world and what it leaves alone. It makes stubs, substitutes, functions and
trackers; registries, pools, connections and the trackers that were there stay as they are, and so
do the substitutes: a type keeps the substitute that it got. A substitute is bound to its session.
-/

set_option autoImplicit false
set_option relaxedAutoImplicit false

namespace TransportSeams

def SubstituteCache.IsBound (cache : SubstituteCache) : Prop :=
  ∀ key type, cache.find? key = some type → type.owner? = some key.session

def StubShelf.IsUnbound (shelf : StubShelf) : Prop :=
  ∀ key type, shelf.stub? key = some type → type.slot = .unbound

namespace World

/-- The second world has what the first one has, and what building may have added. -/
structure Extends (old new : World) : Prop where
  registries : new.registries = old.registries
  pools : new.pools = old.pools
  nextConnection : new.nextConnection = old.nextConnection
  nextObject : old.nextObject ≤ new.nextObject
  trackers (id : TrackerId) :
    id.index < old.nextObject → new.trackers.get id = old.trackers.get id
  substitutes (id : CacheId) (key : SubstituteKey) (type : TransportType) :
    (old.caches.get id).find? key = some type → (new.caches.get id).find? key = some type
  bound (id : CacheId) : (old.caches.get id).IsBound → (new.caches.get id).IsBound
  unbound (id : ShelfId) : (old.shelves.get id).IsUnbound → (new.shelves.get id).IsUnbound

instance : IsPreorder World Extends where
  refl _ :=
    ⟨rfl, rfl, rfl, Nat.le_refl _, fun _ _ => rfl, fun _ _ _ h => h, fun _ h => h, fun _ h => h⟩
  trans _ _ _ first second :=
    { registries := second.registries.trans first.registries
      pools := second.pools.trans first.pools
      nextConnection := second.nextConnection.trans first.nextConnection
      nextObject := Nat.le_trans first.nextObject second.nextObject
      trackers := fun id earlier =>
        (second.trackers id (Nat.lt_of_lt_of_le earlier first.nextObject)).trans
          (first.trackers id earlier)
      substitutes := fun id key type made =>
        second.substitutes id key type (first.substitutes id key type made)
      bound := fun id bound => second.bound id (first.bound id bound)
      unbound := fun id unbound => second.unbound id (first.unbound id unbound) }

end World

open World

namespace Action

theorem emit_extends (event : Event) : (emit event).Moves Extends :=
  fun _ =>
    ⟨rfl, rfl, rfl, Nat.le_refl _, fun _ _ => rfl, fun _ _ _ h => h, fun _ h => h, fun _ h => h⟩

theorem freshFunction_extends : freshFunction.Moves Extends :=
  fun _ =>
    ⟨rfl, rfl, rfl, Nat.le_refl _, fun _ _ => rfl, fun _ _ _ h => h, fun _ h => h, fun _ h => h⟩

theorem newTracker_extends (type : TransportType) : (newTracker type).Moves Extends := by
  intro world
  refine ⟨rfl, rfl, rfl, Nat.le_succ _, ?_, fun _ _ _ h => h, fun _ h => h, fun _ h => h⟩
  intro id earlier
  have other : (⟨world.nextObject⟩ : TrackerId) ≠ id := by
    rintro rfl
    exact Nat.lt_irrefl _ earlier
  exact (Store.get_put world.trackers _ id (Tracker.new type)).trans (if_neg other)

theorem on_substitute_self {base : TransportType} {session : SessionId}
    (own : base.isBoundTo session = true) (id : CacheId) (world : World) :
    (substitute id base session).on world = (base, world) := by
  rw [substitute, on_ite, if_pos own, on_pure]

theorem on_substitute_made {id : CacheId} {base type : TransportType} {session : SessionId}
    {world : World} (foreign : base.isBoundTo session = false)
    (made : (world.caches.get id).find? ⟨base.id, session⟩ = some type) :
    (substitute id base session).on world = (type, world) := by
  rw [substitute, on_ite, if_neg (by simp [foreign]), on_bind, on_cache, made, on_pure]

theorem on_substitute_new {id : CacheId} {base : TransportType} {session : SessionId}
    {world : World} (foreign : base.isBoundTo session = false)
    (missing : (world.caches.get id).find? ⟨base.id, session⟩ = none) :
    (substitute id base session).on world =
      (base.substitute session world.nextTransport,
        { world with
          nextTransport := ⟨world.nextTransport.index + 1⟩
          caches := world.caches.put id ((world.caches.get id).insert ⟨base.id, session⟩
            (base.substitute session world.nextTransport)) }) := by
  rw [substitute, on_ite, if_neg (by simp [foreign]), on_bind, on_cache, missing]
  rfl

theorem substitute_extends (id : CacheId) (base : TransportType) (session : SessionId) :
    (substitute id base session).Moves Extends := by
  intro world
  cases own : base.isBoundTo session with
  | true =>
    rw [on_substitute_self own]
    exact refl_of Extends world
  | false =>
    cases made : (world.caches.get id).find? ⟨base.id, session⟩ with
    | some type =>
      rw [on_substitute_made own made]
      exact refl_of Extends world
    | none =>
      rw [on_substitute_new own made]
      refine ⟨rfl, rfl, rfl, Nat.le_refl _, fun _ _ => rfl, ?_, ?_, fun _ h => h⟩
      · intro other key type held
        rw [Store.get_put]
        split
        · rename_i same
          subst same
          have different : (⟨base.id, session⟩ : SubstituteKey) ≠ key := by
            rintro rfl
            rw [made] at held
            cases held
          rw [SubstituteCache.find?_insert, if_neg different, held]
        · exact held
      · intro other bound
        rw [Store.get_put]
        split
        · rename_i same
          subst same
          intro key type held
          rw [SubstituteCache.find?_insert] at held
          split at held
          · rename_i here
            cases held
            exact here ▸ rfl
          · exact bound key type held
        · exact bound

theorem owner?_substitute {id : CacheId} {world : World} (bound : (world.caches.get id).IsBound)
    (base : TransportType) (session : SessionId) :
    ((substitute id base session).on world).1.owner? = some session := by
  cases own : base.isBoundTo session with
  | true =>
    rw [on_substitute_self own]
    exact of_decide_eq_true own
  | false =>
    cases made : (world.caches.get id).find? ⟨base.id, session⟩ with
    | some type =>
      rw [on_substitute_made own made]
      exact bound _ type made
    | none =>
      rw [on_substitute_new own made]
      rfl

theorem find?_substitute {base : TransportType} {session : SessionId}
    (foreign : base.isBoundTo session = false) (id : CacheId) (world : World) :
    (((substitute id base session).on world).2.caches.get id).find? ⟨base.id, session⟩ =
      some ((substitute id base session).on world).1 := by
  cases made : (world.caches.get id).find? ⟨base.id, session⟩ with
  | some type => rw [on_substitute_made foreign made, made]
  | none =>
    rw [on_substitute_new foreign made, Store.get_put, if_pos rfl, SubstituteCache.find?_insert,
      if_pos rfl]

theorem on_substitute_again (id : CacheId) (base : TransportType) (session : SessionId)
    {world later : World} (grown : ((substitute id base session).on world).2.Extends later) :
    (substitute id base session).on later = (((substitute id base session).on world).1, later) := by
  cases own : base.isBoundTo session with
  | true => rw [on_substitute_self own, on_substitute_self own]
  | false => exact on_substitute_made own (grown.substitutes id _ _ (find?_substitute own id world))

theorem on_shelvedStub_held {id : ShelfId} {key : StubKey} {type : TransportType} {world : World}
    (held : (world.shelves.get id).stub? key = some type) :
    (shelvedStub id key).on world = (type, world) := by
  rw [shelvedStub, on_bind, on_shelf, held, on_pure]

theorem on_shelvedStub_new {id : ShelfId} {key : StubKey} {world : World}
    (missing : (world.shelves.get id).stub? key = none) :
    (shelvedStub id key).on world =
      ((world.shelves.get id).newStub key world.nextTransport,
        { world with
          nextTransport := ⟨world.nextTransport.index + 1⟩
          shelves := world.shelves.put id ((world.shelves.get id).withStub key
            ((world.shelves.get id).newStub key world.nextTransport)) }) := by
  rw [shelvedStub, on_bind, on_shelf, missing]
  rfl

theorem shelvedStub_extends (id : ShelfId) (key : StubKey) :
    (shelvedStub id key).Moves Extends := by
  intro world
  cases held : (world.shelves.get id).stub? key with
  | some type =>
    rw [on_shelvedStub_held held]
    exact refl_of Extends world
  | none =>
    rw [on_shelvedStub_new held]
    refine ⟨rfl, rfl, rfl, Nat.le_refl _, fun _ _ => rfl, fun _ _ _ h => h, fun _ h => h, ?_⟩
    intro other unbound
    rw [Store.get_put]
    split
    · rename_i same
      subst same
      intro name type found
      rw [StubShelf.stub?_withStub] at found
      split at found
      · cases found
        exact StubShelf.slot_newStub _ _ _
      · exact unbound name type found
    · exact unbound

theorem slot_shelvedStub {id : ShelfId} {world : World}
    (unbound : (world.shelves.get id).IsUnbound) (key : StubKey) :
    ((shelvedStub id key).on world).1.slot = .unbound := by
  rw [shelvedStub, on_bind, on_shelf]
  split
  · rename_i type held
    exact unbound key type held
  · exact StubShelf.slot_newStub _ _ _

end Action

theorem StubCatalog.standard_extends (id : ShelfId) : (StubCatalog.standard id).Moves Extends where
  transport _ _ := Action.moves_map some (Action.shelvedStub_extends id _)
  intercept _ _ _ _ :=
    Action.moves_bind Action.freshFunction_extends fun _ => Action.moves_pure _

theorem Adapter.standard_extends (backend : Backend) : (Adapter.standard backend).Moves Extends :=
  standard_moves (R := Extends) Action.freshFunction_extends Action.newTracker_extends
    Action.substitute_extends backend

end TransportSeams

import Mathlib.Order.Defs.Unbundled
import TransportSeams.World.Basic

/-!
Actions and attempts as functions on worlds. `on` gives the result of an action together with the
world that it leaves, with one equation for every way in which actions are put together; `Moves`
says that an action moves every world along a relation.
-/

set_option autoImplicit false
set_option relaxedAutoImplicit false

namespace TransportSeams

variable {α β : Type}

namespace World

def withRegistry (world : World) (id : RegistryId) (registry : Registry) : World :=
  { world with registries := world.registries.put id registry }

def withPool (world : World) (id : PoolId) (pool : Pool) : World :=
  { world with pools := world.pools.put id pool }

def withTracker (world : World) (id : TrackerId) (tracker : Tracker) : World :=
  { world with trackers := world.trackers.put id tracker }

def telling (world : World) (event : Event) : World :=
  { world with trace := event :: world.trace }

@[simp]
theorem registries_withPool (world : World) (id : PoolId) (pool : Pool) :
    (world.withPool id pool).registries = world.registries :=
  rfl

end World

namespace Action

def on (action : Action α) (world : World) : α × World :=
  (action.run world).run

/-- Whatever the world, the one that is left stands in the relation to it. -/
def Moves (R : World → World → Prop) (action : Action α) : Prop :=
  ∀ world, R world (action.on world).2

@[simp]
theorem on_pure (a : α) (world : World) : (pure a : Action α).on world = (a, world) :=
  rfl

@[simp]
theorem on_bind (action : Action α) (next : α → Action β) (world : World) :
    (action >>= next).on world = (next (action.on world).1).on (action.on world).2 :=
  rfl

@[simp]
theorem on_map (change : α → β) (action : Action α) (world : World) :
    (change <$> action).on world = (change (action.on world).1, (action.on world).2) :=
  rfl

@[simp]
theorem on_ite (p : Prop) [Decidable p] (a b : Action α) (world : World) :
    (if p then a else b).on world = if p then a.on world else b.on world := by
  split <;> rfl

@[simp]
theorem on_freshFunction (world : World) :
    freshFunction.on world =
      (world.nextFunction, { world with nextFunction := ⟨world.nextFunction.index + 1⟩ }) :=
  rfl

@[simp]
theorem on_emit (event : Event) (world : World) :
    (emit event).on world = ((), world.telling event) :=
  rfl

@[simp]
theorem on_registry (id : RegistryId) (world : World) :
    (registry id).on world = (world.registries.get id, world) :=
  rfl

@[simp]
theorem on_putRegistry (id : RegistryId) (value : Registry) (world : World) :
    (putRegistry id value).on world = ((), world.withRegistry id value) :=
  rfl

@[simp]
theorem on_pool (id : PoolId) (world : World) : (pool id).on world = (world.pools.get id, world) :=
  rfl

@[simp]
theorem on_putPool (id : PoolId) (value : Pool) (world : World) :
    (putPool id value).on world = ((), world.withPool id value) :=
  rfl

@[simp]
theorem on_tracker (id : TrackerId) (world : World) :
    (tracker id).on world = (world.trackers.get id, world) :=
  rfl

@[simp]
theorem on_putTracker (id : TrackerId) (value : Tracker) (world : World) :
    (putTracker id value).on world = ((), world.withTracker id value) :=
  rfl

@[simp]
theorem on_cache (id : CacheId) (world : World) :
    (cache id).on world = (world.caches.get id, world) :=
  rfl

@[simp]
theorem on_shelf (id : ShelfId) (world : World) :
    (shelf id).on world = (world.shelves.get id, world) :=
  rfl

theorem moves_map {R : World → World → Prop} {action : Action α} (change : α → β)
    (moves : Moves R action) : Moves R (change <$> action) :=
  moves

theorem moves_ite {R : World → World → Prop} {p : Prop} [Decidable p] {a b : Action α}
    (ha : Moves R a) (hb : Moves R b) : Moves R (if p then a else b) := by
  split
  · exact ha
  · exact hb

section Preorder

variable {R : World → World → Prop} [IsPreorder World R]

theorem moves_pure (a : α) : Moves R (pure a : Action α) :=
  fun world => refl_of R world

theorem moves_bind {action : Action α} {next : α → Action β} (first : Moves R action)
    (rest : ∀ a, Moves R (next a)) : Moves R (action >>= next) :=
  fun world => trans_of R (first world) (rest _ _)

end Preorder

end Action

namespace Attempt

def on (attempt : Attempt α) (world : World) : Except SeamError α × World :=
  attempt.outcome.on world

def Moves (R : World → World → Prop) (attempt : Attempt α) : Prop :=
  ∀ world, R world (attempt.on world).2

@[simp]
theorem on_pure (a : α) (world : World) : (pure a : Attempt α).on world = (.ok a, world) :=
  rfl

@[simp]
theorem on_throw (error : SeamError) (world : World) :
    (throw error : Attempt α).on world = (.error error, world) :=
  rfl

theorem on_bind (attempt : Attempt α) (next : α → Attempt β) (world : World) :
    (attempt >>= next).on world =
      match attempt.on world with
      | (.ok a, left) => (next a).on left
      | (.error error, left) => (.error error, left) := by
  show (ExceptT.bindCont next (attempt.on world).1).on (attempt.on world).2 = _
  rcases attempt.on world with ⟨outcome, left⟩
  cases outcome <;> rfl

@[simp]
theorem on_map (change : α → β) (attempt : Attempt α) (world : World) :
    (change <$> attempt).on world = ((attempt.on world).1.map change, (attempt.on world).2) := by
  rw [← bind_pure_comp, on_bind]
  rcases attempt.on world with ⟨outcome, left⟩
  cases outcome <;> rfl

@[simp]
theorem on_lift (action : Action α) (world : World) :
    (liftM action : Attempt α).on world = (.ok (action.on world).1, (action.on world).2) :=
  rfl

@[simp]
theorem on_ofExcept (result : Except SeamError α) (world : World) :
    (ofExcept result).on world = (result, world) :=
  rfl

@[simp]
theorem on_outcome (attempt : Attempt α) (world : World) :
    attempt.outcome.on world = attempt.on world :=
  rfl

@[simp]
theorem on_observe (attempt : Attempt α) (world : World) :
    attempt.observe.on world = (.ok (attempt.on world).1, (attempt.on world).2) :=
  rfl

theorem moves_lift {R : World → World → Prop} {action : Action α} (moves : action.Moves R) :
    Moves R (liftM action : Attempt α) :=
  moves

section Preorder

variable {R : World → World → Prop} [IsPreorder World R]

theorem moves_pure (a : α) : Moves R (pure a : Attempt α) :=
  fun world => refl_of R world

theorem moves_throw (error : SeamError) : Moves R (throw error : Attempt α) :=
  fun world => refl_of R world

theorem moves_ofExcept (result : Except SeamError α) : Moves R (ofExcept result) :=
  fun world => refl_of R world

theorem moves_bind {attempt : Attempt α} {next : α → Attempt β} (first : Moves R attempt)
    (rest : ∀ a, Moves R (next a)) : Moves R (attempt >>= next) := by
  intro world
  have moved := first world
  rw [on_bind]
  generalize attempt.on world = turn at moved ⊢
  obtain ⟨outcome, left⟩ := turn
  cases outcome with
  | ok a => exact trans_of R moved (rest a left)
  | error error => exact moved

end Preorder

end Attempt

end TransportSeams

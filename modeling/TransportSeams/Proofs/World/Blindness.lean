import TransportSeams.Proofs.Evaluation

/-!
Blindness. An action is blind when nothing that it gives, does or tells depends on what the world
was told before: from two worlds that differ in their traces alone it gives the same, and leaves
worlds that differ in their traces alone, which have grown by the same events. Steps that are blind
are blind together.
-/

set_option autoImplicit false
set_option relaxedAutoImplicit false

namespace TransportSeams

variable {α β : Type}

namespace World

def SameButTrace (a b : World) : Prop :=
  b = { a with trace := b.trace }

variable {a b c : World}

theorem SameButTrace.refl (world : World) : world.SameButTrace world :=
  rfl

theorem SameButTrace.trans (first : a.SameButTrace b) (second : b.SameButTrace c) :
    a.SameButTrace c := by
  unfold SameButTrace at *
  rw [second, first]

theorem SameButTrace.symm (same : a.SameButTrace b) : b.SameButTrace a := by
  unfold SameButTrace at *
  rw [same]

theorem sameButTrace_withTrace (world : World) (trace : List Event) :
    world.SameButTrace { world with trace := trace } :=
  rfl

end World

open World

/-- Two runs that started in the worlds `a` and `b` have given the same, and have left worlds that
differ in their traces alone, which have grown by the same events. -/
structure Parallel (a b : World) (first second : α × World) : Prop where
  answers : first.1 = second.1
  same : first.2.SameButTrace second.2
  told : ∃ told, first.2.trace = told ++ a.trace ∧ second.2.trace = told ++ b.trace

namespace Action

variable {action : Action α}

/-- What the action gives, does and tells does not depend on what the world was told before. -/
def IsBlind (action : Action α) : Prop :=
  ∀ a b : World, a.SameButTrace b → Parallel a b (action.on a) (action.on b)

theorem isBlind_of_quiet
    (quiet : ∀ (world : World) (trace : List Event), action.on { world with trace := trace } =
      ((action.on world).1, { (action.on world).2 with trace := trace }))
    (silent : ∀ world : World, (action.on world).2.trace = world.trace) : action.IsBlind := by
  intro a b same
  have moved := quiet a b.trace
  rw [← same] at moved
  rw [moved]
  exact ⟨rfl, rfl, [], silent a, rfl⟩

theorem isBlind_pure (a : α) : IsBlind (pure a : Action α) :=
  isBlind_of_quiet (fun _ _ => rfl) fun _ => rfl

theorem isBlind_bind_given {next : α → Action β} (first : action.IsBlind)
    (rest : ∀ world, (next (action.on world).1).IsBlind) : (action >>= next).IsBlind := by
  intro a b same
  obtain ⟨answers, between, told, toldFirst, toldSecond⟩ := first a b same
  obtain ⟨answers', after, told', toldFirst', toldSecond'⟩ := rest a _ _ between
  rw [on_bind, on_bind, ← answers]
  refine ⟨answers', after, told' ++ told, ?_, ?_⟩
  · rw [toldFirst', toldFirst, List.append_assoc]
  · rw [toldSecond', toldSecond, List.append_assoc]

theorem isBlind_bind {next : α → Action β} (first : action.IsBlind)
    (rest : ∀ a, (next a).IsBlind) : (action >>= next).IsBlind :=
  isBlind_bind_given first fun _ => rest _

theorem isBlind_map (change : α → β) (blind : action.IsBlind) : (change <$> action).IsBlind :=
  fun a b same => ⟨congrArg change (blind a b same).answers, (blind a b same).same,
    (blind a b same).told⟩

theorem isBlind_ite {p : Prop} [Decidable p] {other : Action α} (yes : action.IsBlind)
    (no : other.IsBlind) : (if p then action else other).IsBlind := by
  split
  · exact yes
  · exact no

theorem emit_isBlind (event : Event) : (emit event).IsBlind := by
  intro a b same
  rw [same]
  exact ⟨rfl, rfl, [event], rfl, rfl⟩

theorem registry_isBlind (id : RegistryId) : (registry id).IsBlind :=
  isBlind_of_quiet (fun _ _ => rfl) fun _ => rfl

theorem putRegistry_isBlind (id : RegistryId) (value : Registry) : (putRegistry id value).IsBlind :=
  isBlind_of_quiet (fun _ _ => rfl) fun _ => rfl

theorem pool_isBlind (id : PoolId) : (pool id).IsBlind :=
  isBlind_of_quiet (fun _ _ => rfl) fun _ => rfl

theorem putPool_isBlind (id : PoolId) (value : Pool) : (putPool id value).IsBlind :=
  isBlind_of_quiet (fun _ _ => rfl) fun _ => rfl

theorem tracker_isBlind (id : TrackerId) : (tracker id).IsBlind :=
  isBlind_of_quiet (fun _ _ => rfl) fun _ => rfl

theorem putTracker_isBlind (id : TrackerId) (value : Tracker) : (putTracker id value).IsBlind :=
  isBlind_of_quiet (fun _ _ => rfl) fun _ => rfl

theorem cache_isBlind (id : CacheId) : (cache id).IsBlind :=
  isBlind_of_quiet (fun _ _ => rfl) fun _ => rfl

theorem putCache_isBlind (id : CacheId) (value : SubstituteCache) : (putCache id value).IsBlind :=
  isBlind_of_quiet (fun _ _ => rfl) fun _ => rfl

theorem shelf_isBlind (id : ShelfId) : (shelf id).IsBlind :=
  isBlind_of_quiet (fun _ _ => rfl) fun _ => rfl

theorem putShelf_isBlind (id : ShelfId) (value : StubShelf) : (putShelf id value).IsBlind :=
  isBlind_of_quiet (fun _ _ => rfl) fun _ => rfl

theorem freshTransport_isBlind : freshTransport.IsBlind :=
  isBlind_of_quiet (fun _ _ => rfl) fun _ => rfl

theorem freshConnection_isBlind : freshConnection.IsBlind :=
  isBlind_of_quiet (fun _ _ => rfl) fun _ => rfl

theorem freshFunction_isBlind : freshFunction.IsBlind :=
  isBlind_of_quiet (fun _ _ => rfl) fun _ => rfl

theorem newRegistry_isBlind : newRegistry.IsBlind :=
  isBlind_of_quiet (fun _ _ => rfl) fun _ => rfl

theorem newPool_isBlind (pool : Pool) : (newPool pool).IsBlind :=
  isBlind_of_quiet (fun _ _ => rfl) fun _ => rfl

theorem newTracker_isBlind (type : TransportType) : (newTracker type).IsBlind :=
  isBlind_of_quiet (fun _ _ => rfl) fun _ => rfl

theorem newCache_isBlind : newCache.IsBlind :=
  isBlind_of_quiet (fun _ _ => rfl) fun _ => rfl

theorem newShelf_isBlind : newShelf.IsBlind :=
  isBlind_of_quiet (fun _ _ => rfl) fun _ => rfl

end Action

namespace Attempt

variable {attempt : Attempt α}

def IsBlind (attempt : Attempt α) : Prop :=
  attempt.outcome.IsBlind

theorem isBlind_lift {action : Action α} (blind : action.IsBlind) :
    IsBlind (liftM action : Attempt α) :=
  Action.isBlind_map Except.ok blind

theorem isBlind_ofExcept (result : Except SeamError α) : IsBlind (ofExcept result) :=
  Action.isBlind_pure result

theorem isBlind_pure (a : α) : IsBlind (pure a : Attempt α) :=
  isBlind_ofExcept (.ok a)

theorem isBlind_throw (error : SeamError) : IsBlind (throw error : Attempt α) :=
  isBlind_ofExcept (.error error)

theorem isBlind_bind {next : α → Attempt β} (first : attempt.IsBlind)
    (rest : ∀ a, (next a).IsBlind) : (attempt >>= next).IsBlind := by
  have steps : (attempt >>= next).outcome = attempt.outcome >>= ExceptT.bindCont next := rfl
  rw [IsBlind, steps]
  refine Action.isBlind_bind first fun outcome => ?_
  cases outcome with
  | ok a => exact rest a
  | error error => exact Action.isBlind_pure _

theorem isBlind_lift_bind {action : Action α} {next : α → Attempt β} (first : action.IsBlind)
    (rest : ∀ world, (next (action.on world).1).IsBlind) :
    IsBlind ((liftM action : Attempt α) >>= next) := by
  have steps : ((liftM action : Attempt α) >>= next).outcome =
      action >>= fun a => (next a).outcome := rfl
  rw [IsBlind, steps]
  exact Action.isBlind_bind_given first rest

theorem isBlind_observe (blind : attempt.IsBlind) : attempt.observe.IsBlind :=
  Action.isBlind_map Except.ok blind

end Attempt

end TransportSeams

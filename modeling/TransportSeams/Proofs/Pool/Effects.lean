import TransportSeams.Pool.Checkout
import TransportSeams.Pool.Guard
import TransportSeams.Proofs.World.Telling

/-!
What using a pool may change, whatever primitives are installed at its seams: pools, trackers, the
supply of connections and the trace, which is not told of patches. Using a pool moves the world
along every relation that its single steps move it along.
-/

set_option autoImplicit false
set_option relaxedAutoImplicit false

namespace TransportSeams

open World

namespace World

/-- The second world differs from the first one at most in what using a pool changes, and every
tracker still tracks its type. -/
structure DiffersAtPools (old new : World) : Prop where
  apart : new =
    { old with
      pools := new.pools, trackers := new.trackers, nextConnection := new.nextConnection
      trace := new.trace }
  types (id : TrackerId) :
    (new.trackers.get id).connectionType = (old.trackers.get id).connectionType

instance : IsPreorder World DiffersAtPools where
  refl _ := ⟨rfl, fun _ => rfl⟩
  trans _ _ _ first second := by
    refine ⟨?_, fun id => (second.types id).trans (first.types id)⟩
    rw [second.apart, first.apart]

theorem DiffersAtPools.registries {old new : World} (differs : old.DiffersAtPools new) :
    new.registries = old.registries := by
  rw [differs.apart]

end World

theorem Tracker.connectionType_add (tracker : Tracker) (pool : PoolId) (connection : Connection) :
    (tracker.add pool connection).connectionType = tracker.connectionType := by
  unfold add
  split <;> rfl

namespace Action

theorem emit_differsAtPools (event : Event) : (emit event).Moves DiffersAtPools :=
  fun _ => ⟨rfl, fun _ => rfl⟩

theorem putPool_differsAtPools (id : PoolId) (pool : Pool) :
    (putPool id pool).Moves DiffersAtPools :=
  fun _ => ⟨rfl, fun _ => rfl⟩

theorem perform_differsAtPools (id : PoolId) (action : PoolAction) :
    (perform id action).Moves DiffersAtPools :=
  fun _ => ⟨rfl, fun _ => rfl⟩

theorem putTracker_differsAtPools {id : TrackerId} {tracker : Tracker} {world : World}
    (same : tracker.connectionType = (world.trackers.get id).connectionType) :
    world.DiffersAtPools ((putTracker id tracker).on world).2 := by
  refine ⟨rfl, fun other => ?_⟩
  simp only [on_putTracker, withTracker, Store.get_put]
  split
  · rename_i here
    rw [← here, same]
  · rfl

theorem track_differsAtPools (id : TrackerId) (pool : PoolId) (connection : Connection) :
    (track id pool connection).Moves DiffersAtPools :=
  fun _ => putTracker_differsAtPools (Tracker.connectionType_add _ _ _)

end Action

section Moves

variable {R : World → World → Prop} [IsPreorder World R]
  (events : ∀ event, event.isOfPatch = false → (Action.emit event).Moves R)
  (pools : ∀ id pool, (Action.putPool id pool).Moves R)
  (clears : ∀ (id : TrackerId) (world : World),
    R world ((Action.putTracker id (world.trackers.get id).cleared).on world).2)
  (tracks : ∀ id pool connection, (Action.track id pool connection).Moves R)
  (connections : Action.freshConnection.Moves R)
  (performs : ∀ id action, (Action.perform id action).Moves R)

namespace Action

include pools

theorem takeLive?_moves (registryId : RegistryId) (id : PoolId) :
    (takeLive? registryId id).Moves R := by
  refine moves_bind (fun world => refl_of R world) fun registry => ?_
  refine moves_bind (fun world => refl_of R world) fun pool => ?_
  split <;> exact moves_bind (pools _ _) fun _ => moves_pure _

theorem drainPools_moves (type : TransportType) (entries : List (PoolId × List ConnectionId))
    (report : DrainReport) : (drainPools type entries report).Moves R := by
  induction entries generalizing report with
  | nil => exact moves_pure report
  | cons entry rest ih =>
    refine moves_bind (fun world => refl_of R world) fun pool => ?_
    exact moves_bind (pools _ _) fun _ => ih _

include clears

theorem drain_moves (id : TrackerId) : (drain id).Moves R :=
  fun world => trans_of R (clears id world) (drainPools_moves pools _ _ _ _)

include events

theorem drainForGuard_moves (id : TrackerId) : (drainForGuard id).Moves R := by
  refine moves_bind (fun world => refl_of R world) fun tracker => ?_
  apply moves_bind (drain_moves pools clears id)
  intro report
  exact moves_ite (events _ rfl) (moves_pure _)

end Action

open Attempt

section Creating

include tracks connections performs

theorem Create.run_moves (registryId : RegistryId) (id : PoolId) (primitive : Create) :
    (primitive.run registryId id).Moves R := by
  induction primitive with
  | stock =>
    refine moves_bind (fun world => refl_of R world) fun pool => ?_
    refine moves_bind (fun world => refl_of R world) fun registry => ?_
    refine moves_bind (moves_ofExcept _) fun type => moves_lift ?_
    exact Action.moves_bind connections fun _ => Action.moves_pure _
  | tracked inner tracker ih =>
    apply moves_bind ih
    intro connection
    exact moves_bind (moves_lift (tracks _ _ _)) fun _ => moves_pure _
  | custom action => exact performs id action

theorem Attempt.newConnection_moves (registryId : RegistryId) (id : PoolId) :
    (newConnection registryId id).Moves R := by
  refine moves_bind (fun world => refl_of R world) fun pool => ?_
  refine moves_bind (fun world => refl_of R world) fun registry => ?_
  split
  · exact Create.run_moves tracks connections performs registryId id _
  · exact moves_throw _
  · exact moves_throw _

end Creating

include events in
theorem Attempt.skipStale_moves {original : Attempt Connection} (moves : original.Moves R)
    (className : String) (expected : TransportType) (limit left : Nat) :
    (skipStale original className expected limit left).Moves R := by
  induction left with
  | zero =>
    apply moves_bind moves
    intro connection
    split
    · exact moves_pure _
    · exact moves_throw _
  | succ left ih =>
    apply moves_bind moves
    intro connection
    split
    · exact moves_pure _
    · exact moves_bind (moves_lift (events _ rfl)) fun _ => ih

include events pools tracks connections performs

theorem Acquire.run_moves (registryId : RegistryId) (id : PoolId) (primitive : Acquire) :
    (primitive.run registryId id).Moves R := by
  induction primitive with
  | stock =>
    refine moves_bind (moves_lift (Action.takeLive?_moves pools registryId id)) fun taken => ?_
    split
    · exact moves_pure _
    · exact newConnection_moves tracks connections performs registryId id
  | checked inner fallback limit ih =>
    refine moves_bind (fun world => refl_of R world) fun pool => ?_
    refine moves_bind (fun world => refl_of R world) fun registry => ?_
    exact moves_bind (moves_ofExcept _) fun expected => skipStale_moves events ih _ _ _ _
  | custom action => exact performs id action

theorem Attempt.getConnection_moves (registryId : RegistryId) (id : PoolId) :
    (getConnection registryId id).Moves R := by
  refine moves_bind (fun world => refl_of R world) fun pool => ?_
  refine moves_bind (fun world => refl_of R world) fun registry => ?_
  split
  · exact Acquire.run_moves events pools tracks connections performs registryId id _
  · exact moves_throw _
  · exact moves_throw _

end Moves

theorem Action.freshConnection_differsAtPools : freshConnection.Moves DiffersAtPools :=
  fun _ => ⟨rfl, fun _ => rfl⟩

theorem Action.drainForGuard_differsAtPools (id : TrackerId) :
    (drainForGuard id).Moves DiffersAtPools :=
  drainForGuard_moves (fun event _ => emit_differsAtPools event) putPool_differsAtPools
    (fun _ _ => putTracker_differsAtPools rfl) id

theorem Attempt.newConnection_differsAtPools (registryId : RegistryId) (id : PoolId) :
    (newConnection registryId id).Moves DiffersAtPools :=
  newConnection_moves Action.track_differsAtPools Action.freshConnection_differsAtPools
    Action.perform_differsAtPools registryId id

theorem Attempt.getConnection_differsAtPools (registryId : RegistryId) (id : PoolId) :
    (getConnection registryId id).Moves DiffersAtPools :=
  getConnection_moves (fun event _ => Action.emit_differsAtPools event)
    Action.putPool_differsAtPools Action.track_differsAtPools Action.freshConnection_differsAtPools
    Action.perform_differsAtPools registryId id

theorem Action.drainForGuard_keepsSilent (id : TrackerId) : (drainForGuard id).Moves KeepsSilent :=
  drainForGuard_moves emit_keepsSilent (fun _ _ _ => .of_trace rfl) (fun _ _ => .of_trace rfl) id

theorem Attempt.newConnection_keepsSilent (registryId : RegistryId) (id : PoolId) :
    (newConnection registryId id).Moves KeepsSilent :=
  newConnection_moves (fun _ _ _ _ => .of_trace rfl) (fun _ => .of_trace rfl)
    (fun _ _ _ => .of_trace rfl) registryId id

theorem Attempt.getConnection_keepsSilent (registryId : RegistryId) (id : PoolId) :
    (getConnection registryId id).Moves KeepsSilent :=
  getConnection_moves Action.emit_keepsSilent (fun _ _ _ => .of_trace rfl)
    (fun _ _ _ _ => .of_trace rfl) (fun _ => .of_trace rfl) (fun _ _ _ => .of_trace rfl)
    registryId id

end TransportSeams

import TransportSeams.Pool.Checkout
import TransportSeams.Pool.Guard
import TransportSeams.Proofs.World.Blindness

/-!
Pools are used blindly. Handing out, opening, tracking and draining connections depends on the
seams, the pools and the trackers, and not on what was told before, whatever primitives are
installed: a client's own primitive sees the pool alone.
-/

set_option autoImplicit false
set_option relaxedAutoImplicit false

namespace TransportSeams

namespace Action

theorem track_isBlind (id : TrackerId) (pool : PoolId) (connection : Connection) :
    (track id pool connection).IsBlind :=
  isBlind_bind (tracker_isBlind id) fun _ => putTracker_isBlind id _

theorem untrack_isBlind (id : TrackerId) (pool : PoolId) (connection : Connection) :
    (untrack id pool connection).IsBlind :=
  isBlind_bind (tracker_isBlind id) fun _ => putTracker_isBlind id _

theorem putIdle_isBlind (id : PoolId) (connection : Connection) :
    (putIdle id connection).IsBlind :=
  isBlind_bind (pool_isBlind id) fun _ => putPool_isBlind id _

theorem takeIdle?_isBlind (id : PoolId) : (takeIdle? id).IsBlind := by
  refine isBlind_bind (pool_isBlind id) fun pool => ?_
  split
  · exact isBlind_pure none
  · exact isBlind_bind (putPool_isBlind id _) fun _ => isBlind_pure _

theorem takeLive?_isBlind (registryId : RegistryId) (id : PoolId) :
    (takeLive? registryId id).IsBlind := by
  refine isBlind_bind (registry_isBlind registryId) fun registry => ?_
  refine isBlind_bind (pool_isBlind id) fun pool => ?_
  split <;> exact isBlind_bind (putPool_isBlind id _) fun _ => isBlind_pure _

theorem perform_isBlind (id : PoolId) (action : PoolAction) : (perform id action).IsBlind :=
  isBlind_of_quiet (fun _ _ => rfl) fun _ => rfl

theorem drainPools_isBlind (type : TransportType) (entries : List (PoolId × List ConnectionId))
    (report : DrainReport) : (drainPools type entries report).IsBlind := by
  induction entries generalizing report with
  | nil => exact isBlind_pure report
  | cons entry rest ih =>
    refine isBlind_bind (pool_isBlind entry.1) fun pool => ?_
    exact isBlind_bind (putPool_isBlind _ _) fun _ => ih _

theorem drain_isBlind (id : TrackerId) : (drain id).IsBlind := by
  refine isBlind_bind (tracker_isBlind id) fun tracker => ?_
  exact isBlind_bind (putTracker_isBlind id _) fun _ => drainPools_isBlind _ _ _

theorem drainForGuard_isBlind (id : TrackerId) : (drainForGuard id).IsBlind := by
  refine isBlind_bind (tracker_isBlind id) fun tracker => ?_
  refine isBlind_bind (drain_isBlind id) fun report => ?_
  exact isBlind_ite (emit_isBlind _) (isBlind_pure _)

end Action

open Attempt

theorem Attempt.openBound_isBlind (registryId : RegistryId) (id : PoolId) :
    (openBound registryId id).IsBlind := by
  refine isBlind_bind (isBlind_lift (Action.pool_isBlind id)) fun pool => ?_
  refine isBlind_bind (isBlind_lift (Action.registry_isBlind registryId)) fun registry => ?_
  refine isBlind_bind (isBlind_ofExcept _) fun type => isBlind_lift ?_
  exact Action.isBlind_bind Action.freshConnection_isBlind fun _ => Action.isBlind_pure _

theorem Create.run_isBlind (registryId : RegistryId) (id : PoolId) (primitive : Create) :
    (primitive.run registryId id).IsBlind := by
  induction primitive with
  | stock => exact openBound_isBlind registryId id
  | tracked inner tracker ih =>
    refine isBlind_bind ih fun connection => ?_
    exact isBlind_bind (isBlind_lift (Action.track_isBlind _ _ _)) fun _ => isBlind_pure _
  | custom action => exact Action.perform_isBlind id action

namespace Attempt

theorem newConnection_isBlind (registryId : RegistryId) (id : PoolId) :
    (newConnection registryId id).IsBlind := by
  refine isBlind_bind (isBlind_lift (Action.pool_isBlind id)) fun pool => ?_
  refine isBlind_bind (isBlind_lift (Action.registry_isBlind registryId)) fun registry => ?_
  split
  · exact Create.run_isBlind registryId id _
  · exact isBlind_throw _
  · exact isBlind_throw _

theorem reuseOrOpen_isBlind (registryId : RegistryId) (id : PoolId) :
    (reuseOrOpen registryId id).IsBlind := by
  refine isBlind_bind (isBlind_lift (Action.takeLive?_isBlind registryId id)) fun taken => ?_
  split
  · exact isBlind_pure _
  · exact newConnection_isBlind registryId id

theorem skipStale_isBlind {original : Attempt Connection} (blind : original.IsBlind)
    (className : String) (expected : TransportType) (limit left : Nat) :
    (skipStale original className expected limit left).IsBlind := by
  induction left with
  | zero =>
    refine isBlind_bind blind fun connection => ?_
    split
    · exact isBlind_pure connection
    · exact isBlind_throw _
  | succ left ih =>
    refine isBlind_bind blind fun connection => ?_
    split
    · exact isBlind_pure connection
    · exact isBlind_bind (isBlind_lift (Action.emit_isBlind _)) fun _ => ih

theorem checked_isBlind {original : Attempt Connection} (blind : original.IsBlind)
    (fallback : SeamKey) (limit : Nat) (registryId : RegistryId) (id : PoolId) :
    (checked original fallback limit registryId id).IsBlind := by
  refine isBlind_bind (isBlind_lift (Action.pool_isBlind id)) fun pool => ?_
  refine isBlind_bind (isBlind_lift (Action.registry_isBlind registryId)) fun registry => ?_
  exact isBlind_bind (isBlind_ofExcept _) fun expected => skipStale_isBlind blind _ _ _ _

end Attempt

theorem Acquire.run_isBlind (registryId : RegistryId) (id : PoolId) (primitive : Acquire) :
    (primitive.run registryId id).IsBlind := by
  induction primitive with
  | stock => exact reuseOrOpen_isBlind registryId id
  | checked inner fallback limit ih => exact checked_isBlind ih fallback limit registryId id
  | custom action => exact Action.perform_isBlind id action

theorem Attempt.getConnection_isBlind (registryId : RegistryId) (id : PoolId) :
    (getConnection registryId id).IsBlind := by
  refine isBlind_bind (isBlind_lift (Action.pool_isBlind id)) fun pool => ?_
  refine isBlind_bind (isBlind_lift (Action.registry_isBlind registryId)) fun registry => ?_
  split
  · exact Acquire.run_isBlind registryId id _
  · exact isBlind_throw _
  · exact isBlind_throw _

end TransportSeams

import TransportSeams.Patch.Basic
import TransportSeams.Patch.Restore
import TransportSeams.Pool.Guard

/-!
What a session enters when it starts and leaves when it ends. Entering a pool guard does nothing;
leaving it drains its tracker.
-/

set_option autoImplicit false
set_option relaxedAutoImplicit false

namespace TransportSeams

/-- A guard over a tracker; the type is the one that the tracker tracks. -/
structure PoolGuard where
  tracker : TrackerId
  connectionType : TransportType

inductive Resource where
  | patch (handle : PatchHandle)
  | poolGuard (guard : PoolGuard)
  | forceRestore (restore : ForceRestore)

namespace Resource

def label : Resource → String
  | .patch handle => handle.label
  | .poolGuard guard => "pool guard " ++ guard.connectionType.name
  | .forceRestore _ => "force restore"

def enter : Resource → Attempt Resource
  | .patch handle => return .patch (← handle.enter)
  | .poolGuard guard => return .poolGuard guard
  | .forceRestore restore => return .forceRestore (← restore.enter)

def exit : Resource → Attempt Resource
  | .patch handle => return .patch (← handle.exit)
  | .poolGuard guard => do
    Action.drainForGuard guard.tracker
    return .poolGuard guard
  | .forceRestore restore => return .forceRestore (← restore.exit)

end Resource

end TransportSeams

import TransportSeams.Proofs.Pool.Blindness
import TransportSeams.Scope.Basic

/-!
Resources are entered and left blindly: registering, installing, entering, leaving and closing tell
a great deal between the steps that they make, and none of it comes back to them.
-/

set_option autoImplicit false
set_option relaxedAutoImplicit false

namespace TransportSeams

namespace Attempt

theorem registerBackend_isBlind (id : RegistryId) (manifest : Manifest) :
    (registerBackend id manifest).IsBlind := by
  refine isBlind_bind (isBlind_lift (Action.registry_isBlind id)) fun registry => ?_
  split
  · exact isBlind_throw _
  · refine isBlind_bind (isBlind_lift (Action.putRegistry_isBlind id _)) fun _ => ?_
    exact isBlind_lift (Action.emit_isBlind _)

theorem install_isBlind (id : RegistryId) (key : SeamKey) (binding : Binding) :
    (install id key binding).IsBlind := by
  refine isBlind_bind (isBlind_lift (Action.registry_isBlind id)) fun registry => ?_
  split
  · exact isBlind_throw _
  · exact isBlind_bind (isBlind_lift (Action.putRegistry_isBlind id _)) fun _ => isBlind_pure _

end Attempt

theorem Action.resetToPristine_isBlind (id : RegistryId) : (resetToPristine id).IsBlind := by
  refine isBlind_bind (registry_isBlind id) fun registry => ?_
  refine isBlind_bind (putRegistry_isBlind id _) fun _ => ?_
  dsimp only
  split
  · exact isBlind_pure _
  · exact isBlind_bind (emit_isBlind _) fun _ => isBlind_pure _

open Attempt

namespace PatchHandle

theorem enter_isBlind (handle : PatchHandle) : handle.enter.IsBlind := by
  unfold enter
  split
  · exact isBlind_pure handle
  · refine isBlind_bind (install_isBlind _ _ _) fun previous => ?_
    exact isBlind_bind (isBlind_lift (Action.emit_isBlind _)) fun _ => isBlind_pure _

theorem exit_isBlind (handle : PatchHandle) : handle.exit.IsBlind := by
  unfold exit
  split
  · exact isBlind_pure handle
  · refine isBlind_bind (isBlind_lift (Action.emit_isBlind _)) fun _ => ?_
    exact isBlind_bind (install_isBlind _ _ _) fun _ => isBlind_pure _

end PatchHandle

namespace ForceRestore

theorem installPristine_isBlind (id : RegistryId) (keys : List SeamKey)
    (saved : List (SeamKey × Binding)) : (installPristine id keys saved).IsBlind := by
  induction keys generalizing saved with
  | nil => exact isBlind_pure saved
  | cons key rest ih =>
    refine isBlind_bind (isBlind_lift (Action.registry_isBlind id)) fun registry => ?_
    split
    · exact ih saved
    · exact isBlind_bind (install_isBlind _ _ _) fun previous => ih _

theorem reinstall_isBlind (id : RegistryId) (saved : List (SeamKey × Binding)) :
    (reinstall id saved).IsBlind := by
  induction saved with
  | nil => exact Action.isBlind_pure none
  | cons entry rest ih =>
    refine Action.isBlind_bind (install_isBlind _ _ _) fun outcome => ?_
    refine Action.isBlind_bind ih fun later => ?_
    split <;> exact Action.isBlind_pure _

theorem enter_isBlind (restore : ForceRestore) : restore.enter.IsBlind := by
  unfold enter
  split
  · exact isBlind_pure restore
  · refine isBlind_bind (isBlind_lift (Action.registry_isBlind _)) fun registry => ?_
    refine isBlind_bind (installPristine_isBlind _ _ _) fun saved => ?_
    exact isBlind_bind (isBlind_lift (Action.emit_isBlind _)) fun _ => isBlind_pure _

theorem exit_isBlind (restore : ForceRestore) : restore.exit.IsBlind := by
  unfold exit
  split
  · exact isBlind_pure restore
  · refine isBlind_bind (isBlind_lift (reinstall_isBlind _ _)) fun failure => ?_
    split
    · exact isBlind_throw _
    · exact isBlind_pure _

end ForceRestore

namespace Resource

theorem enter_isBlind (resource : Resource) : resource.enter.IsBlind := by
  cases resource with
  | patch handle => exact isBlind_bind handle.enter_isBlind fun _ => isBlind_pure _
  | poolGuard guard => exact isBlind_pure _
  | forceRestore restore => exact isBlind_bind restore.enter_isBlind fun _ => isBlind_pure _

theorem exit_isBlind (resource : Resource) : resource.exit.IsBlind := by
  cases resource with
  | patch handle => exact isBlind_bind handle.exit_isBlind fun _ => isBlind_pure _
  | poolGuard guard =>
    refine isBlind_bind (isBlind_lift (Action.drainForGuard_isBlind guard.tracker)) fun _ => ?_
    exact isBlind_pure _
  | forceRestore restore => exact isBlind_bind restore.exit_isBlind fun _ => isBlind_pure _

end Resource

namespace Scope

theorem exitAll_isBlind (session : SessionId) (resources : List Resource)
    (report : TeardownReport) : (exitAll session resources report).IsBlind := by
  induction resources generalizing report with
  | nil => exact Action.isBlind_pure report
  | cons resource rest ih =>
    refine Action.isBlind_bind resource.exit_isBlind fun outcome => ?_
    split
    · exact ih _
    · exact Action.isBlind_bind (Action.emit_isBlind _) fun _ => ih _

theorem unwind_isBlind (scope : Scope) : scope.unwind.IsBlind := by
  refine Action.isBlind_ite (Action.isBlind_pure _) ?_
  exact Action.isBlind_bind (exitAll_isBlind _ _ _) fun _ => Action.isBlind_pure _

theorem close_isBlind (scope : Scope) : scope.close.IsBlind :=
  Action.isBlind_map Prod.fst scope.unwind_isBlind

theorem enterAll_isBlind (session : SessionId) (resources entered : List Resource) :
    (enterAll session resources entered).IsBlind := by
  induction resources generalizing entered with
  | nil => exact isBlind_pure _
  | cons resource rest ih =>
    refine isBlind_bind (isBlind_observe resource.enter_isBlind) fun outcome => ?_
    split
    · exact ih _
    · refine isBlind_bind (isBlind_lift (Action.emit_isBlind _)) fun _ => ?_
      exact isBlind_bind (isBlind_lift (unwind_isBlind _)) fun _ => isBlind_throw _

theorem enter_isBlind (session : SessionId) (resources : List Resource) :
    (Scope.enter session resources).IsBlind :=
  enterAll_isBlind session resources []

end Scope

end TransportSeams

import TransportSeams.Proofs.Scope.Effects
import TransportSeams.Scope.Basic

/-!
What entering scopes, leaving them and using pools never touches: the supply of objects, the caches
and shelves, the types of trackers and the backends that registries have recorded.
-/

set_option autoImplicit false
set_option relaxedAutoImplicit false

namespace TransportSeams

namespace World

structure KeepsSupplies (old new : World) : Prop where
  nextObject : new.nextObject = old.nextObject
  caches : new.caches = old.caches
  shelves : new.shelves = old.shelves
  types (id : TrackerId) :
    (new.trackers.get id).connectionType = (old.trackers.get id).connectionType
  records (id : RegistryId) : (new.registries.get id).backends = (old.registries.get id).backends

instance : IsPreorder World KeepsSupplies where
  refl _ := ⟨rfl, rfl, rfl, fun _ => rfl, fun _ => rfl⟩
  trans _ _ _ first second :=
    ⟨second.nextObject.trans first.nextObject, second.caches.trans first.caches,
      second.shelves.trans first.shelves, fun id => (second.types id).trans (first.types id),
      fun id => (second.records id).trans (first.records id)⟩

theorem DiffersAtPools.keepsSupplies {old new : World} (differs : old.DiffersAtPools new) :
    old.KeepsSupplies new := by
  refine ⟨?_, ?_, ?_, differs.types, ?_⟩
  · rw [differs.apart]
  · rw [differs.apart]
  · rw [differs.apart]
  · intro id
    rw [differs.registries]

end World

open World

section Moves

variable {R : World → World → Prop} [IsPreorder World R]
  (events : ∀ event, (Action.emit event).Moves R)
  (installs : ∀ id key binding, (Attempt.install id key binding).Moves R)

open Attempt

include events installs

theorem PatchHandle.enter_moves (handle : PatchHandle) : handle.enter.Moves R := by
  unfold enter
  split
  · exact moves_pure _
  · apply moves_bind (installs _ _ _)
    intro previous
    exact moves_bind (moves_lift (events _)) fun _ => moves_pure _

theorem PatchHandle.exit_moves (handle : PatchHandle) : handle.exit.Moves R := by
  unfold exit
  split
  · exact moves_pure _
  · apply moves_bind (moves_lift (events _))
    intro _
    exact moves_bind (installs _ _ _) fun _ => moves_pure _

omit events in
theorem ForceRestore.installPristine_moves (id : RegistryId) (keys : List SeamKey)
    (saved : List (SeamKey × Binding)) : (installPristine id keys saved).Moves R := by
  induction keys generalizing saved with
  | nil => exact moves_pure saved
  | cons key rest ih =>
    refine moves_bind (fun world => refl_of _ world) fun registry => ?_
    split
    · exact ih saved
    · exact moves_bind (installs _ _ _) fun _ => ih _

omit events in
theorem ForceRestore.reinstall_moves (id : RegistryId) (saved : List (SeamKey × Binding)) :
    (reinstall id saved).Moves R := by
  induction saved with
  | nil => exact Action.moves_pure none
  | cons entry rest ih =>
    apply Action.moves_bind (installs id entry.1 entry.2)
    intro outcome
    apply Action.moves_bind ih
    intro later
    split <;> exact Action.moves_pure _

theorem ForceRestore.enter_moves (restore : ForceRestore) : restore.enter.Moves R := by
  unfold enter
  split
  · exact moves_pure _
  · refine moves_bind (fun world => refl_of _ world) fun registry => ?_
    apply moves_bind (installPristine_moves installs _ _ _)
    intro saved
    exact moves_bind (moves_lift (events _)) fun _ => moves_pure _

omit events in
theorem ForceRestore.exit_moves (restore : ForceRestore) : restore.exit.Moves R := by
  unfold exit
  split
  · exact moves_pure _
  · apply moves_bind (moves_lift (reinstall_moves installs _ _))
    intro error?
    split
    · exact moves_throw _
    · exact moves_pure _

theorem Resource.enter_moves (resource : Resource) : resource.enter.Moves R := by
  cases resource with
  | patch handle => exact moves_bind (handle.enter_moves events installs) fun _ => moves_pure _
  | poolGuard guard => exact moves_pure _
  | forceRestore restore =>
    exact moves_bind (restore.enter_moves events installs) fun _ => moves_pure _

variable (drains : ∀ id, (Action.drainForGuard id).Moves R)

include drains

theorem Resource.exit_moves (resource : Resource) : resource.exit.Moves R := by
  cases resource with
  | patch handle => exact moves_bind (handle.exit_moves events installs) fun _ => moves_pure _
  | poolGuard guard =>
    exact moves_bind (moves_lift (drains guard.tracker)) fun _ => moves_pure _
  | forceRestore restore =>
    exact moves_bind (restore.exit_moves installs) fun _ => moves_pure _

namespace Scope

theorem exitAll_moves (session : SessionId) (entered : List Resource) (report : TeardownReport) :
    (exitAll session entered report).Moves R := by
  induction entered generalizing report with
  | nil => exact Action.moves_pure report
  | cons resource rest ih =>
    apply Action.moves_bind (resource.exit_moves events installs drains)
    intro outcome
    split
    · exact ih _
    · exact Action.moves_bind (events _) fun _ => ih _

theorem unwind_moves (scope : Scope) : scope.unwind.Moves R := by
  refine Action.moves_ite (Action.moves_pure _) ?_
  exact Action.moves_bind (exitAll_moves events installs drains _ _ _) fun _ => Action.moves_pure _

theorem enterAll_moves (session : SessionId) (resources entered : List Resource) :
    (enterAll session resources entered).Moves R := by
  induction resources generalizing entered with
  | nil => exact moves_pure _
  | cons resource rest ih =>
    refine moves_bind (fun world => resource.enter_moves events installs world) fun outcome => ?_
    split
    · exact ih _
    · apply moves_bind (moves_lift (events _))
      intro _
      exact moves_bind (moves_lift (unwind_moves events installs drains _)) fun _ => moves_throw _

theorem close_moves (scope : Scope) : scope.close.Moves R :=
  Action.moves_map Prod.fst (scope.unwind_moves events installs drains)

end Scope

end Moves

theorem Attempt.install_differsAtSeams (id : RegistryId) (key : SeamKey) (binding : Binding) :
    (install id key binding).Moves DiffersAtSeams := by
  intro world
  cases held : (world.registries.get id).slot? key with
  | none =>
    rw [on_install_missing held]
    exact refl_of DiffersAtSeams world
  | some slot =>
    rw [on_install held]
    exact differsAtSeams_withRegistry _ _ _

theorem Action.emit_keepsSupplies (event : Event) : (emit event).Moves KeepsSupplies :=
  fun _ => ⟨rfl, rfl, rfl, fun _ => rfl, fun _ => rfl⟩

theorem Attempt.install_keepsSupplies (id : RegistryId) (key : SeamKey) (binding : Binding) :
    (install id key binding).Moves KeepsSupplies := by
  intro world
  cases held : (world.registries.get id).slot? key with
  | none =>
    rw [on_install_missing held]
    exact refl_of KeepsSupplies world
  | some slot =>
    rw [on_install held]
    refine ⟨rfl, rfl, rfl, fun _ => rfl, fun other => ?_⟩
    simp only [withRegistry, Store.get_put]
    split
    · rename_i here
      rw [← here]
      rfl
    · rfl

theorem Action.drainForGuard_keepsSupplies (id : TrackerId) :
    (drainForGuard id).Moves KeepsSupplies :=
  fun world => (drainForGuard_differsAtPools id world).keepsSupplies

theorem Scope.enterAll_keepsSupplies (session : SessionId) (resources entered : List Resource) :
    (enterAll session resources entered).Moves KeepsSupplies :=
  enterAll_moves Action.emit_keepsSupplies Attempt.install_keepsSupplies
    Action.drainForGuard_keepsSupplies session resources entered

theorem Scope.close_keepsSupplies (scope : Scope) : scope.close.Moves KeepsSupplies :=
  close_moves Action.emit_keepsSupplies Attempt.install_keepsSupplies
    Action.drainForGuard_keepsSupplies scope

end TransportSeams

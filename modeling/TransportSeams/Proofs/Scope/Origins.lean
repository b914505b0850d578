import TransportSeams.Proofs.Registry.Resetting
import TransportSeams.Proofs.Scope.Supplies

/-!
What entering and leaving never change in any registry: which seams there are, with the backends and
the pristine values that they were registered with, and the records. Resetting keeps them as well.
-/

set_option autoImplicit false
set_option relaxedAutoImplicit false

namespace TransportSeams

namespace World

def KeepsOrigins (old new : World) : Prop :=
  ∀ id, (new.registries.get id).SameOrigins (old.registries.get id)

instance : IsPreorder World KeepsOrigins where
  refl _ _ := ⟨rfl, rfl⟩
  trans _ _ _ first second id :=
    ⟨(second id).origins.trans (first id).origins, (second id).backends.trans (first id).backends⟩

theorem KeepsRegistries.keepsOrigins {old new : World} (kept : old.KeepsRegistries new) :
    old.KeepsOrigins new := by
  intro id
  rw [kept]
  exact ⟨rfl, rfl⟩

theorem keepsOrigins_withRegistry (world : World) {id : RegistryId} {registry : Registry}
    (same : registry.SameOrigins (world.registries.get id)) :
    world.KeepsOrigins (world.withRegistry id registry) := by
  intro other
  rw [withRegistry, Store.get_put]
  split
  · rename_i here
    exact here ▸ same
  · exact ⟨rfl, rfl⟩

end World

open World

theorem Action.emit_keepsOrigins (event : Event) : (emit event).Moves KeepsOrigins :=
  fun world => refl_of KeepsOrigins world

theorem Attempt.install_keepsOrigins (id : RegistryId) (key : SeamKey) (binding : Binding) :
    (install id key binding).Moves KeepsOrigins := by
  intro world
  cases held : (world.registries.get id).slot? key with
  | none =>
    rw [on_install_missing held]
    exact refl_of KeepsOrigins world
  | some slot =>
    rw [on_install held]
    exact world.keepsOrigins_withRegistry (Registry.sameOrigins_withBinding _ key binding)

theorem Action.drainForGuard_keepsOrigins (id : TrackerId) :
    (drainForGuard id).Moves KeepsOrigins :=
  fun world => (drainForGuard_keepsRegistries id world).keepsOrigins

theorem Action.resetToPristine_keepsOrigins (id : RegistryId) :
    (resetToPristine id).Moves KeepsOrigins := by
  intro world
  obtain ⟨left, run, registries, -⟩ := on_resetToPristine id world
  have kept := world.keepsOrigins_withRegistry
    (Registry.sameOrigins_resetToPristine (world.registries.get id))
  rw [run]
  intro other
  rw [registries]
  exact kept other

theorem Resource.enter_keepsOrigins (resource : Resource) : resource.enter.Moves KeepsOrigins :=
  resource.enter_moves Action.emit_keepsOrigins Attempt.install_keepsOrigins

theorem Resource.exit_keepsOrigins (resource : Resource) : resource.exit.Moves KeepsOrigins :=
  resource.exit_moves Action.emit_keepsOrigins Attempt.install_keepsOrigins
    Action.drainForGuard_keepsOrigins

theorem ForceRestore.exit_keepsOrigins (restore : ForceRestore) :
    restore.exit.Moves KeepsOrigins :=
  restore.exit_moves Attempt.install_keepsOrigins

theorem Scope.enterAll_keepsOrigins (session : SessionId) (resources entered : List Resource) :
    (enterAll session resources entered).Moves KeepsOrigins :=
  enterAll_moves Action.emit_keepsOrigins Attempt.install_keepsOrigins
    Action.drainForGuard_keepsOrigins session resources entered

theorem Scope.close_keepsOrigins (scope : Scope) : scope.close.Moves KeepsOrigins :=
  scope.close_moves Action.emit_keepsOrigins Attempt.install_keepsOrigins
    Action.drainForGuard_keepsOrigins

end TransportSeams

import TransportSeams.World.Basic

/-!
The operations on a shared registry.
-/

set_option autoImplicit false
set_option relaxedAutoImplicit false

namespace TransportSeams

namespace Attempt

def registerBackend (id : RegistryId) (manifest : Manifest) : Attempt Unit := do
  match (← Action.registry id).register manifest with
  | .error error => throw error
  | .ok (registry, registration) =>
    Action.putRegistry id registry
    Action.emit <|
      .backendRegistered manifest.backend manifest.version registration.newSeams
        registration.seamCount

/-- Puts a binding at a seam and gives back the one that was there. -/
def install (id : RegistryId) (key : SeamKey) (binding : Binding) : Attempt Binding := do
  match (← Action.registry id).install? key binding with
  | none => throw (.unknownSeam key)
  | some (previous, registry) =>
    Action.putRegistry id registry
    return previous

end Attempt

namespace Action

/-- Puts every seam back to its pristine value for good, and counts those that changed. -/
def resetToPristine (id : RegistryId) : Action Nat := do
  let registry ← Action.registry id
  let changed := registry.patchedKeys
  putRegistry id registry.resetToPristine
  unless changed = [] do
    emit (.registryReset changed)
  return changed.length

end Action

end TransportSeams

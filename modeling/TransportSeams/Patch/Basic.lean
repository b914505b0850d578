import TransportSeams.Registry.Operations
import TransportSeams.Substitute.Resolve
import TransportSeams.Text.Quoted

/-!
Patches. A specification says what to install at a seam; a handle does it for one session, entering
and leaving as often as it is told. It saves the binding that it replaces and puts that one back.
-/

set_option autoImplicit false
set_option relaxedAutoImplicit false

namespace TransportSeams

structure PatchSpec where
  key : SeamKey
  replacement : SeamValue

structure PatchHandle where
  registry : RegistryId
  key : SeamKey
  replacement : SeamValue
  owner : SessionId
  /-- The binding that was replaced, while the patch is entered. -/
  saved? : Option Binding

namespace PatchHandle

def isEntered (handle : PatchHandle) : Bool :=
  handle.saved?.isSome

def label (handle : PatchHandle) : String :=
  "patch " ++ handle.key.text

def binding (handle : PatchHandle) : Binding :=
  ⟨handle.replacement, some handle.owner⟩

def enter (handle : PatchHandle) : Attempt PatchHandle := do
  match handle.saved? with
  | some _ => return handle
  | none =>
    let previous ← Attempt.install handle.registry handle.key handle.binding
    Action.emit <|
      .patchEntered handle.key handle.owner handle.replacement.describe previous.owner?
    return { handle with saved? := some previous }

def exit (handle : PatchHandle) : Attempt PatchHandle := do
  match handle.saved? with
  | none => return handle
  | some previous =>
    Action.emit (.patchExited handle.key handle.owner previous.value.describe)
    let _ ← Attempt.install handle.registry handle.key previous
    return { handle with saved? := none }

end PatchHandle

namespace Action

/-- The handle of a patch for a session, with its types bound; none where the registry does not
hold the seam. -/
def buildPatch? (registryId : RegistryId) (cacheId : CacheId) (session : SessionId)
    (spec : PatchSpec) : Action (Option PatchHandle) := do
  if (← Action.registry registryId).contains spec.key then
    let replacement ← spec.replacement.resolve cacheId session
    return some ⟨registryId, spec.key, replacement, session, none⟩
  else
    emit (.seamSkipped spec.key session)
    return none

end Action

end TransportSeams

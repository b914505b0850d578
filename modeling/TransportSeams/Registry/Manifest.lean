import TransportSeams.Error
import TransportSeams.Seam.Value

/-!
Manifests: what a client stack says of itself when it is registered. A manifest is supported unless
its version is below the minimum of its backend or it still has the vendored pool layout.
-/

set_option autoImplicit false
set_option relaxedAutoImplicit false

namespace TransportSeams

structure Manifest where
  backend : Backend
  version : BackendVersion
  legacyLayout : Bool
  seams : List (SeamKey × SeamValue)

/-- The oldest supported version. -/
def Backend.minimumVersion? : Backend → Option BackendVersion
  | .sessions => some ⟨2, 16, 2⟩
  | _ => none

namespace Manifest

def new (backend : Backend) (version : BackendVersion) : Manifest :=
  ⟨backend, version, false, []⟩

def outdated? (manifest : Manifest) : Option Incompatibility :=
  manifest.backend.minimumVersion?.bind fun minimum =>
    if manifest.version.isBefore minimum then
      some (.outdated manifest.backend manifest.version minimum)
    else none

def vendored? (manifest : Manifest) : Option Incompatibility :=
  if manifest.backend = .aws ∧ manifest.legacyLayout = true then
    some (.vendoredLayout manifest.backend manifest.version)
  else none

def incompatibility? (manifest : Manifest) : Option Incompatibility :=
  manifest.outdated?.or manifest.vendored?

def check (manifest : Manifest) : Except SeamError Unit :=
  match manifest.incompatibility? with
  | some fault => .error (.incompatibleBackend fault)
  | none => .ok ()

end Manifest

end TransportSeams

import TransportSeams.Patch.Basic
import TransportSeams.Stub.Catalog

/-!
Recording sessions: an identity, patches of the session's own, and the catalog of its stubs.
-/

set_option autoImplicit false
set_option relaxedAutoImplicit false

namespace TransportSeams

structure Session where
  id : SessionId
  customPatches : List PatchSpec
  stubs : StubCatalog

namespace Session

def new (id : SessionId) (stubs : StubCatalog) : Session :=
  ⟨id, [], stubs⟩

def withCustomPatch (session : Session) (spec : PatchSpec) : Session :=
  { session with customPatches := session.customPatches ++ [spec] }

end Session

end TransportSeams

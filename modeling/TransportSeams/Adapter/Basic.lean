import TransportSeams.Scope.Resource
import TransportSeams.Session.Basic

/-!
Adapters know the seams of one client stack. For a session an adapter emits the patches to build and
the guards to put after them.
-/

set_option autoImplicit false
set_option relaxedAutoImplicit false

namespace TransportSeams

/-- What an adapter builds for. -/
structure AdapterContext where
  registry : RegistryId
  session : Session
  cache : CacheId
  acquireLimit : Nat

structure AdapterOutput where
  specs : List PatchSpec
  guards : List PoolGuard

namespace AdapterOutput

def empty : AdapterOutput :=
  ⟨[], []⟩

def isEmpty (output : AdapterOutput) : Bool :=
  output.specs.isEmpty && output.guards.isEmpty

def ofSpecs (specs : List PatchSpec) : AdapterOutput :=
  ⟨specs, []⟩

def append (a b : AdapterOutput) : AdapterOutput :=
  ⟨a.specs ++ b.specs, a.guards ++ b.guards⟩

instance : Append AdapterOutput :=
  ⟨append⟩

end AdapterOutput

structure Adapter where
  backend : Backend
  /-- Every seam that the adapter may patch, in the order in which it emits them. -/
  declaredSeams : List SeamKey
  build : AdapterContext → Action AdapterOutput

end TransportSeams

import TransportSeams.Adapter.Direct
import TransportSeams.Pool.Checkout

/-!
Adapters for stacks with connection pools. Pools keep idle connections from one session to the next,
so besides the connection types the adapter wraps each pool's create primitive, to track what the
session opens, and its acquire primitive, to skip connections of other types; a guard for each
create primitive drains the pools at the end. A class's connection type and create seam come before
its acquire seam.
-/

set_option autoImplicit false
set_option relaxedAutoImplicit false

namespace TransportSeams.Adapter

/-- A pool class of a pooling stack, and the connection type of the same stack that it opens. -/
structure PoolClass where
  name : String
  connection : String

/-- The connection types of a pooling stack with their stubs: both names of the secure type share
one stub. -/
def connectionNames : List (String × String) :=
  [("VerifiedHttpsConnection", "HttpsConnection"), ("HttpConnection", "HttpConnection"),
    ("HttpsConnection", "HttpsConnection")]

def poolClasses : List PoolClass :=
  [⟨"HttpConnectionPool", "HttpConnection"⟩, ⟨"HttpsConnectionPool", "HttpsConnection"⟩]

def connectionTarget (backend : Backend) : String :=
  backend.name ++ ".connection"

def probeTarget (backend : Backend) : String :=
  backend.name ++ ".connectionpool"

def PoolClass.target (poolClass : PoolClass) (backend : Backend) : String :=
  backend.name ++ "." ++ poolClass.name

def PoolClass.seams (poolClass : PoolClass) (backend : Backend) : List SeamKey :=
  let target := poolClass.target backend
  [Seam.connectionType target, Seam.create target, Seam.acquire target]

def connectionSeams (backend : Backend) : List TypeSeam :=
  connectionNames.map fun (name, stub) => ⟨⟨connectionTarget backend, name⟩, stub⟩

/-- Wraps the create primitive at a seam, with a tracker and a guard for it. -/
def trackCreate (context : AdapterContext) (substitute : TransportType) (key : SeamKey) :
    Action AdapterOutput := do
  match (← Action.registry context.registry).value? key with
  | some (.create _ primitive) =>
    let tracker ← Action.newTracker substitute
    let function ← Action.freshFunction
    return ⟨[⟨key, .create function (.tracked primitive tracker)⟩], [⟨tracker, substitute⟩]⟩
  | _ => return .empty

/-- Narrows the acquire primitive at a seam to the connection type of its pool. -/
def checkAcquire (context : AdapterContext) (fallback key : SeamKey) : Action AdapterOutput := do
  match (← Action.registry context.registry).value? key with
  | some (.acquire _ primitive) =>
    let function ← Action.freshFunction
    return .ofSpecs
      [⟨key, .acquire function (.checked primitive fallback context.acquireLimit)⟩]
  | _ => return .empty

def buildPoolClass (context : AdapterContext) (backend : Backend) (poolClass : PoolClass) :
    Action AdapterOutput := do
  match ← context.session.stubs.transport? backend poolClass.connection with
  | none => return .empty
  | some stub =>
    let target := poolClass.target backend
    let substitute ← Action.substitute context.cache stub context.session.id
    let swapped := AdapterOutput.ofSpecs [⟨Seam.connectionType target, .transport stub⟩]
    let tracked ← trackCreate context substitute (Seam.create target)
    let checked ←
      checkAcquire context ⟨connectionTarget backend, poolClass.connection⟩ (Seam.acquire target)
    return swapped ++ tracked ++ checked

def buildPoolClasses (context : AdapterContext) (backend : Backend) :
    List PoolClass → Action AdapterOutput
  | [] => return .empty
  | poolClass :: rest => do
    let output ← buildPoolClass context backend poolClass
    let others ← buildPoolClasses context backend rest
    return output ++ others

/-- Substitutes hold no socket, so during a session no connection counts as dropped. -/
def neverDropped : Action Probe := do
  return ⟨← Action.freshFunction, fun _ => false⟩

def pooling (backend : Backend) : Adapter where
  backend := backend
  declaredSeams :=
    (connectionSeams backend).map TypeSeam.key ++ [Seam.probe (probeTarget backend)] ++
      poolClasses.flatMap (·.seams backend)
  build context := do
    let types ← swapTypes context backend (connectionSeams backend)
    let probe ← neverDropped
    let classes ← buildPoolClasses context backend poolClasses
    return .ofSpecs (types ++ [⟨Seam.probe (probeTarget backend), .probe probe⟩]) ++ classes

def sessions : Adapter :=
  pooling .sessions

def pooled : Adapter :=
  pooling .pooled

end TransportSeams.Adapter

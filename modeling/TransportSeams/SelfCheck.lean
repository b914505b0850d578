import TransportSeams.Reference.Manifests
import TransportSeams.Scope.Builder

/-!
The self-check: it registers every enabled reference backend in a registry of its own, runs one
session over it that uses every pool and every handler, and checks afterwards that every seam is
pristine again and that no pool holds a connection of the session.
-/

set_option autoImplicit false
set_option relaxedAutoImplicit false

namespace TransportSeams

namespace SelfCheckSummary

def text (summary : SelfCheckSummary) : String :=
  s!"self-check ok: backends={summary.backends} seams={summary.seams} " ++
    s!"resources={summary.resources} patched={summary.patched} " ++
    s!"handler_calls={summary.handlerCalls} pool_checkouts={summary.poolCheckouts}"

end SelfCheckSummary

namespace SelfCheck

def host : String :=
  "self-check.invalid"

def sessionId : SessionId :=
  ⟨"seamswap-self-check"⟩

def request : Request :=
  ⟨"GET", "https://self-check.invalid/"⟩

/-- The pool classes to use: both classes of every enabled pooling backend. -/
def poolClasses (enabled : List Backend) : List (Backend × String) :=
  ([.sessions, .pooled] : List Backend).flatMap fun backend =>
    if enabled.contains backend then
      [(backend, "HttpConnectionPool"), (backend, "HttpsConnectionPool")]
    else []

/-- Makes the pools, each with one idle connection from before the session. -/
def makePools (registry : RegistryId) : List (Backend × String) → Attempt (List PoolId)
  | [] => return []
  | (backend, className) :: rest => do
    let pool ← Action.newPool (Reference.pool backend className host)
    Action.putIdle pool (← Attempt.newConnection registry pool)
    return pool :: (← makePools registry rest)

/-- Takes a connection out of each pool and puts it back; counts the pools. -/
def exercisePools (registry : RegistryId) : List PoolId → Attempt Nat
  | [] => return 0
  | id :: rest => do
    let connection ← Attempt.getConnection registry id
    if connection.owner? ≠ some sessionId then
      let pool ← Action.pool id
      throw (.pool (.outsideSession pool.className connection.transport.name))
    Action.putIdle id connection
    return (← exercisePools registry rest) + 1

/-- Calls the handler at each of the keys that holds one; counts the calls. -/
def exerciseHandlers (registry : Registry) : List SeamKey → Except SeamError Nat
  | [] => return 0
  | key :: rest =>
    match registry.value? key with
    | some (.handler handler) =>
      if handler.owner? ≠ some sessionId then throw (.transport (.notIntercepted key))
      else do
        let _ ← handler.answer request
        return (← exerciseHandlers registry rest) + 1
    | _ => exerciseHandlers registry rest

/-- The counts of checkouts and of handler calls. -/
def exercise (registry : RegistryId) (pools : List PoolId) : Attempt (Nat × Nat) := do
  let checkouts ← exercisePools registry pools
  let current ← Action.registry registry
  let calls ← Attempt.ofExcept (exerciseHandlers current current.keys)
  return (checkouts, calls)

def ownedCount (pool : Pool) : Nat :=
  pool.idle.countP fun connection => connection.owner? = some sessionId

/-- The first pool that still holds connections of the session. -/
def checkPools : List PoolId → Attempt Unit
  | [] => return ()
  | id :: rest => do
    let pool ← Action.pool id
    let owned := ownedCount pool
    if owned > 0 then throw (.teardown (.heldConnections pool.className owned))
    checkPools rest

def checkTeardown (registry : RegistryId) (pools : List PoolId) (report : TeardownReport) :
    Attempt Unit := do
  unless report.isClean do
    throw (.teardown (.failures report.failures))
  let leftover := (← Action.registry registry).patchedKeys
  unless leftover = [] do
    throw (.teardown (.notRestored leftover))
  checkPools pools

def run (config : Config) : Attempt SelfCheckSummary := do
  let registry ← Action.newRegistry
  let enabled := config.enabledBackends
  Reference.register registry enabled
  let pools ← makePools registry (poolClasses enabled)
  let session := Session.new sessionId (.standard (← Action.newShelf))
  let scope ← ((← Builder.new registry session).withConfig config).start
  let during ← Action.registry registry
  let exercised ← (exercise registry pools).observe
  let report ← scope.close
  let (checkouts, calls) ← Attempt.ofExcept exercised
  checkTeardown registry pools report
  let summary : SelfCheckSummary :=
    ⟨enabled.length, during.keys.length, scope.size, during.patchedKeys.length, calls, checkouts⟩
  Action.emit (.selfCheckCompleted summary)
  return summary

end SelfCheck

end TransportSeams

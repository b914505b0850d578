import TransportSeams.Error
import TransportSeams.Json.Value
import TransportSeams.Pool.Tracker

/-!
Events: what operations tell the run log. Every event has a level, a name and a payload whose
members are in the order of their names.
-/

set_option autoImplicit false
set_option relaxedAutoImplicit false

namespace TransportSeams

/-- The counts of a self-check that passed. -/
structure SelfCheckSummary where
  backends : Nat
  seams : Nat
  resources : Nat
  patched : Nat
  handlerCalls : Nat
  poolCheckouts : Nat
deriving DecidableEq, Repr

inductive Event where
  | backendRegistered (backend : Backend) (version : BackendVersion) (newSeams seamCount : Nat)
  | backendSkipped (backend : Backend) (session : SessionId)
  | seamSkipped (seam : SeamKey) (session : SessionId)
  | built (session : SessionId) (resources substitutes : Nat)
  | patchEntered (seam : SeamKey) (session : SessionId) (replacement : String)
      (previousOwner? : Option SessionId)
  | patchExited (seam : SeamKey) (session : SessionId) (restored : String)
  | registryReset (seams : List SeamKey)
  | restoreEntered (seams : Nat)
  | staleDiscarded (pool : String) (connection : ConnectionId) (transport expected : String)
  | poolsDrained (connectionType : String) (report : DrainReport)
  | enterFailed (session : SessionId) (resource : String) (error : SeamError)
  | teardownFailed (session : SessionId) (resource : String) (error : SeamError)
  | selfCheckCompleted (summary : SelfCheckSummary)
  | runStarted (listSeams selfCheck : Bool) (disabled : List String)
deriving DecidableEq, Repr

namespace Event

def level : Event → String
  | backendRegistered .. | built .. | selfCheckCompleted .. | runStarted .. => "info"
  | registryReset .. | restoreEntered .. => "warn"
  | enterFailed .. | teardownFailed .. => "error"
  | backendSkipped .. | seamSkipped .. | patchEntered .. | patchExited .. | staleDiscarded ..
  | poolsDrained .. => "debug"

def name : Event → String
  | backendRegistered .. => "seam.backend.registered"
  | backendSkipped .. | seamSkipped .. => "seam.builder.skip"
  | built .. => "seam.builder.built"
  | patchEntered .. => "seam.patch.enter"
  | patchExited .. => "seam.patch.exit"
  | registryReset .. | restoreEntered .. => "seam.restore.forced"
  | staleDiscarded .. => "seam.pool.stale_discarded"
  | poolsDrained .. => "seam.pool.drain"
  | enterFailed .. => "seam.scope.enter_failed"
  | teardownFailed .. => "seam.scope.teardown_failed"
  | selfCheckCompleted .. => "seam.self_check.completed"
  | runStarted .. => "seamswap.run.started"

private def ownerJson : Option SessionId → Json
  | some session => .string session.text
  | none => .null

private def failureJson (session : SessionId) (resource : String) (error : SeamError) : Json :=
  .object
    [("error", .string error.message), ("resource", .string resource),
      ("session", .string session.text)]

def payload : Event → Json
  | backendRegistered backend version newSeams seamCount =>
    .object
      [("backend", .string backend.name), ("new_seams", .nat newSeams),
        ("seam_count", .nat seamCount), ("version", .string version.text)]
  | backendSkipped backend session =>
    .object [("backend", .string backend.name), ("session", .string session.text)]
  | seamSkipped seam session =>
    .object [("seam", .string seam.text), ("session", .string session.text)]
  | built session resources substitutes =>
    .object
      [("resources", .nat resources), ("session", .string session.text),
        ("substitutes", .nat substitutes)]
  | patchEntered seam session replacement previousOwner? =>
    .object
      [("previous_owner", ownerJson previousOwner?), ("replacement", .string replacement),
        ("seam", .string seam.text), ("session", .string session.text)]
  | patchExited seam session restored =>
    .object
      [("restored", .string restored), ("seam", .string seam.text),
        ("session", .string session.text)]
  | registryReset seams =>
    .object [("mode", .string "permanent"), ("seams", .strings (seams.map SeamKey.text))]
  | restoreEntered seams => .object [("mode", .string "scoped"), ("seams", .nat seams)]
  | staleDiscarded pool connection transport expected =>
    .object
      [("connection", .string connection.text), ("expected", .string expected),
        ("pool", .string pool), ("transport", .string transport)]
  | poolsDrained connectionType report =>
    .object
      [("connection_type", .string connectionType), ("discarded", .nat report.discarded),
        ("pools", .nat report.pools), ("preserved", .nat report.preserved)]
  | enterFailed session resource error => failureJson session resource error
  | teardownFailed session resource error => failureJson session resource error
  | selfCheckCompleted summary =>
    .object
      [("backends", .nat summary.backends), ("handler_calls", .nat summary.handlerCalls),
        ("patched", .nat summary.patched), ("pool_checkouts", .nat summary.poolCheckouts),
        ("resources", .nat summary.resources), ("seams", .nat summary.seams)]
  | runStarted listSeams selfCheck disabled =>
    .object
      [("disabled", .strings disabled), ("list_seams", .bool listSeams),
        ("self_check", .bool selfCheck)]

end Event

end TransportSeams

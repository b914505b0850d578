import TransportSeams.Scope.Resource

/-!
Scopes hold the entered resources of one session as a stack. Closing a scope leaves every resource
once, the newest first, and goes on past failures; a closed scope has nothing left to leave.
-/

set_option autoImplicit false
set_option relaxedAutoImplicit false

namespace TransportSeams

structure TeardownReport where
  exited : Nat
  failures : List String
deriving DecidableEq, Repr

namespace TeardownReport

def empty : TeardownReport :=
  ⟨0, []⟩

def isClean (report : TeardownReport) : Bool :=
  report.failures.isEmpty

def addExit (report : TeardownReport) : TeardownReport :=
  { report with exited := report.exited + 1 }

def addFailure (report : TeardownReport) (resource : String) (error : SeamError) :
    TeardownReport :=
  { report with failures := report.failures ++ [resource ++ ": " ++ error.message] }

end TeardownReport

structure Scope where
  session : SessionId
  /-- The entered resources, the newest first. -/
  entered : List Resource
  closed : Bool

namespace Scope

def size (scope : Scope) : Nat :=
  scope.entered.length

/-- Leaves the resources in the order of the list. -/
def exitAll (session : SessionId) : List Resource → TeardownReport → Action TeardownReport
  | [], report => return report
  | resource :: rest, report => do
    match ← resource.exit.outcome with
    | .ok _ => exitAll session rest report.addExit
    | .error error =>
      Action.emit (.teardownFailed session resource.label error)
      exitAll session rest (report.addFailure resource.label error)

/-- Leaves what is entered, unless the scope has been closed. -/
def unwind (scope : Scope) : Action (TeardownReport × Scope) := do
  if scope.closed then return (.empty, scope)
  let report ← exitAll scope.session scope.entered .empty
  return (report, ⟨scope.session, [], true⟩)

def close (scope : Scope) : Action TeardownReport := do
  return (← scope.unwind).1

/-- Enters the resources in order on top of those that are entered already. When one fails, those
are left again and the failure is the outcome. -/
def enterAll (session : SessionId) : List Resource → List Resource → Attempt Scope
  | [], entered => return ⟨session, entered, false⟩
  | resource :: rest, entered => do
    match ← resource.enter.observe with
    | .ok opened => enterAll session rest (opened :: entered)
    | .error error =>
      Action.emit (.enterFailed session resource.label error)
      let _ ← (Scope.mk session entered false).unwind
      throw error

def enter (session : SessionId) (resources : List Resource) : Attempt Scope :=
  enterAll session resources []

end Scope

end TransportSeams

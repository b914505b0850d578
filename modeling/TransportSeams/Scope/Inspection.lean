import TransportSeams.Scope.Basic
import TransportSeams.Session.Basic
import TransportSeams.Text.Quoted

/-!
One-line texts that show the state of sessions, patches, resources and scopes for diagnostics.
-/

set_option autoImplicit false
set_option relaxedAutoImplicit false

namespace TransportSeams

/-- A name with fields in braces. -/
private def fieldList (name : String) (fields : List String) : String :=
  name ++ " \x7b " ++ String.intercalate ", " fields ++ " \x7d"

def SessionId.inspect (session : SessionId) : String :=
  "SessionId(" ++ Text.quoted session.text ++ ")"

def SeamKey.inspect (key : SeamKey) : String :=
  fieldList "SeamKey"
    ["target: " ++ Text.quoted key.target, "attribute: " ++ Text.quoted key.member]

/-- The stub catalog is not shown. -/
def Session.inspect (session : Session) : String :=
  fieldList "Session"
    ["id: " ++ session.id.inspect, "custom_patches: " ++ toString session.customPatches.length,
      ".."]

def PatchHandle.inspect (handle : PatchHandle) : String :=
  fieldList "PatchHandle"
    ["key: " ++ handle.key.inspect, "replacement: " ++ handle.replacement.describe,
      "owner: " ++ handle.owner.inspect, "entered: " ++ toString handle.isEntered]

def Resource.inspect : Resource → String
  | .patch handle => "Patch(" ++ handle.inspect ++ ")"
  | .poolGuard guard =>
    "PoolGuard(" ++
      fieldList "ConnectionPoolGuard"
        ["connection_type: " ++ Text.quoted guard.connectionType.name] ++ ")"
  | .forceRestore restore =>
    "Restore(" ++ fieldList "ForceRestore" ["entered: " ++ toString restore.isEntered] ++ ")"

/-- The resources are shown in the order in which they were entered. -/
def Scope.inspect (scope : Scope) : String :=
  fieldList "SessionScope"
    ["session: " ++ scope.session.inspect,
      "entered: [" ++
        String.intercalate ", " (scope.entered.reverse.map Resource.inspect) ++ "]",
      "closed: " ++ toString scope.closed]

end TransportSeams

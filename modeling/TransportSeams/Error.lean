import TransportSeams.Backend
import TransportSeams.Files.Fault
import TransportSeams.Seam.Key
import TransportSeams.Seam.Kind
import TransportSeams.Version

/-!
Everything that can go wrong. An error is a cause; `SeamError.message` gives its one line of text,
which starts with the class of the error.
-/

set_option autoImplicit false
set_option relaxedAutoImplicit false

namespace TransportSeams

inductive IoFault where
  | missingFile (path : Path)
  | unreadable (path : Path) (fault : FileFault)
  | failed (fault : FileFault)
deriving DecidableEq, Repr

inductive ConfigFault where
  | version (fault : VersionFault)
  | foreignSeam (seam : SeamKey) (holder : Backend)
  | zeroAcquireLimit
  | zeroPayloadLimit
  | unknownBackend (name : String)
deriving DecidableEq, Repr

inductive CommandFault where
  | usage (detail : String)
  | nothingToDo
deriving DecidableEq, Repr

inductive Incompatibility where
  | outdated (backend : Backend) (version minimum : BackendVersion)
  | vendoredLayout (backend : Backend) (version : BackendVersion)
deriving DecidableEq, Repr

inductive PoolFault where
  | wrongKind (seam : SeamKey) (found expected : SeamKind)
  | exhausted (poolClass expected : String) (attempts : Nat)
  | outsideSession (poolClass transport : String)
  | refused (reason : String)
deriving DecidableEq, Repr

inductive TransportFault where
  | emptyUrl (handler : String)
  | notIntercepted (seam : SeamKey)
  | refused (reason : String)
deriving DecidableEq, Repr

inductive TeardownFault where
  | failures (reports : List String)
  | notRestored (seams : List SeamKey)
  | heldConnections (poolClass : String) (count : Nat)
deriving DecidableEq, Repr

inductive SeamError where
  | io (fault : IoFault)
  | configParse (detail : String)
  | invalidConfig (fault : ConfigFault)
  | cli (fault : CommandFault)
  | unknownSeam (seam : SeamKey)
  | incompatibleBackend (fault : Incompatibility)
  | pool (fault : PoolFault)
  | transport (fault : TransportFault)
  | teardown (fault : TeardownFault)
deriving DecidableEq, Repr

def IoFault.message : IoFault → String
  | missingFile path => "missing file " ++ path.text
  | unreadable path fault => path.text ++ ": " ++ fault.message
  | failed fault => fault.message

def ConfigFault.message : ConfigFault → String
  | version fault => fault.message
  | foreignSeam seam holder =>
    "seam " ++ seam.text ++ " is already owned by backend " ++ holder.name
  | zeroAcquireLimit => "pool.acquire_limit must be greater than zero"
  | zeroPayloadLimit => "logging.max_payload_bytes must be greater than zero"
  | unknownBackend name => "backends.disabled names unknown backend `" ++ name ++ "`"

def CommandFault.message : CommandFault → String
  | usage detail => detail
  | nothingToDo => "nothing to do: pass --list-seams and/or --self-check"

def Incompatibility.message : Incompatibility → String
  | outdated backend version minimum =>
    backend.name ++ " " ++ version.text ++ " is not supported; upgrade to " ++ minimum.text ++
      " or newer"
  | vendoredLayout backend version =>
    backend.name ++ " " ++ version.text ++
      " uses the vendored pool layout; upgrade to a release with its own request module"

def PoolFault.message : PoolFault → String
  | wrongKind seam found expected =>
    "seam " ++ seam.text ++ " holds a " ++ found.name ++ " value, expected " ++ expected.name
  | exhausted poolClass expected attempts =>
    poolClass ++ " kept returning connections other than " ++ expected ++ " after " ++
      toString attempts ++ " attempts"
  | outsideSession poolClass transport =>
    poolClass ++ " handed out " ++ transport ++ " outside the session"
  | refused reason => reason

def TransportFault.message : TransportFault → String
  | emptyUrl handler => handler ++ ": empty url"
  | notIntercepted seam => seam.text ++ " is not intercepted"
  | refused reason => reason

def TeardownFault.message : TeardownFault → String
  | failures reports => String.intercalate "; " reports
  | notRestored seams => "seams not restored: " ++ String.intercalate ", " (seams.map SeamKey.text)
  | heldConnections poolClass count =>
    poolClass ++ " still holds " ++ toString count ++ " connections of the finished session"

def SeamError.message : SeamError → String
  | io fault => "io error: " ++ fault.message
  | configParse detail => "config parse error: " ++ detail
  | invalidConfig fault => "invalid config: " ++ fault.message
  | cli fault => "cli error: " ++ fault.message
  | unknownSeam seam => "unknown seam: " ++ seam.text
  | incompatibleBackend fault => "incompatible backend: " ++ fault.message
  | pool fault => "pool error: " ++ fault.message
  | transport fault => "transport error: " ++ fault.message
  | teardown fault => "teardown error: " ++ fault.message

end TransportSeams

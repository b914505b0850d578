import TransportSeams.Adapter.Basic

/-!
Adapters that swap connection types and nothing else. The adapter of `timeout_http` also rebuilds
the table from schemes to connection types, with the same stubs as the direct seams.
-/

set_option autoImplicit false
set_option relaxedAutoImplicit false

namespace TransportSeams.Adapter

/-- A seam that holds a connection type, and the name of the stub to put there. -/
structure TypeSeam where
  key : SeamKey
  stub : String

def swapType (context : AdapterContext) (backend : Backend) (seam : TypeSeam) :
    Action (Option PatchSpec) := do
  match ← context.session.stubs.transport? backend seam.stub with
  | some stub => return some ⟨seam.key, .transport stub⟩
  | none => return none

/-- The patches of the seams for which there is a stub, in order. -/
def swapTypes (context : AdapterContext) (backend : Backend) :
    List TypeSeam → Action (List PatchSpec)
  | [] => return []
  | seam :: rest => do
    let spec? ← swapType context backend seam
    let specs ← swapTypes context backend rest
    return spec?.toList ++ specs

def direct (backend : Backend) (seams : List TypeSeam) : Adapter where
  backend := backend
  declaredSeams := seams.map TypeSeam.key
  build context := return .ofSpecs (← swapTypes context backend seams)

def stdHttp : Adapter :=
  direct .stdHttp
    [⟨⟨"std_http", "HttpConnection"⟩, "HttpConnection"⟩,
      ⟨⟨"std_http", "HttpsConnection"⟩, "HttpsConnection"⟩]

def aws : Adapter :=
  direct .aws
    [⟨⟨"aws.HttpConnectionPool", "ConnectionCls"⟩, "AwsHttpConnection"⟩,
      ⟨⟨"aws.HttpsConnectionPool", "ConnectionCls"⟩, "AwsHttpsConnection"⟩]

def certHttp : Adapter :=
  direct .certHttp
    [⟨⟨"cert_http", "CertValidatingHttpsConnection"⟩, "CertValidatingHttpsConnection"⟩]

/-- The schemes and the connection type of each. -/
def timeoutSchemes : List (String × String) :=
  [("http", "HttpConnectionWithTimeout"), ("https", "HttpsConnectionWithTimeout")]

def schemeTable : SeamKey :=
  ⟨"timeout_http", "SCHEME_TO_CONNECTION"⟩

/-- The stubs that there are, with their schemes and type names. -/
def schemeStubs (context : AdapterContext) :
    List (String × String) → Action (List (String × String × TransportType))
  | [] => return []
  | (scheme, name) :: rest => do
    let stub? ← context.session.stubs.transport? .timeoutHttp name
    let stubs ← schemeStubs context rest
    return (stub?.map fun stub => (scheme, name, stub)).toList ++ stubs

def timeoutHttp : Adapter where
  backend := .timeoutHttp
  declaredSeams :=
    timeoutSchemes.map (fun (_, name) => ⟨"timeout_http", name⟩) ++ [schemeTable]
  build context := do
    let stubs ← schemeStubs context timeoutSchemes
    let direct := stubs.map fun (_, name, stub) =>
      PatchSpec.mk ⟨"timeout_http", name⟩ (.transport stub)
    let table := SeamTable.ofList (stubs.map fun (scheme, _, stub) => (scheme, .transport stub))
    return .ofSpecs (direct ++ if stubs.isEmpty then [] else [⟨schemeTable, .table table⟩])

end TransportSeams.Adapter

import TransportSeams.Pool.Checkout

/-!
Reference manifests: for every backend the seams of its client stack in memory, with plain
connection types and handlers that answer from a pretended network.
-/

set_option autoImplicit false
set_option relaxedAutoImplicit false

namespace TransportSeams.Reference

def version : Backend → BackendVersion
  | .stdHttp => ⟨3, 12, 0⟩
  | .sessions => ⟨2, 31, 0⟩
  | .aws => ⟨1, 34, 0⟩
  | .pooled => ⟨2, 2, 0⟩
  | .timeoutHttp => ⟨0, 22, 0⟩
  | .certHttp => ⟨0, 3, 0⟩
  | .asyncFetch => ⟨6, 4, 0⟩
  | .clientSession => ⟨3, 9, 0⟩
  | .dualClient => ⟨0, 27, 0⟩

/-- A seam with a plain type of its own. -/
def typeSeam (target member name : String) : Action (SeamKey × SeamValue) := do
  return (⟨target, member⟩, .transport (← Action.plainType name))

def handlerSeam (target member : String) : Action (SeamKey × SeamValue) := do
  let key : SeamKey := ⟨target, member⟩
  return (key, .handler (.network (← Action.freshFunction) key.text))

def poolClassSeams (target : String) (type : TransportType) :
    Action (List (SeamKey × SeamValue)) := do
  let create ← Action.freshFunction
  let acquire ← Action.freshFunction
  return [(Seam.connectionType target, .transport type),
    (Seam.create target, .create create .stock), (Seam.acquire target, .acquire acquire .stock)]

/-- A pooling stack: the verified name of the secure type is an alias of it. -/
def poolingSeams (backend : Backend) : Action (List (SeamKey × SeamValue)) := do
  let connection := backend.name ++ ".connection"
  let http ← Action.plainType "HttpConnection"
  let https ← Action.plainType "HttpsConnection"
  let probe : Probe := ⟨← Action.freshFunction, Connection.dropped⟩
  let httpPool ← poolClassSeams (backend.name ++ ".HttpConnectionPool") http
  let httpsPool ← poolClassSeams (backend.name ++ ".HttpsConnectionPool") https
  return [(⟨connection, "VerifiedHttpsConnection"⟩, .transport https),
      (⟨connection, "HttpConnection"⟩, .transport http),
      (⟨connection, "HttpsConnection"⟩, .transport https),
      (Seam.probe (backend.name ++ ".connectionpool"), .probe probe)] ++
    httpPool ++ httpsPool

def timeoutSeams : Action (List (SeamKey × SeamValue)) := do
  let http : SeamValue := .transport (← Action.plainType "HttpConnectionWithTimeout")
  let https : SeamValue := .transport (← Action.plainType "HttpsConnectionWithTimeout")
  return [(⟨"timeout_http", "HttpConnectionWithTimeout"⟩, http),
    (⟨"timeout_http", "HttpsConnectionWithTimeout"⟩, https),
    (⟨"timeout_http", "SCHEME_TO_CONNECTION"⟩,
      .table (.ofList [("http", http), ("https", https)]))]

def seams : Backend → Action (List (SeamKey × SeamValue))
  | .stdHttp => do
    return [← typeSeam "std_http" "HttpConnection" "HttpConnection",
      ← typeSeam "std_http" "HttpsConnection" "HttpsConnection"]
  | .sessions => poolingSeams .sessions
  | .aws => do
    return [← typeSeam "aws.HttpConnectionPool" "ConnectionCls" "AwsHttpConnection",
      ← typeSeam "aws.HttpsConnectionPool" "ConnectionCls" "AwsHttpsConnection"]
  | .pooled => poolingSeams .pooled
  | .timeoutHttp => timeoutSeams
  | .certHttp => do
    return [← typeSeam "cert_http" "CertValidatingHttpsConnection" "CertValidatingHttpsConnection"]
  | .asyncFetch => do
    return [← handlerSeam "async_fetch.SimpleAsyncHttpClient" "fetch_impl",
      ← handlerSeam "async_fetch.CurlAsyncHttpClient" "fetch_impl"]
  | .clientSession => do
    return [← handlerSeam "client_session.ClientSession" "request"]
  | .dualClient => do
    return [← handlerSeam "dual_client.AsyncClient" "send",
      ← handlerSeam "dual_client.Client" "send"]

def manifest (backend : Backend) : Action Manifest := do
  return ⟨backend, version backend, false, ← seams backend⟩

/-- Registers the reference manifests in order, up to the first that is refused. -/
def register (registry : RegistryId) : List Backend → Attempt Unit
  | [] => return ()
  | backend :: rest => do
    Attempt.registerBackend registry (← manifest backend)
    register registry rest

/-- An empty pool of one of a pooling stack's classes. -/
def pool (backend : Backend) (className host : String) : Pool :=
  .new (backend.name ++ "." ++ className) (backend.name ++ ".connectionpool") host

end TransportSeams.Reference

import TransportSeams.Adapter.Basic

/-!
Adapters that wrap request handlers. Each seam's current handler is wrapped by the session's
interceptor; a seam that is missing or holds something else is left alone.
-/

set_option autoImplicit false
set_option relaxedAutoImplicit false

namespace TransportSeams.Adapter

def interceptSeam (context : AdapterContext) (backend : Backend) (key : SeamKey) :
    Action (Option PatchSpec) := do
  match (← Action.registry context.registry).value? key with
  | some (.handler current) =>
    match ← context.session.stubs.intercept? backend key.member context.session.id current with
    | some wrapped => return some ⟨key, .handler wrapped⟩
    | none => return none
  | _ => return none

def interceptSeams (context : AdapterContext) (backend : Backend) :
    List SeamKey → Action (List PatchSpec)
  | [] => return []
  | key :: rest => do
    let spec? ← interceptSeam context backend key
    let specs ← interceptSeams context backend rest
    return spec?.toList ++ specs

def handlers (backend : Backend) (seams : List SeamKey) : Adapter where
  backend := backend
  declaredSeams := seams
  build context := return .ofSpecs (← interceptSeams context backend seams)

def asyncFetch : Adapter :=
  handlers .asyncFetch
    [⟨"async_fetch.SimpleAsyncHttpClient", "fetch_impl"⟩,
      ⟨"async_fetch.CurlAsyncHttpClient", "fetch_impl"⟩]

def clientSession : Adapter :=
  handlers .clientSession [⟨"client_session.ClientSession", "request"⟩]

def dualClient : Adapter :=
  handlers .dualClient [⟨"dual_client.AsyncClient", "send"⟩, ⟨"dual_client.Client", "send"⟩]

end TransportSeams.Adapter

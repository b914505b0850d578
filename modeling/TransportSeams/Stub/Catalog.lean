import TransportSeams.World.Basic

/-!
Stub catalogs supply a session with instrumented types and with interceptors for handlers. The
standard catalog has a stub for every name, and its interceptors pass requests on and stamp each
response with the session.
-/

set_option autoImplicit false
set_option relaxedAutoImplicit false

namespace TransportSeams

structure StubCatalog where
  /-- The stub type of a name, the same one at every call. -/
  transport? : Backend → String → Action (Option TransportType)
  /-- A handler that routes requests to the one that is given through the session's recorder. -/
  intercept? : Backend → String → SessionId → Handler → Action (Option Handler)

namespace Action

/-- The stub that a shelf lends, made when it is first asked for. -/
def shelvedStub (id : ShelfId) (key : StubKey) : Action TransportType := do
  let shelf ← Action.shelf id
  match shelf.stub? key with
  | some type => return type
  | none =>
    let type := shelf.newStub key (← freshTransport)
    putShelf id (shelf.withStub key type)
    return type

end Action

namespace StubCatalog

def standard (id : ShelfId) : StubCatalog where
  transport? backend name := return some (← Action.shelvedStub id ⟨backend, name⟩)
  intercept? backend name session original :=
    return some <|
      .stamped (← Action.freshFunction) ("Recording" ++ name) session
        (backend.name ++ ":" ++ session.text) original

/-- The catalog that answers only for the names that are allowed. -/
def restrict (catalog : StubCatalog) (lends intercepts : Backend → String → Bool) :
    StubCatalog where
  transport? backend name :=
    if lends backend name then catalog.transport? backend name else pure none
  intercept? backend name session original :=
    if intercepts backend name then catalog.intercept? backend name session original
    else pure none

end StubCatalog

end TransportSeams

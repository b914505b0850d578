import TransportSeams.World.Basic

/-!
Binding types to a session. A type that is bound to the session already is its own substitute; any
other type gets the one that the cache holds for it, which is made when it is first asked for.
`resolve` does this to every type with a session slot in a value.
-/

set_option autoImplicit false
set_option relaxedAutoImplicit false

namespace TransportSeams

namespace Action

def substitute (id : CacheId) (base : TransportType) (session : SessionId) :
    Action TransportType := do
  if base.isBoundTo session then return base
  let key : SubstituteKey := ⟨base.id, session⟩
  let cache ← Action.cache id
  match cache.find? key with
  | some type => return type
  | none =>
    let type := base.substitute session (← freshTransport)
    putCache id (cache.insert key type)
    return type

end Action

mutual

def SeamValue.resolve (id : CacheId) (session : SessionId) : SeamValue → Action SeamValue
  | .table entries => do
    return .table (← entries.resolve id session)
  | .transport type => do
    if type.hasSessionSlot then return .transport (← Action.substitute id type session)
    else return .transport type
  | .acquire function primitive => pure (.acquire function primitive)
  | .create function primitive => pure (.create function primitive)
  | .probe probe => pure (.probe probe)
  | .handler handler => pure (.handler handler)

def SeamTable.resolve (id : CacheId) (session : SessionId) {bound : Option String} :
    SeamTable bound → Action (SeamTable bound)
  | .nil => pure .nil
  | .cons key above value rest => do
    let resolved ← value.resolve id session
    let others ← rest.resolve id session
    return .cons key above resolved others

end

end TransportSeams

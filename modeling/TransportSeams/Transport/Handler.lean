import TransportSeams.Error
import TransportSeams.Session.Identity

/-!
Request handlers: functions from requests to responses that a client stack dispatches through. Two
handlers are the same when they share the function, whatever their names and owners.
-/

set_option autoImplicit false
set_option relaxedAutoImplicit false

namespace TransportSeams

/-- The identity of a function value. -/
structure FunctionId where
  index : Nat
deriving DecidableEq, Repr

structure Request where
  method : String
  url : String
deriving DecidableEq, Repr

structure Response where
  status : UInt16
  body : List UInt8
  servedBy : String
deriving DecidableEq, Repr

structure Handler where
  id : FunctionId
  name : String
  owner? : Option SessionId
  answer : Request → Except SeamError Response

namespace Handler

def isSame (a b : Handler) : Bool :=
  a.id = b.id

/-- Answers every request but one without a URL, with an empty body. -/
def network (id : FunctionId) (name : String) : Handler where
  id := id
  name := name
  owner? := none
  answer request :=
    if request.url = "" then .error (.transport (.emptyUrl name))
    else .ok ⟨200, [], "network"⟩

/-- Passes requests on to `inner` and puts the recorder in front of who served them. -/
def stamped (id : FunctionId) (name : String) (session : SessionId) (recorder : String)
    (inner : Handler) : Handler where
  id := id
  name := name
  owner? := some session
  answer request :=
    (inner.answer request).map fun response =>
      { response with servedBy := recorder ++ " <- " ++ response.servedBy }

end Handler

end TransportSeams

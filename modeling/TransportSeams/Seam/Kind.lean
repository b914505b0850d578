/-!
The six kinds of value that a seam can hold.
-/

set_option autoImplicit false
set_option relaxedAutoImplicit false

namespace TransportSeams

inductive SeamKind where
  | transport
  | table
  | acquire
  | create
  | probe
  | handler
deriving DecidableEq, Repr

def SeamKind.name : SeamKind → String
  | transport => "transport"
  | table => "table"
  | acquire => "acquire"
  | create => "create"
  | probe => "probe"
  | handler => "handler"

end TransportSeams

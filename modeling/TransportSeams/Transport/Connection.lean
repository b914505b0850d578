import TransportSeams.Transport.Type

/-!
Pooled connections. A connection is told from every other by its id. It counts as an instance of a
type when its own type derives from that type and, where the type is bound to a session, when its
own type is bound to the same session.
-/

set_option autoImplicit false
set_option relaxedAutoImplicit false

namespace TransportSeams

structure ConnectionId where
  index : Nat
deriving DecidableEq, Repr

def ConnectionId.text (id : ConnectionId) : String :=
  "conn-" ++ toString id.index

structure Connection where
  id : ConnectionId
  host : String
  transport : TransportType
  dropped : Bool
deriving DecidableEq, Repr

namespace Connection

def owner? (connection : Connection) : Option SessionId :=
  connection.transport.owner?

def isInstanceOf (connection : Connection) (type : TransportType) : Bool :=
  (type.owner?.isNone || type.owner? = connection.owner?) && connection.transport.derivesFrom type

def markDropped (connection : Connection) : Connection :=
  { connection with dropped := true }

end Connection

end TransportSeams

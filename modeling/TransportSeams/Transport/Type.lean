import TransportSeams.Session.Identity

/-!
Transport types stand for the connection types of client stacks. A type is one object: two types are
the same when their ids agree. Its session slot is missing in a library's own type, empty in an
instrumented stub, and bound to one session in a substitute. `derivesFrom` follows the base chain.
-/

set_option autoImplicit false
set_option relaxedAutoImplicit false

namespace TransportSeams

structure TransportId where
  index : Nat
deriving DecidableEq, Repr

inductive SessionSlot where
  | unavailable
  | unbound
  | bound (session : SessionId)
deriving DecidableEq, Repr

/-- What a transport type says of itself, apart from its base. -/
structure TypeHeader where
  id : TransportId
  name : String
  slot : SessionSlot
deriving DecidableEq, Repr

inductive TransportType where
  | root (header : TypeHeader)
  | derived (header : TypeHeader) (base : TransportType)
deriving DecidableEq, Repr

namespace TransportType

def header : TransportType → TypeHeader
  | root header => header
  | derived header _ => header

def base? : TransportType → Option TransportType
  | root _ => none
  | derived _ base => some base

def ofBase? (header : TypeHeader) : Option TransportType → TransportType
  | none => root header
  | some base => derived header base

def id (type : TransportType) : TransportId :=
  type.header.id

def name (type : TransportType) : String :=
  type.header.name

def slot (type : TransportType) : SessionSlot :=
  type.header.slot

def hasSessionSlot (type : TransportType) : Bool :=
  type.slot ≠ .unavailable

def owner? (type : TransportType) : Option SessionId :=
  match type.slot with
  | .bound session => some session
  | _ => none

def isBoundTo (type : TransportType) (session : SessionId) : Bool :=
  type.owner? = some session

def isSame (a b : TransportType) : Bool :=
  a.id = b.id

/-- The type itself, its base, the base of that, and so on. -/
def lineage : TransportType → List TransportType
  | root header => [root header]
  | derived header base => derived header base :: base.lineage

def derivesFrom (type other : TransportType) : Bool :=
  type.lineage.any (·.isSame other)

end TransportType

end TransportSeams

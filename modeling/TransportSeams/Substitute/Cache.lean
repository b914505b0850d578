import TransportSeams.Transport.Type

/-!
The substitutes that have been made: at most one for each pair of a base type and a session.
-/

set_option autoImplicit false
set_option relaxedAutoImplicit false

namespace TransportSeams

/-- The identity of a cache of substitutes. -/
structure CacheId where
  index : Nat
deriving DecidableEq, Repr

structure SubstituteKey where
  base : TransportId
  session : SessionId
deriving DecidableEq, Repr

structure SubstituteCache where
  entries : List (SubstituteKey × TransportType)

namespace SubstituteCache

def empty : SubstituteCache :=
  ⟨[]⟩

instance : Inhabited SubstituteCache :=
  ⟨empty⟩

def size (cache : SubstituteCache) : Nat :=
  cache.entries.length

def find? (cache : SubstituteCache) (key : SubstituteKey) : Option TransportType :=
  (cache.entries.find? fun entry => entry.1 = key).map Prod.snd

def insert (cache : SubstituteCache) (key : SubstituteKey) (type : TransportType) :
    SubstituteCache :=
  ⟨(key, type) :: cache.entries⟩

theorem find?_insert (cache : SubstituteCache) (key other : SubstituteKey)
    (type : TransportType) :
    (cache.insert key type).find? other =
      if key = other then some type else cache.find? other := by
  by_cases same : key = other <;> simp [find?, insert, same]

end SubstituteCache

/-- The substitute of a base for a session: it derives from the base, is bound to the session, and
carries the session's fingerprint in its name. -/
def TransportType.substitute (base : TransportType) (session : SessionId) (id : TransportId) :
    TransportType :=
  .derived ⟨id, base.name ++ "_" ++ session.fingerprint, .bound session⟩ base

end TransportSeams

import TransportSeams.Backend
import TransportSeams.Transport.Type

/-!
Shelves of stub types. A shelf makes the stub of a backend's type once and lends the same one ever
after; `bases` lists library types that stubs are to derive from.
-/

set_option autoImplicit false
set_option relaxedAutoImplicit false

namespace TransportSeams

structure ShelfId where
  index : Nat
deriving DecidableEq, Repr

/-- A backend and the name of one of its connection types. -/
structure StubKey where
  backend : Backend
  name : String
deriving DecidableEq, Repr

structure StubShelf where
  stubs : List (StubKey × TransportType)
  bases : List (StubKey × TransportType)

namespace StubShelf

def empty : StubShelf :=
  ⟨[], []⟩

instance : Inhabited StubShelf :=
  ⟨empty⟩

private def lookup (key : StubKey) (entries : List (StubKey × TransportType)) :
    Option TransportType :=
  (entries.find? fun entry => entry.1 = key).map Prod.snd

def stub? (shelf : StubShelf) (key : StubKey) : Option TransportType :=
  lookup key shelf.stubs

def base? (shelf : StubShelf) (key : StubKey) : Option TransportType :=
  lookup key shelf.bases

def withStub (shelf : StubShelf) (key : StubKey) (type : TransportType) : StubShelf :=
  { shelf with stubs := (key, type) :: shelf.stubs }

/-- A later base of a key takes the place of an earlier one. -/
def withBase (shelf : StubShelf) (key : StubKey) (base : TransportType) : StubShelf :=
  { shelf with bases := (key, base) :: shelf.bases }

/-- The stub of a key, as it is made. -/
def newStub (shelf : StubShelf) (key : StubKey) (id : TransportId) : TransportType :=
  .ofBase? ⟨id, "Recording" ++ key.name, .unbound⟩ (shelf.base? key)

theorem stub?_withStub (shelf : StubShelf) (key other : StubKey) (type : TransportType) :
    (shelf.withStub key type).stub? other =
      if key = other then some type else shelf.stub? other := by
  by_cases same : key = other <;> simp [stub?, withStub, lookup, same]

theorem slot_newStub (shelf : StubShelf) (key : StubKey) (id : TransportId) :
    (shelf.newStub key id).slot = .unbound := by
  unfold newStub
  cases shelf.base? key <;> rfl

end StubShelf

end TransportSeams

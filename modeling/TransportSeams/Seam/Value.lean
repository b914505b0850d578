import TransportSeams.Pool.Primitive
import TransportSeams.Seam.Kind
import TransportSeams.Transport.Handler

/-!
Seam values: a transport type, a table of values, or one of four kinds of function. The keys of a
table increase strictly, which its type says: `SeamTable bound` has all its keys above `bound`.
`isSame` compares types and functions by identity and tables entry by entry.
-/

set_option autoImplicit false
set_option relaxedAutoImplicit false

namespace TransportSeams

/-- A key above an optional lower bound. -/
def IsAbove (bound : Option String) (key : String) : Prop :=
  ∀ low, bound = some low → low < key

theorem isAbove_none (key : String) : IsAbove none key := by
  intro low h
  cases h

theorem isAbove_some {low key : String} (h : low < key) : IsAbove (some low) key := by
  intro other h'
  cases h'
  exact h

structure Probe where
  id : FunctionId
  isDropped : Connection → Bool

mutual

inductive SeamValue where
  | transport (type : TransportType)
  | table (entries : SeamTable none)
  | acquire (id : FunctionId) (primitive : Acquire)
  | create (id : FunctionId) (primitive : Create)
  | probe (probe : Probe)
  | handler (handler : Handler)

inductive SeamTable : Option String → Type where
  | nil {bound : Option String} : SeamTable bound
  | cons {bound : Option String} (key : String) (above : IsAbove bound key) (value : SeamValue)
      (rest : SeamTable (some key)) : SeamTable bound

end

namespace SeamTable

def keys {bound : Option String} : SeamTable bound → List String
  | .nil => []
  | .cons key _ _ rest => key :: rest.keys

def find? {bound : Option String} (key : String) : SeamTable bound → Option SeamValue
  | .nil => none
  | .cons k _ value rest => if k = key then some value else rest.find? key

/-- Puts a value at a key, in place of the one that is there. -/
def insert {bound : Option String} (key : String) (value : SeamValue) (above : IsAbove bound key) :
    SeamTable bound → SeamTable bound
  | .nil => .cons key above value .nil
  | .cons k h v rest =>
    if hlt : key < k then .cons key above value (.cons k (isAbove_some hlt) v rest)
    else if heq : key = k then .cons k h value rest
    else
      .cons k h v <| rest.insert key value <| isAbove_some <|
        Decidable.byContradiction fun hgt =>
          heq (String.le_antisymm (String.not_lt.1 hgt) (String.not_lt.1 hlt))

def ofList (entries : List (String × SeamValue)) : SeamTable none :=
  entries.foldl (fun table entry => table.insert entry.1 entry.2 (isAbove_none entry.1)) .nil

end SeamTable

namespace SeamValue

def kind : SeamValue → SeamKind
  | .transport _ => .transport
  | .table _ => .table
  | .acquire .. => .acquire
  | .create .. => .create
  | .probe _ => .probe
  | .handler _ => .handler

def asTransport? : SeamValue → Option TransportType
  | .transport type => some type
  | _ => none

theorem eq_transport {value : SeamValue} {type : TransportType}
    (held : value.asTransport? = some type) : value = .transport type := by
  cases value <;> cases held
  rfl

def asHandler? : SeamValue → Option Handler
  | .handler held => some held
  | _ => none

end SeamValue

mutual

def SeamValue.isSame : SeamValue → SeamValue → Bool
  | .transport a, .transport b => a.isSame b
  | .table a, .table b => a.isSame b
  | .acquire a _, .acquire b _ => a = b
  | .create a _, .create b _ => a = b
  | .probe a, .probe b => a.id = b.id
  | .handler a, .handler b => a.isSame b
  | _, _ => false

def SeamTable.isSame {bound bound' : Option String} : SeamTable bound → SeamTable bound' → Bool
  | .nil, .nil => true
  | .cons key _ value rest, .cons key' _ value' rest' =>
    key = key' && value.isSame value' && rest.isSame rest'
  | _, _ => false

end

mutual

/-- One line of text: the kind, with the name of a type or a handler or the entries of a table. -/
def SeamValue.describe : SeamValue → String
  | .transport type => "transport:" ++ type.name
  | .table entries => "table:\x7b" ++ String.intercalate "," entries.describeEntries ++ "\x7d"
  | .acquire .. => SeamKind.acquire.name
  | .create .. => SeamKind.create.name
  | .probe _ => SeamKind.probe.name
  | .handler handler => "handler:" ++ handler.name

def SeamTable.describeEntries {bound : Option String} : SeamTable bound → List String
  | .nil => []
  | .cons key _ value rest => (key ++ "=" ++ value.describe) :: rest.describeEntries

end

end TransportSeams

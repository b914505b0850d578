import TransportSeams.Toml.Value

/-!
Growing tables. A key is defined once. A dotted key makes the tables on its way and may enter those
that other dotted keys made, but no table that has a header; a header may enter any table on its way
and completes one that so far was only implied.
-/

set_option autoImplicit false
set_option relaxedAutoImplicit false

namespace TransportSeams.Toml

namespace Entries

def value? (entries : Entries) (key : String) : Option Value :=
  entries.lookup key

def put (key : String) (value : Value) : Entries → Entries
  | [] => [(key, value)]
  | (other, held) :: rest =>
    if other = key then (key, value) :: rest else (other, held) :: put key value rest

/-- Changes the table at the end of a path, which a dotted key or a header names. -/
def alter (dotted : Bool) (change : TableForm → Entries → Option Entries) :
    List String → TableForm → Entries → Option Entries
  | [], form, entries => change form entries
  | key :: path, _, entries =>
    match entries.value? key with
    | none =>
      let form : TableForm := if dotted then .dotted else .implied
      (alter dotted change path form []).map fun inner => entries.put key (.table form inner)
    | some (.table form inner) =>
      if dotted = true ∧ form = .explicit then none
      else
        (alter dotted change path form inner).map fun grown => entries.put key (.table form grown)
    | some (.tables earlier last) =>
      (alter dotted change path .explicit last).map fun grown =>
        entries.put key (.tables earlier grown)
    | some _ => none

/-- The path and the key at its end. -/
def cut? (path : List String) : Option (List String × String) :=
  path.getLast?.map fun key => (path.dropLast, key)

/-- Defines a dotted key, which ends in a table of dotted keys when it has more than one part. -/
def define (entries : Entries) (path : List String) (value : Value) : Option Entries := do
  let (above, key) ← cut? path
  let add (form : TableForm) (inner : Entries) : Option Entries :=
    if above ≠ [] ∧ form ≠ .dotted then none
    else if (inner.value? key).isSome then none
    else some (inner.put key value)
  entries.alter true add above .explicit

def ofPairs? (pairs : List (List String × Value)) : Option Entries :=
  pairs.foldlM (fun entries pair => define entries pair.1 pair.2) []

def openTable (entries : Entries) (path : List String) : Option Entries := do
  let (above, key) ← cut? path
  let complete (_ : TableForm) (inner : Entries) : Option Entries :=
    match inner.value? key with
    | none => some (inner.put key (.table .explicit []))
    | some (.table .implied held) => some (inner.put key (.table .explicit held))
    | some _ => none
  entries.alter false complete above .explicit

def openElement (entries : Entries) (path : List String) : Option Entries := do
  let (above, key) ← cut? path
  let extend (_ : TableForm) (inner : Entries) : Option Entries :=
    match inner.value? key with
    | none => some (inner.put key (.tables [] []))
    | some (.tables earlier last) => some (inner.put key (.tables (earlier ++ [last]) []))
    | some _ => none
  entries.alter false extend above .explicit

end Entries

/-- A document while it is read: its entries and the path of the table that the next lines fill. -/
structure Draft where
  entries : Entries
  current : List String

namespace Draft

def empty : Draft :=
  ⟨[], []⟩

def addLine (draft : Draft) : Line → Option Draft
  | .blank => some draft
  | .table path => (draft.entries.openTable path).map fun grown => ⟨grown, path⟩
  | .element path => (draft.entries.openElement path).map fun grown => ⟨grown, path⟩
  | .entry path value =>
    let fill (_ : TableForm) (inner : Entries) : Option Entries := inner.define path value
    (draft.entries.alter false fill draft.current .explicit).map fun grown =>
      ⟨grown, draft.current⟩

end Draft

def Entries.ofLines? (lines : List Line) : Option Entries :=
  (lines.foldlM Draft.addLine .empty).map Draft.entries

end TransportSeams.Toml

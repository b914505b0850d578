import TransportSeams.Registry.Manifest

/-!
The registry of seams. A slot keeps the value captured when its backend was registered, the current
value, and the session that installed it. Seams are added by registration and never removed;
`install` and `resetToPristine` change current values only.
-/

set_option autoImplicit false
set_option relaxedAutoImplicit false

namespace TransportSeams

/-- The value at a seam and the session that installed it. -/
structure Binding where
  value : SeamValue
  owner? : Option SessionId

structure Slot where
  backend : Backend
  pristine : SeamValue
  current : Binding

namespace Slot

def new (backend : Backend) (value : SeamValue) : Slot :=
  ⟨backend, value, ⟨value, none⟩⟩

def pristineBinding (slot : Slot) : Binding :=
  ⟨slot.pristine, none⟩

def isPristine (slot : Slot) : Bool :=
  slot.current.owner?.isNone && slot.current.value.isSame slot.pristine

def install (binding : Binding) (slot : Slot) : Slot :=
  { slot with current := binding }

/-- The pristine binding, unless the slot holds it already. -/
def reset (slot : Slot) : Slot :=
  if slot.isPristine then slot else slot.install slot.pristineBinding

end Slot

structure BackendRecord where
  backend : Backend
  version : BackendVersion
  seamCount : Nat
deriving DecidableEq, Repr

structure Registry where
  slots : KeyMap SeamKey Slot
  backends : KeyMap Backend BackendRecord

/-- What a registration added. -/
structure Registration where
  newSeams : Nat
  seamCount : Nat
deriving DecidableEq, Repr

namespace Registry

def empty : Registry :=
  ⟨KeyMap.empty, KeyMap.empty⟩

instance : Inhabited Registry :=
  ⟨empty⟩

def slot? (registry : Registry) (key : SeamKey) : Option Slot :=
  registry.slots.find? key

def contains (registry : Registry) (key : SeamKey) : Bool :=
  (registry.slot? key).isSome

def binding? (registry : Registry) (key : SeamKey) : Option Binding :=
  (registry.slot? key).map Slot.current

def value? (registry : Registry) (key : SeamKey) : Option SeamValue :=
  (registry.binding? key).map Binding.value

def owner? (registry : Registry) (key : SeamKey) : Option SessionId :=
  (registry.binding? key).bind Binding.owner?

def pristine? (registry : Registry) (key : SeamKey) : Option SeamValue :=
  (registry.slot? key).map Slot.pristine

def isPristine (registry : Registry) (key : SeamKey) : Bool :=
  (registry.slot? key).any Slot.isPristine

def keys (registry : Registry) : List SeamKey :=
  registry.slots.keys

def keysWhere (registry : Registry) (keep : Slot → Bool) : List SeamKey :=
  (registry.slots.filter fun _ slot => keep slot).keys

def backendKeys (registry : Registry) (backend : Backend) : List SeamKey :=
  registry.keysWhere (·.backend = backend)

def patchedKeys (registry : Registry) : List SeamKey :=
  registry.keysWhere (!·.isPristine)

def hasBackend (registry : Registry) (backend : Backend) : Bool :=
  registry.backends.contains backend

def records (registry : Registry) : List BackendRecord :=
  registry.backends.values

def seamCount (registry : Registry) (backend : Backend) : Nat :=
  (registry.backendKeys backend).length

/-- The first seam of the list that another backend holds, with its holder. -/
def foreignSeam? (registry : Registry) (backend : Backend) :
    List (SeamKey × SeamValue) → Option (SeamKey × Backend)
  | [] => none
  | (key, _) :: rest =>
    match registry.slot? key with
    | some slot =>
      if slot.backend = backend then registry.foreignSeam? backend rest
      else some (key, slot.backend)
    | none => registry.foreignSeam? backend rest

/-- Adds the seams that are missing; of equal keys the first one counts. -/
def addSeams (slots : KeyMap SeamKey Slot) (backend : Backend) :
    List (SeamKey × SeamValue) → KeyMap SeamKey Slot
  | [] => slots
  | (key, value) :: rest =>
    if slots.contains key then addSeams slots backend rest
    else addSeams (slots.insert key (.new backend value)) backend rest

def withSeams (registry : Registry) (manifest : Manifest) : Registry :=
  { registry with slots := addSeams registry.slots manifest.backend manifest.seams }

def withRecord (registry : Registry) (manifest : Manifest) : Registry :=
  let record := ⟨manifest.backend, manifest.version, registry.seamCount manifest.backend⟩
  { registry with backends := registry.backends.insert manifest.backend record }

/-- Records a backend and captures the pristine values of its seams. Seams that are already there
keep their pristine and current values. -/
def register (registry : Registry) (manifest : Manifest) :
    Except SeamError (Registry × Registration) :=
  match manifest.incompatibility? with
  | some fault => .error (.incompatibleBackend fault)
  | none =>
    match registry.foreignSeam? manifest.backend manifest.seams with
    | some (key, holder) => .error (.invalidConfig (.foreignSeam key holder))
    | none =>
      let grown := (registry.withSeams manifest).withRecord manifest
      .ok (grown, ⟨grown.slots.size - registry.slots.size, grown.seamCount manifest.backend⟩)

/-- Puts a binding at a seam whatever is there, and gives back what was there. -/
def install? (registry : Registry) (key : SeamKey) (binding : Binding) :
    Option (Binding × Registry) :=
  (registry.slot? key).map fun slot =>
    (slot.current, { registry with slots := registry.slots.adjust key (Slot.install binding) })

def resetToPristine (registry : Registry) : Registry :=
  { registry with slots := registry.slots.mapValues Slot.reset }

end Registry

end TransportSeams

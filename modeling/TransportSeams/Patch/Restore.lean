import TransportSeams.Registry.Operations

/-!
Scoped restoring. While it is entered, every seam that was registered when it was entered holds its
pristine value, whatever sessions are open; leaving puts back what was there before.
-/

set_option autoImplicit false
set_option relaxedAutoImplicit false

namespace TransportSeams

structure ForceRestore where
  registry : RegistryId
  /-- The bindings that were replaced, the last one first, while the restore is entered. -/
  saved? : Option (List (SeamKey × Binding))

namespace ForceRestore

def new (registry : RegistryId) : ForceRestore :=
  ⟨registry, none⟩

def isEntered (restore : ForceRestore) : Bool :=
  restore.saved?.isSome

/-- Installs the pristine value at each key that has one, in order. -/
def installPristine (id : RegistryId) :
    List SeamKey → List (SeamKey × Binding) → Attempt (List (SeamKey × Binding))
  | [], saved => return saved
  | key :: rest, saved => do
    match (← Action.registry id).pristine? key with
    | none => installPristine id rest saved
    | some pristine =>
      let previous ← Attempt.install id key ⟨pristine, none⟩
      installPristine id rest ((key, previous) :: saved)

/-- Puts the bindings back in the order of the list, past failures; the first failure counts. -/
def reinstall (id : RegistryId) : List (SeamKey × Binding) → Action (Option SeamError)
  | [] => return none
  | (key, binding) :: rest => do
    let outcome ← (Attempt.install id key binding).outcome
    let later ← reinstall id rest
    match outcome with
    | .error error => return some error
    | .ok _ => return later

def enter (restore : ForceRestore) : Attempt ForceRestore := do
  match restore.saved? with
  | some _ => return restore
  | none =>
    let keys := (← Action.registry restore.registry).keys
    let saved ← installPristine restore.registry keys []
    Action.emit (.restoreEntered saved.length)
    return { restore with saved? := some saved }

def exit (restore : ForceRestore) : Attempt ForceRestore := do
  match restore.saved? with
  | none => return restore
  | some saved =>
    match ← reinstall restore.registry saved with
    | some error => throw error
    | none => return { restore with saved? := none }

end ForceRestore

end TransportSeams

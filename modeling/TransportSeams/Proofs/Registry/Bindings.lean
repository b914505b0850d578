import TransportSeams.Registry.Basic

/-!
What the operations of a registry do to its slots: installing changes the binding of one seam,
registering adds seams at rest and changes none of those that are there.
-/

set_option autoImplicit false
set_option relaxedAutoImplicit false

namespace TransportSeams

@[simp]
theorem Slot.pristine_install (binding : Binding) (slot : Slot) :
    (slot.install binding).pristine = slot.pristine :=
  rfl

@[simp]
theorem Slot.pristineBinding_install (binding : Binding) (slot : Slot) :
    (slot.install binding).pristineBinding = slot.pristineBinding :=
  rfl

@[simp]
theorem Slot.current_install (binding : Binding) (slot : Slot) :
    (slot.install binding).current = binding :=
  rfl

@[simp]
theorem Slot.install_install (first last : Binding) (slot : Slot) :
    (slot.install first).install last = slot.install last :=
  rfl

namespace Registry

def withBinding (registry : Registry) (key : SeamKey) (binding : Binding) : Registry :=
  { registry with slots := registry.slots.adjust key (Slot.install binding) }

def pristineBinding? (registry : Registry) (key : SeamKey) : Option Binding :=
  (registry.slot? key).map Slot.pristineBinding

theorem slot?_withBinding (registry : Registry) (key other : SeamKey) (binding : Binding) :
    (registry.withBinding key binding).slot? other =
      if other = key then (registry.slot? other).map (Slot.install binding)
      else registry.slot? other :=
  KeyMap.find?_adjust registry.slots key other (Slot.install binding)

theorem contains_withBinding (registry : Registry) (key other : SeamKey) (binding : Binding) :
    (registry.withBinding key binding).contains other = registry.contains other := by
  unfold contains
  rw [slot?_withBinding]
  split <;> simp

theorem pristineBinding?_withBinding (registry : Registry) (key other : SeamKey)
    (binding : Binding) :
    (registry.withBinding key binding).pristineBinding? other =
      registry.pristineBinding? other := by
  unfold pristineBinding?
  rw [slot?_withBinding]
  split <;> simp [Function.comp_def]

theorem binding?_withBinding (registry : Registry) (key other : SeamKey) (binding : Binding) :
    (registry.withBinding key binding).binding? other =
      if other = key then (registry.binding? other).map fun _ => binding
      else registry.binding? other := by
  unfold binding?
  rw [slot?_withBinding]
  split <;> simp [Function.comp_def]

theorem install?_eq_some {registry : Registry} {key : SeamKey} {slot : Slot}
    (held : registry.slot? key = some slot) (binding : Binding) :
    registry.install? key binding = some (slot.current, registry.withBinding key binding) := by
  simp [install?, held, withBinding]

theorem install?_eq_none {registry : Registry} {key : SeamKey} (missing : registry.slot? key = none)
    (binding : Binding) : registry.install? key binding = none := by
  simp [install?, missing]

theorem mem_keys_iff (registry : Registry) (key : SeamKey) :
    key ∈ registry.keys ↔ registry.contains key = true :=
  KeyMap.mem_keys_iff registry.slots key

theorem contains_iff_slot? (registry : Registry) (key : SeamKey) :
    registry.contains key = true ↔ ∃ slot, registry.slot? key = some slot :=
  Option.isSome_iff_exists

theorem contains_of_binding? {registry : Registry} {key : SeamKey} {binding : Binding}
    (held : registry.binding? key = some binding) : registry.contains key = true := by
  obtain ⟨slot, found, _⟩ := Option.map_eq_some_iff.1 held
  exact (registry.contains_iff_slot? key).2 ⟨slot, found⟩

/-- The seams of the first registry are all in the second one, as they were, and its further seams
are at rest. -/
structure Grows (old new : Registry) : Prop where
  kept {key : SeamKey} {slot : Slot} : old.slot? key = some slot → new.slot? key = some slot
  atRest {key : SeamKey} {slot : Slot} :
    old.slot? key = none → new.slot? key = some slot → slot.current = slot.pristineBinding

theorem Grows.refl (registry : Registry) : registry.Grows registry where
  kept held := held
  atRest missing held := by
    rw [missing] at held
    cases held

/-- The slots after a manifest's seams have been added: of those that were missing the first of its
key counts. -/
private theorem find?_addSeams (backend : Backend) (seams : List (SeamKey × SeamValue))
    (slots : KeyMap SeamKey Slot) (key : SeamKey) :
    (addSeams slots backend seams).find? key =
      (slots.find? key).or ((KeyMap.lookupIn key seams).map (Slot.new backend)) := by
  induction seams generalizing slots with
  | nil => simp [addSeams, KeyMap.lookupIn]
  | cons seam rest ih =>
    obtain ⟨k, value⟩ := seam
    unfold addSeams
    split
    · rename_i present
      rw [ih]
      by_cases same : k = key
      · subst same
        obtain ⟨slot, held⟩ := Option.isSome_iff_exists.1 present
        simp [held]
      · simp [KeyMap.lookupIn, same]
    · rename_i absent
      rw [ih, KeyMap.find?_insert]
      by_cases same : k = key
      · subst same
        have missing : slots.find? k = none := by
          simpa [KeyMap.contains] using absent
        simp [KeyMap.lookupIn, missing]
      · simp [KeyMap.lookupIn, same]

theorem register_eq_ok {registry grown : Registry} {manifest : Manifest} {added : Registration}
    (registered : registry.register manifest = .ok (grown, added)) :
    grown = (registry.withSeams manifest).withRecord manifest := by
  unfold register at registered
  split at registered
  · cases registered
  · split at registered
    · cases registered
    · simp only [Except.ok.injEq, Prod.mk.injEq] at registered
      exact registered.1.symm

theorem slot?_register {registry grown : Registry} {manifest : Manifest} {added : Registration}
    (registered : registry.register manifest = .ok (grown, added)) (key : SeamKey) :
    grown.slot? key = (registry.slot? key).or
      ((KeyMap.lookupIn key manifest.seams).map (Slot.new manifest.backend)) := by
  rw [register_eq_ok registered]
  exact find?_addSeams manifest.backend manifest.seams registry.slots key

theorem grows_of_register {registry grown : Registry} {manifest : Manifest} {added : Registration}
    (registered : registry.register manifest = .ok (grown, added)) : registry.Grows grown := by
  constructor
  · intro key slot held
    rw [slot?_register registered, held]
    rfl
  · intro key slot missing held
    rw [slot?_register registered, missing, Option.none_or] at held
    obtain ⟨value, _, rfl⟩ := Option.map_eq_some_iff.1 held
    rfl

theorem hasBackend_registered {registry grown : Registry} {manifest : Manifest}
    {added : Registration} (registered : registry.register manifest = .ok (grown, added)) :
    grown.hasBackend manifest.backend = true := by
  rw [register_eq_ok registered, hasBackend, KeyMap.contains, withRecord, KeyMap.find?_insert,
    if_pos rfl]
  rfl

theorem hasBackend_register {registry grown : Registry} {manifest : Manifest}
    {added : Registration} (registered : registry.register manifest = .ok (grown, added))
    {backend : Backend} (recorded : registry.hasBackend backend = true) :
    grown.hasBackend backend = true := by
  obtain rfl := register_eq_ok registered
  unfold hasBackend KeyMap.contains at recorded ⊢
  simp only [withRecord, withSeams, KeyMap.find?_insert]
  split
  · rfl
  · exact recorded

end Registry

end TransportSeams

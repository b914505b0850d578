import TransportSeams.Proofs.Registry.Origins
import TransportSeams.Proofs.Scope.Effects

/-!
Putting a registry back for good. Every value is the same as itself, tables entry by entry, so a
slot that has been given its pristine binding is pristine; resetting counts the seams that were not
and leaves none, and resetting once more finds nothing to do.
-/

set_option autoImplicit false
set_option relaxedAutoImplicit false

namespace TransportSeams

mutual

theorem SeamValue.isSame_refl : (value : SeamValue) → value.isSame value = true
  | .transport type => by simp [SeamValue.isSame, TransportType.isSame]
  | .table entries => by
    rw [SeamValue.isSame]
    exact entries.isSame_refl
  | .acquire _ _ => by simp [SeamValue.isSame]
  | .create _ _ => by simp [SeamValue.isSame]
  | .probe _ => by simp [SeamValue.isSame]
  | .handler handler => by simp [SeamValue.isSame, Handler.isSame]

theorem SeamTable.isSame_refl {bound : Option String} :
    (entries : SeamTable bound) → entries.isSame entries = true
  | .nil => by rw [SeamTable.isSame]
  | .cons _ _ value rest => by
    rw [SeamTable.isSame, value.isSame_refl, rest.isSame_refl]
    simp

end

/-- The binding counts as the value at rest: nobody owns it and its value is the same one. -/
def Binding.IsAtRest (value : SeamValue) (binding : Binding) : Prop :=
  binding.owner? = none ∧ binding.value.isSame value = true

namespace Slot

theorem isPristine_iff (slot : Slot) :
    slot.isPristine = true ↔ slot.current.IsAtRest slot.pristine := by
  simp [isPristine, Binding.IsAtRest]

theorem isAtRest_pristineBinding (slot : Slot) :
    slot.pristineBinding.IsAtRest slot.pristine :=
  ⟨rfl, slot.pristine.isSame_refl⟩

theorem isPristine_reset (slot : Slot) : slot.reset.isPristine = true := by
  unfold reset
  split
  · assumption
  · exact (isPristine_iff _).2 slot.isAtRest_pristineBinding

end Slot

namespace Registry

theorem mem_keysWhere (registry : Registry) (keep : Slot → Bool) (key : SeamKey) :
    key ∈ registry.keysWhere keep ↔ ∃ slot, registry.slot? key = some slot ∧ keep slot = true := by
  simp only [keysWhere, KeyMap.keys, KeyMap.filter, List.mem_map, List.mem_filter, Prod.exists,
    KeyMap.mem_entries_iff, exists_and_right, exists_eq_right, slot?]

theorem slot?_resetToPristine (registry : Registry) (key : SeamKey) :
    registry.resetToPristine.slot? key = (registry.slot? key).map Slot.reset :=
  KeyMap.find?_mapEntries registry.slots _ key

theorem isPristine_resetToPristine {registry : Registry} {key : SeamKey}
    (known : registry.resetToPristine.contains key = true) :
    registry.resetToPristine.isPristine key = true := by
  obtain ⟨slot, held⟩ := (contains_iff_slot? _ _).1 known
  rw [isPristine, held, Option.any_some]
  rw [slot?_resetToPristine] at held
  obtain ⟨old, -, rfl⟩ := Option.map_eq_some_iff.1 held
  exact old.isPristine_reset

theorem patchedKeys_resetToPristine (registry : Registry) :
    registry.resetToPristine.patchedKeys = [] := by
  rw [List.eq_nil_iff_forall_not_mem]
  intro key patched
  obtain ⟨slot, held, changed⟩ := (mem_keysWhere _ _ key).1 patched
  rw [slot?_resetToPristine] at held
  obtain ⟨old, -, rfl⟩ := Option.map_eq_some_iff.1 held
  rw [old.isPristine_reset] at changed
  cases changed

theorem patchedKeys_eq_nil {registry : Registry}
    (atRest : registry.binding? = registry.pristineBinding?) : registry.patchedKeys = [] := by
  rw [List.eq_nil_iff_forall_not_mem]
  intro key patched
  obtain ⟨slot, held, changed⟩ := (mem_keysWhere _ _ key).1 patched
  have same : slot.current = slot.pristineBinding := by
    have here := congrFun atRest key
    rw [binding?, pristineBinding?, held] at here
    exact Option.some.inj here
  have pristine : slot.isPristine = true := by
    rw [Slot.isPristine_iff, same]
    exact slot.isAtRest_pristineBinding
  rw [pristine] at changed
  cases changed

theorem patchedKeys_eq_keys {registry : Registry}
    (owned : ∀ key ∈ registry.keys, ∃ value session,
      registry.binding? key = some ⟨value, some session⟩) :
    registry.patchedKeys = registry.keys := by
  refine congrArg (List.map Prod.fst) (List.filter_eq_self.2 fun entry member => ?_)
  obtain ⟨value, session, held⟩ := owned entry.1 (List.mem_map_of_mem member)
  have found : registry.slot? entry.1 = some entry.2 :=
    (KeyMap.mem_entries_iff registry.slots _ _).1 member
  rw [binding?, found] at held
  have current : entry.2.current = ⟨value, some session⟩ := Option.some.inj held
  simp [Slot.isPristine, current]

end Registry

/-- Resetting gives the number of the seams that were patched, and nothing but the registry and the
trace changes. -/
theorem Action.on_resetToPristine (id : RegistryId) (world : World) :
    ∃ left, (resetToPristine id).on world =
        ((world.registries.get id).patchedKeys.length, left) ∧
      left.registries =
        (world.withRegistry id (world.registries.get id).resetToPristine).registries ∧
      world.DiffersAtSeams left := by
  by_cases idle : (world.registries.get id).patchedKeys = []
  · refine ⟨world.withRegistry id (world.registries.get id).resetToPristine, ?_, rfl, rfl⟩
    simp [resetToPristine, idle]
  · refine ⟨(world.withRegistry id (world.registries.get id).resetToPristine).telling
      (.registryReset (world.registries.get id).patchedKeys), ?_, rfl, rfl⟩
    simp [resetToPristine, idle]

end TransportSeams

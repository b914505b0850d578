import TransportSeams.Proofs.Pool.Effects
import TransportSeams.Proofs.Registry.Bindings
import TransportSeams.Scope.Resource

/-!
What entering and leaving a patch, a scoped restore or a pool guard does to the world. Patches and
restores change a registry and the trace and nothing else; a guard changes no registry.
-/

set_option autoImplicit false
set_option relaxedAutoImplicit false

namespace TransportSeams

namespace World

def DiffersAtSeams (old new : World) : Prop :=
  new = { old with registries := new.registries, trace := new.trace }

def KeepsRegistries (old new : World) : Prop :=
  new.registries = old.registries

instance : IsPreorder World DiffersAtSeams where
  refl _ := rfl
  trans old middle new first second := by
    unfold DiffersAtSeams at *
    rw [second, first]

instance : IsPreorder World KeepsRegistries where
  refl _ := rfl
  trans _ _ _ first second := second.trans first

theorem KeepsRegistries.get_eq {old new : World} (kept : old.KeepsRegistries new)
    (id : RegistryId) : new.registries.get id = old.registries.get id :=
  congrArg (Store.get · id) kept

@[simp]
theorem get_withRegistry (world : World) (id : RegistryId) (registry : Registry) :
    (world.withRegistry id registry).registries.get id = registry := by
  simp [withRegistry]

@[simp]
theorem registries_telling (world : World) (event : Event) :
    (world.telling event).registries = world.registries :=
  rfl

theorem differsAtSeams_withRegistry (world : World) (id : RegistryId) (registry : Registry) :
    world.DiffersAtSeams (world.withRegistry id registry) :=
  rfl

theorem differsAtSeams_telling (world : World) (event : Event) :
    world.DiffersAtSeams (world.telling event) :=
  rfl

end World

open World

namespace Attempt

theorem on_install {id : RegistryId} {key : SeamKey} {slot : Slot} {world : World}
    (held : (world.registries.get id).slot? key = some slot) (binding : Binding) :
    (install id key binding).on world =
      (.ok slot.current,
        world.withRegistry id ((world.registries.get id).withBinding key binding)) := by
  simp [install, on_bind, Registry.install?_eq_some held, Except.map]

theorem on_install_missing {id : RegistryId} {key : SeamKey} {world : World}
    (missing : (world.registries.get id).slot? key = none) (binding : Binding) :
    (install id key binding).on world = (.error (.unknownSeam key), world) := by
  simp [install, on_bind, Registry.install?_eq_none missing]

theorem on_registerBackend {id : RegistryId} {manifest : Manifest} {world : World}
    {grown : Registry} {added : Registration}
    (registered : (world.registries.get id).register manifest = .ok (grown, added)) :
    (registerBackend id manifest).on world =
      (.ok (), (world.withRegistry id grown).telling
        (.backendRegistered manifest.backend manifest.version added.newSeams
          added.seamCount)) := by
  simp only [registerBackend, on_bind, on_lift, Action.on_registry, registered]
  rfl

theorem on_registerBackend_refused {id : RegistryId} {manifest : Manifest} {world : World}
    {error : SeamError}
    (refused : (world.registries.get id).register manifest = .error error) :
    (registerBackend id manifest).on world = (.error error, world) := by
  simp only [registerBackend, on_bind, on_lift, Action.on_registry, refused, on_throw]

end Attempt

namespace PatchHandle

variable {handle : PatchHandle} {slot : Slot} {world : World}

theorem on_enter (idle : handle.saved? = none)
    (held : (world.registries.get handle.registry).slot? handle.key = some slot) :
    handle.enter.on world =
      (.ok { handle with saved? := some slot.current },
        (world.withRegistry handle.registry
          ((world.registries.get handle.registry).withBinding handle.key handle.binding)).telling
            (.patchEntered handle.key handle.owner handle.replacement.describe
              slot.current.owner?)) := by
  simp only [enter, idle, Attempt.on_bind, Attempt.on_install held]
  rfl

theorem on_exit {previous : Binding} (entered : handle.saved? = some previous)
    (held : (world.registries.get handle.registry).slot? handle.key = some slot) :
    handle.exit.on world =
      (.ok { handle with saved? := none },
        (world.telling
          (.patchExited handle.key handle.owner previous.value.describe)).withRegistry
            handle.registry
            ((world.registries.get handle.registry).withBinding handle.key previous)) := by
  have told : ((world.telling (.patchExited handle.key handle.owner
      previous.value.describe)).registries.get handle.registry).slot? handle.key = some slot :=
    held
  simp only [exit, entered, Attempt.on_bind, Attempt.on_lift, Action.on_emit,
    Attempt.on_install told]
  rfl

end PatchHandle

namespace ForceRestore

theorem on_installPristine (id : RegistryId) {keys : List SeamKey} (distinct : keys.Nodup)
    (saved : List (SeamKey × Binding)) (world : World) :
    ∃ taken left, (installPristine id keys saved).on world = (.ok (taken ++ saved), left) ∧
      world.DiffersAtSeams left ∧
      (∀ key, (left.registries.get id).slot? key =
        if key ∈ keys then
          ((world.registries.get id).slot? key).map fun slot => slot.install slot.pristineBinding
        else (world.registries.get id).slot? key) ∧
      (∀ entry ∈ taken, (world.registries.get id).binding? entry.1 = some entry.2) ∧
      ∀ key, (world.registries.get id).contains key = true →
        (key ∈ taken.map Prod.fst ↔ key ∈ keys) := by
  induction keys generalizing saved world with
  | nil => exact ⟨[], world, rfl, rfl, by simp, by simp, by simp⟩
  | cons key rest ih =>
    obtain ⟨fresh, distinct'⟩ := List.nodup_cons.1 distinct
    cases held : (world.registries.get id).slot? key with
    | none =>
      obtain ⟨taken, left, run, apart, slots, bindings, covered⟩ := ih distinct' saved world
      refine ⟨taken, left, ?_, apart, ?_, bindings, ?_⟩
      · rw [← run]
        simp [installPristine, Attempt.on_bind, Registry.pristine?, held]
      · intro other
        rw [slots other]
        by_cases same : other = key
        · subst same
          simp [held]
        · simp [same]
      · intro other known
        rw [covered other known]
        have different : other ≠ key := by
          rintro rfl
          simp [Registry.contains, held] at known
        simp [different]
    | some slot =>
      have moved : (installPristine id (key :: rest) saved).on world =
          (installPristine id rest ((key, slot.current) :: saved)).on
            (world.withRegistry id
              ((world.registries.get id).withBinding key slot.pristineBinding)) := by
        simp [installPristine, Attempt.on_bind, Registry.pristine?, held, Attempt.on_install held,
          Slot.pristineBinding]
      obtain ⟨taken, left, run, apart, slots, bindings, covered⟩ :=
        ih distinct' ((key, slot.current) :: saved)
          (world.withRegistry id
            ((world.registries.get id).withBinding key slot.pristineBinding))
      simp only [get_withRegistry, Registry.slot?_withBinding, Registry.binding?_withBinding,
        Registry.contains_withBinding] at slots bindings covered
      refine ⟨taken ++ [(key, slot.current)], left, ?_, apart, ?_, ?_, ?_⟩
      · rw [moved, run]
        simp
      · intro other
        rw [slots other]
        by_cases same : other = key
        · subst same
          simp [fresh, held]
        · simp [same]
      · intro entry member
        rcases List.mem_append.1 member with member | member
        · have binding := bindings entry member
          by_cases same : entry.1 = key
          · -- a saved seam is one of the rest, which do not repeat the key
            have listed := (covered entry.1 (by simp [same, Registry.contains, held])).1
              (List.mem_map_of_mem member)
            exact absurd (same ▸ listed) fresh
          · simpa [same] using binding
        · obtain rfl := List.mem_singleton.1 member
          simp [Registry.binding?, held]
      · intro other known
        simp only [List.map_append, List.mem_append, covered other known]
        simp [or_comm]

/-- A seam of the list ends with one of its bindings in the list. -/
theorem on_reinstall (id : RegistryId) {saved : List (SeamKey × Binding)} {world : World}
    (known : ∀ entry ∈ saved, (world.registries.get id).contains entry.1 = true) :
    ∃ left, (reinstall id saved).on world = (none, left) ∧ world.DiffersAtSeams left ∧
      (∀ key ∉ saved.map Prod.fst,
        (left.registries.get id).slot? key = (world.registries.get id).slot? key) ∧
      ∀ key ∈ saved.map Prod.fst, ∃ binding, (key, binding) ∈ saved ∧
        (left.registries.get id).slot? key =
          ((world.registries.get id).slot? key).map (Slot.install binding) := by
  induction saved generalizing world with
  | nil => exact ⟨world, rfl, rfl, by simp, by simp⟩
  | cons entry rest ih =>
    obtain ⟨key, binding⟩ := entry
    obtain ⟨slot, held⟩ := (Registry.contains_iff_slot? _ _).1 (known _ List.mem_cons_self)
    have known' : ∀ entry ∈ rest, ((world.withRegistry id
        ((world.registries.get id).withBinding key binding)).registries.get id).contains entry.1 =
          true := by
      intro entry member
      rw [get_withRegistry, Registry.contains_withBinding]
      exact known entry (List.mem_cons_of_mem _ member)
    obtain ⟨left, run, apart, others, listed⟩ := ih known'
    simp only [get_withRegistry, Registry.slot?_withBinding] at others listed
    refine ⟨left, ?_, apart, ?_, ?_⟩
    · simp [reinstall, Attempt.on_install held, run]
    · intro other absent
      simp only [List.map_cons, List.mem_cons, not_or] at absent
      rw [others other absent.2, if_neg absent.1]
    · intro other member
      by_cases later : other ∈ rest.map Prod.fst
      · obtain ⟨last, mem, slots⟩ := listed other later
        refine ⟨last, List.mem_cons_of_mem _ mem, ?_⟩
        rw [slots]
        split <;> simp [Function.comp_def]
      · obtain rfl : other = key := by simpa [later] using member
        exact ⟨binding, List.mem_cons_self, by rw [others other later, if_pos rfl]⟩

theorem on_enter {restore : ForceRestore} (idle : restore.saved? = none) (world : World) :
    ∃ saved left, restore.enter.on world = (.ok { restore with saved? := some saved }, left) ∧
      world.DiffersAtSeams left ∧
      (∀ key, (left.registries.get restore.registry).slot? key =
        ((world.registries.get restore.registry).slot? key).map fun slot =>
          slot.install slot.pristineBinding) ∧
      (∀ entry ∈ saved,
        (world.registries.get restore.registry).binding? entry.1 = some entry.2) ∧
      ∀ key, (world.registries.get restore.registry).contains key = true →
        key ∈ saved.map Prod.fst := by
  obtain ⟨taken, left, run, apart, slots, bindings, covered⟩ :=
    on_installPristine restore.registry
      (KeyMap.keys_nodup (world.registries.get restore.registry).slots) [] world
  rw [List.append_nil] at run
  have mem_keys (key : SeamKey) : key ∈ (world.registries.get restore.registry).keys ↔
      (world.registries.get restore.registry).contains key = true :=
    Registry.mem_keys_iff _ key
  refine ⟨taken, left.telling (.restoreEntered taken.length), ?_, ?_, ?_, bindings, ?_⟩
  · simp only [enter, idle, Attempt.on_bind, Attempt.on_lift, Action.on_registry]
    unfold Registry.keys
    rw [run]
    rfl
  · exact trans_of DiffersAtSeams apart (differsAtSeams_telling _ _)
  · intro key
    rw [registries_telling, slots key]
    split
    · rfl
    · rename_i absent
      have missing : (world.registries.get restore.registry).slot? key = none := by
        simpa [Registry.contains] using mt (mem_keys key).2 absent
      simp [missing]
  · intro key known
    exact (covered key known).2 ((mem_keys key).2 known)

theorem on_exit {restore : ForceRestore} {saved : List (SeamKey × Binding)} {world : World}
    (entered : restore.saved? = some saved)
    (known : ∀ entry ∈ saved,
      (world.registries.get restore.registry).contains entry.1 = true) :
    ∃ left, restore.exit.on world = (.ok { restore with saved? := none }, left) ∧
      world.DiffersAtSeams left ∧
      (∀ key ∉ saved.map Prod.fst, (left.registries.get restore.registry).slot? key =
        (world.registries.get restore.registry).slot? key) ∧
      ∀ key ∈ saved.map Prod.fst, ∃ binding, (key, binding) ∈ saved ∧
        (left.registries.get restore.registry).slot? key =
          ((world.registries.get restore.registry).slot? key).map (Slot.install binding) := by
  obtain ⟨left, run, apart, others, listed⟩ := on_reinstall restore.registry known
  refine ⟨left, ?_, apart, others, listed⟩
  simp [exit, entered, Attempt.on_bind, run]

end ForceRestore

theorem Action.drainForGuard_keepsRegistries (id : TrackerId) :
    (drainForGuard id).Moves KeepsRegistries :=
  fun world => (drainForGuard_differsAtPools id world).registries

end TransportSeams

import TransportSeams.Proofs.Registry.Resetting
import TransportSeams.Proofs.Scope.Overlay

/-!
Leaving what is entered, whatever the registry shows by then. A resource gives back the bindings
that it saved, so when resources have been left one after the other, a seam holds what the last of
them to cover it had saved there. Of resources that were entered one over the other, that is what
the seam held before the first one.
-/

set_option autoImplicit false
set_option relaxedAutoImplicit false

namespace TransportSeams

open World

def Slot.givenBack (binding? : Option Binding) (slot : Slot) : Slot :=
  slot.install (binding?.getD slot.current)

@[simp]
theorem Slot.map_givenBack_none (slot? : Option Slot) :
    slot?.map (Slot.givenBack none) = slot? := by
  cases slot? <;> rfl

@[simp]
theorem Slot.givenBack_some (binding : Binding) (slot : Slot) :
    slot.givenBack (some binding) = slot.install binding :=
  rfl

theorem Slot.givenBack_givenBack (first? last? : Option Binding) (slot : Slot) :
    (slot.givenBack first?).givenBack last? = slot.givenBack (last?.or first?) := by
  cases last? <;> rfl

theorem Slot.map_givenBack (first? last? : Option Binding) (slot? : Option Slot) :
    (slot?.map (Slot.givenBack first?)).map (Slot.givenBack last?) =
      slot?.map (Slot.givenBack (last?.or first?)) := by
  cases slot? with
  | none => rfl
  | some slot => exact congrArg some (slot.givenBack_givenBack first? last?)

theorem Attempt.slot?_install (id : RegistryId) (key other : SeamKey) (binding : Binding)
    (world : World) :
    (((install id key binding).on world).2.registries.get id).slot? other =
      ((world.registries.get id).slot? other).map
        (Slot.givenBack (if key = other then some binding else none)) := by
  cases held : (world.registries.get id).slot? key with
  | none =>
    rw [on_install_missing held]
    by_cases here : key = other
    · subst here
      simp [held]
    · simp [here]
  | some slot =>
    rw [on_install held, get_withRegistry, Registry.slot?_withBinding]
    by_cases here : key = other
    · subst here
      simp [held]
    · simp [here, Ne.symm here]

theorem PatchHandle.slot?_exit (handle : PatchHandle) (world : World) (key : SeamKey) :
    ((handle.exit.on world).2.registries.get handle.registry).slot? key =
      ((world.registries.get handle.registry).slot? key).map
        (Slot.givenBack (if handle.key = key then handle.saved? else none)) := by
  unfold exit
  split
  · rename_i idle
    simp [idle]
  · rename_i previous entered
    rw [entered]
    simp only [bind_pure_comp, Attempt.on_bind, Attempt.on_lift, Attempt.on_map]
    exact Attempt.slot?_install _ _ key previous _

theorem ForceRestore.slot?_reinstall (id : RegistryId) (saved : List (SeamKey × Binding))
    (world : World) (key : SeamKey) :
    (((reinstall id saved).on world).2.registries.get id).slot? key =
      ((world.registries.get id).slot? key).map
        (Slot.givenBack (KeyMap.lookupIn key saved.reverse)) := by
  induction saved generalizing world with
  | nil => exact (Slot.map_givenBack_none _).symm
  | cons entry rest ih =>
    have left : ((reinstall id (entry :: rest)).on world).2 =
        ((reinstall id rest).on ((Attempt.install id entry.1 entry.2).on world).2).2 := by
      simp only [reinstall, Action.on_bind, Attempt.on_outcome]
      split <;> rfl
    rw [left, ih, Attempt.slot?_install, Slot.map_givenBack, List.reverse_cons,
      KeyMap.lookupIn_append]
    rfl

theorem ForceRestore.slot?_exit (restore : ForceRestore) (world : World) (key : SeamKey) :
    ((restore.exit.on world).2.registries.get restore.registry).slot? key =
      ((world.registries.get restore.registry).slot? key).map
        (Slot.givenBack (restore.saved?.bind fun saved => KeyMap.lookupIn key saved.reverse)) := by
  unfold exit
  split
  · rename_i idle
    simp [idle]
  · rename_i saved entered
    rw [entered, Option.bind_some, ← slot?_reinstall]
    simp only [Attempt.on_bind, Attempt.on_lift]
    split <;> rfl

namespace Resource

def ActsOn (id : RegistryId) : Resource → Prop
  | patch handle => handle.registry = id
  | poolGuard _ => True
  | forceRestore restore => restore.registry = id

/-- The binding that the resource gives back to a seam when it is left. -/
def restored? (key : SeamKey) : Resource → Option Binding
  | patch handle => if handle.key = key then handle.saved? else none
  | poolGuard _ => none
  | forceRestore restore => restore.saved?.bind fun saved => KeyMap.lookupIn key saved.reverse

theorem slot?_exit {id : RegistryId} {resource : Resource} (acts : resource.ActsOn id)
    (world : World) (key : SeamKey) :
    ((resource.exit.on world).2.registries.get id).slot? key =
      ((world.registries.get id).slot? key).map (Slot.givenBack (resource.restored? key)) := by
  cases resource with
  | patch handle =>
    obtain rfl := acts
    rw [exit, bind_pure_comp, Attempt.on_map]
    exact handle.slot?_exit world key
  | poolGuard guard =>
    have kept := Action.drainForGuard_keepsRegistries guard.tracker world
    rw [exit, bind_pure_comp, Attempt.on_map, Attempt.on_lift, kept]
    exact (Slot.map_givenBack_none _).symm
  | forceRestore restore =>
    obtain rfl := acts
    rw [exit, bind_pure_comp, Attempt.on_map]
    exact restore.slot?_exit world key

end Resource

/-- What a seam is given back by resources that are left in the order of the list: the last one that
restores it decides. -/
def lastRestored? (key : SeamKey) (resources : List Resource) : Option Binding :=
  resources.reverse.findSome? (Resource.restored? key)

theorem lastRestored?_cons (key : SeamKey) (resource : Resource) (rest : List Resource) :
    lastRestored? key (resource :: rest) =
      (lastRestored? key rest).or (resource.restored? key) := by
  simp [lastRestored?, List.findSome?_append]

theorem lastRestored?_append (key : SeamKey) (first last : List Resource) :
    lastRestored? key (first ++ last) =
      (lastRestored? key last).or (lastRestored? key first) := by
  simp [lastRestored?, List.findSome?_append]

theorem Scope.slot?_exitAll {id : RegistryId} (session : SessionId) {entered : List Resource}
    (acts : ∀ resource ∈ entered, resource.ActsOn id) (report : TeardownReport) (world : World)
    (key : SeamKey) :
    (((exitAll session entered report).on world).2.registries.get id).slot? key =
      ((world.registries.get id).slot? key).map (Slot.givenBack (lastRestored? key entered)) := by
  induction entered generalizing report world with
  | nil => exact (Slot.map_givenBack_none _).symm
  | cons resource rest ih =>
    have others := ih fun other member => acts other (List.mem_cons_of_mem resource member)
    have left : (((exitAll session (resource :: rest) report).on world).2.registries.get id).slot?
        key = (((resource.exit.on world).2.registries.get id).slot? key).map
          (Slot.givenBack (lastRestored? key rest)) := by
      simp only [exitAll, Action.on_bind, Attempt.on_outcome]
      split
      · exact others _ _
      · exact others _ _
    rw [left, Resource.slot?_exit (acts resource List.mem_cons_self), Slot.map_givenBack,
      lastRestored?_cons]

/-- What a resource has saved it gives back: at the seams that it covers, what was shown below. -/
theorem Resource.HasSaved.restored?_eq {id : RegistryId} {before : Registry} {below : View}
    {resource : Resource} (saved : resource.HasSaved id before below) (key : SeamKey) :
    (resource.restored? key = none ∧ resource.shown? before key = none) ∨
      ∃ binding, resource.restored? key = some binding ∧ below key = some binding ∧
        before.contains key = true := by
  cases resource with
  | patch handle =>
    obtain ⟨-, contained, binding, entered, shownBelow⟩ := saved
    by_cases here : handle.key = key
    · subst here
      exact .inr ⟨binding, by rw [restored?, if_pos rfl, entered], shownBelow, contained⟩
    · exact .inl ⟨if_neg here, if_neg here⟩
  | poolGuard guard => exact .inl ⟨rfl, rfl⟩
  | forceRestore restore =>
    obtain ⟨-, bindings, entered, shownBelow, covered⟩ := saved
    cases listed : KeyMap.lookupIn key bindings.reverse with
    | some binding =>
      have member := List.mem_reverse.1 (KeyMap.mem_of_lookupIn listed)
      obtain ⟨contained, held⟩ := shownBelow _ member
      exact .inr ⟨binding, by rw [restored?, entered, Option.bind_some, listed], held, contained⟩
    | none =>
      have absent : before.contains key ≠ true := by
        intro contained
        have member := covered key contained
        rw [← List.mem_reverse, ← List.map_reverse, KeyMap.mem_fst_iff_lookupIn, listed] at member
        cases member
      rw [Registry.contains_iff_pristineBinding?] at absent
      refine .inl ⟨by rw [restored?, entered, Option.bind_some, listed], ?_⟩
      rw [shown?]
      simpa using absent

theorem Resource.HasSaved.actsOn {id : RegistryId} {before : Registry} {below : View}
    {resource : Resource} (saved : resource.HasSaved id before below) : resource.ActsOn id := by
  cases resource with
  | patch handle => exact saved.1
  | poolGuard guard => trivial
  | forceRestore restore => exact saved.1

theorem AllSaved.lastRestored?_or {id : RegistryId} {before : Registry} {below : View}
    {entered : List Resource} (saved : AllSaved id before below entered) (key : SeamKey) :
    (lastRestored? key entered).or (overlay before below entered key) = below key := by
  induction entered with
  | nil => rfl
  | cons resource rest ih =>
    have uncovered := ih saved.2
    rw [lastRestored?_cons, overlay_cons]
    cases older : lastRestored? key rest with
    | some binding =>
      rw [older] at uncovered
      exact uncovered
    | none =>
      rw [older, Option.none_or] at uncovered
      rcases saved.1.restored?_eq key with ⟨idle, uncovers⟩ | ⟨binding, restores, shown, -⟩
      · rw [idle, uncovers]
        exact uncovered
      · rw [restores, ← uncovered, shown]
        rfl

theorem AllSaved.forall_hasSaved {id : RegistryId} {before : Registry} {below : View}
    {entered : List Resource} (saved : AllSaved id before below entered) :
    ∀ resource ∈ entered, ∃ shown, resource.HasSaved id before shown := by
  induction entered with
  | nil => exact fun resource member => nomatch member
  | cons newest rest ih =>
    intro resource member
    rcases List.mem_cons.1 member with rfl | member
    · exact ⟨_, saved.1⟩
    · exact ih saved.2 resource member

end TransportSeams

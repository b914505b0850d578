import TransportSeams.Proofs.Adapter.Emitting
import TransportSeams.Proofs.Registry.Origins
import TransportSeams.Proofs.Registry.Reference

/-!
Registries of reference manifests. A stack's reference manifest has the seams that its adapter
declares, and handlers at the seams of handler stacks only. Stacks share no seam, so each manifest
is accepted, and the registry ends up with the seams of all of them, every one at rest.
-/

set_option autoImplicit false
set_option relaxedAutoImplicit false

namespace TransportSeams

namespace Reference

variable {backend : Backend} {key : SeamKey} {value : SeamValue} {world : World}

theorem keys_manifest (backend : Backend) (world : World) :
    ((manifest backend).on world).1.seams.map Prod.fst =
      (Adapter.standard backend).declaredSeams := by
  cases backend <;> rfl

theorem incompatibility?_manifest (backend : Backend) (world : World) :
    ((manifest backend).on world).1.incompatibility? = none := by
  cases backend <;> rfl

theorem declared_of_mem_manifest
    (listed : (key, value) ∈ ((manifest backend).on world).1.seams) :
    key ∈ (Adapter.standard backend).declaredSeams := by
  rw [← keys_manifest backend world]
  exact List.mem_map_of_mem listed

theorem handler_of_mem_manifest (handles : backend.hasHandlers = true)
    (listed : (key, value) ∈ ((manifest backend).on world).1.seams) :
    ∃ function, value = .handler (.network function key.text) := by
  simp only [Backend.hasHandlers, List.mem_cons, List.not_mem_nil, or_false,
    decide_eq_true_eq] at handles
  rcases handles with rfl | rfl | rfl
  all_goals
    simp only [manifest, seams, handlerSeam, Action.on_bind, Action.on_pure,
      Action.on_freshFunction, List.mem_cons, List.not_mem_nil, or_false, Prod.mk.injEq] at listed
  · rcases listed with ⟨rfl, rfl⟩ | ⟨rfl, rfl⟩ <;> exact ⟨_, rfl⟩
  · obtain ⟨rfl, rfl⟩ := listed
    exact ⟨_, rfl⟩
  · rcases listed with ⟨rfl, rfl⟩ | ⟨rfl, rfl⟩ <;> exact ⟨_, rfl⟩

end Reference

/-- The registry has the seams of the reference manifests of the backends and no others, and all of
them are at rest. -/
structure Registry.HasReferences (registry : Registry) (backends : List Backend) : Prop where
  recorded : ∀ backend ∈ backends, registry.hasBackend backend = true
  contained : ∀ backend ∈ backends, ∀ key ∈ (Adapter.standard backend).declaredSeams,
    registry.contains key = true
  held {key : SeamKey} {slot : Slot} : registry.slot? key = some slot →
    slot.backend ∈ backends ∧ slot.current = slot.pristineBinding ∧ ∃ world,
      (key, slot.pristine) ∈ ((Reference.manifest slot.backend).on world).1.seams

namespace Registry.HasReferences

variable {registry : Registry} {backends : List Backend}

theorem none : empty.HasReferences [] where
  recorded _ member := nomatch member
  contained _ member := nomatch member
  held found := nomatch found

theorem declared (has : registry.HasReferences backends) {key : SeamKey} {slot : Slot}
    (found : registry.slot? key = some slot) :
    key ∈ (Adapter.standard slot.backend).declaredSeams := by
  obtain ⟨-, -, world, listed⟩ := has.held found
  exact Reference.declared_of_mem_manifest listed

theorem register (has : registry.HasReferences backends) {backend : Backend}
    (new : backend ∉ backends) (world : World) :
    ∃ grown added, registry.register ((Reference.manifest backend).on world).1 =
        .ok (grown, added) ∧ grown.HasReferences (backends ++ [backend]) := by
  have admitted : registry.Admits ((Reference.manifest backend).on world).1 := by
    refine ⟨Reference.incompatibility?_manifest backend world, fun seam listed origin known => ?_⟩
    obtain ⟨slot, found, rfl⟩ := Option.map_eq_some_iff.1 known
    have own : seam.1 ∈ (Adapter.standard backend).declaredSeams :=
      Reference.declared_of_mem_manifest listed
    by_contra other
    have different : slot.backend ≠ backend := other
    exact Adapter.declaredSeams_apart backend (Backend.mem_all _) slot.backend
      (Backend.mem_all _) different seam.1 own (has.declared found)
  obtain ⟨grown, added, registered⟩ := (register_ok_iff registry _).2 admitted
  refine ⟨grown, added, registered, ?_, ?_, ?_⟩
  · intro other member
    rcases List.mem_append.1 member with member | member
    · exact hasBackend_register registered (has.recorded other member)
    · obtain rfl := List.mem_singleton.1 member
      exact hasBackend_registered registered
  · intro other member key seam
    rw [contains, slot?_register registered, Option.isSome_or, Bool.or_eq_true]
    rcases List.mem_append.1 member with member | member
    · exact .inl (has.contained other member key seam)
    · obtain rfl := List.mem_singleton.1 member
      rw [← Reference.keys_manifest other world, KeyMap.mem_fst_iff_lookupIn] at seam
      exact .inr (by rwa [Option.isSome_map])
  · intro key slot found
    rw [slot?_register registered] at found
    rcases Option.or_eq_some_iff.1 found with found | ⟨-, found⟩
    · obtain ⟨member, rest⟩ := has.held found
      exact ⟨List.mem_append_left _ member, rest⟩
    · obtain ⟨value, listed, rfl⟩ := Option.map_eq_some_iff.1 found
      exact ⟨List.mem_append_right _ (List.mem_singleton.2 rfl), rfl, world,
        KeyMap.mem_of_lookupIn listed⟩

end Registry.HasReferences

namespace Reference

theorem on_register {id : RegistryId} {done backends : List Backend} {world : World}
    (distinct : (done ++ backends).Nodup)
    (has : (world.registries.get id).HasReferences done) :
    ∃ left, (register id backends).on world = (.ok (), left) ∧
      (left.registries.get id).HasReferences (done ++ backends) := by
  induction backends generalizing done world with
  | nil => exact ⟨world, rfl, by rwa [List.append_nil]⟩
  | cons backend rest ih =>
    have new : backend ∉ done := fun member =>
      (List.nodup_append.1 distinct).2.2 backend member backend List.mem_cons_self rfl
    rw [← registries_manifest backend world] at has
    obtain ⟨grown, added, registered, has'⟩ := has.register new world
    have step : (register id (backend :: rest)).on world =
        (register id rest).on (((((manifest backend).on world).2.withRegistry id grown).telling
          (.backendRegistered backend (version backend) added.newSeams added.seamCount))) := by
      simp only [register, Attempt.on_bind, Attempt.on_lift,
        Attempt.on_registerBackend registered]
      rfl
    rw [List.append_cons] at distinct ⊢
    rw [step]
    refine ih distinct ?_
    rwa [World.registries_telling, World.get_withRegistry]

def seamsOf (backends : List Backend) : List (SeamKey × SeamValue) :=
  backends.flatMap fun backend => ((manifest backend).on .initial).1.seams

theorem keys_seamsOf (backends : List Backend) : (seamsOf backends).map Prod.fst =
    backends.flatMap fun backend => (Adapter.standard backend).declaredSeams := by
  simp only [seamsOf, List.map_flatMap, keys_manifest]

private theorem handled_manifest (backend : Backend) :
    (((manifest backend).on .initial).1.seams.map fun seam => seam.2.asHandler?.isSome) =
      (Adapter.standard backend).declaredSeams.map fun _ => backend.hasHandlers := by
  cases backend <;> rfl

def isHandled (key : SeamKey) : Bool :=
  Backend.all.any fun backend =>
    backend.hasHandlers && (Adapter.standard backend).declaredSeams.contains key

private theorem handled_declared : ∀ backend ∈ Backend.all,
    ∀ key ∈ (Adapter.standard backend).declaredSeams, isHandled key = backend.hasHandlers := by
  decide

theorem isHandled_declared {backend : Backend} {key : SeamKey}
    (declared : key ∈ (Adapter.standard backend).declaredSeams) :
    isHandled key = backend.hasHandlers :=
  handled_declared backend (Backend.mem_all backend) key declared

/-- The handlers of the reference manifests stand at the seams of handler stacks. -/
theorem countP_seamsOf (backends : List Backend) :
    ((seamsOf backends).countP fun seam => seam.2.asHandler?.isSome) =
      (backends.flatMap fun backend => (Adapter.standard backend).declaredSeams).countP
        isHandled := by
  induction backends with
  | nil => rfl
  | cons backend rest ih =>
    have same : (((manifest backend).on .initial).1.seams.countP
        fun seam => seam.2.asHandler?.isSome) =
          (Adapter.standard backend).declaredSeams.countP isHandled := by
      have all := congrArg (List.countP id) (handled_manifest backend)
      rw [List.countP_map, List.countP_map] at all
      refine all.trans (List.countP_congr fun key listed => ?_)
      rw [isHandled_declared listed]
      rfl
    simp only [seamsOf, List.flatMap_cons, List.countP_append] at ih ⊢
    rw [same, ih]

theorem seams_nodup {backends : List Backend} (sublist : backends.Sublist Backend.all) :
    (backends.flatMap fun backend => (Adapter.standard backend).declaredSeams).Nodup := by
  have all : (Backend.all.flatMap fun backend =>
      (Adapter.standard backend).declaredSeams).Nodup := by
    decide
  exact all.sublist (sublist.map _).flatten

end Reference

theorem Registry.HasReferences.keys_perm {registry : Registry} {backends : List Backend}
    (has : registry.HasReferences backends) (sublist : backends.Sublist Backend.all) :
    registry.keys.Perm
      (backends.flatMap fun backend => (Adapter.standard backend).declaredSeams) := by
  refine (List.perm_ext_iff_of_nodup registry.slots.keys_nodup
    (Reference.seams_nodup sublist)).2 fun key => ?_
  rw [← Registry.keys, mem_keys_iff, List.mem_flatMap]
  constructor
  · intro known
    obtain ⟨slot, found⟩ := (contains_iff_slot? registry key).1 known
    exact ⟨slot.backend, (has.held found).1, has.declared found⟩
  · rintro ⟨backend, member, listed⟩
    exact has.contained backend member key listed

end TransportSeams

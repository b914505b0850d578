import TransportSeams.Proofs.Scope.Overlay

/-!
What an attempt reads and writes of a registry. An attempt is local to some seams when its outcome
and what it leaves there depend on nothing but what these seams hold, and when it changes no other
seam and no record. Entering and leaving a patch is local to the seam of the patch; a pool guard is
local to no seam at all.
-/

set_option autoImplicit false
set_option relaxedAutoImplicit false

namespace TransportSeams

namespace World

def AgreesAt (id : RegistryId) (keys : List SeamKey) (a b : World) : Prop :=
  ∀ key ∈ keys, (a.registries.get id).slot? key = (b.registries.get id).slot? key

/-- The registry holds the same at all other seams, and the same records. -/
structure KeepsBeyond (id : RegistryId) (keys : List SeamKey) (old new : World) : Prop where
  slots {key : SeamKey} : key ∉ keys →
    (new.registries.get id).slot? key = (old.registries.get id).slot? key
  backends : (new.registries.get id).backends = (old.registries.get id).backends

instance (id : RegistryId) (keys : List SeamKey) : IsPreorder World (KeepsBeyond id keys) where
  refl _ := ⟨fun _ => rfl, rfl⟩
  trans _ _ _ first second :=
    ⟨fun other => (second.slots other).trans (first.slots other),
      second.backends.trans first.backends⟩

/-- Nothing in the registries has changed but what one of them holds at these seams. -/
structure ChangesOnly (id : RegistryId) (keys : List SeamKey) (old new : World) : Prop where
  beyond : old.KeepsBeyond id keys new
  elsewhere {other : RegistryId} : other ≠ id →
    new.registries.get other = old.registries.get other

instance (id : RegistryId) (keys : List SeamKey) : IsPreorder World (ChangesOnly id keys) where
  refl world := ⟨refl_of (KeepsBeyond id keys) world, fun _ => rfl⟩
  trans _ _ _ first second :=
    ⟨trans_of (KeepsBeyond id keys) first.beyond second.beyond,
      fun other => (second.elsewhere other).trans (first.elsewhere other)⟩

variable {id : RegistryId} {keys others : List SeamKey} {a b c : World}

theorem AgreesAt.symm (same : a.AgreesAt id keys b) : b.AgreesAt id keys a :=
  fun key listed => (same key listed).symm

theorem AgreesAt.trans (first : a.AgreesAt id keys b) (second : b.AgreesAt id keys c) :
    a.AgreesAt id keys c :=
  fun key listed => (first key listed).trans (second key listed)

theorem AgreesAt.binding? {key : SeamKey} (same : a.AgreesAt id keys b) (listed : key ∈ keys) :
    (a.registries.get id).binding? key = (b.registries.get id).binding? key :=
  congrArg (Option.map Slot.current) (same key listed)

theorem KeepsBeyond.agreesAt (kept : a.KeepsBeyond id keys b) (apart : ∀ key ∈ others, key ∉ keys) :
    b.AgreesAt id others a :=
  fun key listed => kept.slots (apart key listed)

theorem KeepsRegistries.agreesAt (kept : a.KeepsRegistries b) : b.AgreesAt id keys a := by
  intro key listed
  rw [kept]

theorem KeepsRegistries.keepsBeyond (kept : a.KeepsRegistries b) : a.KeepsBeyond id keys b := by
  constructor <;> rw [kept]
  exact fun _ => rfl

theorem KeepsRegistries.changesOnly (kept : a.KeepsRegistries b) : a.ChangesOnly id keys b :=
  ⟨kept.keepsBeyond, fun _ => kept.get_eq _⟩

end World

open World

namespace Attempt

variable {α β : Type} {id : RegistryId} {keys : List SeamKey}

/-- The attempt depends on nothing but these seams of the registry, and changes no others. -/
structure IsLocal (id : RegistryId) (keys : List SeamKey) (attempt : Attempt α) : Prop where
  agrees {a b : World} : a.AgreesAt id keys b →
    (attempt.on a).1 = (attempt.on b).1 ∧ (attempt.on a).2.AgreesAt id keys (attempt.on b).2
  keeps : attempt.Moves (KeepsBeyond id keys)

theorem isLocal_pure (a : α) : (pure a : Attempt α).IsLocal id keys :=
  ⟨fun same => ⟨rfl, same⟩, moves_pure a⟩

theorem isLocal_bind {attempt : Attempt α} {next : α → Attempt β}
    (first : attempt.IsLocal id keys) (rest : ∀ a, (next a).IsLocal id keys) :
    (attempt >>= next).IsLocal id keys where
  agrees := by
    intro a b same
    obtain ⟨outcomes, left⟩ := first.agrees same
    rw [on_bind, on_bind]
    generalize attempt.on a = turn at outcomes left ⊢
    generalize attempt.on b = turn' at outcomes left ⊢
    obtain ⟨outcome, middle⟩ := turn
    obtain ⟨outcome', middle'⟩ := turn'
    obtain rfl : outcome = outcome' := outcomes
    cases outcome with
    | ok result => exact (rest result).agrees left
    | error error => exact ⟨rfl, left⟩
  keeps := moves_bind first.keeps fun a => (rest a).keeps

theorem isLocal_lift {action : Action Unit} (kept : action.Moves KeepsRegistries) :
    (liftM action : Attempt Unit).IsLocal id keys where
  agrees same := ⟨rfl, ((kept _).agreesAt.trans same).trans (kept _).agreesAt.symm⟩
  keeps world := (kept world).keepsBeyond

theorem install_isLocal {key : SeamKey} (listed : key ∈ keys) (binding : Binding) :
    (install id key binding).IsLocal id keys where
  agrees := by
    intro a b same
    have here := same key listed
    cases held : (a.registries.get id).slot? key with
    | none =>
      rw [on_install_missing held, on_install_missing (here ▸ held)]
      exact ⟨rfl, same⟩
    | some slot =>
      rw [on_install held, on_install (here ▸ held)]
      refine ⟨rfl, fun other member => ?_⟩
      simp only [get_withRegistry, Registry.slot?_withBinding, same other member]
  keeps := by
    intro world
    cases held : (world.registries.get id).slot? key with
    | none =>
      rw [on_install_missing held]
      exact refl_of (KeepsBeyond id keys) world
    | some slot =>
      rw [on_install held]
      refine ⟨fun {other} absent => ?_, by rw [get_withRegistry]; rfl⟩
      have different : other ≠ key := fun same => absent (same.symm ▸ listed)
      rw [get_withRegistry, Registry.slot?_withBinding, if_neg different]

theorem install_changesOnly {key : SeamKey} (listed : key ∈ keys) (binding : Binding) :
    (install id key binding).Moves (ChangesOnly id keys) := by
  refine fun world => ⟨(install_isLocal listed binding).keeps world, fun different => ?_⟩
  cases held : (world.registries.get id).slot? key with
  | none => rw [on_install_missing held]
  | some slot => rw [on_install held, withRegistry, Store.get_put, if_neg different.symm]

end Attempt

open Attempt

theorem PatchHandle.enter_isLocal {handle : PatchHandle} {keys : List SeamKey}
    (listed : handle.key ∈ keys) : handle.enter.IsLocal handle.registry keys := by
  unfold enter
  split
  · exact isLocal_pure handle
  · exact isLocal_bind (install_isLocal listed handle.binding) fun _ =>
      isLocal_bind (isLocal_lift fun _ => rfl) fun _ => isLocal_pure _

theorem PatchHandle.enter_changesOnly {handle : PatchHandle} {keys : List SeamKey}
    (listed : handle.key ∈ keys) : handle.enter.Moves (ChangesOnly handle.registry keys) := by
  unfold enter
  split
  · exact moves_pure handle
  · exact moves_bind (install_changesOnly listed handle.binding) fun _ =>
      moves_bind (moves_lift fun _ => KeepsRegistries.changesOnly rfl) fun _ => moves_pure _

theorem PatchHandle.exit_isLocal {handle : PatchHandle} {keys : List SeamKey}
    (listed : handle.key ∈ keys) : handle.exit.IsLocal handle.registry keys := by
  unfold exit
  split
  · exact isLocal_pure handle
  · exact isLocal_bind (isLocal_lift fun _ => rfl) fun _ =>
      isLocal_bind (install_isLocal listed _) fun _ => isLocal_pure _

namespace Resource

def IsWithin (id : RegistryId) (keys : List SeamKey) : Resource → Prop
  | patch handle => handle.registry = id ∧ handle.key ∈ keys
  | poolGuard _ => True
  | forceRestore _ => False

variable {id : RegistryId} {keys : List SeamKey} {resource : Resource}

theorem IsBuilt.isWithin {session : SessionId} {before : Registry} {resources : List Resource}
    (built : resource.IsBuilt id session before) (member : resource ∈ resources) :
    resource.IsWithin id (keysOf resources) := by
  cases resource with
  | patch handle => exact ⟨built.1, mem_keysOf.2 ⟨handle, member, rfl⟩⟩
  | poolGuard guard => trivial
  | forceRestore restore => exact built.elim

theorem IsWithin.mono {others : List SeamKey} (within : resource.IsWithin id keys)
    (subset : keys ⊆ others) : resource.IsWithin id others := by
  cases resource with
  | patch handle => exact ⟨within.1, subset within.2⟩
  | poolGuard guard => trivial
  | forceRestore restore => exact within.elim

theorem IsWithin.enter_isLocal (within : resource.IsWithin id keys) :
    resource.enter.IsLocal id keys := by
  cases resource with
  | patch handle =>
    obtain ⟨rfl, listed⟩ := within
    exact isLocal_bind (PatchHandle.enter_isLocal listed) fun _ => isLocal_pure _
  | poolGuard guard => exact isLocal_pure _
  | forceRestore restore => exact within.elim

theorem IsWithin.exit_isLocal (within : resource.IsWithin id keys) :
    resource.exit.IsLocal id keys := by
  cases resource with
  | patch handle =>
    obtain ⟨rfl, listed⟩ := within
    exact isLocal_bind (PatchHandle.exit_isLocal listed) fun _ => isLocal_pure _
  | poolGuard guard =>
    exact isLocal_bind (isLocal_lift (Action.drainForGuard_keepsRegistries guard.tracker))
      fun _ => isLocal_pure _
  | forceRestore restore => exact within.elim

theorem IsWithin.enter_changesOnly (within : resource.IsWithin id keys) :
    resource.enter.Moves (ChangesOnly id keys) := by
  cases resource with
  | patch handle =>
    obtain ⟨rfl, listed⟩ := within
    exact moves_bind (PatchHandle.enter_changesOnly listed) fun _ => moves_pure _
  | poolGuard guard => exact moves_pure _
  | forceRestore restore => exact within.elim

@[simp]
theorem isWithin_unentered :
    resource.unentered.IsWithin id keys ↔ resource.IsWithin id keys := by
  cases resource <;> rfl

end Resource

theorem Scope.enterAll_changesOnly {id : RegistryId} {keys : List SeamKey} {session : SessionId}
    {resources entered : List Resource} {scope : Scope} {world left : World}
    (within : ∀ resource ∈ resources, resource.IsWithin id keys)
    (run : (enterAll session resources entered).on world = (.ok scope, left)) :
    world.ChangesOnly id keys left := by
  induction resources generalizing entered world with
  | nil =>
    obtain rfl : world = left := (Prod.mk.inj run).2
    exact refl_of (ChangesOnly id keys) world
  | cons resource rest ih =>
    obtain ⟨here, others⟩ := List.forall_mem_cons.1 within
    have first := here.enter_changesOnly world
    simp only [enterAll, Attempt.on_bind, Attempt.on_observe] at run
    generalize resource.enter.on world = turn at run first
    obtain ⟨outcome, middle⟩ := turn
    cases outcome with
    | ok opened => exact trans_of (ChangesOnly id keys) first (ih others run)
    | error error => simp [Attempt.on_bind] at run

end TransportSeams

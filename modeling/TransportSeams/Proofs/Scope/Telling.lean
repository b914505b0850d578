import TransportSeams.Proofs.Adapter.Effects
import TransportSeams.Proofs.Scope.Supplies

/-!
What the run log is told of patches when sessions are built, entered and left. Building and
restoring tell nothing of patches. A patch that is entered is told of once, and once more when it is
left, however many other resources there are and whether or not they can be left.
-/

set_option autoImplicit false
set_option relaxedAutoImplicit false

namespace TransportSeams

open World

theorem Attempt.install_keepsSilent (id : RegistryId) (key : SeamKey) (binding : Binding) :
    (install id key binding).Moves KeepsSilent := by
  intro world
  cases held : (world.registries.get id).slot? key with
  | none =>
    rw [on_install_missing held]
    exact refl_of KeepsSilent world
  | some slot =>
    rw [on_install held]
    exact .of_trace rfl

theorem Attempt.registerBackend_keepsSilent (id : RegistryId) (manifest : Manifest) :
    (registerBackend id manifest).Moves KeepsSilent := by
  intro world
  cases registered : (world.registries.get id).register manifest with
  | error error =>
    rw [on_registerBackend_refused registered]
    exact refl_of KeepsSilent world
  | ok outcome =>
    rw [on_registerBackend registered]
    exact keepsSilent_telling (world.withRegistry id outcome.1) rfl

theorem Action.substitute_keepsSilent (id : CacheId) (base : TransportType) (session : SessionId) :
    (substitute id base session).Moves KeepsSilent := by
  refine moves_ite (moves_pure base) (moves_bind (fun _ => .of_trace rfl) fun cache => ?_)
  split
  · exact moves_pure _
  · exact moves_bind (fun _ => .of_trace rfl) fun _ =>
      moves_bind (fun _ => .of_trace rfl) fun _ => moves_pure _

def Builder.KeepsSilent (builder : Builder) : Prop :=
  ∀ adapter ∈ builder.catalog.values, (adapter.build builder.context).Moves World.KeepsSilent

theorem Builder.build_keepsSilent {builder : Builder} (silent : builder.KeepsSilent) :
    builder.build.Moves World.KeepsSilent :=
  build_moves Action.emit_keepsSilent
    (fun type => Action.substitute_keepsSilent builder.cache type builder.session.id) silent

theorem ForceRestore.enter_keepsSilent (restore : ForceRestore) :
    restore.enter.Moves KeepsSilent := by
  unfold enter
  split
  · exact Attempt.moves_pure _
  · refine Attempt.moves_bind (fun world => refl_of KeepsSilent world) fun registry => ?_
    apply Attempt.moves_bind (installPristine_moves Attempt.install_keepsSilent _ _ _)
    intro saved
    exact Attempt.moves_bind (Attempt.moves_lift (Action.emit_keepsSilent _ rfl)) fun _ =>
      Attempt.moves_pure _

/-- A patch that has been entered and not been left so far. -/
structure Unclosed where
  seam : SeamKey
  session : SessionId
  /-- What was bound at the seam just before the patch was entered. -/
  replaced : Binding

def Unclosed.exited (patch : Unclosed) : Event :=
  .patchExited patch.seam patch.session patch.replaced.value.describe

def PatchHandle.unclosed? (handle : PatchHandle) : Option Unclosed :=
  handle.saved?.map fun replaced => ⟨handle.key, handle.owner, replaced⟩

def Resource.unclosed? : Resource → Option Unclosed
  | patch handle => handle.unclosed?
  | _ => none

def unclosedOf (resources : List Resource) : List Unclosed :=
  resources.filterMap Resource.unclosed?

theorem unclosedOf_cons (resource : Resource) (rest : List Resource) :
    unclosedOf (resource :: rest) = resource.unclosed?.toList ++ unclosedOf rest := by
  rw [unclosedOf, List.filterMap_cons]
  cases resource.unclosed? <;> rfl

theorem PatchHandle.exit_tells (handle : PatchHandle) (world : World) :
    world.Tells (handle.unclosed?.toList.map Unclosed.exited) (handle.exit.on world).2 := by
  unfold unclosed? exit
  cases handle.saved? with
  | none => exact refl_of KeepsSilent world
  | some previous =>
    have put := Attempt.moves_bind
      (Attempt.install_keepsSilent handle.registry handle.key previous)
      (fun _ => Attempt.moves_pure { handle with saved? := none })
    rw [Attempt.on_bind]
    exact (world.tells_telling rfl).trans (put _)

theorem Resource.exit_tells (resource : Resource) (world : World) :
    world.Tells (resource.unclosed?.toList.map Unclosed.exited) (resource.exit.on world).2 := by
  cases resource with
  | patch handle =>
    rw [exit, bind_pure_comp, Attempt.on_map]
    exact handle.exit_tells world
  | poolGuard guard => exact Action.drainForGuard_keepsSilent guard.tracker world
  | forceRestore restore =>
    exact Attempt.moves_bind (restore.exit_moves Attempt.install_keepsSilent)
      (fun _ => Attempt.moves_pure _) world

theorem Scope.exitAll_tells (session : SessionId) (entered : List Resource)
    (report : TeardownReport) (world : World) :
    world.Tells ((unclosedOf entered).map Unclosed.exited)
      ((exitAll session entered report).on world).2 := by
  induction entered generalizing report world with
  | nil => exact refl_of KeepsSilent world
  | cons resource rest ih =>
    have told := resource.exit_tells world
    rw [unclosedOf_cons, List.map_append]
    simp only [exitAll, Action.on_bind, Attempt.on_outcome]
    generalize resource.exit.on world = turn at told ⊢
    obtain ⟨outcome, left⟩ := turn
    cases outcome with
    | ok _ => exact told.trans (ih _ left)
    | error error =>
      have failed : left.KeepsSilent
          (left.telling (.teardownFailed session resource.label error)) :=
        left.keepsSilent_telling rfl
      exact told.trans (failed.tells (ih _ _))

end TransportSeams

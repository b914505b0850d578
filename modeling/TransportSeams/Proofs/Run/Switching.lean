import Mathlib.Data.List.Induction
import TransportSeams.Proofs.Run.Overlay

/-!
Patches and scoped restores as switches. One resource is entered and left in any order and as often
as one likes, while backends are registered in between. Only a call that turns it over does
anything: the first enter lays it over what there is and the first exit after that uncovers it
again, so the last of these calls alone says what is shown.
-/

set_option autoImplicit false
set_option relaxedAutoImplicit false

namespace TransportSeams

open World

namespace Resource

variable {id : RegistryId} {before registry : Registry} {below : View} {resource : Resource}

/-- A patch or a restore as it is handed out: not entered, and a patch at a seam that is there. -/
def IsSwitch (id : RegistryId) (registry : Registry) : Resource → Prop
  | patch handle =>
    handle.registry = id ∧ handle.saved? = none ∧ registry.contains handle.key = true
  | poolGuard _ => False
  | forceRestore restore => restore.registry = id ∧ restore.saved? = none

def isEntered : Resource → Bool
  | patch handle => handle.isEntered
  | poolGuard _ => false
  | forceRestore restore => restore.isEntered

theorem IsSwitch.fresh (off : resource.IsSwitch id registry) :
    ∃ session, resource.IsFresh id session registry := by
  cases resource with
  | patch handle => exact ⟨handle.owner, off.1, rfl, off.2⟩
  | poolGuard guard => exact off.elim
  | forceRestore restore => exact ⟨⟨""⟩, off⟩

theorem IsSwitch.kept {later : Registry} (off : resource.IsSwitch id registry)
    (keeps : registry.KeepsSeams later) : resource.IsSwitch id later := by
  cases resource with
  | patch handle => exact ⟨off.1, off.2.1, keeps.contains _ off.2.2⟩
  | poolGuard guard => exact off
  | forceRestore restore => exact off

theorem IsSwitch.isEntered_eq (off : resource.IsSwitch id registry) :
    resource.isEntered = false := by
  cases resource with
  | patch handle =>
    rw [isEntered, PatchHandle.isEntered, off.2.1]
    rfl
  | poolGuard guard => rfl
  | forceRestore restore =>
    rw [isEntered, ForceRestore.isEntered, off.2]
    rfl

/-- What has saved bindings is entered, unless it is a guard. -/
theorem HasSaved.isEntered_eq (saved : resource.HasSaved id before below)
    (off : resource.unentered.IsSwitch id registry) : resource.isEntered = true := by
  cases resource with
  | patch handle =>
    obtain ⟨-, -, binding, entered, -⟩ := saved
    rw [isEntered, PatchHandle.isEntered, entered]
    rfl
  | poolGuard guard => exact off.elim
  | forceRestore restore =>
    obtain ⟨-, bindings, entered, -⟩ := saved
    rw [isEntered, ForceRestore.isEntered, entered]
    rfl

theorem on_enter_again (entered : resource.isEntered = true) (world : World) :
    resource.enter.on world = (.ok resource, world) := by
  cases resource with
  | patch handle =>
    obtain ⟨binding, saved⟩ := Option.isSome_iff_exists.1 entered
    simp [enter, PatchHandle.enter, saved]
  | poolGuard guard => rfl
  | forceRestore restore =>
    obtain ⟨bindings, saved⟩ := Option.isSome_iff_exists.1 entered
    simp [enter, ForceRestore.enter, saved]

theorem IsSwitch.on_exit_again (off : resource.IsSwitch id registry) (world : World) :
    resource.exit.on world = (.ok resource, world) := by
  cases resource with
  | patch handle => simp [exit, PatchHandle.exit, off.2.1]
  | poolGuard guard => exact off.elim
  | forceRestore restore => simp [exit, ForceRestore.exit, off.2]

end Resource

structure Switching where
  resource : Resource
  world : World

namespace Switching

def seams (state : Switching) (id : RegistryId) : Registry :=
  state.world.registries.get id

def turn (state : Switching) (call : Call (Except SeamError Resource)) :
    Except SeamError Switching :=
  match call.on state.world with
  | (.ok resource, left) => .ok ⟨resource, left⟩
  | (.error error, _) => .error error

end Switching

/-- A call while a resource of a registry is switched. What is called elsewhere leaves the registry
alone. -/
inductive SwitchCall (id : RegistryId) where
  | enter
  | exit
  | register (manifest : Manifest)
  | elsewhere (action : Action Unit)
      (keeps : action.Moves fun old new => new.registries.get id = old.registries.get id)

namespace SwitchCall

variable {id : RegistryId}

def isExit : SwitchCall id → Bool
  | exit => true
  | _ => false

def perform (state : Switching) : SwitchCall id → Except SeamError Switching
  | enter => state.turn (.enter state.resource)
  | exit => state.turn (.exit state.resource)
  | register manifest => .ok { state with world := ((Call.register id manifest).on state.world).2 }
  | elsewhere action _ => .ok { state with world := (action.on state.world).2 }

def run (calls : List (SwitchCall id)) (start : Switching) : Except SeamError Switching :=
  calls.foldlM perform start

def endsEntered (calls : List (SwitchCall id)) : Bool :=
  calls.foldl
    (fun entered => fun
      | enter => true
      | exit => false
      | _ => entered)
    false

/-- The state just before the enter that took effect last: the resource was not entered there, and
has not been left since. -/
def LastEntered (calls : List (SwitchCall id)) (start middle : Switching) : Prop :=
  ∃ first last, calls = first ++ enter :: last ∧ endsEntered first = false ∧
    (∀ call ∈ last, call.isExit = false) ∧ run first start = .ok middle

variable {calls : List (SwitchCall id)} {start middle : Switching}

theorem run_concat (calls : List (SwitchCall id)) (call : SwitchCall id) (start : Switching) :
    run (calls ++ [call]) start = run calls start >>= fun state => perform state call := by
  simp [run, List.foldlM_append]

theorem endsEntered_concat (calls : List (SwitchCall id)) (call : SwitchCall id) :
    endsEntered (calls ++ [call]) =
      match call with
      | enter => true
      | exit => false
      | _ => endsEntered calls := by
  simp only [endsEntered, List.foldl_append]
  rfl

theorem LastEntered.enter (off : endsEntered calls = false) (ran : run calls start = .ok middle) :
    LastEntered (calls ++ [enter]) start middle :=
  ⟨calls, [], rfl, off, fun _ member => absurd member List.not_mem_nil, ran⟩

theorem LastEntered.concat (entered : LastEntered calls start middle) {call : SwitchCall id}
    (stays : call.isExit = false) : LastEntered (calls ++ [call]) start middle := by
  obtain ⟨first, last, rfl, off, none, ran⟩ := entered
  refine ⟨first, last ++ [call], List.append_assoc .., off, fun other member => ?_, ran⟩
  rcases List.mem_append.1 member with member | member
  · exact none other member
  · rwa [List.mem_singleton.1 member]

end SwitchCall

theorem ground_self (start : Registry) : ground start start = start.binding? := by
  funext key
  exact ((Registry.Grows.refl start).binding?_eq key).symm

theorem ground_grown (start : Registry) {now later : Registry} (keeps : now.KeepsSeams later)
    (key : SeamKey) :
    ground start later key = (ground start now key).or (later.pristineBinding? key) := by
  unfold ground
  rw [Option.or_assoc, keeps.pristine_or]

theorem ground_eq_of_contains (start : Registry) {now later : Registry}
    (keeps : now.KeepsSeams later) {key : SeamKey} (contained : now.contains key = true) :
    ground start later key = ground start now key := by
  rw [Registry.contains_iff_pristineBinding?] at contained
  obtain ⟨binding, held⟩ := Option.isSome_iff_exists.1 contained
  rw [ground_grown start keeps, ground, held]
  cases start.binding? key <;> rfl

namespace Switching

variable {id : RegistryId} {start before : Registry} {idle : Resource} {state : Switching}

structure IsOff (id : RegistryId) (start : Registry) (idle : Resource) (state : Switching) :
    Prop where
  resource : state.resource = idle
  keeps : start.KeepsSeams (state.seams id)
  shown : (state.seams id).binding? = ground start (state.seams id)

structure IsOn (id : RegistryId) (start before : Registry) (idle : Resource) (state : Switching) :
    Prop where
  unentered : state.resource.unentered = idle
  keeps : start.KeepsSeams before
  kept : before.KeepsSeams (state.seams id)
  uncovered : before.binding? = ground start before
  saved : state.resource.HasSaved id before before.binding?
  shown (key : SeamKey) : (state.seams id).binding? key =
    (idle.shown? before key).or (ground start (state.seams id) key)

theorem IsOff.enter (off : state.IsOff id start idle) (switch : idle.IsSwitch id start) :
    ∃ next, state.turn (.enter state.resource) = .ok next ∧
      next.IsOn id start (state.seams id) idle := by
  obtain ⟨session, fresh⟩ := (switch.kept off.keeps).fresh
  rw [← off.resource] at fresh
  obtain ⟨opened, left, ran, unentered, -, same, shown, saved⟩ :=
    Resource.on_enter state.world fresh fun _ => rfl
  refine ⟨⟨opened, left⟩, by rw [turn, Call.on_enter, ran], unentered.trans off.resource,
    off.keeps, .of_same same, off.shown, saved, fun key => ?_⟩
  have lower : (state.world.registries.get id).binding? = ground start (state.seams id) := off.shown
  refine (shown key).trans ?_
  rw [lower, ← ground_congr start same, ← off.resource, ← unentered, Resource.shown?_unentered]
  rfl

theorem IsOn.exit (on : state.IsOn id start before idle) :
    ∃ next, state.turn (.exit state.resource) = .ok next ∧ next.IsOff id start idle := by
  have below (key : SeamKey) (contained : before.contains key = true) :
      ground start (state.seams id) key = before.binding? key := by
    rw [on.uncovered, ground_eq_of_contains start on.kept contained]
  obtain ⟨left, ran, same, shown⟩ := Resource.on_exit state.world (on.saved.congr below)
    (fun key => on.kept.contains key) fun key => by
      rw [← Resource.shown?_unentered, on.unentered]
      exact on.shown key
  refine ⟨⟨state.resource.unentered, left⟩, by rw [turn, Call.on_exit, ran], on.unentered,
    on.keeps.trans (on.kept.trans (.of_same same)), ?_⟩
  exact shown.trans (ground_congr start same).symm

theorem IsOn.isEntered_eq (on : state.IsOn id start before idle) (switch : idle.IsSwitch id start) :
    state.resource.isEntered = true :=
  on.saved.isEntered_eq (on.unentered.symm ▸ switch)

theorem IsOn.enter (on : state.IsOn id start before idle) (switch : idle.IsSwitch id start) :
    state.turn (.enter state.resource) = .ok state := by
  rw [turn, Call.on_enter, Resource.on_enter_again (on.isEntered_eq switch)]

theorem IsOff.exit (off : state.IsOff id start idle) (switch : idle.IsSwitch id start) :
    state.turn (.exit state.resource) = .ok state := by
  rw [turn, off.resource, Call.on_exit, switch.on_exit_again, ← off.resource]

theorem IsOff.grown (off : state.IsOff id start idle) {left : World}
    (grows : (state.seams id).Grows (left.registries.get id)) :
    IsOff id start idle { state with world := left } where
  resource := off.resource
  keeps := off.keeps.trans grows.keepsSeams
  shown := by
    funext key
    refine (grows.binding?_eq key).trans ?_
    rw [off.shown]
    exact (ground_grown start grows.keepsSeams key).symm

theorem IsOn.grown (on : state.IsOn id start before idle) {left : World}
    (grows : (state.seams id).Grows (left.registries.get id)) :
    IsOn id start before idle { state with world := left } where
  unentered := on.unentered
  keeps := on.keeps
  kept := on.kept.trans grows.keepsSeams
  uncovered := on.uncovered
  saved := on.saved
  shown key := by
    refine (grows.binding?_eq key).trans ?_
    rw [on.shown, Option.or_assoc]
    exact congrArg _ (ground_grown start grows.keepsSeams key).symm

end Switching

theorem Attempt.registerBackend_grows (id : RegistryId) (manifest : Manifest) (world : World) :
    (world.registries.get id).Grows
      (((registerBackend id manifest).on world).2.registries.get id) := by
  cases registered : (world.registries.get id).register manifest with
  | error error =>
    rw [on_registerBackend_refused registered]
    exact .refl _
  | ok outcome =>
    rw [on_registerBackend registered, registries_telling, get_withRegistry]
    exact Registry.grows_of_register registered

namespace SwitchCall

variable {id : RegistryId} {idle : Resource} {world : World} {calls : List (SwitchCall id)}
  {state reached : Switching}

theorem perform_grows {call : SwitchCall id} (enters : call ≠ enter) (exits : call ≠ exit)
    (state : Switching) : ∃ left : World, perform state call = .ok { state with world := left } ∧
      (state.seams id).Grows (left.registries.get id) := by
  cases call with
  | enter => exact absurd rfl enters
  | exit => exact absurd rfl exits
  | register manifest => exact ⟨_, rfl, Attempt.registerBackend_grows id manifest state.world⟩
  | elsewhere action keeps =>
    refine ⟨_, rfl, ?_⟩
    rw [keeps state.world]
    exact .refl _

/-- The last call to enter or to leave says whether the resource lies over the registry. -/
inductive Settles (id : RegistryId) (idle : Resource) (world : World)
    (calls : List (SwitchCall id)) (reached : Switching) : Prop where
  | off (ends : endsEntered calls = false) (off : reached.IsOff id (world.registries.get id) idle)
  | on (ends : endsEntered calls = true) (middle : Switching)
      (entered : LastEntered calls ⟨idle, world⟩ middle)
      (on : reached.IsOn id (world.registries.get id) (middle.seams id) idle)

theorem Settles.perform (switch : idle.IsSwitch id (world.registries.get id))
    (ran : run calls ⟨idle, world⟩ = .ok state) (settled : Settles id idle world calls state)
    (call : SwitchCall id) : ∃ next, perform state call = .ok next ∧
      Settles id idle world (calls ++ [call]) next := by
  by_cases enters : call = enter
  · subst enters
    have ends := endsEntered_concat calls enter
    cases settled with
    | off before off =>
      obtain ⟨next, turned, on⟩ := off.enter switch
      exact ⟨next, turned, .on ends state (.enter before ran) on⟩
    | on _ middle entered on =>
      exact ⟨state, on.enter switch, .on ends middle (entered.concat rfl) on⟩
  by_cases exits : call = exit
  · subst exits
    have ends := endsEntered_concat calls exit
    cases settled with
    | off _ off => exact ⟨state, off.exit switch, .off ends off⟩
    | on _ middle _ on =>
      obtain ⟨next, turned, off⟩ := on.exit
      exact ⟨next, turned, .off ends off⟩
  · obtain ⟨left, performed, grows⟩ := perform_grows enters exits state
    have stays : call.isExit = false := by cases call <;> trivial
    have ends : endsEntered (calls ++ [call]) = endsEntered calls := by
      rw [endsEntered_concat]
      cases call <;> trivial
    cases settled with
    | off before off => exact ⟨_, performed, .off (ends.trans before) (off.grown grows)⟩
    | on before middle entered on =>
      exact ⟨_, performed, .on (ends.trans before) middle (entered.concat stays) (on.grown grows)⟩

theorem run_settles (switch : idle.IsSwitch id (world.registries.get id))
    (calls : List (SwitchCall id)) :
    ∃ reached, run calls ⟨idle, world⟩ = .ok reached ∧ Settles id idle world calls reached := by
  induction calls using List.reverseRecOn with
  | nil => exact ⟨_, rfl, .off rfl ⟨rfl, fun _ _ held => held, (ground_self _).symm⟩⟩
  | append_singleton calls call ih =>
    obtain ⟨state, ran, settled⟩ := ih
    obtain ⟨next, performed, settles⟩ := settled.perform switch ran call
    refine ⟨next, ?_, settles⟩
    rw [run_concat, ran]
    exact performed

end SwitchCall

/-- Entering and leaving a patch or a scoped restore are switches. Whatever the calls, each of them
succeeds, and the resource is entered exactly if the last call to enter or to leave was one to
enter. While it is, a patch shows its replacement for its session, a restore shows the pristine
value with no owner at every seam that was registered at the enter that took effect, and what was
saved there stays; while it is not, every seam shows the binding of the start, or its pristine value
if it was registered since. Entering again and leaving again change nothing at all. -/
theorem Resource.switches {id : RegistryId} {resource : Resource} {world : World}
    (switch : resource.IsSwitch id (world.registries.get id)) (calls : List (SwitchCall id)) :
    ∃ reached, SwitchCall.run calls ⟨resource, world⟩ = .ok reached ∧
      reached.resource.isEntered = SwitchCall.endsEntered calls ∧
      (SwitchCall.endsEntered calls = true →
        reached.resource.enter.on reached.world = (.ok reached.resource, reached.world) ∧
        ∃ middle, SwitchCall.LastEntered calls ⟨resource, world⟩ middle ∧
          reached.resource.HasSaved id (middle.seams id) (middle.seams id).binding? ∧
          (∀ handle, resource = .patch handle → (reached.seams id).binding? handle.key =
            some ⟨handle.replacement, some handle.owner⟩) ∧
          (∀ restore, resource = .forceRestore restore →
            ∀ key, (middle.seams id).contains key = true → ∃ value,
              (middle.seams id).pristine? key = some value ∧
              (reached.seams id).binding? key = some ⟨value, none⟩) ∧
          ∀ key, resource.shown? (middle.seams id) key = none →
            (reached.seams id).binding? key = ((world.registries.get id).binding? key).or
              ((reached.seams id).pristineBinding? key)) ∧
      (SwitchCall.endsEntered calls = false →
        reached.resource.exit.on reached.world = (.ok reached.resource, reached.world) ∧
        reached.resource = resource ∧
        ∀ key, (reached.seams id).binding? key = ((world.registries.get id).binding? key).or
          ((reached.seams id).pristineBinding? key)) := by
  obtain ⟨reached, ran, settled⟩ := SwitchCall.run_settles switch calls
  refine ⟨reached, ran, ?_⟩
  cases settled with
  | off ends off =>
    have again := switch.on_exit_again reached.world
    have idle := switch.isEntered_eq
    rw [← off.resource] at again idle
    refine ⟨idle.trans ends.symm, fun entered => ?_, fun _ => ⟨again, off.resource, fun key => ?_⟩⟩
    · exact absurd (ends.symm.trans entered) Bool.false_ne_true
    · exact congrFun off.shown key
  | on ends middle entered on =>
    have isEntered := on.isEntered_eq switch
    refine ⟨isEntered.trans ends.symm,
      fun _ => ⟨Resource.on_enter_again isEntered reached.world, middle, entered, on.saved, ?_, ?_,
        fun key bare => ?_⟩,
      fun left => absurd (left.symm.trans ends) Bool.false_ne_true⟩
    · rintro handle rfl
      rw [on.shown, Resource.shown?, if_pos rfl]
      rfl
    · rintro restore rfl key contained
      obtain ⟨slot, held⟩ := (Registry.contains_iff_slot? _ _).1 contained
      refine ⟨slot.pristine, by rw [Registry.pristine?, held]; rfl, ?_⟩
      rw [on.shown, Resource.shown?, Registry.pristineBinding?, held]
      rfl
    · rw [on.shown, bare]
      rfl

private def switchedManifest : Manifest :=
  ⟨.stdHttp, ⟨1, 0, 0⟩, false, [(⟨"stack", "request"⟩, .handler (.network ⟨1⟩ "request"))]⟩

private def lateManifest : Manifest :=
  ⟨.pooled, ⟨1, 0, 0⟩, false, [(⟨"pool", "request"⟩, .handler (.network ⟨2⟩ "late"))]⟩

private def switchedWorld : World :=
  ((Attempt.registerBackend ⟨0⟩ switchedManifest).on .initial).2

private def switchedPatch : PatchHandle :=
  ⟨⟨0⟩, ⟨"stack", "request"⟩, .handler (.network ⟨3⟩ "stub"), ⟨"tape"⟩, none⟩

private def patchedWorld : World :=
  (switchedPatch.enter.on switchedWorld).2

/-- A patch that is entered twice and left twice while a backend is registered, and then entered
once more; and a restore over it that is entered twice and left twice. -/
theorem Resource.switches_patch :
    (∃ reached, @SwitchCall.run ⟨0⟩
        [.enter, .enter, .register lateManifest, .exit, .exit, .enter]
        ⟨.patch switchedPatch, switchedWorld⟩ = .ok reached ∧
      reached.resource.isEntered = true ∧
      (reached.seams ⟨0⟩).binding? ⟨"stack", "request"⟩ =
        some ⟨.handler (.network ⟨3⟩ "stub"), some ⟨"tape"⟩⟩ ∧
      (reached.seams ⟨0⟩).binding? ⟨"pool", "request"⟩ =
        (reached.seams ⟨0⟩).pristineBinding? ⟨"pool", "request"⟩) ∧
    ∃ reached, @SwitchCall.run ⟨0⟩ [.enter, .register lateManifest, .enter, .exit, .exit]
        ⟨.forceRestore (.new ⟨0⟩), patchedWorld⟩ = .ok reached ∧
      reached.resource.isEntered = false ∧
      (reached.seams ⟨0⟩).binding? ⟨"stack", "request"⟩ =
        some ⟨.handler (.network ⟨3⟩ "stub"), some ⟨"tape"⟩⟩ := by
  have patch : (Resource.patch switchedPatch).IsSwitch ⟨0⟩ (switchedWorld.registries.get ⟨0⟩) :=
    ⟨rfl, rfl, rfl⟩
  have restore : (Resource.forceRestore (.new ⟨0⟩)).IsSwitch ⟨0⟩
      (patchedWorld.registries.get ⟨0⟩) := ⟨rfl, rfl⟩
  constructor
  · obtain ⟨reached, ran, isEntered, entered, -⟩ := Resource.switches patch
      [.enter, .enter, .register lateManifest, .exit, .exit, .enter]
    obtain ⟨-, middle, -, -, patched, -, others⟩ := entered rfl
    exact ⟨reached, ran, isEntered, patched _ rfl, others _ rfl⟩
  · obtain ⟨reached, ran, isEntered, -, left⟩ := Resource.switches restore
      [.enter, .register lateManifest, .enter, .exit, .exit]
    obtain ⟨-, -, shown⟩ := left rfl
    exact ⟨reached, ran, isEntered, (shown _).trans rfl⟩

end TransportSeams

import TransportSeams.Proofs.Run.Turns
import TransportSeams.Proofs.Scope.Undoing

/-!
Recovery. Resetting puts every seam to rest, whatever has happened to the registry. It may come in
the middle of a run of nested frames, and the frames that are open then still hold what they saved
before it; but once all of them are closed, every seam is at rest. At every point of such a run,
leaving everything that is entered would put every seam to rest: the oldest resource that covers a
seam has saved a binding at rest, and where nothing covers it the seam itself is at rest.
-/

set_option autoImplicit false
set_option relaxedAutoImplicit false

namespace TransportSeams

open World

def World.afterReset (id : RegistryId) (world : World) : World :=
  ((Action.resetToPristine id).on world).2

/-- Resetting counts the patched seams and puts every seam to rest, so that there is nothing to do
for a second one; it keeps the pristine values and the records. -/
structure World.RecoversAt (id : RegistryId) (world : World) : Prop where
  counts : ((Action.resetToPristine id).on world).1 =
    (world.registries.get id).patchedKeys.length
  pristine (key : SeamKey) : ((world.afterReset id).registries.get id).contains key = true →
    ((world.afterReset id).registries.get id).isPristine key = true
  unpatched : ((world.afterReset id).registries.get id).patchedKeys = []
  again : ((Action.resetToPristine id).on (world.afterReset id)).1 = 0
  keeps (key : SeamKey) : ((world.afterReset id).registries.get id).pristine? key =
    (world.registries.get id).pristine? key
  records : ((world.afterReset id).registries.get id).backends =
    (world.registries.get id).backends

theorem World.registry_afterReset (id : RegistryId) (world : World) :
    (world.afterReset id).registries.get id = (world.registries.get id).resetToPristine := by
  obtain ⟨left, run, registries, -⟩ := Action.on_resetToPristine id world
  rw [afterReset, run, registries, get_withRegistry]

theorem World.recoversAt (id : RegistryId) (world : World) : world.RecoversAt id := by
  have counts (world : World) : ((Action.resetToPristine id).on world).1 =
      (world.registries.get id).patchedKeys.length := by
    obtain ⟨left, run, -⟩ := Action.on_resetToPristine id world
    rw [run]
  have same := (world.registries.get id).sameOrigins_resetToPristine
  have unpatched := (world.registries.get id).patchedKeys_resetToPristine
  rw [← registry_afterReset] at same unpatched
  refine ⟨counts world, fun key known => ?_, unpatched, ?_, fun key => ?_, same.backends⟩
  · rw [registry_afterReset] at known ⊢
    exact Registry.isPristine_resetToPristine known
  · rw [counts, unpatched, List.length_nil]
  · rw [Registry.pristine?_eq, Registry.pristine?_eq, same.origin?_eq]

theorem Slot.isPristine_givenBack (binding? : Option Binding) (slot : Slot) :
    (slot.givenBack binding?).isPristine = true ↔
      (binding?.getD slot.current).IsAtRest slot.pristine :=
  isPristine_iff _

namespace Stage

def reset (stage : Stage) : Stage :=
  stage.make (.reset stage.registry)

inductive ReachedWithResets (start : Stage) : Stage → Prop where
  | start : ReachedWithResets start start
  | step {stage : Stage} (reached : ReachedWithResets start stage) (operation : Operation)
      (pure : operation.BuildsPurely) : ReachedWithResets start (stage.step operation)
  | reset {stage : Stage} (reached : ReachedWithResets start stage) :
      ReachedWithResets start stage.reset

def entered (stage : Stage) : List Resource :=
  stage.frames.flatMap fun frame => frame.opened.entered

/-- If everything that is entered were left, every seam would be pristine. -/
structure Recoverable (id : RegistryId) (stage : Stage) : Prop where
  prepared : stage.Prepared id
  atRest (key : SeamKey) (slot : Slot) : stage.seams.slot? key = some slot →
    (slot.givenBack (lastRestored? key stage.entered)).isPristine = true
  unknown (key : SeamKey) : stage.seams.slot? key = none →
    lastRestored? key stage.entered = none
  acts : ∀ resource ∈ stage.entered, resource.ActsOn id
  isOpen : ∀ frame ∈ stage.frames, frame.opened.IsOpen

namespace Recoverable

variable {id : RegistryId} {stage new : Stage}

theorem initial {world : World} (empty : world.registries.get id = Registry.empty) :
    (Stage.initial id world).Recoverable id where
  prepared := .initial id world
  atRest key slot held := by
    change (world.registries.get id).slot? key = some slot at held
    rw [empty] at held
    cases held
  unknown _ _ := rfl
  acts _ member := nomatch member
  isOpen _ member := nomatch member

theorem grown (recoverable : stage.Recoverable id) (prepared : new.Prepared id)
    (grows : stage.seams.Grows new.seams) (frames : new.frames = stage.frames) :
    new.Recoverable id := by
  have entered : new.entered = stage.entered := by
    rw [Stage.entered, frames]
    rfl
  refine ⟨prepared, fun key slot held => ?_, fun key missing => ?_, ?_, ?_⟩
  · rw [entered]
    cases known : stage.seams.slot? key with
    | some old =>
      have same := (grows.kept known).symm.trans held
      obtain rfl := Option.some.inj same
      exact recoverable.atRest key old known
    | none =>
      rw [recoverable.unknown key known, Slot.isPristine_givenBack, Option.getD_none,
        grows.atRest known held]
      exact slot.isAtRest_pristineBinding
  · rw [entered]
    apply recoverable.unknown
    cases known : stage.seams.slot? key with
    | none => rfl
    | some old =>
      rw [grows.kept known] at missing
      cases missing
  · rw [entered]
    exact recoverable.acts
  · rw [frames]
    exact recoverable.isOpen

theorem opened (recoverable : stage.Recoverable id) (prepared : new.Prepared id)
    {opened : Opened} (frames : new.frames = ⟨stage.seams, opened⟩ :: stage.frames)
    (same : new.seams.SameSeams stage.seams)
    (shown : new.seams.binding? = overlay stage.seams stage.seams.binding? opened.entered)
    (saved : AllSaved id stage.seams stage.seams.binding? opened.entered)
    (isOpen : opened.IsOpen) : new.Recoverable id := by
  have entered : new.entered = opened.entered ++ stage.entered := by
    rw [Stage.entered, frames]
    rfl
  have givesBack (key : SeamKey) := saved.lastRestored?_or key
  rw [← shown] at givesBack
  refine ⟨prepared, fun key slot held => ?_, fun key missing => ?_, ?_, ?_⟩
  · have known := (same.contains_eq key).symm.trans
      ((Registry.contains_iff_slot? _ key).2 ⟨slot, held⟩)
    obtain ⟨old, before⟩ := (Registry.contains_iff_slot? _ key).1 known
    have pristine : old.pristine = slot.pristine := by
      have bindings := same key
      rw [Registry.pristineBinding?, Registry.pristineBinding?, held, before] at bindings
      exact congrArg Binding.value (Option.some.inj bindings).symm
    have current : (lastRestored? key opened.entered).getD slot.current = old.current := by
      have uncovered := givesBack key
      rw [Registry.binding?, Registry.binding?, held, before, Option.map_some, Option.map_some,
        Option.or_some] at uncovered
      exact Option.some.inj uncovered
    have atRest := recoverable.atRest key old before
    rw [Slot.isPristine_givenBack, pristine, ← current] at atRest
    rw [entered, lastRestored?_append, ← Slot.givenBack_givenBack, Slot.isPristine_givenBack]
    exact atRest
  · have uncovered := givesBack key
    have before : stage.seams.slot? key = none := by
      have known := same.contains_eq key
      simp only [Registry.contains, missing] at known
      simpa using known.symm
    rw [Registry.binding?, Registry.binding?, missing, before] at uncovered
    rw [entered, lastRestored?_append, recoverable.unknown key before]
    simpa using uncovered
  · intro resource member
    rw [entered] at member
    rcases List.mem_append.1 member with member | member
    · obtain ⟨below, savedHere⟩ := saved.forall_hasSaved resource member
      exact savedHere.actsOn
    · exact recoverable.acts resource member
  · intro frame member
    rw [frames] at member
    rcases List.mem_cons.1 member with rfl | member
    · exact isOpen
    · exact recoverable.isOpen frame member

theorem left (recoverable : stage.Recoverable id) (prepared : new.Prepared id) {frame : Frame}
    {rest : List Frame} (frames : stage.frames = frame :: rest) (frames' : new.frames = rest)
    (slots : ∀ key, new.seams.slot? key = (stage.seams.slot? key).map
      (Slot.givenBack (lastRestored? key frame.opened.entered))) : new.Recoverable id := by
  have entered : stage.entered = frame.opened.entered ++ new.entered := by
    rw [Stage.entered, Stage.entered, frames, frames']
    rfl
  refine ⟨prepared, fun key slot held => ?_, fun key missing => ?_, fun resource member => ?_,
    fun older member => ?_⟩
  · rw [slots key] at held
    obtain ⟨old, before, rfl⟩ := Option.map_eq_some_iff.1 held
    have atRest := recoverable.atRest key old before
    rwa [entered, lastRestored?_append, ← Slot.givenBack_givenBack] at atRest
  · rw [slots key] at missing
    have before := recoverable.unknown key (by simpa using missing)
    rw [entered, lastRestored?_append] at before
    exact (Option.or_eq_none_iff.1 before).1
  · exact recoverable.acts resource (entered ▸ List.mem_append_right _ member)
  · refine recoverable.isOpen older ?_
    rw [frames]
    exact List.mem_cons_of_mem _ (frames' ▸ member)

theorem closed (recoverable : stage.Recoverable id) : stage.closeNewest.Recoverable id := by
  have prepared := recoverable.prepared.closeNewest.prepared
  obtain rfl := recoverable.prepared.registry
  cases frames : stage.frames with
  | nil =>
    rwa [closeNewest_nil frames]
  | cons frame rest =>
    have acts : ∀ resource ∈ frame.opened.entered, resource.ActsOn stage.registry := by
      intro resource member
      refine recoverable.acts resource ?_
      rw [Stage.entered, frames, List.flatMap_cons]
      exact List.mem_append_left _ member
    obtain ⟨before, opened⟩ := frame
    cases opened with
    | session builder scope =>
      have isOpen := recoverable.isOpen _ (frames ▸ List.mem_cons_self)
      have left : stage.closeNewest = { stage with
          world := ((Scope.exitAll scope.session scope.entered .empty).on stage.world).2
          frames := rest } := by
        rw [closeNewest_session frames, Scope.on_close isOpen.2.1]
      rw [left] at prepared ⊢
      exact recoverable.left prepared frames rfl fun key =>
        Scope.slot?_exitAll scope.session acts .empty stage.world key
    | bracket restore =>
      have left : stage.closeNewest = { stage with
          world := (restore.exit.on stage.world).2, frames := rest } := closeNewest_bracket frames
      have registered : restore.registry = stage.registry := acts _ List.mem_cons_self
      rw [left] at prepared ⊢
      refine recoverable.left prepared frames rfl fun key => ?_
      have slots := restore.slot?_exit stage.world key
      rw [registered] at slots
      rw [Opened.entered, lastRestored?_cons]
      exact slots

/-- A reset changes no binding that an open resource has saved at a seam, and puts the seams that
none covers to rest. -/
theorem reset (recoverable : stage.Recoverable id) : stage.reset.Recoverable id := by
  obtain rfl := recoverable.prepared.registry
  have seams : stage.reset.seams = stage.seams.resetToPristine :=
    World.registry_afterReset stage.registry stage.world
  have same : stage.reset.seams.SameSeams stage.seams := by
    rw [seams]
    exact stage.seams.sameOrigins_resetToPristine.sameSeams
  refine ⟨recoverable.prepared.of_keeps rfl rfl rfl (.of_same same), fun key slot held => ?_,
    fun key missing => ?_, recoverable.acts, recoverable.isOpen⟩
  · rw [seams, Registry.slot?_resetToPristine] at held
    obtain ⟨old, before, rfl⟩ := Option.map_eq_some_iff.1 held
    have atRest := recoverable.atRest key old before
    change (old.reset.givenBack (lastRestored? key stage.entered)).isPristine = true
    cases restores : lastRestored? key stage.entered with
    | none => exact old.isPristine_reset
    | some binding =>
      have pristine : old.reset.pristine = old.pristine :=
        congrArg Origin.pristine old.origin_reset
      rw [restores, Slot.isPristine_givenBack] at atRest
      rw [Slot.isPristine_givenBack, pristine]
      exact atRest
  · rw [seams, Registry.slot?_resetToPristine] at missing
    exact recoverable.unknown key (Option.map_eq_none_iff.1 missing)

theorem step (recoverable : stage.Recoverable id) {operation : Operation}
    (pure : operation.BuildsPurely) : (stage.step operation).Recoverable id := by
  have advances := recoverable.prepared.step pure
  cases advances.turn with
  | grown grows frames => exact recoverable.grown advances.prepared grows frames
  | opened opened frames same shown saved isOpen =>
    exact recoverable.opened advances.prepared frames same shown saved isOpen
  | closed undone =>
    rw [undone]
    exact recoverable.closed

theorem of_reached {world : World} (empty : world.registries.get id = Registry.empty)
    (reached : ReachedWithResets (.initial id world) stage) : stage.Recoverable id := by
  induction reached with
  | start => exact .initial empty
  | step _ operation pure ih => exact ih.step pure
  | reset _ ih => exact ih.reset

end Recoverable

/-- In every world, resetting gives the number of the patched seams and puts all seams to rest for
good. In a run of nested frames over a registry that started empty, with resets at any points, every
seam is pristine whenever no frame is open. -/
theorem resets_recover {id : RegistryId} {start : World}
    (empty : start.registries.get id = Registry.empty) :
    (∀ other world, World.RecoversAt other world) ∧
      ∀ stage, ReachedWithResets (.initial id start) stage → stage.frames = [] →
        ∀ key, stage.seams.contains key = true → stage.seams.isPristine key = true := by
  refine ⟨World.recoversAt, fun stage reached closed key known => ?_⟩
  have recoverable := Recoverable.of_reached empty reached
  obtain ⟨slot, held⟩ := (Registry.contains_iff_slot? _ key).1 known
  have atRest := recoverable.atRest key slot held
  rw [Stage.entered, closed] at atRest
  rw [Registry.isPristine, held, Option.any_some]
  exact atRest

private def tapedManifest : Manifest :=
  ⟨.stdHttp, ⟨1, 0, 0⟩, false, [(⟨"stack", "request"⟩, .handler (.network ⟨1⟩ "request"))]⟩

private def tapedSession (name : String) (function : Nat) : Session :=
  ⟨⟨name⟩, [⟨⟨"stack", "request"⟩, .handler (.network ⟨function⟩ name)⟩], .standard ⟨0⟩⟩

private def resetStage : Stage :=
  ((((((Stage.initial ⟨0⟩ .initial).step (.register tapedManifest)).step
    (.newBuilder (tapedSession "outer" 2) KeyMap.empty 4)).step (.start 0)).step
      (.newBuilder (tapedSession "inner" 3) KeyMap.empty 4)).step (.start 1)).reset

/-- Closing the inner session after the reset gives the seam back to the outer one, and closing the
outer one puts it to rest. -/
theorem resets_recover_between :
    resetStage.seams.isPristine ⟨"stack", "request"⟩ = true ∧
      (resetStage.step .close).seams.isPristine ⟨"stack", "request"⟩ = false ∧
      ((resetStage.step .close).step .close).frames = [] ∧
      ((resetStage.step .close).step .close).seams.isPristine ⟨"stack", "request"⟩ = true := by
  have begun : ReachedWithResets (.initial ⟨0⟩ .initial) (.initial ⟨0⟩ .initial) := .start
  have builds (name : String) (function : Nat) :
      Operation.BuildsPurely (.newBuilder (tapedSession name function) KeyMap.empty 4) :=
    ⟨StubCatalog.standard_keepsRegistries _, fun _ member => nomatch member⟩
  have opened := ((((begun.step (.register tapedManifest) trivial).step _ (builds "outer" 2)).step
    (.start 0) trivial).step _ (builds "inner" 3)).step (.start 1) trivial
  have reached := (opened.reset.step .close trivial).step .close trivial
  have closed : ((resetStage.step .close).step .close).frames = [] := rfl
  have empty : World.initial.registries.get ⟨0⟩ = Registry.empty := rfl
  exact ⟨by decide +kernel, by decide +kernel, closed,
    (resets_recover empty).2 _ reached closed _ (by decide +kernel)⟩

end Stage

end TransportSeams

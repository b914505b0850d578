import TransportSeams.Proofs.Run.Turns

/-!
The registry of a run is a stack of overlays. Every seam shows the binding of the newest open
resource that covers it, and closing a frame uncovers what the registry was when it was entered.
What holds of a stage for this is `Layered`: each open resource has saved what is shown below it.
-/

set_option autoImplicit false
set_option relaxedAutoImplicit false

namespace TransportSeams

open World

namespace Registry

theorem Grows.binding?_eq {old new : Registry} (grows : old.Grows new) (key : SeamKey) :
    new.binding? key = (old.binding? key).or (new.pristineBinding? key) := by
  cases held : old.slot? key with
  | some slot => simp [binding?, held, grows.kept held]
  | none =>
    cases found : new.slot? key with
    | none => simp [binding?, pristineBinding?, held, found]
    | some slot => simp [binding?, pristineBinding?, held, found, grows.atRest held found]

end Registry

def Frame.shown? (key : SeamKey) (frame : Frame) : Option Binding :=
  frame.opened.entered.findSome? (Resource.shown? frame.before key)

def overlays (below : View) (frames : List Frame) : View :=
  fun key => (frames.findSome? (Frame.shown? key)).or (below key)

/-- What a run shows where nothing that is open covers a seam: the binding of the start, and at a
seam that was registered since then the pristine one. -/
def ground (start now : Registry) : View :=
  fun key => (start.binding? key).or (now.pristineBinding? key)

theorem overlays_cons (below : View) (frame : Frame) (rest : List Frame) :
    overlays below (frame :: rest) =
      overlay frame.before (overlays below rest) frame.opened.entered := by
  funext key
  unfold overlays overlay
  rw [List.findSome?_cons, Frame.shown?]
  cases frame.opened.entered.findSome? (Resource.shown? frame.before key) <;> simp

theorem overlays_cons_of_shown {key : SeamKey} {frame : Frame} {binding : Binding}
    (shown : frame.shown? key = some binding) (below : View) (rest : List Frame) :
    overlays below (frame :: rest) key = some binding := by
  rw [overlays, List.findSome?_cons, shown]
  rfl

theorem overlays_cons_of_bare {key : SeamKey} {frame : Frame} (bare : frame.shown? key = none)
    (below : View) (rest : List Frame) :
    overlays below (frame :: rest) key = overlays below rest key := by
  rw [overlays, List.findSome?_cons, bare]
  rfl

theorem ground_congr (start : Registry) {now now' : Registry} (same : now'.SameSeams now) :
    ground start now' = ground start now := by
  funext key
  unfold ground
  rw [same key]

theorem overlays_ground_grown {start now now' : Registry} (keeps : now.KeepsSeams now')
    (frames : List Frame) (key : SeamKey) :
    overlays (ground start now') frames key =
      (overlays (ground start now) frames key).or (now'.pristineBinding? key) := by
  unfold overlays ground
  rw [Option.or_assoc, Option.or_assoc, keeps.pristine_or]

/-- The view shows what the registry was just before the frame was entered, and at the seams that
were registered since then their pristine values. -/
def Frame.IsUndone (frame : Frame) (now : Registry) (view : View) : Prop :=
  ∀ key, view key = (frame.before.binding? key).or (now.pristineBinding? key)

/-- Over the older frames, the frame has saved what they show, and without it they show what the
registry was before. -/
structure Frame.IsLaid (id : RegistryId) (now : Registry) (below : View) (frame : Frame) :
    Prop where
  keeps : frame.before.KeepsSeams now
  uncovers : frame.IsUndone now below
  saved : AllSaved id frame.before below frame.opened.entered
  isOpen : frame.opened.IsOpen

def Laid (id : RegistryId) (start now : Registry) : List Frame → Prop
  | [] => True
  | frame :: rest =>
    frame.IsLaid id now (overlays (ground start now) rest) ∧ Laid id start now rest

theorem Laid.isOpen {id : RegistryId} {start now : Registry} {frames : List Frame}
    (laid : Laid id start now frames) : ∀ frame ∈ frames, frame.opened.IsOpen := by
  induction frames with
  | nil => exact fun frame member => nomatch member
  | cons newest rest ih =>
    intro frame member
    rcases List.mem_cons.1 member with rfl | member
    · exact laid.1.isOpen
    · exact ih laid.2 frame member

theorem Laid.grown {id : RegistryId} {start now now' : Registry} (grown : now.KeepsSeams now')
    {frames : List Frame} (laid : Laid id start now frames) : Laid id start now' frames := by
  induction frames with
  | nil => trivial
  | cons frame rest ih =>
    obtain ⟨⟨keeps, uncovers, saved, isOpen⟩, below⟩ := laid
    have uncovers' (key : SeamKey) : overlays (ground start now') rest key =
        (frame.before.binding? key).or (now'.pristineBinding? key) := by
      rw [overlays_ground_grown grown, uncovers, Option.or_assoc, grown.pristine_or]
    refine ⟨⟨keeps.trans grown, uncovers', saved.congr ?_, isOpen⟩, ih below⟩
    intro key contained
    rw [Registry.contains_eq_isSome_binding?] at contained
    obtain ⟨binding, held⟩ := Option.isSome_iff_exists.1 contained
    rw [uncovers', uncovers, held]
    rfl

/-- The stage of a run that started with the registry `start`: it shows the overlays of its frames,
and what has been built can be entered. -/
structure Layered (id : RegistryId) (start : Registry) (stage : Stage) : Prop where
  registry : stage.registry = id
  keeps : start.KeepsSeams stage.seams
  shown : stage.seams.binding? = overlays (ground start stage.seams) stage.frames
  laid : Laid id start stage.seams stage.frames
  builders : ∀ builder ∈ stage.builders, builder.registry = id ∧ builder.KeepsRegistries
  fresh : ∀ entry ∈ stage.built, ∀ resource ∈ entry.2,
    resource.IsFresh id entry.1.session.id stage.seams

namespace Layered

variable {id : RegistryId} {start : Registry} {stage : Stage}

theorem initial (id : RegistryId) (world : World) :
    Layered id (world.registries.get id) (.initial id world) where
  registry := rfl
  keeps _ _ held := held
  shown := by
    funext key
    exact (Registry.Grows.refl _).binding?_eq key
  laid := trivial
  builders _ member := nomatch member
  fresh _ member := nomatch member

theorem prepared (layered : Layered id start stage) : stage.Prepared id :=
  ⟨layered.registry, layered.builders, layered.fresh⟩

theorem grown (layered : Layered id start stage) {new : Stage} (prepared : new.Prepared id)
    (grows : stage.seams.Grows new.seams) (frames : new.frames = stage.frames) :
    Layered id start new where
  registry := prepared.registry
  keeps := layered.keeps.trans grows.keepsSeams
  shown := by
    funext key
    rw [grows.binding?_eq, layered.shown, frames]
    exact (overlays_ground_grown grows.keepsSeams stage.frames key).symm
  laid := by
    rw [frames]
    exact layered.laid.grown grows.keepsSeams
  builders := prepared.builders
  fresh := prepared.fresh

theorem push (layered : Layered id start stage) {new : Stage} (prepared : new.Prepared id)
    {opened : Opened} (frames : new.frames = ⟨stage.seams, opened⟩ :: stage.frames)
    (same : new.seams.SameSeams stage.seams)
    (shown : new.seams.binding? = overlay stage.seams stage.seams.binding? opened.entered)
    (saved : AllSaved id stage.seams stage.seams.binding? opened.entered)
    (isOpen : opened.IsOpen) : Layered id start new := by
  have ground := ground_congr start same
  refine ⟨prepared.registry, layered.keeps.trans (.of_same same), ?_, ?_, prepared.builders,
    prepared.fresh⟩
  · rw [shown, layered.shown, frames, overlays_cons, ground]
  · rw [frames]
    refine ⟨⟨.of_same same, ?_, ?_, isOpen⟩, layered.laid.grown (.of_same same)⟩
    · intro key
      have atRest := (Registry.Grows.refl stage.seams).binding?_eq key
      rw [← same key] at atRest
      rw [ground, ← layered.shown]
      exact atRest
    · apply saved.congr
      intro key _
      rw [layered.shown, ground]

theorem uncover (layered : Layered id start stage) {frame : Frame} {rest : List Frame}
    (frames : stage.frames = frame :: rest) {left : World}
    (same : (left.registries.get id).SameSeams stage.seams)
    (uncovered : (left.registries.get id).binding? = overlays (ground start stage.seams) rest) :
    Layered id start { stage with world := left, frames := rest } ∧
      frame.IsUndone (left.registries.get id) (left.registries.get id).binding? := by
  obtain rfl := layered.registry
  have laid := layered.laid
  rw [frames] at laid
  refine ⟨⟨rfl, layered.keeps.trans (.of_same same), ?_, laid.2.grown (.of_same same),
    layered.builders, ?_⟩, ?_⟩
  · refine uncovered.trans ?_
    rw [← ground_congr start same]
    rfl
  · intro entry member resource built
    exact (layered.fresh entry member resource built).kept (.of_same same)
  · intro key
    rw [uncovered, same key]
    exact laid.1.uncovers key

theorem closeNewest (layered : Layered id start stage) :
    Layered id start stage.closeNewest ∧ ∀ frame rest, stage.frames = frame :: rest →
      frame.IsUndone stage.closeNewest.seams stage.closeNewest.seams.binding? := by
  obtain rfl := layered.registry
  have laid := layered.laid
  have shown := layered.shown
  unfold Stage.closeNewest
  split
  · rename_i frames
    refine ⟨layered, fun frame rest frames' => ?_⟩
    rw [frames] at frames'
    cases frames'
  · rename_i before builder scope rest frames
    rw [frames] at laid shown
    obtain ⟨⟨keeps, -, saved, -, isOpen, -⟩, -⟩ := laid
    simp only [Opened.entered] at saved
    obtain ⟨left, run, same, uncovered⟩ := Scope.on_exitAll stage.world scope.session
      .empty saved keeps.contains (shown.trans (overlays_cons _ _ rest))
    rw [Call.on_close, Scope.on_close isOpen, run]
    obtain ⟨layered', undone⟩ := layered.uncover frames same uncovered
    refine ⟨layered', fun frame rest' frames' => ?_⟩
    obtain ⟨rfl, -⟩ := List.cons.inj (frames.symm.trans frames')
    exact undone
  · rename_i before restore rest frames
    rw [frames] at laid shown
    obtain ⟨⟨keeps, -, ⟨saved, -⟩, -⟩, -⟩ := laid
    obtain ⟨left, run, same, uncovered⟩ := Resource.on_exit stage.world saved
      keeps.contains fun key => by
        have covered := congrFun (shown.trans (overlays_cons _ _ rest)) key
        rwa [Opened.entered, overlay_cons] at covered
    have exited : (restore.exit.on stage.world).2 = left := by
      simp only [Resource.exit, Attempt.on_bind] at run
      generalize restore.exit.on stage.world = turn at run ⊢
      obtain ⟨outcome, left'⟩ := turn
      cases outcome with
      | error error => cases run
      | ok restore => exact (Prod.mk.inj run).2
    rw [Call.on_exitRestore, exited]
    obtain ⟨layered', undone⟩ := layered.uncover frames same uncovered
    refine ⟨layered', fun frame rest' frames' => ?_⟩
    obtain ⟨rfl, -⟩ := List.cons.inj (frames.symm.trans frames')
    exact undone

end Layered

theorem Layered.step {id : RegistryId} {start : Registry} {stage : Stage}
    (layered : Layered id start stage) {operation : Operation} (pure : operation.BuildsPurely) :
    Layered id start (stage.step operation) := by
  have advances := layered.prepared.step pure
  cases advances.turn with
  | grown grows frames => exact layered.grown advances.prepared grows frames
  | opened opened frames same shown saved isOpen =>
    exact layered.push advances.prepared frames same shown saved isOpen
  | closed undone =>
    rw [undone]
    exact layered.closeNewest.1

/-- At every point of a run of nested frames, whatever is built, entered, restored, registered,
taken from pools or called in between, each seam shows what the newest open resource that covers it
installed, with the owner; where none does, it shows the binding of the start, and its pristine
value if it was registered since. Closing the newest frame leaves every seam as it was just before
that frame was entered. -/
theorem Stage.seams_eq_overlays {id : RegistryId} {world : World} {stage : Stage}
    (reached : Reachable (fun _ operation => operation.BuildsPurely) (.initial id world) stage) :
    (∀ key, stage.seams.binding? key =
      ((stage.frames.findSome? (Frame.shown? key)).or
        ((world.registries.get id).binding? key)).or (stage.seams.pristineBinding? key)) ∧
    (∀ frame ∈ stage.frames, ∀ builder scope, frame.opened = .session builder scope →
      ∀ handle, .patch handle ∈ scope.entered →
        handle.binding = ⟨handle.replacement, some builder.session.id⟩) ∧
    ∀ frame rest, stage.frames = frame :: rest → ∀ key,
      (stage.step .close).seams.binding? key = (frame.before.binding? key).or
        ((stage.step .close).seams.pristineBinding? key) := by
  have layered : Layered id (world.registries.get id) stage :=
    reached.invariant (.initial id world) fun _ layered pure => layered.step pure
  refine ⟨?_, ?_, layered.closeNewest.2⟩
  · intro key
    rw [layered.shown, overlays, ground, Option.or_assoc]
  · intro frame member builder scope opened handle entered
    have isOpen := layered.laid.isOpen frame member
    rw [opened] at isOpen
    rw [PatchHandle.binding, isOpen.2.2 handle entered]

private def soleManifest : Manifest :=
  ⟨.stdHttp, ⟨1, 0, 0⟩, false, [(⟨"stack", "request"⟩, .handler (.network ⟨1⟩ "request"))]⟩

private def solePatchSession : Session :=
  ⟨⟨"tape"⟩, [⟨⟨"stack", "request"⟩, .handler (.network ⟨2⟩ "stub")⟩], .standard ⟨0⟩⟩

/-- A scoped restore over the scope of a session with one patch. -/
private def restoredStage : Stage :=
  ((((Stage.initial ⟨0⟩ .initial).step (.register soleManifest)).step
    (.newBuilder solePatchSession KeyMap.empty 4)).step (.start 0)).step .restore

theorem Stage.seams_eq_overlays_restored :
    restoredStage.frames.length = 2 ∧
      ∀ key, restoredStage.seams.binding? key =
        ((restoredStage.frames.findSome? (Frame.shown? key)).or
          ((World.initial.registries.get ⟨0⟩).binding? key)).or
            (restoredStage.seams.pristineBinding? key) := by
  have begun : Reachable (fun _ operation => operation.BuildsPurely)
      (.initial ⟨0⟩ World.initial) (.initial ⟨0⟩ .initial) := .start
  have prepared := (begun.step (.register soleManifest) trivial).step
    (.newBuilder solePatchSession KeyMap.empty 4)
    ⟨StubCatalog.standard_keepsRegistries _, fun _ member => nomatch member⟩
  have reached := (prepared.step (.start 0) trivial).step .restore trivial
  exact ⟨rfl, (seams_eq_overlays reached).1⟩

end TransportSeams

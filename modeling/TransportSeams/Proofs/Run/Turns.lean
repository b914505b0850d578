import TransportSeams.Proofs.Adapter.Effects
import TransportSeams.Proofs.Run.Stage
import TransportSeams.Proofs.Scope.Origins
import TransportSeams.Proofs.Scope.Overlay

/-!
What one operation of a run does to its registry and its frames. Either the registry gets seams at
most and the frames stay, or a frame is opened whose resources are laid over what the registry
showed, or the newest frame is closed. No operation takes a seam or a record away, so what has been
built stays fit to be entered.
-/

set_option autoImplicit false
set_option relaxedAutoImplicit false

namespace TransportSeams

open World

namespace Registry

def KeepsSeams (old new : Registry) : Prop :=
  ∀ key binding, old.pristineBinding? key = some binding →
    new.pristineBinding? key = some binding

theorem KeepsSeams.of_same {old new : Registry} (same : new.SameSeams old) :
    old.KeepsSeams new :=
  fun key _ held => (same key).trans held

theorem KeepsSeams.trans {old middle new : Registry} (first : old.KeepsSeams middle)
    (second : middle.KeepsSeams new) : old.KeepsSeams new :=
  fun key binding held => second key binding (first key binding held)

theorem KeepsSeams.contains {old new : Registry} (keeps : old.KeepsSeams new) (key : SeamKey)
    (contained : old.contains key = true) : new.contains key = true := by
  rw [contains_iff_pristineBinding?] at contained ⊢
  obtain ⟨binding, held⟩ := Option.isSome_iff_exists.1 contained
  rw [keeps key binding held]
  rfl

theorem KeepsSeams.pristine_or {old new : Registry} (keeps : old.KeepsSeams new) (key : SeamKey) :
    (old.pristineBinding? key).or (new.pristineBinding? key) = new.pristineBinding? key := by
  cases held : old.pristineBinding? key with
  | none => rfl
  | some binding => rw [keeps key binding held]; rfl

theorem Grows.keepsSeams {old new : Registry} (grows : old.Grows new) : old.KeepsSeams new := by
  intro key binding held
  obtain ⟨slot, found, rfl⟩ := Option.map_eq_some_iff.1 held
  simp [pristineBinding?, grows.kept found]

theorem SameOrigins.sameSeams {a b : Registry} (same : a.SameOrigins b) : a.SameSeams b := by
  have atRest (registry : Registry) (key : SeamKey) : registry.pristineBinding? key =
      (registry.origin? key).map fun origin => ⟨origin.pristine, none⟩ := by
    unfold pristineBinding? origin?
    cases registry.slot? key <;> rfl
  intro key
  rw [atRest, atRest, same.origin?_eq]

theorem SameOrigins.records {a b : Registry} (same : a.SameOrigins b) (backend : Backend)
    (recorded : b.hasBackend backend = true) : a.hasBackend backend = true := by
  rwa [hasBackend, same.backends]

end Registry

def Opened.IsOpen : Opened → Prop
  | session builder scope =>
    scope.session = builder.session.id ∧ scope.closed = false ∧
      ∀ handle, .patch handle ∈ scope.entered → handle.owner = builder.session.id
  | bracket _ => True

theorem Resource.IsFresh.kept {id : RegistryId} {session : SessionId} {old new : Registry}
    (keeps : old.KeepsSeams new) {resource : Resource} (fresh : resource.IsFresh id session old) :
    resource.IsFresh id session new := by
  cases resource with
  | patch handle =>
    obtain ⟨registered, owned, idle, contained⟩ := fresh
    exact ⟨registered, owned, idle, keeps.contains _ contained⟩
  | poolGuard guard => exact fresh
  | forceRestore restore => exact fresh

def Operation.BuildsPurely : Operation → Prop
  | newBuilder session catalog _ =>
    session.stubs.Moves KeepsRegistries ∧
      ∀ adapter ∈ catalog.values, adapter.Moves KeepsRegistries
  | _ => True

/-- Scopes are opened by starting their builders, and nothing else is opened. -/
def Operation.OpensByStarting : Operation → Prop
  | enter _ | restore => False
  | _ => True

namespace Stage

structure Prepared (id : RegistryId) (stage : Stage) : Prop where
  registry : stage.registry = id
  builders : ∀ builder ∈ stage.builders, builder.registry = id ∧ builder.KeepsRegistries
  fresh : ∀ entry ∈ stage.built, ∀ resource ∈ entry.2,
    resource.IsFresh id entry.1.session.id stage.seams

inductive Turn (id : RegistryId) (old new : Stage) : Prop where
  | grown (grows : old.seams.Grows new.seams) (frames : new.frames = old.frames)
  | opened (opened : Opened) (frames : new.frames = ⟨old.seams, opened⟩ :: old.frames)
    (same : new.seams.SameSeams old.seams)
    (shown : new.seams.binding? = overlay old.seams old.seams.binding? opened.entered)
    (saved : AllSaved id old.seams old.seams.binding? opened.entered) (isOpen : opened.IsOpen)
  | closed (undone : new = old.closeNewest)

/-- The stage that follows is prepared again, its registry and frames have made a turn, and the
backends that were recorded still are. -/
structure Advances (id : RegistryId) (old new : Stage) : Prop where
  prepared : new.Prepared id
  turn : old.Turn id new
  records (backend : Backend) :
    old.seams.hasBackend backend = true → new.seams.hasBackend backend = true

namespace Prepared

variable {id : RegistryId} {stage new : Stage}

theorem initial (id : RegistryId) (world : World) : (Stage.initial id world).Prepared id where
  registry := rfl
  builders _ member := nomatch member
  fresh _ member := nomatch member

theorem seams_eq (prepared : stage.Prepared id) :
    stage.seams = stage.world.registries.get id := by
  rw [← prepared.registry]
  rfl

theorem seams_of_builder (prepared : stage.Prepared id) {builder : Builder}
    (member : builder ∈ stage.builders) :
    stage.world.registries.get builder.registry = stage.seams := by
  rw [(prepared.builders builder member).1, prepared.seams_eq]

theorem of_keeps (prepared : stage.Prepared id) (registry : new.registry = stage.registry)
    (builders : new.builders = stage.builders) (built : new.built = stage.built)
    (keeps : stage.seams.KeepsSeams new.seams) : new.Prepared id where
  registry := registry.trans prepared.registry
  builders := builders ▸ prepared.builders
  fresh entry member resource listed := by
    rw [built] at member
    exact (prepared.fresh entry member resource listed).kept keeps

theorem grown (prepared : stage.Prepared id) {left : World}
    (grows : stage.seams.Grows (left.registries.get id))
    (records : ∀ backend, stage.seams.hasBackend backend = true →
      (left.registries.get id).hasBackend backend = true) :
    stage.Advances id (stage.withWorld left) := by
  obtain rfl := prepared.registry
  exact ⟨prepared.of_keeps rfl rfl rfl grows.keepsSeams, .grown grows rfl, records⟩

theorem idle (prepared : new.Prepared id) (same : new.seams = stage.seams)
    (frames : new.frames = stage.frames) : stage.Advances id new where
  prepared := prepared
  turn := .grown (same ▸ Registry.Grows.refl stage.seams) frames
  records backend recorded := by rwa [same]

theorem seams_withWorld {left : World} (keeps : stage.world.KeepsRegistries left) :
    (stage.withWorld left).seams = stage.seams := by
  unfold seams withWorld
  rw [keeps]

theorem keptHolding (prepared : stage.Prepared id) {left : World}
    (keeps : stage.world.KeepsRegistries left) (held : List (PoolId × Connection)) :
    stage.Advances id { stage.withWorld left with held := held } := by
  have same := seams_withWorld keeps
  exact idle (prepared.of_keeps rfl rfl rfl fun key binding shown => by
    rwa [← same] at shown) same rfl

theorem kept (prepared : stage.Prepared id) {left : World}
    (keeps : stage.world.KeepsRegistries left) : stage.Advances id (stage.withWorld left) :=
  prepared.keptHolding keeps stage.held

theorem checkOut (prepared : stage.Prepared id) (pool : PoolId)
    {call : Call (Except SeamError Connection)}
    (keeps : ∀ world : World, world.KeepsRegistries (call.on world).2) :
    stage.Advances id (stage.checkOut pool call) := by
  have kept := keeps stage.world
  unfold Stage.checkOut
  generalize call.on stage.world = turn at kept ⊢
  obtain ⟨outcome, left⟩ := turn
  cases outcome with
  | ok connection => exact prepared.keptHolding kept _
  | error error => exact prepared.kept kept

theorem building (prepared : stage.Prepared id) {builder : Builder}
    (member : builder ∈ stage.builders) :
    stage.world.KeepsRegistries (builder.build.on stage.world).2 ∧
      ∀ resource ∈ (builder.build.on stage.world).1,
        resource.IsFresh id builder.session.id stage.seams := by
  obtain ⟨registered, keeps⟩ := prepared.builders builder member
  refine ⟨Builder.build_keepsRegistries keeps stage.world, ?_⟩
  have fresh := Builder.build_fresh keeps stage.world
  rwa [prepared.seams_of_builder member, registered] at fresh

theorem openScope_eq (prepared : stage.Prepared id) {builder : Builder}
    {resources : List Resource} {call : Call (Except SeamError Scope)} {world : World}
    (keeps : stage.world.KeepsRegistries world)
    (run : call.on stage.world = (Scope.enter builder.session.id resources).on world)
    (fresh : ∀ resource ∈ resources, resource.IsFresh id builder.session.id stage.seams) :
    ∃ all left, all.map Resource.unentered = resources.reverse ∧ world.DiffersAtSeams left ∧
      stage.openScope builder call =
        { (stage.push (.session builder ⟨builder.session.id, all, false⟩)).withWorld left with
          started := builder.session.id :: stage.started } ∧
      (left.registries.get id).SameOrigins stage.seams ∧
      (left.registries.get id).binding? = overlay stage.seams stage.seams.binding? all ∧
      AllSaved id stage.seams stage.seams.binding? all ∧
      Opened.IsOpen (.session builder ⟨builder.session.id, all, false⟩) := by
  have seams : world.registries.get id = stage.seams := by
    rw [keeps, prepared.seams_eq]
  obtain ⟨all, left, entered, named, apart, -, shown, saved⟩ :=
    Scope.on_enterAll world fresh (fun key => by rw [seams])
      (overlay_nil stage.seams (world.registries.get id).binding?).symm trivial
  have same := Scope.enterAll_keepsOrigins builder.session.id resources [] world id
  rw [entered, seams] at same
  rw [seams] at shown saved
  rw [List.map_nil, List.append_nil] at named
  have owned (handle : PatchHandle) (member : Resource.patch handle ∈ all) :
      handle.owner = builder.session.id := by
    have listed := List.mem_map_of_mem (f := Resource.unentered) member
    rw [named, List.mem_reverse] at listed
    have fresh : Resource.IsFresh id builder.session.id stage.seams (.patch _) := fresh _ listed
    exact fresh.2.1
  have result : stage.openScope builder call =
      { (stage.push (.session builder ⟨builder.session.id, all, false⟩)).withWorld left with
        started := builder.session.id :: stage.started } := by
    unfold Stage.openScope
    rw [run, Scope.enter, entered]
  exact ⟨all, left, named, apart, result, same, shown, saved, rfl, rfl, owned⟩

/-- What the opening stage had built before does not matter. -/
theorem openScope (prepared : stage.Prepared id) (old : Stage) (seams : old.seams = stage.seams)
    (frames : old.frames = stage.frames) {builder : Builder} {resources : List Resource}
    {call : Call (Except SeamError Scope)} {world : World}
    (keeps : stage.world.KeepsRegistries world)
    (run : call.on stage.world = (Scope.enter builder.session.id resources).on world)
    (fresh : ∀ resource ∈ resources, resource.IsFresh id builder.session.id stage.seams) :
    old.Advances id (stage.openScope builder call) := by
  obtain ⟨all, left, -, -, opened, same, shown, saved, isOpen⟩ :=
    prepared.openScope_eq keeps run fresh
  obtain rfl := prepared.registry
  rw [opened]
  refine ⟨prepared.of_keeps rfl rfl rfl (.of_same same.sameSeams),
    .opened _ ?_ ?_ ?_ ?_ isOpen, ?_⟩
  · rw [seams, frames]
    rfl
  · rw [seams]
    exact same.sameSeams
  · rw [seams]
    exact shown
  · rw [seams]
    exact saved
  · rw [seams]
    exact same.records

theorem openRestore (prepared : stage.Prepared id) : stage.Advances id stage.openRestore := by
  have fresh (session : SessionId) :
      (Resource.forceRestore (.new stage.registry)).IsFresh id session stage.seams :=
    ⟨prepared.registry, rfl⟩
  obtain ⟨resource, left, entered, -, -, -, shown, saved⟩ :=
    Resource.on_enter stage.world (fresh ⟨""⟩) fun key => by rw [prepared.seams_eq]
  have same := Resource.enter_keepsOrigins (.forceRestore (.new stage.registry)) stage.world id
  rw [entered, ← prepared.seams_eq] at same
  simp only [Stage.openRestore, Call.on_enterRestore]
  simp only [Resource.enter, Attempt.on_bind] at entered
  generalize (ForceRestore.new stage.registry).enter.on stage.world = turn at entered ⊢
  obtain ⟨outcome, left'⟩ := turn
  cases outcome with
  | error error => cases entered
  | ok restore =>
    cases entered
    obtain rfl := prepared.registry
    refine ⟨prepared.of_keeps rfl rfl rfl (.of_same same.sameSeams),
      .opened (.bracket restore) rfl same.sameSeams ?_ ⟨saved, trivial⟩ trivial, same.records⟩
    funext key
    rw [Opened.entered, overlay_cons, overlay_nil]
    exact shown key

theorem closeNewest (prepared : stage.Prepared id) : stage.Advances id stage.closeNewest := by
  have same : stage.closeNewest.seams.SameOrigins stage.seams := by
    unfold Stage.closeNewest
    split
    · exact ⟨rfl, rfl⟩
    · rename_i scope rest frames
      exact scope.close_keepsOrigins stage.world stage.registry
    · rename_i restore rest frames
      exact restore.exit_keepsOrigins stage.world stage.registry
  have kept : stage.closeNewest.registry = stage.registry ∧
      stage.closeNewest.builders = stage.builders ∧ stage.closeNewest.built = stage.built := by
    unfold Stage.closeNewest
    split <;> exact ⟨rfl, rfl, rfl⟩
  obtain ⟨registry, builders, built⟩ := kept
  exact ⟨prepared.of_keeps registry builders built (.of_same same.sameSeams), .closed rfl,
    same.records⟩

theorem step (prepared : stage.Prepared id) {operation : Operation}
    (pure : operation.BuildsPurely) : stage.Advances id (stage.step operation) := by
  cases operation with
  | register manifest =>
    simp only [Stage.step, make, Call.on_register]
    obtain rfl := prepared.registry
    cases registered : stage.seams.register manifest with
    | error error =>
      rw [Attempt.on_registerBackend_refused registered]
      exact prepared.kept rfl
    | ok outcome =>
      have left := Attempt.on_registerBackend registered
      apply prepared.grown
      · rw [left, registries_telling, get_withRegistry]
        exact Registry.grows_of_register registered
      · intro backend recorded
        rw [left, registries_telling, get_withRegistry]
        exact Registry.hasBackend_register registered recorded
  | newBuilder session catalog acquireLimit =>
    have prepared' := (prepared.kept (refl_of KeepsRegistries stage.world)).prepared
    refine idle ⟨prepared'.registry, ?_, prepared'.fresh⟩ rfl rfl
    intro builder member
    rcases List.mem_append.1 member with member | member
    · exact prepared.builders builder member
    · obtain rfl := List.mem_singleton.1 member
      exact ⟨prepared.registry, Builder.keepsRegistries_of_moves pure.1 pure.2⟩
  | build index =>
    simp only [Stage.step]
    split
    · exact prepared.kept rfl
    · rename_i builder found
      obtain ⟨keeps, fresh⟩ := prepared.building (List.mem_of_getElem? found)
      have prepared' := (prepared.kept keeps).prepared
      have same := seams_withWorld keeps
      refine idle ⟨prepared'.registry, prepared'.builders, ?_⟩ same rfl
      intro entry member
      rcases List.mem_append.1 member with member | member
      · exact prepared'.fresh entry member
      · obtain rfl := List.mem_singleton.1 member
        rw [← same] at fresh
        exact fresh
  | enter index =>
    simp only [Stage.step]
    split
    · exact prepared.kept rfl
    · rename_i builder resources found
      have fresh := prepared.fresh _ (List.mem_of_getElem? found)
      have taken : Prepared id { stage with built := stage.built.eraseIdx index } :=
        ⟨prepared.registry, prepared.builders,
          fun entry member => prepared.fresh entry (List.mem_of_mem_eraseIdx member)⟩
      exact taken.openScope stage rfl rfl (refl_of KeepsRegistries _) rfl fresh
  | start index =>
    simp only [Stage.step]
    split
    · exact prepared.kept rfl
    · rename_i builder found
      obtain ⟨keeps, fresh⟩ := prepared.building (List.mem_of_getElem? found)
      exact prepared.openScope stage rfl rfl keeps rfl fresh
  | restore => exact prepared.openRestore
  | close => exact prepared.closeNewest
  | newPool pool => exact prepared.kept rfl
  | getConnection pool =>
    exact prepared.checkOut pool fun world =>
      (Attempt.getConnection_differsAtPools stage.registry pool world).registries
  | newConnection pool =>
    exact prepared.checkOut pool fun world =>
      (Attempt.newConnection_differsAtPools stage.registry pool world).registries
  | putConnection index =>
    show stage.Advances id (stage.putBack index)
    unfold Stage.putBack
    split
    · exact prepared.kept rfl
    · rename_i pool connection _
      have kept : stage.world.KeepsRegistries
          ((Action.putIdle pool connection).on stage.world).2 := rfl
      exact prepared.keptHolding kept _
  | markDropped index => exact prepared.keptHolding (refl_of KeepsRegistries stage.world) _
  | call seam request => exact prepared.kept rfl

end Prepared

end Stage

end TransportSeams

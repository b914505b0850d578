import Mathlib.Data.List.Nodup
import TransportSeams.Proofs.Pool.Serving
import TransportSeams.Proofs.Registry.Reference
import TransportSeams.Proofs.Run.Supplies

/-!
What a run of nested sessions makes of a pool class. Each open session with the stack enabled lays a
layer over the class: the create seam holds the tracking primitives of all layers, nested over the
stock one, and the acquire seam their checks. Every layer has a guard with a tracker of its own.
-/

set_option autoImplicit false
set_option relaxedAutoImplicit false

namespace TransportSeams

open World

namespace Frame

def builder? (frame : Frame) : Option Builder :=
  match frame.opened with
  | .session builder _ => some builder
  | .bracket _ => none

def session? (frame : Frame) : Option SessionId :=
  frame.builder?.map (·.session.id)

def enables (backend : Backend) (frame : Frame) : Bool :=
  frame.builder?.any (·.catalog.contains backend)

def guards (frame : Frame) : List PoolGuard :=
  guardsOf frame.opened.entered

/-- The layer that the frame of a session lays over a pool class: it has the guard of the tracker
that the frame's create primitive tells. -/
def layer? (site : PoolSite) (frame : Frame) : Option PoolLayer :=
  match frame.builder?, frame.shown? site.create with
  | some builder, some ⟨.create _ (.tracked _ tracker), _⟩ =>
    (frame.guards.find? (·.tracker = tracker)).map
      (⟨builder.session.id, builder.acquireLimit, ·⟩)
  | _, _ => none

end Frame

def layers (site : PoolSite) (frames : List Frame) : List PoolLayer :=
  frames.filterMap (Frame.layer? site)

/-- Where the frame lays a layer it shows a binding that suits it, and elsewhere nothing. -/
def Frame.Wears (site : PoolSite) (key : SeamKey) (suits : PoolLayer → Binding → Prop)
    (frame : Frame) : Prop :=
  match frame.layer? site with
  | none => frame.shown? key = none
  | some layer => ∃ binding, frame.shown? key = some binding ∧ suits layer binding

def Worn (site : PoolSite) (key : SeamKey) (suits : List PoolLayer → Binding → Prop) :
    List Frame → Prop
  | [] => True
  | frame :: rest =>
    frame.Wears site key (fun layer => suits (layer :: layers site rest)) ∧
      Worn site key suits rest

theorem layers_cons_none {site : PoolSite} {frame : Frame} (none : frame.layer? site = none)
    (rest : List Frame) : layers site (frame :: rest) = layers site rest :=
  List.filterMap_cons_none none

theorem layers_cons_some {site : PoolSite} {frame : Frame} {layer : PoolLayer}
    (some : frame.layer? site = some layer) (rest : List Frame) :
    layers site (frame :: rest) = layer :: layers site rest :=
  List.filterMap_cons_some some

theorem Worn.shown {site : PoolSite} {key : SeamKey} {suits : List PoolLayer → Binding → Prop}
    {below : View} {frames : List Frame} (worn : Worn site key suits frames)
    (base : ∃ binding, below key = some binding ∧ suits [] binding) :
    ∃ binding, overlays below frames key = some binding ∧
      suits (layers site frames) binding := by
  induction frames with
  | nil => exact base
  | cons frame rest ih =>
    obtain ⟨wears, worn⟩ := worn
    unfold Frame.Wears at wears
    split at wears
    · rename_i bare
      rw [overlays_cons_of_bare wears, layers_cons_none bare]
      exact ih worn
    · rename_i layer laid
      obtain ⟨binding, shows, fits⟩ := wears
      rw [layers_cons_some laid]
      exact ⟨binding, overlays_cons_of_shown shows below rest, fits⟩

namespace Session

/-- The patches of the session's own at the seam are transport types with a session slot. -/
def Retypes (session : Session) (key : SeamKey) : Prop :=
  ∀ spec ∈ session.customPatches, spec.key = key →
    ∃ type, spec.replacement = .transport type ∧ type.hasSessionSlot = true

theorem Leaves.retypes {session : Session} {key : SeamKey} (leaves : session.Leaves key) :
    session.Retypes key :=
  fun spec member same => absurd same (leaves spec member)

end Session

namespace Builder

theorem owner?_buildPatches {builder : Builder} {key : SeamKey} {specs : List PatchSpec}
    {world : World} {binding : Binding} (before : Registry)
    (bound : (world.caches.get builder.cache).IsBound)
    (retypes : ∀ spec ∈ specs, spec.key = key →
      ∃ type, spec.replacement = .transport type ∧ type.hasSessionSlot = true)
    (shown : lastShown? before key ((builder.buildPatches specs).on world).1 = some binding) :
    ∃ type, binding.value = .transport type ∧ type.owner? = some builder.session.id := by
  induction specs generalizing world with
  | nil => cases shown
  | cons spec rest ih =>
    have grown : world.Extends
        ((Action.buildPatch? builder.registry builder.cache builder.session.id spec).on world).2 :=
      Action.buildPatch?_moves (fun event _ => Action.emit_extends event)
        (fun type => Action.substitute_extends _ type _) spec world
    rw [on_buildPatches_cons, lastShown?_append] at shown
    rcases Option.or_eq_some_iff.1 shown with shown | ⟨-, shown⟩
    · exact ih (grown.bound _ bound)
        (fun other member => retypes other (List.mem_cons_of_mem spec member)) shown
    · rw [Action.on_buildPatch?] at shown
      split at shown
      · simp only [lastShown?, Option.map_some, Option.toList_some, List.reverse_singleton,
          List.findSome?_singleton, Resource.shown?] at shown
        split at shown
        · rename_i here
          cases shown
          obtain ⟨type, replacement, slot⟩ := retypes spec List.mem_cons_self here
          refine ⟨((Action.substitute builder.cache type builder.session.id).on world).1, ?_,
            Action.owner?_substitute bound _ _⟩
          simp only [PatchHandle.binding, replacement, SeamValue.resolve, if_pos slot]
          rfl
        · cases shown
      · cases shown

end Builder

/-- How the frame of a builder's session dresses a pool class over the layers of older frames. -/
structure Frame.Dresses (site : PoolSite) (older : List PoolLayer) (frame : Frame)
    (builder : Builder) : Prop where
  session : frame.builder? = some builder
  enabled : frame.enables site.backend = (frame.layer? site).isSome
  layer : ∀ layer, frame.layer? site = some layer →
    layer.session = builder.session.id ∧ layer.limit = builder.acquireLimit ∧
      layer.guard ∈ frame.guards ∧
      layer.guard.connectionType.owner? = some builder.session.id
  create : frame.Wears site site.create fun layer binding =>
    ∃ function, binding.value = .create function (creating (layer :: older))
  acquire : frame.Wears site site.acquire fun layer binding =>
    ∃ function, binding.value = .acquire function (acquiring site (layer :: older))
  type : builder.session.Leaves site.connectionType →
    frame.Wears site site.connectionType fun layer binding =>
      binding = ⟨.transport layer.guard.connectionType, some layer.session⟩
  retyped : builder.session.Retypes site.connectionType → ∀ binding,
    frame.shown? site.connectionType = some binding →
      ∃ type, binding.value = .transport type ∧ type.owner? = some builder.session.id
  probe : builder.session.Leaves site.probe →
    frame.Wears site site.probe fun _ binding =>
      ∃ function, binding.value = .probe ⟨function, fun _ => false⟩

theorem PoolGuard.eq_of_tracker_eq {guards : List PoolGuard}
    (distinct : guards.Pairwise fun a b => a.tracker ≠ b.tracker) {a b : PoolGuard}
    (memberA : a ∈ guards) (memberB : b ∈ guards) (same : a.tracker = b.tracker) : a = b :=
  List.inj_on_of_nodup_map (List.pairwise_map.2 distinct) memberA memberB same

theorem PoolGuard.find?_tracker {guards : List PoolGuard}
    (distinct : guards.Pairwise fun a b => a.tracker ≠ b.tracker) {guard : PoolGuard}
    (member : guard ∈ guards) : guards.find? (·.tracker = guard.tracker) = some guard := by
  cases search : guards.find? (·.tracker = guard.tracker) with
  | none => exact absurd (List.find?_eq_none.1 search guard member) (by simp)
  | some other =>
    have same : other.tracker = guard.tracker := by simpa using List.find?_some search
    rw [eq_of_tracker_eq distinct (List.mem_of_find?_eq_some search) member same]

theorem Frame.Wears.of_layer {site : PoolSite} {key : SeamKey}
    {suits : PoolLayer → Binding → Prop} {frame : Frame} {layer : PoolLayer}
    (laid : frame.layer? site = some layer) {binding : Binding}
    (shows : frame.shown? key = some binding) (fits : suits layer binding) :
    frame.Wears site key suits := by
  unfold Wears
  rw [laid]
  exact ⟨binding, shows, fits⟩

theorem Frame.Wears.of_bare {site : PoolSite} {key : SeamKey}
    {suits : PoolLayer → Binding → Prop} {frame : Frame} (bare : frame.layer? site = none)
    (shows : frame.shown? key = none) : frame.Wears site key suits := by
  unfold Wears
  rw [bare]
  exact shows

section Opening

variable {entered resources : List Resource}
  (built : entered.map Resource.unentered = resources.reverse)

include built

theorem findSome?_entered (before : Registry) (key : SeamKey) :
    entered.findSome? (Resource.shown? before key) = lastShown? before key resources := by
  unfold lastShown?
  rw [← built, List.findSome?_map]
  congr
  funext resource
  exact (Resource.shown?_unentered before key resource).symm

theorem guardsOf_entered : guardsOf entered = (guardsOf resources).reverse := by
  unfold guardsOf
  rw [← List.filterMap_reverse, ← built, List.filterMap_map]
  congr
  funext resource
  cases resource <;> rfl

end Opening

/-- The frame of a builder's session has the guards of the adapters. At a seam it shows what the
adapters made, or a type of the session's own. -/
structure Frame.Shows (frame : Frame) (builder : Builder) (before : Registry)
    (adapted : List Resource) : Prop where
  session : frame.builder? = some builder
  guards : frame.guards = (guardsOf adapted).reverse
  left (key : SeamKey) :
    builder.session.Leaves key → frame.shown? key = lastShown? before key adapted
  retyped (key : SeamKey) : builder.session.Retypes key → ∀ binding,
    frame.shown? key = some binding → lastShown? before key adapted = some binding ∨
      ∃ type, binding.value = .transport type ∧ type.owner? = some builder.session.id

namespace Frame.Shows

variable {frame : Frame} {builder : Builder} {before : Registry} {adapted : List Resource}
  {site : PoolSite} {older : List PoolLayer}

theorem of_build {world : World} {entered : List Resource} (before : Registry)
    (bound : (world.caches.get builder.cache).IsBound)
    (built : entered.map Resource.unentered =
      (adapted ++ ((builder.buildPatches builder.session.customPatches).on world).1).reverse) :
    Shows ⟨before, .session builder ⟨builder.session.id, entered, false⟩⟩ builder before
      adapted := by
  let custom := ((builder.buildPatches builder.session.customPatches).on world).1
  have shown (key : SeamKey) : entered.findSome? (Resource.shown? before key) =
      (lastShown? before key custom).or (lastShown? before key adapted) :=
    (findSome?_entered built before key).trans (lastShown?_append before key adapted custom)
  refine ⟨rfl, ?_, fun key leaves => ?_, fun key retypes binding shows => ?_⟩
  · refine (guardsOf_entered built).trans ?_
    rw [Builder.guardsOf_append, Builder.guardsOf_buildPatches, List.append_nil]
  · refine (shown key).trans ?_
    rw [Builder.lastShown?_buildPatches_absent leaves, Option.none_or]
  · have shows := (shown key).symm.trans shows
    rcases Option.or_eq_some_iff.1 shows with own | ⟨-, adapter⟩
    · exact .inr (Builder.owner?_buildPatches before bound retypes own)
    · exact .inl adapter

/-- The frame of a session with the stack enabled lays a layer with the guard of its adapter. -/
theorem dresses (shows : frame.Shows builder before adapted) {guard : PoolGuard}
    (enabled : builder.catalog.contains site.backend = true)
    (distinct : (guardsOf adapted).Pairwise fun a b => a.tracker.index < b.tracker.index)
    (dressed : site.IsDressed builder.session.id builder.acquireLimit (creating older)
      (acquiring site older) guard before adapted)
    (owned : guard.connectionType.owner? = some builder.session.id)
    (leavesCreate : builder.session.Leaves site.create)
    (leavesAcquire : builder.session.Leaves site.acquire) : frame.Dresses site older builder := by
  have guarded : guard ∈ frame.guards := by
    rw [shows.guards, List.mem_reverse]
    exact dressed.guard
  have apart : frame.guards.Pairwise fun a b => a.tracker ≠ b.tracker := by
    rw [shows.guards, List.pairwise_reverse]
    refine distinct.imp fun before same => ?_
    rw [same] at before
    omega
  obtain ⟨creating', creates⟩ := dressed.create
  obtain ⟨acquiring', acquires⟩ := dressed.acquire
  obtain ⟨probing, probes⟩ := dressed.probe
  have laid : frame.layer? site = some ⟨builder.session.id, builder.acquireLimit, guard⟩ := by
    unfold Frame.layer?
    rw [shows.session, shows.left site.create leavesCreate, creates]
    exact congrArg (Option.map _) (PoolGuard.find?_tracker apart guarded)
  refine
    { session := shows.session
      enabled := ?_
      layer := ?_
      create := .of_layer laid ((shows.left _ leavesCreate).trans creates) ⟨creating', rfl⟩
      acquire := .of_layer laid ((shows.left _ leavesAcquire).trans acquires) ⟨acquiring', rfl⟩
      type := fun leaves => .of_layer laid ((shows.left _ leaves).trans dressed.type) rfl
      retyped := ?_
      probe := fun leaves => .of_layer laid ((shows.left _ leaves).trans probes) ⟨probing, rfl⟩ }
  · rw [laid, Frame.enables, shows.session]
    exact enabled
  · intro layer laid'
    obtain rfl := Option.some.inj (laid.symm.trans laid')
    exact ⟨rfl, rfl, guarded, owned⟩
  · intro retypes binding shown
    rcases shows.retyped _ retypes binding shown with adapter | own
    · obtain rfl := Option.some.inj (dressed.type.symm.trans adapter)
      exact ⟨_, rfl, owned⟩
    · exact own

theorem bare (shows : frame.Shows builder before adapted)
    (disabled : builder.catalog.contains site.backend = false)
    (apart : ∀ key ∈ site.seams, lastShown? before key adapted = none)
    (leavesCreate : builder.session.Leaves site.create)
    (leavesAcquire : builder.session.Leaves site.acquire) : frame.Dresses site older builder := by
  have bareAt (key : SeamKey) (listed : key ∈ site.seams) (leaves : builder.session.Leaves key) :
      frame.shown? key = none :=
    (shows.left key leaves).trans (apart key listed)
  have bareCreate := bareAt site.create site.create_mem_seams leavesCreate
  have bare : frame.layer? site = none := by
    unfold Frame.layer?
    rw [shows.session, bareCreate]
  refine
    { session := shows.session
      enabled := ?_
      layer := fun layer laid => nomatch bare.symm.trans laid
      create := .of_bare bare bareCreate
      acquire := .of_bare bare (bareAt _ site.acquire_mem_seams leavesAcquire)
      type := fun leaves => .of_bare bare (bareAt _ site.connectionType_mem_seams leaves)
      retyped := ?_
      probe := fun leaves => .of_bare bare (bareAt _ site.probe_mem_seams leaves) }
  · rw [bare, Frame.enables, shows.session]
    exact disabled
  · intro retypes binding shown
    rcases shows.retyped _ retypes binding shown with adapter | own
    · cases (apart _ site.connectionType_mem_seams).symm.trans adapter
    · exact own

end Frame.Shows

theorem Frame.dresses_of_build {site : PoolSite} {older : List PoolLayer} {builder : Builder}
    {world : World} {entered : List Resource} (before : Registry)
    (standard : builder.IsStandard world) (leavesCreate : builder.session.Leaves site.create)
    (leavesAcquire : builder.session.Leaves site.acquire)
    (recorded : (world.registries.get builder.registry).hasBackend site.backend = true)
    (contained : ∀ key ∈ site.seams,
      (world.registries.get builder.registry).contains key = true)
    (offers : (world.registries.get builder.registry).Offers site (creating older)
      (acquiring site older))
    (built : entered.map Resource.unentered = (builder.build.on world).1.reverse) :
    Dresses site older ⟨before, .session builder ⟨builder.session.id, entered, false⟩⟩ builder := by
  obtain ⟨backends, adapted, middle, left, enables, distinct, adapts, run, -⟩ :=
    Builder.on_build_standard standard
  have bound : (middle.caches.get builder.cache).IsBound := by
    have grown := Builder.buildAdapters_extends backends standard.ready
    rw [adapts] at grown
    exact grown.bound _ standard.ready.bound
  rw [run] at built
  have shows := Frame.Shows.of_build before bound built
  by_cases enabled : site.backend ∈ backends
  · obtain ⟨guard, stub, dressed, fits⟩ := Builder.buildAdapters_dresses before distinct enabled
      standard.ready recorded contained offers
    have made := Builder.buildAdapters_newGuards standard.ready backends
    rw [adapts] at dressed made
    exact shows.dresses ((enables site.backend).2 enabled) made.increasing dressed fits.owned
      leavesCreate leavesAcquire
  · have apart : ∀ key ∈ site.seams, lastShown? before key
        ((builder.buildAdapters (backends.map .standard)).on world).1 = none :=
      Builder.buildAdapters_apart enabled before world
    rw [adapts] at apart
    exact shows.bare (Bool.eq_false_iff.2 (mt (enables site.backend).1 enabled)) apart leavesCreate
      leavesAcquire

def Dressed (site : PoolSite) : List Frame → Prop
  | [] => True
  | frame :: rest =>
    (∃ builder, frame.Dresses site (layers site rest) builder) ∧ Dressed site rest

namespace Dressed

variable {site : PoolSite} {frames : List Frame}

theorem of_mem (dressed : Dressed site frames) {frame : Frame} (member : frame ∈ frames) :
    ∃ older builder, frame.Dresses site older builder := by
  induction frames with
  | nil => cases member
  | cons newest rest ih =>
    obtain ⟨⟨builder, dresses⟩, below⟩ := dressed
    rcases List.mem_cons.1 member with rfl | member
    · exact ⟨_, builder, dresses⟩
    · exact ih below member

theorem create (dressed : Dressed site frames) : Worn site site.create
    (fun layers binding => ∃ function, binding.value = .create function (creating layers))
      frames := by
  induction frames with
  | nil => trivial
  | cons frame rest ih =>
    obtain ⟨⟨builder, dresses⟩, below⟩ := dressed
    exact ⟨dresses.create, ih below⟩

theorem acquire (dressed : Dressed site frames) : Worn site site.acquire
    (fun layers binding => ∃ function, binding.value = .acquire function (acquiring site layers))
      frames := by
  induction frames with
  | nil => trivial
  | cons frame rest ih =>
    obtain ⟨⟨builder, dresses⟩, below⟩ := dressed
    exact ⟨dresses.acquire, ih below⟩

end Dressed

def Stage.guards (stage : Stage) : List PoolGuard :=
  stage.frames.flatMap Frame.guards

/-- The stage of a run of nested sessions: every guard of an open frame has a tracker of its own
that tracks the type of the guard, and newer guards have newer trackers. -/
structure Nested (id : RegistryId) (start : Registry) (stage : Stage) : Prop where
  layered : Layered id start stage
  supplied : stage.IsSupplied
  increasing : stage.guards.Pairwise fun a b => b.tracker.index < a.tracker.index
  issued : ∀ guard ∈ stage.guards, guard.tracker.index < stage.world.nextObject
  tracking : ∀ guard ∈ stage.guards,
    (stage.world.trackers.get guard.tracker).connectionType = guard.connectionType

theorem Builder.IsStandard.build_newGuards {builder : Builder} {world : World}
    (standard : builder.IsStandard world) :
    NewGuards world (builder.build.on world).2 (guardsOf (builder.build.on world).1) := by
  obtain ⟨backends, adapted, middle, left, -, -, adapts, run, later⟩ := on_build_standard standard
  have made := buildAdapters_newGuards standard.ready backends
  rw [adapts] at made
  rw [run, guardsOf_append, guardsOf_buildPatches, List.append_nil]
  exact made.later later

structure Stage.Starts (stage : Stage) (builder : Builder) (later : Stage) : Prop where
  opened : ∃ entered, entered.map Resource.unentered = (builder.build.on stage.world).1.reverse ∧
    later.frames =
      ⟨stage.seams, .session builder ⟨builder.session.id, entered, false⟩⟩ :: stage.frames
  apart : (builder.build.on stage.world).2.DiffersAtSeams later.world
  started : later.started = builder.session.id :: stage.started
  held : later.held = stage.held

namespace Layered

variable {id : RegistryId} {start : Registry} {stage : Stage}

theorem starts (layered : Layered id start stage) {builder : Builder}
    (member : builder ∈ stage.builders) :
    stage.Starts builder (stage.openScope builder (.start builder)) := by
  obtain ⟨keeps, fresh⟩ := layered.prepared.building member
  obtain ⟨entered, left, named, apart, opened, -⟩ :=
    layered.prepared.openScope_eq keeps (rfl : (Call.start builder).on stage.world = _) fresh
  rw [opened]
  exact ⟨⟨entered, named, rfl⟩, apart, rfl, rfl⟩

theorem frames_step (layered : Layered id start stage) {operation : Operation}
    (opens : operation.OpensByStarting) :
    (stage.step operation).frames = stage.frames ∨
      (∃ frame, operation = .close ∧ stage.frames = frame :: (stage.step operation).frames) ∨
      ∃ builder ∈ stage.builders, (∃ index, operation = .start index) ∧
        stage.Starts builder (stage.step operation) := by
  have checkOut (pool : PoolId) (call : Call (Except SeamError Connection)) :
      (stage.checkOut pool call).frames = stage.frames := by
    unfold Stage.checkOut
    split <;> rfl
  cases operation with
  | build index =>
    simp only [Stage.step]
    split <;> exact .inl rfl
  | enter index => exact opens.elim
  | start index =>
    simp only [Stage.step]
    split
    · exact .inl rfl
    · rename_i builder found
      have member := List.mem_of_getElem? found
      exact .inr (.inr ⟨builder, member, ⟨index, rfl⟩, layered.starts member⟩)
  | restore => exact opens.elim
  | close =>
    simp only [Stage.step, Stage.closeNewest]
    split
    · exact .inl rfl
    · rename_i frames
      exact .inr (.inl ⟨_, trivial, frames⟩)
    · rename_i frames
      exact .inr (.inl ⟨_, trivial, frames⟩)
  | getConnection pool => exact .inl (checkOut pool _)
  | newConnection pool => exact .inl (checkOut pool _)
  | putConnection index =>
    show (stage.putBack index).frames = stage.frames ∨ _
    unfold Stage.putBack
    split <;> exact .inl rfl
  | _ => exact .inl rfl

end Layered

namespace Nested

variable {id : RegistryId} {start : Registry} {stage : Stage}

theorem started (nested : Nested id start stage) {builder : Builder}
    (member : builder ∈ stage.builders) {later : Stage} (starts : stage.Starts builder later)
    (layered : Layered id start later) (supplied : later.IsSupplied) : Nested id start later := by
  obtain ⟨⟨entered, built, frames⟩, apart, -, -⟩ := starts
  have fresh := (nested.supplied.builders builder member).build_newGuards
  have guards : later.guards =
      (guardsOf (builder.build.on stage.world).1).reverse ++ stage.guards := by
    unfold Stage.guards
    rw [frames, List.flatMap_cons]
    exact congrArg (· ++ _) (guardsOf_entered built)
  have nextObject : later.world.nextObject = (builder.build.on stage.world).2.nextObject := by
    rw [apart]
  have trackers : later.world.trackers = (builder.build.on stage.world).2.trackers := by
    rw [apart]
  refine ⟨layered, supplied, ?_, ?_, ?_⟩
  · rw [guards]
    refine List.pairwise_append.2 ⟨List.pairwise_reverse.2 fresh.increasing, nested.increasing, ?_⟩
    intro newer memberNewer older memberOlder
    rw [List.mem_reverse] at memberNewer
    have before := nested.issued older memberOlder
    have after := fresh.issued newer memberNewer
    omega
  · rw [guards, nextObject]
    intro guard member
    rcases List.mem_append.1 member with member | member
    · exact (fresh.issued guard (List.mem_reverse.1 member)).2
    · have before := nested.issued guard member
      have grown := fresh.grown.nextObject
      omega
  · rw [guards, trackers]
    intro guard member
    rcases List.mem_append.1 member with member | member
    · rw [fresh.empty guard (List.mem_reverse.1 member)]
      rfl
    · rw [fresh.grown.trackers _ (nested.issued guard member)]
      exact nested.tracking guard member

theorem fewer (nested : Nested id start stage) {later : Stage}
    (guards : later.guards.Sublist stage.guards) (sustains : stage.world.Sustains later.world)
    (layered : Layered id start later) (supplied : later.IsSupplied) : Nested id start later where
  layered := layered
  supplied := supplied
  increasing := nested.increasing.sublist guards
  issued guard member := by
    have before := nested.issued guard (guards.subset member)
    have grown := sustains.nextObject
    omega
  tracking guard member := by
    have member := guards.subset member
    rw [sustains.types _ (nested.issued guard member), nested.tracking guard member]

theorem step (nested : Nested id start stage) {operation : Operation}
    (nests : operation.NestsSessions) : Nested id start (stage.step operation) := by
  have layered := nested.layered.step nests.pure
  have supplied := nested.supplied.step nests
  have sustains := nested.supplied.step_sustains nests
  rcases nested.layered.frames_step nests.opensByStarting with frames | ⟨frame, -, frames⟩ |
    ⟨builder, member, -, starts⟩
  · refine nested.fewer ?_ sustains layered supplied
    unfold Stage.guards
    rw [frames]
  · refine nested.fewer ?_ sustains layered supplied
    unfold Stage.guards
    rw [frames, List.flatMap_cons]
    exact List.sublist_append_right _ _
  · exact nested.started member starts layered supplied

theorem initial (id : RegistryId) {world : World}
    (shelves : ∀ id, (world.shelves.get id).IsUnbound) :
    Nested id (world.registries.get id) (.initial id world) where
  layered := .initial id world
  supplied := ⟨shelves, fun _ member => nomatch member⟩
  increasing := .nil
  issued _ member := nomatch member
  tracking _ member := nomatch member

end Nested

def Operation.Brings (kind : Session → Prop) : Operation → Prop
  | newBuilder session _ _ => kind session
  | _ => True

structure Stage.AllSessions (kind : Session → Prop) (stage : Stage) : Prop where
  builders : ∀ builder ∈ stage.builders, kind builder.session
  frames : ∀ frame ∈ stage.frames, ∀ builder, frame.builder? = some builder → kind builder.session

theorem Stage.AllSessions.initial (kind : Session → Prop) (id : RegistryId) (world : World) :
    (Stage.initial id world).AllSessions kind :=
  ⟨(fun _ member => nomatch member), (fun _ member => nomatch member)⟩

theorem Stage.AllSessions.step {kind : Session → Prop} {id : RegistryId} {start : Registry}
    {stage : Stage} (sessions : stage.AllSessions kind) (layered : Layered id start stage)
    {operation : Operation} (nests : operation.NestsSessions) (brings : operation.Brings kind) :
    (stage.step operation).AllSessions kind := by
  constructor
  · intro builder member
    rcases Stage.mem_builders_step member with member | ⟨session, catalog, limit, rfl, rfl⟩
    · exact sessions.builders builder member
    · exact brings
  · rcases layered.frames_step nests.opensByStarting with frames | ⟨frame, -, frames⟩ |
      ⟨opener, waiting, -, ⟨entered, -, frames⟩, -⟩
    · rw [frames]
      exact sessions.frames
    · intro other member
      apply sessions.frames other
      rw [frames]
      exact List.mem_cons_of_mem frame member
    · rw [frames]
      intro frame member builder opened
      rcases List.mem_cons.1 member with rfl | member
      · cases opened
        exact sessions.builders opener waiting
      · exact sessions.frames frame member builder opened

/-- The pool class in a run: its stack is recorded, and each frame dresses the class over the older
ones. -/
structure PoolSite.IsWorn (site : PoolSite) (stage : Stage) : Prop where
  recorded : stage.seams.hasBackend site.backend = true
  dressed : Dressed site stage.frames

section Sites

variable {id : RegistryId} {start : Registry} {stage : Stage} {site : PoolSite}

theorem ground_value (now : Registry) {key : SeamKey} {value : SeamValue}
    (held : start.value? key = some value) :
    ∃ binding, ground start now key = some binding ∧ binding.value = value := by
  obtain ⟨binding, bound, rfl⟩ := Option.map_eq_some_iff.1 held
  exact ⟨binding, by rw [ground, bound]; rfl, rfl⟩

theorem Nested.contains (nested : Nested id start stage) {key : SeamKey} {value : SeamValue}
    (held : start.value? key = some value) : stage.seams.contains key = true := by
  obtain ⟨binding, held, -⟩ := Option.map_eq_some_iff.1 held
  exact nested.layered.keeps.contains key (Registry.contains_of_binding? held)

/-- The seams of the class hold the primitives of the open layers. -/
theorem PoolSite.IsWorn.offers (worn : site.IsWorn stage) (nested : Nested id start stage)
    (rest : site.AtRest start) : stage.seams.Offers site (creating (layers site stage.frames))
      (acquiring site (layers site stage.frames)) := by
  obtain ⟨f, create⟩ := rest.create
  obtain ⟨g, acquire⟩ := rest.acquire
  obtain ⟨binding, create, stock⟩ := ground_value stage.seams create
  obtain ⟨binding', acquire, stock'⟩ := ground_value stage.seams acquire
  have creates := worn.dressed.create.shown ⟨binding, create, f, stock⟩
  have acquires := worn.dressed.acquire.shown ⟨binding', acquire, g, stock'⟩
  rw [← nested.layered.shown] at creates acquires
  obtain ⟨shown, held, function, value⟩ := creates
  obtain ⟨shown', held', function', value'⟩ := acquires
  constructor
  · exact ⟨function, by rw [Registry.value?, held, Option.map_some, value]⟩
  · exact ⟨function', by rw [Registry.value?, held', Option.map_some, value']⟩

theorem PoolSite.AtRest.contains (rest : site.AtRest start) (nested : Nested id start stage) :
    ∀ key ∈ site.seams, stage.seams.contains key = true := by
  obtain ⟨-, ⟨type, held, -⟩, ⟨f, create⟩, ⟨g, acquire⟩, ⟨probe, probes⟩⟩ := rest
  intro key listed
  rcases (site.mem_seams_iff key).1 listed with rfl | rfl | rfl | rfl
  · exact nested.contains probes
  · exact nested.contains held
  · exact nested.contains create
  · exact nested.contains acquire

theorem PoolSite.IsWorn.step (worn : site.IsWorn stage) (nested : Nested id start stage)
    (rest : site.AtRest start)
    (leaves : ∀ builder ∈ stage.builders,
      builder.session.Leaves site.create ∧ builder.session.Leaves site.acquire)
    {operation : Operation} (nests : operation.NestsSessions) :
    site.IsWorn (stage.step operation) := by
  have advances := nested.layered.prepared.step nests.pure
  refine ⟨advances.records site.backend worn.recorded, ?_⟩
  rcases nested.layered.frames_step nests.opensByStarting with frames | ⟨frame, -, frames⟩ |
    ⟨builder, member, -, ⟨entered, built, frames⟩, -⟩
  · rw [frames]
    exact worn.dressed
  · have dressed := worn.dressed
    rw [frames] at dressed
    exact dressed.2
  · rw [frames]
    obtain ⟨leavesCreate, leavesAcquire⟩ := leaves builder member
    have seams := nested.layered.prepared.seams_of_builder member
    refine ⟨⟨builder, Frame.dresses_of_build stage.seams
      (nested.supplied.builders builder member) leavesCreate leavesAcquire ?_ ?_ ?_ built⟩,
      worn.dressed⟩
    · rw [seams]
      exact worn.recorded
    · rw [seams]
      exact rest.contains nested
    · rw [seams]
      exact worn.offers nested rest

theorem PoolSite.AtRest.initial (id : RegistryId) {world : World}
    (rest : site.AtRest (world.registries.get id)) : site.IsWorn (.initial id world) :=
  ⟨rest.recorded, trivial⟩

end Sites

end TransportSeams

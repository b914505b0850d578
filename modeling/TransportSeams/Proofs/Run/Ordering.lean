import TransportSeams.Proofs.Adapter.Ordering
import TransportSeams.Proofs.Pool.Draining
import TransportSeams.Proofs.Registry.Reference
import TransportSeams.Proofs.Run.Pooling

/-!
The order that a session keeps at a pool class, in every state on the way into its scope and out of
it again: its acquire wrapper is in place only over its create wrapper, and both only over its
substitute, and guards drain before a seam of their adapter is given back. A registry shows a prefix
of what was built at each of these moments, so it is enough that the list is in order.
-/

set_option autoImplicit false
set_option relaxedAutoImplicit false

namespace TransportSeams

open World Reference

/-- Functions are told apart by identity; the primitive's has been issued. -/
def World.HasIssued (world : World) : SeamValue → Prop
  | .create function _ => function.index < world.nextFunction.index
  | .acquire function _ => function.index < world.nextFunction.index
  | _ => True

instance (world : World) (value : SeamValue) : Decidable (world.HasIssued value) := by
  unfold HasIssued
  split <;> infer_instance

def Registry.Holds (registry : Registry) (key : SeamKey) (resources : List Resource) : Prop :=
  ∃ handle, .patch handle ∈ resources ∧ handle.key = key ∧
    ∃ value, registry.value? key = some value ∧ value.isSame handle.replacement = true

/-- With a wrapper of the session's in place, the session's substitute is in place if its seam was
there when the resources were built, and under the acquire wrapper the create wrapper is if there
was a create primitive. -/
structure PoolSite.InOrder (site : PoolSite) (resources : List Resource) (before now : Registry) :
    Prop where
  acquire_create : now.Holds site.acquire resources → ∀ function primitive,
    before.value? site.create = some (.create function primitive) → now.Holds site.create resources
  acquire_type : now.Holds site.acquire resources →
    before.contains site.connectionType = true → now.Holds site.connectionType resources
  create_type : now.Holds site.create resources →
    before.contains site.connectionType = true → now.Holds site.connectionType resources

section Moments

variable {id : RegistryId} {session : SessionId} {before : Registry} {below : View}
  {entered first : List Resource} {key : SeamKey}
  (built : ∀ resource ∈ first, resource.IsBuilt id session before)
  (named : entered.map Resource.unentered = first.reverse)

include named

theorem unentered_mem {resource : Resource} (member : resource ∈ entered) :
    resource.unentered ∈ first := by
  have listed := List.mem_map_of_mem (f := Resource.unentered) member
  rwa [named, List.mem_reverse] at listed

include built

theorem overlay_of_mem_keysOf (covered : key ∈ keysOf first) :
    ∃ handle, .patch handle ∈ first ∧ handle.key = key ∧
      overlay before below entered key = some handle.binding := by
  unfold overlay
  cases shown : entered.findSome? (Resource.shown? before key) with
  | none =>
    obtain ⟨handle, member, here⟩ := mem_keysOf.1 covered
    rw [← List.mem_reverse, ← named] at member
    obtain ⟨resource, opened, same⟩ := List.mem_map.1 member
    have hidden := List.findSome?_eq_none_iff.1 shown resource opened
    rw [← Resource.shown?_unentered, same, Resource.shown?, if_pos here] at hidden
    cases hidden
  | some binding =>
    obtain ⟨resource, opened, shows⟩ := List.exists_of_findSome?_eq_some shown
    have member := unentered_mem named opened
    have made := built _ member
    rw [← Resource.shown?_unentered] at shows
    cases same : resource.unentered with
    | patch handle =>
      rw [same] at member shows
      simp only [Resource.shown?] at shows
      split at shows
      · rename_i here
        exact ⟨handle, member, here, congrArg (·.or (below key)) shows.symm⟩
      · cases shows
    | poolGuard guard =>
      rw [same] at shows
      cases shows
    | forceRestore restore =>
      rw [same] at made
      exact made.elim

theorem overlay_of_not_mem_keysOf (bare : key ∉ keysOf first) :
    overlay before below entered key = below key := by
  have hidden : entered.findSome? (Resource.shown? before key) = none := by
    refine List.findSome?_eq_none_iff.2 fun resource opened => ?_
    have member := unentered_mem named opened
    have made := built _ member
    rw [← Resource.shown?_unentered]
    cases same : resource.unentered with
    | patch handle =>
      rw [same] at member
      exact if_neg fun here => bare (mem_keysOf.2 ⟨handle, member, here⟩)
    | poolGuard guard => rfl
    | forceRestore restore =>
      rw [same] at made
      exact made.elim
  rw [overlay, hidden, Option.none_or]

end Moments

/-- Of the resources, which were built where `before` was the registry, the first ones are entered:
the registry shows them over what it showed then. -/
structure Registry.ShowsFirst (now before : Registry) (id : RegistryId) (session : SessionId)
    (resources first rest : List Resource) : Prop where
  built : ∀ resource ∈ resources, resource.IsBuilt id session before
  split : resources = first ++ rest
  shown : ∃ entered : List Resource, entered.map Resource.unentered = first.reverse ∧
    ∀ key, before.contains key = true →
      now.binding? key = overlay before before.binding? entered key

namespace Registry.ShowsFirst

variable {id : RegistryId} {session : SessionId} {before now : Registry}
  {resources first rest : List Resource} {key : SeamKey}
  (shows : now.ShowsFirst before id session resources first rest)

include shows

theorem built_first : ∀ resource ∈ first, resource.IsBuilt id session before :=
  fun resource member => shows.built resource (shows.split ▸ List.mem_append_left rest member)

theorem holds (covered : key ∈ keysOf first) : now.Holds key resources := by
  obtain ⟨entered, named, shown⟩ := shows.shown
  obtain ⟨handle, member, here, covers⟩ : ∃ handle, .patch handle ∈ first ∧ handle.key = key ∧
      overlay before before.binding? entered key = some handle.binding :=
    overlay_of_mem_keysOf shows.built_first named covered
  have contained : before.contains key = true := here ▸ (shows.built_first _ member).2.2.2
  refine ⟨handle, shows.split ▸ List.mem_append_left rest member, here, handle.replacement, ?_,
    SeamValue.isSame_refl _⟩
  rw [Registry.value?, shown key contained, covers]
  rfl

theorem value?_eq (listed : key ∈ keysOf resources) (bare : key ∉ keysOf first) :
    now.value? key = before.value? key := by
  obtain ⟨entered, named, shown⟩ := shows.shown
  obtain ⟨handle, member, here⟩ := mem_keysOf.1 listed
  have contained : before.contains key = true := here ▸ (shows.built _ member).2.2.2
  rw [Registry.value?, shown key contained, overlay_of_not_mem_keysOf shows.built_first named bare]
  rfl

end Registry.ShowsFirst

namespace PoolSite.IsOutfitted

variable {site : PoolSite} {builder : Builder} {world : World}
  {resources first rest : List Resource} {now : Registry}

theorem mem_keysOf_of_holds (outfitted : site.IsOutfitted builder world resources)
    (issued : ∀ key ∈ [site.create, site.acquire],
      ∀ value ∈ (world.registries.get builder.registry).value? key, world.HasIssued value)
    (shows : now.ShowsFirst (world.registries.get builder.registry) builder.registry
      builder.session.id resources first rest) :
    ∀ key ∈ [site.create, site.acquire], now.Holds key resources → key ∈ keysOf first := by
  rintro key listed ⟨handle, member, here, value, held, same⟩
  by_contra bare
  rw [shows.value?_eq (mem_keysOf.2 ⟨handle, member, here⟩) bare] at held
  have issued := issued key listed value held
  simp only [List.mem_cons, List.not_mem_nil, or_false] at listed
  rcases listed with rfl | rfl
  · obtain ⟨function, primitive, made, guard, replaced, wraps, new, -⟩ :=
      outfitted.creates handle member here
    cases held.symm.trans replaced
    rw [wraps] at same
    obtain rfl : function = made := of_decide_eq_true same
    exact Nat.lt_irrefl _ (Nat.lt_of_lt_of_le issued new)
  · obtain ⟨function, primitive, made, replaced, wraps, new⟩ :=
      outfitted.acquires handle member here
    cases held.symm.trans replaced
    rw [wraps] at same
    obtain rfl : function = made := of_decide_eq_true same
    exact Nat.lt_irrefl _ (Nat.lt_of_lt_of_le issued new)

theorem inOrder (outfitted : site.IsOutfitted builder world resources)
    (ordered : (keysOf resources).Pairwise site.MayPrecede)
    (issued : ∀ key ∈ [site.create, site.acquire],
      ∀ value ∈ (world.registries.get builder.registry).value? key, world.HasIssued value)
    (shows : now.ShowsFirst (world.registries.get builder.registry) builder.registry
      builder.session.id resources first rest) :
    site.InOrder resources (world.registries.get builder.registry) now := by
  have entered := outfitted.mem_keysOf_of_holds issued shows
  have covers {key : SeamKey} (covered : key ∈ keysOf first) : key ∈ keysOf resources := by
    rw [shows.split, keysOf_append]
    exact List.mem_append_left _ covered
  -- a patch that must not come later has been entered before
  have before {later earlier : SeamKey} (covered : later ∈ keysOf first)
      (listed : earlier ∈ keysOf resources) (relies : ¬site.MayPrecede later earlier) :
      now.Holds earlier resources := by
    rw [shows.split, keysOf_append] at ordered listed
    refine shows.holds ((List.mem_append.1 listed).resolve_right fun after => relies ?_)
    exact (List.pairwise_append.1 ordered).2.2 later covered earlier after
  constructor
  · intro held function primitive primitiveHeld
    have covered := entered site.acquire (by simp) held
    exact before covered (outfitted.created primitiveHeld (covers covered))
      fun may => (may.2 rfl).2 rfl
  · intro held contained
    have covered := entered site.acquire (by simp) held
    exact before covered (outfitted.typed (.inr (covers covered)) contained)
      fun may => (may.2 rfl).1 rfl
  · intro held contained
    have covered := entered site.create (by simp) held
    exact before covered (outfitted.typed (.inl (covers covered)) contained)
      fun may => may.1 rfl rfl

end PoolSite.IsOutfitted

def World.KeepsDrained (old new : World) : Prop :=
  ∀ id, (old.trackers.get id).pools = KeyMap.empty → (new.trackers.get id).pools = KeyMap.empty

instance : IsPreorder World KeepsDrained where
  refl _ _ drained := drained
  trans _ _ _ first second id drained := second id (first id drained)

theorem Action.drainForGuard_keepsDrained (id : TrackerId) :
    (drainForGuard id).Moves KeepsDrained := by
  intro world other drained
  rw [(drainForGuard_tracks id world).1, Store.get_put]
  split
  · rfl
  · exact drained

theorem Attempt.install_keepsDrained (id : RegistryId) (key : SeamKey) (binding : Binding) :
    (install id key binding).Moves KeepsDrained := by
  intro world other drained
  rwa [install_differsAtSeams id key binding world]

theorem Scope.exitAll_drains (session : SessionId) {resources : List Resource} {guard : PoolGuard}
    (left : .poolGuard guard ∈ resources) (report : TeardownReport) (world : World) :
    (((exitAll session resources report).on world).2.trackers.get guard.tracker).pools =
      KeyMap.empty := by
  have events (event : Event) : (Action.emit event).Moves KeepsDrained := fun _ _ drained => drained
  induction resources generalizing report world with
  | nil => cases left
  | cons resource rest ih =>
    have others (report : TeardownReport) := exitAll_moves events Attempt.install_keepsDrained
      Action.drainForGuard_keepsDrained session rest report
    rcases List.mem_cons.1 left with rfl | left
    · have drained : ((((Resource.poolGuard guard).exit.on world).2.trackers).get
          guard.tracker).pools = KeyMap.empty := by
        show (((Action.drainForGuard guard.tracker).on world).2.trackers.get
          guard.tracker).pools = KeyMap.empty
        rw [(Action.drainForGuard_tracks guard.tracker world).1, Store.get_put, if_pos rfl]
        rfl
      exact others _ _ _ drained
    · simp only [exitAll, Action.on_bind, Attempt.on_outcome]
      generalize resource.exit.on world = turn
      obtain ⟨outcome, middle⟩ := turn
      cases outcome with
      | ok resource' => exact ih left _ _
      | error error => exact ih left _ _

theorem PoolGuard.Follows.left_first {guard : PoolGuard} {keys : List SeamKey}
    {resources left kept : List Resource} (follows : guard.Follows keys resources)
    (named : (left ++ kept).map Resource.unentered = resources.reverse)
    (given : ∃ key ∈ keys, key ∈ keysOf left) : .poolGuard guard ∈ left := by
  obtain ⟨key, listed, covered⟩ := given
  obtain ⟨first, last, rfl, guarded, absent⟩ := follows
  have halves : first ++ last =
      (kept.map Resource.unentered).reverse ++ (left.map Resource.unentered).reverse := by
    rw [← List.reverse_append, ← List.map_append, named, List.reverse_reverse]
  have covers {resources : List Resource}
      (within : (left.map Resource.unentered).reverse ⊆ resources) : key ∈ keysOf resources := by
    obtain ⟨handle, member, here⟩ := mem_keysOf.1 covered
    have patch := List.mem_map_of_mem (f := Resource.unentered) member
    exact mem_keysOf.2 ⟨_, within (List.mem_reverse.2 patch), here⟩
  rcases List.append_eq_append_iff.1 halves with ⟨middle, -, rest⟩ | ⟨middle, -, rest⟩
  · exact absurd (covers (rest ▸ List.subset_append_right middle _)) (absent key listed)
  · have out : .poolGuard guard ∈ (left.map Resource.unentered).reverse :=
      rest ▸ List.mem_append_right middle guarded
    obtain ⟨resource, member, same⟩ := List.mem_map.1 (List.mem_reverse.1 out)
    cases resource with
    | patch handle => cases same
    | poolGuard other => exact same ▸ member
    | forceRestore restore => cases same

namespace Layered

variable {id : RegistryId} {start : Registry} {opening now : Stage} {builder : Builder}

/-- While the resources are entered right after they have been built, the registry shows the first
ones, however many have been entered. -/
theorem entering (layered : Layered id start opening) (member : builder ∈ opening.builders)
    {first rest : List Resource} (split : (builder.build.on opening.world).1 = first ++ rest) :
    ∃ entered left,
      (Scope.enter builder.session.id first).on (builder.build.on opening.world).2 =
          (.ok ⟨builder.session.id, entered, false⟩, left) ∧
        builder.start.on opening.world =
          (Scope.enterAll builder.session.id rest entered).on left ∧
        (left.registries.get id).ShowsFirst opening.seams id builder.session.id
          (builder.build.on opening.world).1 first rest := by
  obtain ⟨registered, keeps⟩ := layered.builders builder member
  have seams := layered.prepared.seams_of_builder member
  have kept := Builder.build_keepsRegistries keeps opening.world
  have built := Builder.build_isBuilt keeps opening.world
  rw [seams, registered] at built
  have same : (builder.build.on opening.world).2.registries.get id = opening.seams := by
    rw [kept, ← registered, seams]
  obtain ⟨entered, left, run, named, -, -, shown, -⟩ :=
    Scope.on_enterAll (builder.build.on opening.world).2
      (fun resource listed => (built resource (split ▸ List.mem_append_left rest listed)).fresh)
      (fun key => by rw [same]) (overlay_nil opening.seams _).symm trivial
  rw [same] at shown
  refine ⟨entered, left, run, ?_, built, split, entered, by simpa using named, ?_⟩
  · have whole : builder.start.on opening.world =
        (Scope.enterAll builder.session.id (first ++ rest) []).on
          (builder.build.on opening.world).2 := by
      rw [← split]
      rfl
    rw [whole, Scope.on_enterAll_append run]
  · intro key _
    rw [shown]

/-- While the scope of a session is left, with everything that was opened over it closed, the
registry shows the resources that have not been left yet. -/
theorem leaving (layered : Layered id start opening) (member : builder ∈ opening.builders)
    (held : Layered id start now)
    (frames : now.frames = (opening.openScope builder (.start builder)).frames) :
    ∃ scope, now.frames = ⟨opening.seams, .session builder scope⟩ :: opening.frames ∧
      scope.entered.map Resource.unentered = (builder.build.on opening.world).1.reverse ∧
      ∀ left kept, scope.entered = left ++ kept →
        scope.close.on now.world =
            (Scope.exitAll scope.session kept
                ((Scope.exitAll scope.session left .empty).on now.world).1).on
              ((Scope.exitAll scope.session left .empty).on now.world).2 ∧
          (((Scope.exitAll scope.session left .empty).on now.world).2.registries.get
              id).ShowsFirst opening.seams id builder.session.id
            (builder.build.on opening.world).1 (kept.map Resource.unentered).reverse
            (left.map Resource.unentered).reverse := by
  obtain ⟨registered, keeps⟩ := layered.builders builder member
  have seams := layered.prepared.seams_of_builder member
  have built := Builder.build_isBuilt keeps opening.world
  rw [seams, registered] at built
  obtain ⟨⟨entered, named, opened⟩, -, -, -⟩ := layered.starts member
  rw [← frames] at opened
  have shown := held.shown
  have laid := held.laid
  rw [opened, overlays_cons] at shown
  rw [opened] at laid
  obtain ⟨⟨keepsSeams, uncovers, saved, -⟩, -⟩ := laid
  refine ⟨_, opened, named, fun left kept split => ⟨?_, built, ?_, kept, by simp, ?_⟩⟩
  · rw [Scope.on_close rfl, split, Scope.on_exitAll_append]
  · rw [← List.reverse_append, ← List.map_append, ← split, named, List.reverse_reverse]
  · have whole : entered = left ++ kept := split
    simp only [Opened.entered] at shown saved
    rw [whole, allSaved_append] at saved
    rw [whole, overlay_append] at shown
    obtain rfl := held.registry
    obtain ⟨after, run, -, uncovered⟩ := Scope.on_exitAll now.world builder.session.id .empty
      saved.1 keepsSeams.contains shown
    intro key contained
    rw [run, uncovered, overlay, overlay, uncovers key]
    have bound : (opening.seams.binding? key).isSome = true := by
      rwa [← Registry.contains_eq_isSome_binding?]
    obtain ⟨binding, bound⟩ := Option.isSome_iff_exists.1 bound
    rw [bound]
    rfl

end Layered

theorem Builder.IsStandard.isLawful {builder : Builder} {world : World}
    (standard : builder.IsStandard world) : builder.IsLawful world := by
  obtain ⟨catalog, ⟨shelf, stubs, unbound⟩, bound⟩ := standard
  exact ⟨catalog, stubs ▸ StubCatalog.standard_lends unbound, bound⟩

/-- In every run of nested frames, whatever the registry holds at the pooling seams and however many
of them there are, a session whose resources are entered right after they have been built keeps the
order of every pool class: after each resource that is entered and after each one that is left, an
acquire wrapper of the session's in place has the create wrapper under it, where there was a create
primitive, and either wrapper has the session's substitute under it, where the connection type is
registered. On the way out every guard has drained before a seam of its adapter is given back. -/
theorem Stage.start_inOrder {id : RegistryId} {world : World} {opening now : Stage} {index : Nat}
    {builder : Builder}
    (reached : Reachable (fun _ operation => operation.BuildsPurely) (.initial id world) opening)
    (chosen : opening.builders[index]? = some builder) (lawful : builder.IsLawful opening.world)
    (leaving : builder.session.LeavesPooling)
    (issued : ∀ site : PoolSite, ∀ key ∈ [site.create, site.acquire],
      ∀ value ∈ opening.seams.value? key, opening.world.HasIssued value)
    (held : Reachable (fun _ operation => operation.BuildsPurely) (opening.step (.start index)) now)
    (frames : now.frames = (opening.step (.start index)).frames) :
    (∀ site : PoolSite, site.IsOutfitted builder opening.world
      (builder.build.on opening.world).1) ∧
    (∀ first rest, (builder.build.on opening.world).1 = first ++ rest → ∃ entered left,
      (Scope.enter builder.session.id first).on (builder.build.on opening.world).2 =
          (.ok ⟨builder.session.id, entered, false⟩, left) ∧
        builder.start.on opening.world =
          (Scope.enterAll builder.session.id rest entered).on left ∧
        ∀ site : PoolSite, site.InOrder (builder.build.on opening.world).1 opening.seams
          (left.registries.get id)) ∧
    ∃ scope, now.frames = ⟨opening.seams, .session builder scope⟩ :: opening.frames ∧
      (∀ first rest, scope.entered = first ++ rest → ∃ report left,
        (Scope.exitAll scope.session first .empty).on now.world = (report, left) ∧
          scope.close.on now.world = (Scope.exitAll scope.session rest report).on left ∧
          ∀ site : PoolSite, site.InOrder (builder.build.on opening.world).1 opening.seams
            (left.registries.get id)) ∧
      ∀ guard, .poolGuard guard ∈ (builder.build.on opening.world).1 → ∃ site : PoolSite,
        guard.Watches site (builder.build.on opening.world).1 ∧
          ∀ first rest, scope.entered = first ++ rest →
            (∃ key ∈ (Adapter.standard site.backend).declaredSeams, key ∈ keysOf first) →
              .poolGuard guard ∈ first ∧
                (((Scope.exitAll scope.session first .empty).on now.world).2.trackers.get
                  guard.tracker).pools = KeyMap.empty := by
  have layered : Layered id (world.registries.get id) opening :=
    reached.invariant (.initial id world) fun _ layered pure => layered.step pure
  have opened : Layered id (world.registries.get id) (opening.step (.start index)) :=
    layered.step trivial
  have still : Layered id (world.registries.get id) now :=
    held.invariant opened fun _ layered pure => layered.step pure
  have member : builder ∈ opening.builders := List.mem_of_getElem? chosen
  have seams := layered.prepared.seams_of_builder member
  have registered := (layered.builders builder member).1
  have starting : opening.step (.start index) = opening.openScope builder (.start builder) := by
    simp only [step, chosen]
  have outfitted (site : PoolSite) :
      site.IsOutfitted builder opening.world (builder.build.on opening.world).1 :=
    lawful.outfits leaving
  have inOrder {now : Registry} {first rest : List Resource}
      (shows : now.ShowsFirst opening.seams id builder.session.id
        (builder.build.on opening.world).1 first rest) (site : PoolSite) :
      site.InOrder (builder.build.on opening.world).1 opening.seams now := by
    rw [← seams, ← registered] at shows
    have ordered := (outfitted site).inOrder (lawful.build_inOrder leaving)
      (by rw [seams]; exact issued site) shows
    rwa [seams] at ordered
  refine ⟨outfitted, ?_, ?_⟩
  · intro first rest split
    obtain ⟨entered, left, run, rest, shows⟩ := layered.entering member split
    exact ⟨entered, left, run, rest, inOrder shows⟩
  · obtain ⟨scope, opened, named, leaves⟩ := layered.leaving member still (starting ▸ frames)
    refine ⟨scope, opened, ?_, ?_⟩
    · intro first rest split
      obtain ⟨closes, shows⟩ := leaves first rest split
      exact ⟨_, _, rfl, closes, inOrder shows⟩
    · intro guard guarded
      obtain ⟨site, watches, follows⟩ := lawful.build_guards leaving guarded
      refine ⟨site, watches, fun first rest split given => ?_⟩
      have left := follows.left_first (split ▸ named) given
      exact ⟨left, Scope.exitAll_drains scope.session left .empty now.world⟩

private def builderStage : Stage :=
  (Stage.initial ⟨0⟩ pooledWorld).step
    (.newBuilder ⟨⟨"tape"⟩, [], .standard ⟨0⟩⟩ (Catalog.standard.without []) 4)

private theorem builderStage_evaluated :
    (∀ backend ∈ [Backend.sessions, .pooled], ∀ poolClass ∈ Adapter.poolClasses,
      ∀ key ∈ [Seam.create (poolClass.target backend), Seam.acquire (poolClass.target backend)],
        ∀ value ∈ builderStage.seams.value? key, builderStage.world.HasIssued value) ∧
      (builderStage.builders[0]?.map fun builder =>
        (keysOf (builder.build.on builderStage.world).1).length) = some 20 := by
  decide +kernel

theorem Stage.start_inOrder_pooled :
    ∃ builder, builderStage.builders[0]? = some builder ∧
      (keysOf (builder.build.on builderStage.world).1).length = 20 ∧
      ∃ scope, (builderStage.step (.start 0)).frames =
          ⟨builderStage.seams, .session builder scope⟩ :: builderStage.frames ∧
        ∀ first rest, scope.entered = first ++ rest → ∃ report left,
          (Scope.exitAll scope.session first .empty).on (builderStage.step (.start 0)).world =
              (report, left) ∧
            ∀ site : PoolSite, site.InOrder (builder.build.on builderStage.world).1
              builderStage.seams (left.registries.get ⟨0⟩) := by
  have begun : Reachable (fun _ operation => operation.BuildsPurely) (.initial ⟨0⟩ pooledWorld)
      (.initial ⟨0⟩ pooledWorld) := .start
  have nests : Operation.NestsSessions
      (.newBuilder ⟨⟨"tape"⟩, [], .standard ⟨0⟩⟩ (Catalog.standard.without []) 4) :=
    ⟨⟨⟨0⟩, rfl⟩, [], rfl⟩
  have supplied : builderStage.IsSupplied :=
    (Nested.initial ⟨0⟩ pooledWorld_unbound).supplied.step nests
  obtain ⟨builder, chosen⟩ : ∃ builder, builderStage.builders[0]? = some builder := ⟨_, rfl⟩
  have standard := supplied.builders builder (List.mem_of_getElem? chosen)
  obtain ⟨issued, counted⟩ := builderStage_evaluated
  rw [chosen] at counted
  obtain ⟨-, -, scope, opened, leaves, -⟩ := start_inOrder (begun.step _ nests.pure) chosen
    standard.isLawful (by cases chosen; exact fun _ _ _ _ _ member => nomatch member)
    (fun site => issued site.backend site.pooling site.poolClass site.listed) .start rfl
  refine ⟨builder, chosen, Option.some.inj counted, scope, opened, fun first rest split => ?_⟩
  obtain ⟨report, left, run, -, inOrder⟩ := leaves first rest split
  exact ⟨report, left, run, inOrder⟩

end TransportSeams

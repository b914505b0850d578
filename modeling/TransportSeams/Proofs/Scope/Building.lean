import TransportSeams.Proofs.Scope.Overlay
import TransportSeams.Scope.Builder

/-!
What building the resources of a session does. Building moves the world along every relation that
its adapters, its substitutions and its events move it along; in particular it changes no registry
as long as its adapters change none, and what it makes is fresh.
-/

set_option autoImplicit false
set_option relaxedAutoImplicit false

namespace TransportSeams

open World

section Moves

variable {R : World → World → Prop} [IsPreorder World R]

mutual

theorem SeamValue.resolve_moves {id : CacheId} {session : SessionId}
    (substitutes : ∀ type, (Action.substitute id type session).Moves R) :
    (value : SeamValue) → (value.resolve id session).Moves R
  | .table entries =>
    Action.moves_bind (entries.resolve_moves substitutes) fun _ => Action.moves_pure _
  | .transport type => by
    unfold SeamValue.resolve
    refine Action.moves_ite ?_ (Action.moves_pure _)
    exact Action.moves_bind (substitutes type) fun _ => Action.moves_pure _
  | .acquire _ _ => Action.moves_pure _
  | .create _ _ => Action.moves_pure _
  | .probe _ => Action.moves_pure _
  | .handler _ => Action.moves_pure _

theorem SeamTable.resolve_moves {id : CacheId} {session : SessionId}
    (substitutes : ∀ type, (Action.substitute id type session).Moves R) {bound : Option String} :
    (entries : SeamTable bound) → (entries.resolve id session).Moves R
  | .nil => Action.moves_pure _
  | .cons _ _ value rest =>
    Action.moves_bind (value.resolve_moves substitutes) fun _ =>
      Action.moves_bind (rest.resolve_moves substitutes) fun _ => Action.moves_pure _

end

theorem Action.on_buildPatch? (registry : RegistryId) (cache : CacheId) (session : SessionId)
    (spec : PatchSpec) (world : World) :
    (Action.buildPatch? registry cache session spec).on world =
      if (world.registries.get registry).contains spec.key then
        (some ⟨registry, spec.key, ((spec.replacement.resolve cache session).on world).1, session,
          none⟩, ((spec.replacement.resolve cache session).on world).2)
      else (none, world.telling (.seamSkipped spec.key session)) := by
  rw [buildPatch?, on_bind, on_ite]
  rfl

theorem Action.buildPatch?_moves {registry : RegistryId} {cache : CacheId} {session : SessionId}
    (events : ∀ event, event.isOfPatch = false → (Action.emit event).Moves R)
    (substitutes : ∀ type, (Action.substitute cache type session).Moves R) (spec : PatchSpec) :
    (Action.buildPatch? registry cache session spec).Moves R := by
  refine moves_bind (fun world => refl_of R world) fun registry => moves_ite ?_ ?_
  · exact moves_bind (spec.replacement.resolve_moves substitutes) fun _ => moves_pure _
  · exact moves_bind (events _ rfl) fun _ => moves_pure none

theorem Builder.on_buildPatches_cons (builder : Builder) (spec : PatchSpec) (rest : List PatchSpec)
    (world : World) :
    (builder.buildPatches (spec :: rest)).on world =
      let built := (Action.buildPatch? builder.registry builder.cache builder.session.id spec).on
        world
      let others := (builder.buildPatches rest).on built.2
      ((built.1.map Resource.patch).toList ++ others.1, others.2) :=
  rfl

theorem Builder.on_buildAdapters_cons (builder : Builder) (adapter : Adapter) (rest : List Adapter)
    (world : World) :
    (builder.buildAdapters (adapter :: rest)).on world =
      let resources := (builder.buildAdapter adapter).on world
      let others := (builder.buildAdapters rest).on resources.2
      (resources.1 ++ others.1, others.2) :=
  rfl

namespace Builder

variable {builder : Builder}
  (events : ∀ event, event.isOfPatch = false → (Action.emit event).Moves R)
  (substitutes : ∀ type, (Action.substitute builder.cache type builder.session.id).Moves R)

include events substitutes

theorem buildPatches_moves (specs : List PatchSpec) : (builder.buildPatches specs).Moves R := by
  induction specs with
  | nil => exact Action.moves_pure []
  | cons spec rest ih =>
    exact Action.moves_bind (Action.buildPatch?_moves events substitutes spec) fun _ =>
      Action.moves_bind ih fun _ => Action.moves_pure _

theorem mem_buildPatches {specs : List PatchSpec} {world : World} {resource : Resource}
    (built : resource ∈ ((builder.buildPatches specs).on world).1) :
    ∃ spec ∈ specs, ∃ middle, R world middle ∧ resource =
      .patch ⟨builder.registry, spec.key,
        ((spec.replacement.resolve builder.cache builder.session.id).on middle).1,
        builder.session.id, none⟩ := by
  induction specs generalizing world with
  | nil => cases built
  | cons spec rest ih =>
    rw [on_buildPatches_cons] at built
    rcases List.mem_append.1 built with built | built
    · rw [Action.on_buildPatch?] at built
      split at built
      · obtain rfl := List.mem_singleton.1 built
        exact ⟨spec, List.mem_cons_self, world, refl_of R world, rfl⟩
      · cases built
    · obtain ⟨other, member, middle, moved, made⟩ := ih built
      have first : R world ((Action.buildPatch? builder.registry builder.cache builder.session.id
          spec).on world).2 :=
        Action.buildPatch?_moves events substitutes spec world
      exact ⟨other, List.mem_cons_of_mem _ member, middle, trans_of R first moved, made⟩

theorem buildAdapter_moves {adapter : Adapter} (moves : (adapter.build builder.context).Moves R) :
    (builder.buildAdapter adapter).Moves R := by
  refine Action.moves_bind (fun world => refl_of R world) fun registry => Action.moves_ite ?_ ?_
  · exact Action.moves_bind moves fun output =>
      Action.moves_bind (buildPatches_moves events substitutes output.specs) fun _ =>
        Action.moves_pure _
  · exact Action.moves_bind (events _ rfl) fun _ => Action.moves_pure []

theorem buildAdapters_moves {adapters : List Adapter}
    (moves : ∀ adapter ∈ adapters, (adapter.build builder.context).Moves R) :
    (builder.buildAdapters adapters).Moves R := by
  induction adapters with
  | nil => exact Action.moves_pure []
  | cons adapter rest ih =>
    have others := ih fun other member => moves other (List.mem_cons_of_mem adapter member)
    refine Action.moves_bind ?_ fun _ => Action.moves_bind others fun _ => Action.moves_pure _
    exact buildAdapter_moves events substitutes (moves adapter List.mem_cons_self)

theorem buildAdapters_parts {ι : Type} {adapter : ι → Adapter} {labels : List ι}
    (moves : ∀ label ∈ labels, ((adapter label).build builder.context).Moves R) (world : World) :
    ∃ parts : List (ι × List Resource), parts.map Prod.fst = labels ∧
      ((builder.buildAdapters (labels.map adapter)).on world).1 =
        (parts.map Prod.snd).flatten ∧
      ∀ part ∈ parts, ∃ middle, R world middle ∧
        part.2 = ((builder.buildAdapter (adapter part.1)).on middle).1 := by
  induction labels generalizing world with
  | nil => exact ⟨[], rfl, rfl, fun _ member => nomatch member⟩
  | cons label rest ih =>
    obtain ⟨first, others⟩ := List.forall_mem_cons.1 moves
    obtain ⟨parts, labelled, built, made⟩ :=
      ih others ((builder.buildAdapter (adapter label)).on world).2
    refine ⟨(label, ((builder.buildAdapter (adapter label)).on world).1) :: parts,
      congrArg (label :: ·) labelled, ?_, ?_⟩
    · rw [List.map_cons, on_buildAdapters_cons, List.map_cons, List.flatten_cons]
      exact congrArg (_ ++ ·) built
    · intro part member
      rcases List.mem_cons.1 member with rfl | member
      · exact ⟨world, refl_of R world, rfl⟩
      · obtain ⟨middle, moved, same⟩ := made part member
        exact ⟨middle, trans_of R (buildAdapter_moves events substitutes first world) moved, same⟩

theorem build_moves
    (moves : ∀ adapter ∈ builder.catalog.values, (adapter.build builder.context).Moves R) :
    builder.build.Moves R := by
  apply Action.moves_bind (buildAdapters_moves events substitutes moves)
  intro _
  apply Action.moves_bind (buildPatches_moves events substitutes _)
  intro _
  exact Action.moves_bind (fun world => refl_of R world) fun _ =>
    Action.moves_bind (events _ rfl) fun _ => Action.moves_pure _

end Builder

end Moves

theorem Action.substitute_keepsRegistries (id : CacheId) (base : TransportType)
    (session : SessionId) : (Action.substitute id base session).Moves KeepsRegistries := by
  refine moves_ite (moves_pure base) (moves_bind (fun _ => rfl) fun cache => ?_)
  split
  · exact moves_pure _
  · exact moves_bind (fun _ => rfl) fun _ => moves_bind (fun _ => rfl) fun _ => moves_pure _

def Builder.KeepsRegistries (builder : Builder) : Prop :=
  ∀ adapter ∈ builder.catalog.values, (adapter.build builder.context).Moves World.KeepsRegistries

theorem Action.buildPatch?_keepsRegistries (registry : RegistryId) (cache : CacheId)
    (session : SessionId) (spec : PatchSpec) :
    (Action.buildPatch? registry cache session spec).Moves World.KeepsRegistries :=
  buildPatch?_moves (fun _ _ _ => rfl) (fun type => substitute_keepsRegistries cache type session)
    spec

namespace Builder

theorem buildPatches_keepsRegistries (builder : Builder) (specs : List PatchSpec) :
    (builder.buildPatches specs).Moves World.KeepsRegistries :=
  buildPatches_moves (fun _ _ _ => rfl)
    (fun type => Action.substitute_keepsRegistries builder.cache type builder.session.id) specs

theorem buildAdapter_keepsRegistries {builder : Builder} {adapter : Adapter}
    (keeps : (adapter.build builder.context).Moves World.KeepsRegistries) :
    (builder.buildAdapter adapter).Moves World.KeepsRegistries :=
  buildAdapter_moves (fun _ _ _ => rfl)
    (fun type => Action.substitute_keepsRegistries builder.cache type builder.session.id) keeps

theorem buildAdapters_keepsRegistries {builder : Builder} {adapters : List Adapter}
    (keeps : ∀ adapter ∈ adapters, (adapter.build builder.context).Moves World.KeepsRegistries) :
    (builder.buildAdapters adapters).Moves World.KeepsRegistries :=
  buildAdapters_moves (fun _ _ _ => rfl)
    (fun type => Action.substitute_keepsRegistries builder.cache type builder.session.id) keeps

theorem build_keepsRegistries {builder : Builder} (keeps : builder.KeepsRegistries) :
    builder.build.Moves World.KeepsRegistries :=
  build_moves (fun _ _ _ => rfl)
    (fun type => Action.substitute_keepsRegistries builder.cache type builder.session.id) keeps

theorem on_buildPatches_append (builder : Builder) (first last : List PatchSpec) (world : World) :
    (builder.buildPatches (first ++ last)).on world =
      let built := (builder.buildPatches first).on world
      let others := (builder.buildPatches last).on built.2
      (built.1 ++ others.1, others.2) := by
  induction first generalizing world with
  | nil => rfl
  | cons spec rest ih =>
    simp only [List.cons_append, on_buildPatches_cons, ih, List.append_assoc]

theorem patch_mem_buildPatches (builder : Builder) {specs : List PatchSpec} {spec : PatchSpec}
    (listed : spec ∈ specs) {world : World}
    (known : (world.registries.get builder.registry).contains spec.key = true) :
    ∃ middle, .patch ⟨builder.registry, spec.key,
        ((spec.replacement.resolve builder.cache builder.session.id).on middle).1,
        builder.session.id, none⟩ ∈ ((builder.buildPatches specs).on world).1 := by
  induction specs generalizing world with
  | nil => cases listed
  | cons first rest ih =>
    have kept : ((Action.buildPatch? builder.registry builder.cache builder.session.id first).on
        world).2.registries = world.registries :=
      Action.buildPatch?_keepsRegistries _ _ _ first world
    simp only [on_buildPatches_cons, List.mem_append]
    rcases List.mem_cons.1 listed with rfl | listed'
    · refine ⟨world, .inl ?_⟩
      rw [Action.on_buildPatch?, if_pos known]
      exact List.mem_singleton.2 rfl
    · obtain ⟨middle, member⟩ := ih listed' (kept ▸ known)
      exact ⟨middle, .inr member⟩

theorem keysOf_buildPatches (builder : Builder) (specs : List PatchSpec) (world : World) :
    keysOf ((builder.buildPatches specs).on world).1 =
      (specs.map PatchSpec.key).filter (world.registries.get builder.registry).contains := by
  induction specs generalizing world with
  | nil => rfl
  | cons spec rest ih =>
    have kept : ((Action.buildPatch? builder.registry builder.cache builder.session.id spec).on
        world).2.registries = world.registries :=
      Action.buildPatch?_keepsRegistries _ _ _ spec world
    simp only [on_buildPatches_cons, keysOf_append, ih, kept, List.map_cons]
    rw [Action.on_buildPatch?]
    cases known : (world.registries.get builder.registry).contains spec.key with
    | true => rw [List.filter_cons_of_pos known]; rfl
    | false => rw [List.filter_cons_of_neg (by simp [known])]; rfl

theorem guardsOf_buildPatches (builder : Builder) (specs : List PatchSpec) (world : World) :
    guardsOf ((builder.buildPatches specs).on world).1 = [] := by
  apply List.filterMap_eq_nil_iff.2
  intro resource built
  obtain ⟨spec, -, middle, -, rfl⟩ := mem_buildPatches (R := World.KeepsRegistries)
    (fun _ _ _ => rfl) (fun type => Action.substitute_keepsRegistries _ type _) built
  rfl

theorem lastShown?_buildPatches_absent {builder : Builder} {key : SeamKey}
    {specs : List PatchSpec} (absent : ∀ spec ∈ specs, spec.key ≠ key) (before : Registry)
    (world : World) :
    lastShown? before key ((builder.buildPatches specs).on world).1 = none := by
  refine lastShown?_eq_none fun resource built => ?_
  obtain ⟨spec, member, middle, -, rfl⟩ := mem_buildPatches (R := World.KeepsRegistries)
    (fun _ _ _ => rfl) (fun type => Action.substitute_keepsRegistries _ type _) built
  exact if_neg (absent spec member)

theorem lastShown?_buildPatches {builder : Builder} {key : SeamKey} {value : SeamValue}
    {first last : List PatchSpec} {world : World} (before : Registry)
    (known : (world.registries.get builder.registry).contains key = true)
    (absent : ∀ spec ∈ last, spec.key ≠ key) :
    lastShown? before key
        ((builder.buildPatches (first ++ ⟨key, value⟩ :: last)).on world).1 =
      some ⟨((value.resolve builder.cache builder.session.id).on
        ((builder.buildPatches first).on world).2).1, some builder.session.id⟩ := by
  have kept : ((builder.buildPatches first).on world).2.registries = world.registries :=
    builder.buildPatches_keepsRegistries first world
  simp only [on_buildPatches_append, on_buildPatches_cons, lastShown?_append,
    lastShown?_buildPatches_absent absent, Action.on_buildPatch?, kept, known, if_true,
    Option.none_or]
  simp [lastShown?, Resource.shown?, PatchHandle.binding]

theorem buildPatches_isBuilt (builder : Builder) (specs : List PatchSpec) (world : World) :
    ∀ resource ∈ ((builder.buildPatches specs).on world).1,
      resource.IsBuilt builder.registry builder.session.id
        (world.registries.get builder.registry) := by
  induction specs generalizing world with
  | nil => exact fun resource member => nomatch member
  | cons spec rest ih =>
    have kept : ((Action.buildPatch? builder.registry builder.cache builder.session.id spec).on
        world).2.registries = world.registries :=
      Action.buildPatch?_keepsRegistries _ _ _ spec world
    have others := ih ((Action.buildPatch? builder.registry builder.cache builder.session.id
      spec).on world).2
    rw [kept] at others
    intro resource member
    rw [on_buildPatches_cons] at member
    rcases List.mem_append.1 member with member | member
    · rw [Action.on_buildPatch?] at member
      split at member
      · rename_i known
        obtain rfl := List.mem_singleton.1 member
        exact ⟨rfl, rfl, rfl, known⟩
      · cases member
    · exact others resource member

theorem on_buildAdapter (builder : Builder) (adapter : Adapter) (world : World) :
    (builder.buildAdapter adapter).on world =
      if (world.registries.get builder.registry).hasBackend adapter.backend then
        let output := (adapter.build builder.context).on world
        let patches := (builder.buildPatches output.1.specs).on output.2
        (patches.1 ++ output.1.guards.map Resource.poolGuard, patches.2)
      else ([], world.telling (.backendSkipped adapter.backend builder.session.id)) := by
  rw [buildAdapter, Action.on_bind, Action.on_ite]
  rfl

theorem on_build (builder : Builder) (world : World) :
    builder.build.on world =
      let adapted := (builder.buildAdapters builder.catalog.values).on world
      let custom := (builder.buildPatches builder.session.customPatches).on adapted.2
      (adapted.1 ++ custom.1,
        custom.2.telling
          (.built builder.session.id (adapted.1 ++ custom.1).length
            (custom.2.caches.get builder.cache).size)) :=
  rfl

theorem buildAdapter_isBuilt {builder : Builder} {adapter : Adapter}
    (keeps : (adapter.build builder.context).Moves World.KeepsRegistries) (world : World) :
    ∀ resource ∈ ((builder.buildAdapter adapter).on world).1,
      resource.IsBuilt builder.registry builder.session.id
        (world.registries.get builder.registry) := by
  intro resource member
  rw [on_buildAdapter] at member
  split at member
  · rcases List.mem_append.1 member with member | member
    · have made := buildPatches_isBuilt builder _ _ resource member
      rwa [keeps world] at made
    · obtain ⟨guard, _, rfl⟩ := List.mem_map.1 member
      trivial
  · cases member

theorem buildAdapters_isBuilt {builder : Builder} {adapters : List Adapter}
    (keeps : ∀ adapter ∈ adapters,
      (adapter.build builder.context).Moves World.KeepsRegistries) (world : World) :
    ∀ resource ∈ ((builder.buildAdapters adapters).on world).1,
      resource.IsBuilt builder.registry builder.session.id
        (world.registries.get builder.registry) := by
  induction adapters generalizing world with
  | nil => exact fun resource member => nomatch member
  | cons adapter rest ih =>
    have first := keeps adapter List.mem_cons_self
    have others := ih (fun other member => keeps other (List.mem_cons_of_mem adapter member))
      ((builder.buildAdapter adapter).on world).2
    rw [buildAdapter_keepsRegistries first world] at others
    intro resource member
    rw [on_buildAdapters_cons] at member
    rcases List.mem_append.1 member with member | member
    · exact buildAdapter_isBuilt first world resource member
    · exact others resource member

theorem build_isBuilt {builder : Builder} (keeps : builder.KeepsRegistries) (world : World) :
    ∀ resource ∈ (builder.build.on world).1,
      resource.IsBuilt builder.registry builder.session.id
        (world.registries.get builder.registry) := by
  intro resource member
  rw [on_build] at member
  rcases List.mem_append.1 member with member | member
  · exact buildAdapters_isBuilt keeps world resource member
  · have made := buildPatches_isBuilt builder _ _ resource member
    rwa [buildAdapters_keepsRegistries keeps world] at made

theorem build_fresh {builder : Builder} (keeps : builder.KeepsRegistries) (world : World) :
    ∀ resource ∈ (builder.build.on world).1,
      resource.IsFresh builder.registry builder.session.id
        (world.registries.get builder.registry) :=
  fun resource member => (build_isBuilt keeps world resource member).fresh

/-- Starting lays what has been built over what the registry shows. -/
theorem on_start {builder : Builder} (keeps : builder.KeepsRegistries) (world : World) :
    let before := world.registries.get builder.registry
    ∃ all left, builder.start.on world = (.ok ⟨builder.session.id, all, false⟩, left) ∧
      all.map Resource.unentered = (builder.build.on world).1.reverse ∧
      (builder.build.on world).2.DiffersAtSeams left ∧
      (left.registries.get builder.registry).SameSeams before ∧
      (left.registries.get builder.registry).binding? = overlay before before.binding? all ∧
      AllSaved builder.registry before before.binding? all := by
  intro before
  have kept := (build_keepsRegistries keeps world).get_eq builder.registry
  have bare : ((builder.build.on world).2.registries.get builder.registry).binding? =
      overlay before before.binding? [] := by
    rw [kept]
    rfl
  obtain ⟨all, left, run, built, rest⟩ :=
    Scope.on_enterAll (builder.build.on world).2 (build_fresh keeps world)
      (fun key => by rw [kept]) bare trivial
  rw [List.map_nil, List.append_nil] at built
  refine ⟨all, left, ?_, built, rest⟩
  simp only [start, Scope.enter, Attempt.on_bind, Attempt.on_lift, run]

end Builder

end TransportSeams

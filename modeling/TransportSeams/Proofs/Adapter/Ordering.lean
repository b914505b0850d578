import Mathlib.Data.List.Flatten
import Mathlib.Data.List.Pairwise
import TransportSeams.Proofs.Adapter.Outfitting

/-!
The order of what a session builds. Adapters emit their patches in the order in which they declare
their seams, so at every pool class the connection type comes before the create wrapper and both
come before the acquire wrapper; each guard comes after all patches of its adapter.
-/

set_option autoImplicit false
set_option relaxedAutoImplicit false

namespace TransportSeams

open World Adapter

namespace Adapter

variable {context : AdapterContext} {world : World}

theorem declaredSeams_apart : ∀ backend ∈ Backend.all, ∀ other ∈ Backend.all, other ≠ backend →
    ∀ key ∈ (Adapter.standard backend).declaredSeams,
      key ∉ (Adapter.standard other).declaredSeams := by
  decide

theorem trackCreate_guards (type : TransportType) (key : SeamKey) {guard : PoolGuard}
    (guarded : guard ∈ ((trackCreate context type key).on world).1.guards) :
    (world.registries.get context.registry).contains key = true ∧ ∃ primitive made,
      ⟨key, .create made (.tracked primitive guard.tracker)⟩ ∈
        ((trackCreate context type key).on world).1.specs := by
  simp only [trackCreate, Action.on_bind, Action.on_registry] at guarded ⊢
  split at guarded
  · rename_i function primitive held
    obtain ⟨binding, shown, -⟩ := Option.map_eq_some_iff.1 held
    obtain rfl := List.mem_singleton.1 guarded
    exact ⟨Registry.contains_of_binding? shown, primitive, _, List.mem_singleton.2 rfl⟩
  · cases guarded

theorem buildPoolClass_guards (stubs : context.session.stubs.Moves Continues) (backend : Backend)
    (poolClass : PoolClass) {guard : PoolGuard}
    (guarded : guard ∈ ((buildPoolClass context backend poolClass).on world).1.guards) :
    (world.registries.get context.registry).contains
        (Seam.create (poolClass.target backend)) = true ∧ ∃ primitive made,
      ⟨Seam.create (poolClass.target backend), .create made (.tracked primitive guard.tracker)⟩ ∈
        ((buildPoolClass context backend poolClass).on world).1.specs := by
  have lent := stubs.transport backend poolClass.connection world
  simp only [buildPoolClass, Action.on_bind] at guarded ⊢
  split at guarded
  · cases guarded
  · rename_i stub _
    have bound := Action.substitute_continues context.cache stub context.session.id
      ((context.session.stubs.transport? backend poolClass.connection).on world).2
    simp only [Action.on_bind, Action.on_pure, AdapterOutput.specs_append,
      AdapterOutput.guards_append, guards_checkAcquire, List.append_nil] at guarded ⊢
    obtain ⟨known, primitive, made, listed⟩ := trackCreate_guards _ _ guarded
    rw [(trans_of Continues lent bound).grown.registries] at known
    exact ⟨known, primitive, made,
      List.mem_append_left _ (List.mem_append_right _ listed)⟩

theorem buildPoolClasses_guards (stubs : context.session.stubs.Moves Continues)
    (backend : Backend) (classes : List PoolClass) {guard : PoolGuard}
    (guarded : guard ∈ ((buildPoolClasses context backend classes).on world).1.guards) :
    ∃ poolClass ∈ classes, (world.registries.get context.registry).contains
        (Seam.create (poolClass.target backend)) = true ∧ ∃ primitive made,
      ⟨Seam.create (poolClass.target backend), .create made (.tracked primitive guard.tracker)⟩ ∈
        ((buildPoolClasses context backend classes).on world).1.specs := by
  induction classes generalizing world with
  | nil => cases guarded
  | cons poolClass rest ih =>
    have grown : world.Continues ((buildPoolClass context backend poolClass).on world).2 :=
      buildPoolClass_moves stubs Action.freshFunction_continues Action.newTracker_continues
        (fun type => Action.substitute_continues _ type _) backend poolClass world
    rw [on_buildPoolClasses_cons] at guarded ⊢
    rcases List.mem_append.1 guarded with guarded | guarded
    · obtain ⟨known, primitive, made, listed⟩ :=
        buildPoolClass_guards stubs backend poolClass guarded
      exact ⟨poolClass, List.mem_cons_self, known, primitive, made,
        List.mem_append_left _ listed⟩
    · obtain ⟨other, listed, known, primitive, made, specified⟩ := ih guarded
      rw [grown.grown.registries] at known
      exact ⟨other, List.mem_cons_of_mem _ listed, known, primitive, made,
        List.mem_append_right _ specified⟩

theorem guards_unpooled {backend : Backend} (other : backend ∉ [Backend.sessions, .pooled]) :
    (((Adapter.standard backend).build context).on world).1.guards = [] := by
  cases backend with
  | sessions => exact absurd (by decide) other
  | pooled => exact absurd (by decide) other
  | _ => rfl

theorem standard_guards (stubs : context.session.stubs.Moves Continues) {backend : Backend}
    {guard : PoolGuard}
    (guarded : guard ∈ (((Adapter.standard backend).build context).on world).1.guards) :
    ∃ site : PoolSite, site.backend = backend ∧
      (world.registries.get context.registry).contains site.create = true ∧ ∃ primitive made,
        ⟨site.create, .create made (.tracked primitive guard.tracker)⟩ ∈
          (((Adapter.standard backend).build context).on world).1.specs := by
  by_cases pools : backend ∈ [Backend.sessions, .pooled]
  · have same : Adapter.standard backend = pooling backend := by
      simp only [List.mem_cons, List.not_mem_nil, or_false] at pools
      rcases pools with rfl | rfl <;> rfl
    let types := (swapTypes context backend (connectionSeams backend)).on world
    let left := (Action.freshFunction.on types.2).2
    have grown : world.Continues left :=
      trans_of Continues (swapTypes_moves stubs _ _ world) (Action.freshFunction_continues types.2)
    rw [same, guards_build_pooling] at guarded
    obtain ⟨poolClass, listed, known, primitive, made, specified⟩ :=
      buildPoolClasses_guards stubs backend poolClasses guarded
    rw [grown.grown.registries] at known
    refine ⟨⟨backend, poolClass, pools, listed⟩, rfl, known, primitive, made, ?_⟩
    rw [same, on_build_pooling]
    exact List.mem_append_right _ specified
  · rw [guards_unpooled pools] at guarded
    cases guarded

end Adapter

/-- A patch at the first seam may come before one at the second seam. -/
def PoolSite.MayPrecede (site : PoolSite) (first second : SeamKey) : Prop :=
  (first = site.create → second ≠ site.connectionType) ∧
    (first = site.acquire → second ≠ site.connectionType ∧ second ≠ site.create)

private theorem declares_inOrder : ∀ backend ∈ [Backend.sessions, .pooled],
    ∀ poolClass ∈ poolClasses,
      (Backend.all.flatMap fun backend => (Adapter.standard backend).declaredSeams).Pairwise
        fun first second =>
          (first = Seam.create (poolClass.target backend) →
              second ≠ Seam.connectionType (poolClass.target backend)) ∧
            (first = Seam.acquire (poolClass.target backend) →
              second ≠ Seam.connectionType (poolClass.target backend) ∧
                second ≠ Seam.create (poolClass.target backend)) := by
  decide

def Session.LeavesPooling (session : Session) : Prop :=
  ∀ backend ∈ [Backend.sessions, .pooled], ∀ key ∈ (Adapter.standard backend).declaredSeams,
    session.Leaves key

theorem Session.LeavesPooling.leaves {session : Session} (leaving : session.LeavesPooling)
    (site : PoolSite) : ∀ key ∈ site.poolClass.seams site.backend, session.Leaves key := by
  intro key seam
  exact leaving site.backend site.pooling key (site.declared key (List.mem_cons_of_mem _ seam))

/-- The builder has the standard adapters, of which some may be disabled, for a session whose stubs
lend. -/
structure Builder.IsLawful (builder : Builder) (world : World) : Prop where
  catalog : ∃ disabled, builder.catalog = Catalog.standard.without disabled
  context : builder.context.IsLawful world

namespace PoolGuard

def Watches (guard : PoolGuard) (site : PoolSite) (resources : List Resource) : Prop :=
  ∃ handle primitive made, .patch handle ∈ resources ∧ handle.key = site.create ∧
    handle.replacement = .create made (.tracked primitive guard.tracker)

/-- The guard comes after all patches at the seams. -/
def Follows (guard : PoolGuard) (keys : List SeamKey) (resources : List Resource) : Prop :=
  ∃ first last, resources = first ++ last ∧ .poolGuard guard ∈ last ∧
    ∀ key ∈ keys, key ∉ keysOf last

variable {guard : PoolGuard} {resources : List Resource}

theorem Watches.mono {site : PoolSite} {more : List Resource}
    (watches : guard.Watches site resources) (subset : resources ⊆ more) :
    guard.Watches site more := by
  obtain ⟨handle, primitive, made, member, wraps⟩ := watches
  exact ⟨handle, primitive, made, subset member, wraps⟩

theorem Follows.append {keys : List SeamKey} (follows : guard.Follows keys resources)
    (before : List Resource) {after : List Resource} (apart : ∀ key ∈ keys, key ∉ keysOf after) :
    guard.Follows keys (before ++ (resources ++ after)) := by
  obtain ⟨first, last, rfl, guarded, absent⟩ := follows
  refine ⟨before ++ first, last ++ after, by simp, List.mem_append_left _ guarded, ?_⟩
  intro key listed covered
  rw [keysOf_append, List.mem_append] at covered
  exact covered.elim (absent key listed) (apart key listed)

end PoolGuard

namespace Builder

variable {builder : Builder} {world : World} {site : PoolSite}

theorem keysOf_buildAdapter (builder : Builder) (backend : Backend) (world : World) :
    (keysOf ((builder.buildAdapter (.standard backend)).on world).1).Sublist
      (Adapter.standard backend).declaredSeams := by
  rw [on_buildAdapter]
  split
  · simp only [keysOf_append, keysOf_guards, List.append_nil, keysOf_buildPatches]
    exact List.filter_sublist.trans (Adapter.standard_emits backend builder.context world)
  · exact List.nil_sublist _

theorem IsLawful.build_parts (lawful : builder.IsLawful world) :
    ∃ (parts : List (Backend × List Resource)) (custom : List Resource),
      (parts.map Prod.fst).Sublist Backend.all ∧
        (builder.build.on world).1 = (parts.map Prod.snd).flatten ++ custom ∧
        (∀ key, builder.session.Leaves key → key ∉ keysOf custom) ∧ guardsOf custom = [] ∧
        ∀ part ∈ parts, ∃ middle, world.Continues middle ∧
          part.2 = ((builder.buildAdapter (.standard part.1)).on middle).1 := by
  obtain ⟨disabled, catalog⟩ := lawful.catalog
  let backends := Backend.all.filter fun backend => !disabled.contains backend
  let adapted := (builder.buildAdapters (backends.map .standard)).on world
  let custom := (builder.buildPatches builder.session.customPatches).on adapted.2
  have built : (builder.build.on world).1 = adapted.1 ++ custom.1 := by
    rw [on_build, catalog, Catalog.values_standard_without]
  obtain ⟨parts, labelled, flat, made⟩ := buildAdapters_parts (R := Continues)
    (fun event _ => Action.emit_continues event)
    (fun type => Action.substitute_continues _ type _)
    (fun backend (_ : backend ∈ backends) =>
      standard_continues backend builder.context lawful.context.stubs.moves) world
  refine ⟨parts, custom.1, labelled ▸ List.filter_sublist, built.trans (congrArg (· ++ _) flat), ?_,
    guardsOf_buildPatches _ _ _, made⟩
  intro key leaves listed
  rw [keysOf_buildPatches, List.mem_filter] at listed
  obtain ⟨spec, member, here⟩ := List.mem_map.1 listed.1
  exact leaves spec member here

theorem IsLawful.outfits (lawful : builder.IsLawful world)
    (leaving : builder.session.LeavesPooling) :
    site.IsOutfitted builder world (builder.build.on world).1 := by
  obtain ⟨parts, custom, -, built, absent, -, made⟩ := lawful.build_parts
  have all : (parts.map Prod.snd).flatten ++ custom = (parts.map Prod.snd ++ [custom]).flatten := by
    simp
  rw [built, all]
  refine .flatten fun resources listed => ?_
  rcases List.mem_append.1 listed with listed | listed
  · obtain ⟨part, member, rfl⟩ := List.mem_map.1 listed
    obtain ⟨middle, grown, same⟩ := made part member
    rw [same, on_buildAdapter]
    split
    · have lawful' := lawful.context.later grown
      refine .of_specified ((Adapter.standard_specified part.1 lawful').earlier grown)
        lawful.context (trans_of Continues grown ?_)
      exact standard_continues part.1 builder.context lawful.context.stubs.moves middle
    · exact .of_absent fun _ _ => List.not_mem_nil
  · obtain rfl := List.mem_singleton.1 listed
    exact .of_absent fun key seam => absent key (leaving.leaves site key seam)

theorem IsLawful.build_inOrder (lawful : builder.IsLawful world)
    (leaving : builder.session.LeavesPooling) :
    (keysOf (builder.build.on world).1).Pairwise site.MayPrecede := by
  obtain ⟨parts, custom, labels, built, absent, -, made⟩ := lawful.build_parts
  have declared : (keysOf (parts.map Prod.snd).flatten).Sublist
      (Backend.all.flatMap fun backend => (Adapter.standard backend).declaredSeams) := by
    refine List.Sublist.trans ?_ (labels.flatMap _)
    rw [keysOf_flatten, List.map_map, ← List.flatMap_def, List.flatMap_map]
    refine List.Sublist.flatMap_right parts fun part member => ?_
    obtain ⟨middle, -, same⟩ := made part member
    rw [Function.comp, same]
    exact keysOf_buildAdapter builder part.1 middle
  rw [built, keysOf_append]
  have apart : ∀ key ∈ keysOf custom, key ∉ site.poolClass.seams site.backend :=
    fun key listed seam => absent key (leaving.leaves site key seam) listed
  simp only [PoolSite.mem_class_seams_iff, not_or] at apart
  refine List.pairwise_append.2 ⟨?_, ?_, ?_⟩
  · exact (declares_inOrder site.backend site.pooling site.poolClass site.listed).sublist declared
  · refine List.pairwise_of_forall_mem_list ?_
    intro first _ second listed
    obtain ⟨type, create, -⟩ := apart second listed
    exact ⟨fun _ => type, fun _ => ⟨type, create⟩⟩
  · intro first _ second listed
    obtain ⟨type, create, -⟩ := apart second listed
    exact ⟨fun _ => type, fun _ => ⟨type, create⟩⟩

theorem buildAdapter_guards (stubs : builder.session.stubs.Moves Continues) {backend : Backend}
    {guard : PoolGuard}
    (guarded : .poolGuard guard ∈ ((builder.buildAdapter (.standard backend)).on world).1)
    (keys : List SeamKey) :
    ∃ site : PoolSite, site.backend = backend ∧
      guard.Watches site ((builder.buildAdapter (.standard backend)).on world).1 ∧
      guard.Follows keys ((builder.buildAdapter (.standard backend)).on world).1 := by
  rw [on_buildAdapter] at guarded ⊢
  split at guarded
  · rename_i recorded
    rw [if_pos recorded]
    have emitted := (List.mem_append.1 guarded).resolve_left fun patch => by
      obtain ⟨spec, -, middle, -, made⟩ := mem_buildPatches (R := Continues)
        (fun event _ => Action.emit_continues event)
        (fun type => Action.substitute_continues _ type _) patch
      cases made
    obtain ⟨other, emitted, same⟩ := List.mem_map.1 emitted
    cases same
    obtain ⟨site, here, known, primitive, made, wraps⟩ := Adapter.standard_guards stubs emitted
    have grown := standard_continues backend builder.context stubs world
    obtain ⟨later, wrapped⟩ :=
      patch_mem_buildPatches builder wraps (grown.grown.registries ▸ known)
    refine ⟨site, here, ⟨_, primitive, made, List.mem_append_left _ wrapped, rfl, rfl⟩,
      _, _, rfl, List.mem_map_of_mem emitted, fun key _ covered => ?_⟩
    rw [keysOf_guards] at covered
    cases covered
  · cases guarded

theorem IsLawful.build_guards (lawful : builder.IsLawful world)
    (leaving : builder.session.LeavesPooling)
    {guard : PoolGuard} (guarded : .poolGuard guard ∈ (builder.build.on world).1) :
    ∃ site : PoolSite, guard.Watches site (builder.build.on world).1 ∧
      guard.Follows (Adapter.standard site.backend).declaredSeams (builder.build.on world).1 := by
  obtain ⟨parts, custom, labels, built, absent, unguarded, made⟩ := lawful.build_parts
  have listed : .poolGuard guard ∈ (parts.map Prod.snd).flatten := by
    rw [built] at guarded
    refine (List.mem_append.1 guarded).resolve_right fun member => ?_
    have none : guard ∈ guardsOf custom := List.mem_filterMap.2 ⟨_, member, rfl⟩
    rw [unguarded] at none
    cases none
  obtain ⟨resources, listed, guarded⟩ := List.mem_flatten.1 listed
  obtain ⟨part, member, rfl⟩ := List.mem_map.1 listed
  obtain ⟨middle, -, same⟩ := made part member
  rw [same] at guarded
  obtain ⟨site, backend, watches, follows⟩ := buildAdapter_guards lawful.context.stubs.moves guarded
    (Adapter.standard part.1).declaredSeams
  rw [← same] at watches follows
  rw [← backend] at follows
  obtain ⟨before, after, split⟩ := List.append_of_mem member
  have spread : (builder.build.on world).1 =
      (before.map Prod.snd).flatten ++ (part.2 ++ ((after.map Prod.snd).flatten ++ custom)) := by
    simp [built, split]
  rw [spread]
  refine ⟨site, watches.mono ?_, follows.append _ ?_⟩
  · exact fun resource member => List.mem_append_right _ (List.mem_append_left _ member)
  · intro key declared covered
    rw [keysOf_append, List.mem_append] at covered
    rcases covered with covered | covered
    · obtain ⟨handle, patch, here⟩ := mem_keysOf.1 covered
      obtain ⟨resources, listed, patch⟩ := List.mem_flatten.1 patch
      obtain ⟨other, later, rfl⟩ := List.mem_map.1 listed
      obtain ⟨world', -, same'⟩ := made other (split ▸ List.mem_append_right _ (.tail _ later))
      have covers : key ∈ (Adapter.standard other.1).declaredSeams := by
        refine (keysOf_buildAdapter builder other.1 world').subset ?_
        rw [← same']
        exact mem_keysOf.2 ⟨handle, patch, here⟩
      have different : other.1 ≠ site.backend := by
        have distinct := (by decide : Backend.all.Nodup).sublist labels
        rw [split, List.map_append, List.map_cons, List.nodup_append, List.nodup_cons] at distinct
        rw [backend]
        exact fun same => distinct.2.1.1 (same ▸ List.mem_map_of_mem later)
      exact declaredSeams_apart site.backend (Backend.mem_all _) other.1 (Backend.mem_all _)
        different key declared covers
    · exact absent key (leaving site.backend site.pooling key declared) covered

end Builder

end TransportSeams

import TransportSeams.Proofs.Adapter.Effects
import TransportSeams.Proofs.Adapter.Sites

/-!
What a built session covers. Standard adapters cover seams that they declare and no others. Where
all adapters but one avoid a seam, and the session has no patch of its own for it, the session shows
there what this adapter has built, and nothing when the adapter is disabled.
-/

set_option autoImplicit false
set_option relaxedAutoImplicit false

namespace TransportSeams

open World

namespace Session

def Leaves (session : Session) (key : SeamKey) : Prop :=
  ∀ spec ∈ session.customPatches, spec.key ≠ key

end Session

/-- No patch of the adapter is at the seam, whatever it is built for. -/
def Adapter.Avoids (key : SeamKey) (adapter : Adapter) : Prop :=
  ∀ context world, ∀ spec ∈ ((adapter.build context).on world).1.specs, spec.key ≠ key

theorem Adapter.standard_avoids {backend : Backend} {key : SeamKey}
    (undeclared : key ∉ (standard backend).declaredSeams) : (standard backend).Avoids key :=
  fun context world spec member same =>
    undeclared (same ▸ standard_declares backend context world spec member)

namespace Catalog

theorem eq_standard_of_find? {disabled : List Backend} {backend : Backend} {adapter : Adapter}
    (found : (standard.without disabled).find? backend = some adapter) :
    adapter = .standard backend := by
  have entries : standard.entries = Backend.all.map fun backend => (backend, .standard backend) :=
    rfl
  have listed : (backend, adapter) ∈ standard.entries :=
    (List.mem_filter.1 ((KeyMap.mem_entries_iff _ _ _).2 found)).1
  rw [entries] at listed
  obtain ⟨other, -, same⟩ := List.mem_map.1 listed
  obtain ⟨rfl, rfl⟩ := Prod.mk.inj same
  rfl

def LeavesTo (catalog : Catalog) (backend : Backend) (key : SeamKey) : Prop :=
  ∀ {other adapter}, catalog.find? other = some adapter → other ≠ backend → adapter.Avoids key

theorem standard_leavesTo {backend : Backend} {key : SeamKey} (disabled : List Backend)
    (sole : ∀ other, key ∈ (Adapter.standard other).declaredSeams → other = backend) :
    (standard.without disabled).LeavesTo backend key := by
  intro other adapter found apart
  rw [eq_standard_of_find? found]
  exact Adapter.standard_avoids fun declared => apart (sole other declared)

theorem values_standard_without (disabled : List Backend) :
    (standard.without disabled).values =
      (Backend.all.filter fun backend => !disabled.contains backend).map Adapter.standard := by
  have entries : standard.entries = Backend.all.map fun backend => (backend, .standard backend) :=
    rfl
  unfold without KeyMap.filter KeyMap.values
  simp [entries, List.filter_map, Function.comp_def]

theorem contains_standard_without (disabled : List Backend) (backend : Backend) :
    (standard.without disabled).contains backend =
      (Backend.all.filter fun backend => !disabled.contains backend).contains backend := by
  have entries : standard.entries = Backend.all.map fun backend => (backend, .standard backend) :=
    rfl
  rw [Bool.eq_iff_iff, KeyMap.contains, ← KeyMap.mem_keys_iff]
  unfold without KeyMap.filter KeyMap.keys
  simp [entries, List.filter_map, Function.comp_def]

end Catalog

namespace Builder

variable {builder : Builder} {world : World} {key : SeamKey}

theorem lastShown?_guards (before : Registry) (key : SeamKey) (guards : List PoolGuard) :
    lastShown? before key (guards.map Resource.poolGuard) = none := by
  refine lastShown?_eq_none fun resource member => ?_
  obtain ⟨guard, -, rfl⟩ := List.mem_map.1 member
  rfl

theorem lastShown?_output (before : Registry) {output : AdapterOutput} {spec : PatchSpec}
    {front back : List PatchSpec} (specs : output.specs = front ++ spec :: back)
    (known : (world.registries.get builder.registry).contains spec.key = true)
    (later : ∀ other ∈ back, other.key ≠ spec.key) :
    lastShown? before spec.key (((builder.buildPatches output.specs).on world).1 ++
        output.guards.map Resource.poolGuard) =
      some ⟨((spec.replacement.resolve builder.cache builder.session.id).on
        ((builder.buildPatches front).on world).2).1, some builder.session.id⟩ := by
  rw [lastShown?_append, lastShown?_guards, Option.none_or, specs]
  exact lastShown?_buildPatches before known later

theorem buildAdapter_avoided {adapter : Adapter} (avoids : adapter.Avoids key)
    (before : Registry) (world : World) :
    lastShown? before key ((builder.buildAdapter adapter).on world).1 = none := by
  rw [on_buildAdapter]
  split
  · simp only [lastShown?_append, lastShown?_guards, Option.none_or]
    exact lastShown?_buildPatches_absent (avoids builder.context world) before _
  · rfl

theorem buildAdapters_avoided {adapters : List Adapter}
    (avoid : ∀ adapter ∈ adapters, adapter.Avoids key) (before : Registry) (world : World) :
    lastShown? before key ((builder.buildAdapters adapters).on world).1 = none := by
  induction adapters generalizing world with
  | nil => rfl
  | cons adapter rest ih =>
    obtain ⟨first, others⟩ := List.forall_mem_cons.1 avoid
    simp only [on_buildAdapters_cons, lastShown?_append, ih others, buildAdapter_avoided first,
      Option.none_or]

theorem buildAdapters_sole {entries : List (Backend × Adapter)} {backend : Backend}
    {adapter : Adapter} (distinct : (entries.map Prod.fst).Nodup)
    (listed : (backend, adapter) ∈ entries)
    (others : ∀ entry ∈ entries, entry.1 ≠ backend → entry.2.Avoids key)
    (keeps : ∀ entry ∈ entries,
      (entry.2.build builder.context).Moves World.KeepsRegistries) (before : Registry)
    (world : World) :
    ∃ middle, world.KeepsRegistries middle ∧
      lastShown? before key ((builder.buildAdapters (entries.map Prod.snd)).on world).1 =
        lastShown? before key ((builder.buildAdapter adapter).on middle).1 := by
  induction entries generalizing world with
  | nil => cases listed
  | cons entry rest ih =>
    obtain ⟨absent, distinct'⟩ := List.nodup_cons.1 distinct
    obtain ⟨avoids, others'⟩ := List.forall_mem_cons.1 others
    obtain ⟨kept, keeps'⟩ := List.forall_mem_cons.1 keeps
    simp only [List.map_cons, on_buildAdapters_cons, lastShown?_append]
    rcases List.mem_cons.1 listed with rfl | listed'
    · refine ⟨world, rfl, ?_⟩
      have avoid : ∀ other ∈ rest.map Prod.snd, other.Avoids key := by
        intro other member
        obtain ⟨entry, listed', rfl⟩ := List.mem_map.1 member
        refine others' entry listed' fun same => absent ?_
        have again := List.mem_map_of_mem (f := Prod.fst) listed'
        rwa [same] at again
      rw [buildAdapters_avoided avoid, Option.none_or]
    · have kept : world.KeepsRegistries ((builder.buildAdapter entry.2).on world).2 :=
        buildAdapter_keepsRegistries kept world
      obtain ⟨middle, kept', shown⟩ := ih distinct' listed' others' keeps'
        ((builder.buildAdapter entry.2).on world).2
      have apart : entry.1 ≠ backend := by
        intro same
        rw [same] at absent
        exact absent (List.mem_map_of_mem (f := Prod.fst) listed')
      refine ⟨middle, trans_of World.KeepsRegistries kept kept', ?_⟩
      rw [shown, buildAdapter_avoided (avoids apart), Option.or_none]

theorem lastShown?_build (leaves : builder.session.Leaves key) (before : Registry)
    (world : World) :
    lastShown? before key (builder.build.on world).1 =
      lastShown? before key ((builder.buildAdapters builder.catalog.values).on world).1 := by
  simp only [on_build, lastShown?_append, lastShown?_buildPatches_absent leaves, Option.none_or]

section LeftTo

variable {backend : Backend} (leaves : builder.session.Leaves key)
  (others : builder.catalog.LeavesTo backend key)

include leaves others

/-- Without the adapter that a seam is left to, the session covers nothing there. -/
theorem lastShown?_build_disabled (disabled : builder.catalog.find? backend = none)
    (before : Registry) (world : World) :
    lastShown? before key (builder.build.on world).1 = none := by
  rw [lastShown?_build leaves]
  refine buildAdapters_avoided (fun adapter member => ?_) before world
  obtain ⟨other, found⟩ := (KeyMap.mem_values_iff _ adapter).1 member
  refine others found fun same => ?_
  rw [same, disabled] at found
  cases found

theorem lastShown?_build_enabled (keeps : builder.KeepsRegistries) {adapter : Adapter}
    (enabled : builder.catalog.find? backend = some adapter) (before : Registry) (world : World) :
    ∃ middle, world.KeepsRegistries middle ∧
      lastShown? before key (builder.build.on world).1 =
        lastShown? before key ((builder.buildAdapter adapter).on middle).1 := by
  rw [lastShown?_build leaves]
  refine buildAdapters_sole builder.catalog.keys_nodup ((KeyMap.mem_entries_iff _ _ _).2 enabled)
    (fun entry member => ?_) (fun entry member => ?_) before world
  · exact others ((KeyMap.mem_entries_iff _ _ _).1 member)
  · exact keeps entry.2 (List.mem_map_of_mem member)

end LeftTo

end Builder

end TransportSeams

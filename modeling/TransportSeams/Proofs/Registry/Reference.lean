import TransportSeams.Proofs.Adapter.Sites
import TransportSeams.Proofs.Registry.Bindings
import TransportSeams.Proofs.World.Extension
import TransportSeams.Reference.Manifests

/-!
Pool classes at rest. The reference manifest of a pooling stack puts a plain connection type, the
stock primitives and a probe at the seams of its pool classes, and later registrations leave them
there.
-/

set_option autoImplicit false
set_option relaxedAutoImplicit false

namespace TransportSeams

/-- The registry has the stack of the class as its reference manifest registers it, with nothing
installed on the seams of the class. -/
structure PoolSite.AtRest (site : PoolSite) (registry : Registry) : Prop where
  recorded : registry.hasBackend site.backend = true
  type : ∃ type, registry.value? site.connectionType = some (.transport type) ∧
    type.owner? = none
  create : ∃ function, registry.value? site.create = some (.create function .stock)
  acquire : ∃ function, registry.value? site.acquire = some (.acquire function .stock)
  probe : ∃ probe, registry.value? site.probe = some (.probe probe)

namespace PoolSite

theorem AtRest.of_register {site : PoolSite} {registry grown : Registry} {added : Registration}
    {world : World}
    (registered : registry.register ((Reference.manifest site.backend).on world).1 =
      .ok (grown, added))
    (absent : ∀ key ∈ site.seams, registry.slot? key = none) : site.AtRest grown := by
  have shows (key : SeamKey) (listed : key ∈ site.seams) : grown.value? key =
      KeyMap.lookupIn key ((Reference.manifest site.backend).on world).1.seams := by
    unfold Registry.value? Registry.binding?
    rw [Registry.slot?_register registered, absent key listed, Option.none_or]
    simp [Function.comp_def, Slot.new]
  have recorded : grown.hasBackend site.backend = true :=
    Registry.hasBackend_registered registered
  simp only [mem_seams_iff, forall_eq_or_imp, forall_eq] at shows
  obtain ⟨probe, type, create, acquire⟩ := shows
  obtain ⟨backend, poolClass, pooling, listed⟩ := site
  simp only [Adapter.poolClasses, List.mem_cons, List.not_mem_nil, or_false] at pooling listed
  rcases pooling with rfl | rfl <;> rcases listed with rfl | rfl <;>
    exact ⟨recorded, ⟨_, type.trans rfl, rfl⟩, ⟨_, create.trans rfl⟩, ⟨_, acquire.trans rfl⟩,
      ⟨_, probe.trans rfl⟩⟩

theorem AtRest.register {site : PoolSite} {registry grown : Registry} {manifest : Manifest}
    {added : Registration} (rest : site.AtRest registry)
    (registered : registry.register manifest = .ok (grown, added)) : site.AtRest grown := by
  have kept {key : SeamKey} {value : SeamValue} (held : registry.value? key = some value) :
      grown.value? key = some value := by
    unfold Registry.value? Registry.binding? at held ⊢
    cases found : registry.slot? key with
    | none => simp [found] at held
    | some slot => rwa [(Registry.grows_of_register registered).kept found, ← found]
  obtain ⟨recorded, ⟨type, held, plain⟩, ⟨f, create⟩, ⟨g, acquire⟩, ⟨probe, probes⟩⟩ := rest
  exact ⟨Registry.hasBackend_register registered recorded, ⟨type, kept held, plain⟩,
    ⟨f, kept create⟩, ⟨g, kept acquire⟩, ⟨probe, kept probes⟩⟩

end PoolSite

namespace Reference

variable {site : PoolSite} {id : RegistryId}

theorem lookupIn_manifest {other : Backend} (different : other ≠ site.backend) (world : World) :
    ∀ key ∈ site.seams, KeyMap.lookupIn key ((manifest other).on world).1.seams = none := by
  simp only [PoolSite.mem_seams_iff, forall_eq_or_imp, forall_eq]
  obtain ⟨backend, poolClass, pooling, listed⟩ := site
  simp only [Adapter.poolClasses, List.mem_cons, List.not_mem_nil, or_false] at pooling listed
  rcases pooling with rfl | rfl <;> rcases listed with rfl | rfl <;> cases other <;>
    first | exact absurd rfl different | exact ⟨rfl, rfl, rfl, rfl⟩

theorem registries_manifest (backend : Backend) (world : World) :
    ((manifest backend).on world).2.registries = world.registries := by
  cases backend <;> rfl

private theorem register_cons {backend : Backend} {rest : List Backend} {world left : World}
    (run : (register id (backend :: rest)).on world = (.ok (), left)) :
    ∃ grown added middle,
      (world.registries.get id).register ((manifest backend).on world).1 = .ok (grown, added) ∧
        middle.registries.get id = grown ∧ (register id rest).on middle = (.ok (), left) := by
  simp only [register, Attempt.on_bind, Attempt.on_lift] at run
  rw [← registries_manifest backend world]
  cases registered : (((manifest backend).on world).2.registries.get id).register
      ((manifest backend).on world).1 with
  | error error =>
    rw [Attempt.on_registerBackend_refused registered] at run
    cases run
  | ok result =>
    obtain ⟨grown, added⟩ := result
    rw [Attempt.on_registerBackend registered] at run
    refine ⟨grown, added, _, rfl, ?_, run⟩
    rw [World.registries_telling, World.get_withRegistry]

/-- Registering the reference manifests of a list of stacks puts every pool class of theirs to rest,
where nothing was at its seams before. -/
theorem register_atRest {backends : List Backend} {world left : World}
    (run : (register id backends).on world = (.ok (), left))
    (settled : site.AtRest (world.registries.get id) ∨ site.backend ∈ backends ∧
      ∀ key ∈ site.seams, (world.registries.get id).slot? key = none) :
    site.AtRest (left.registries.get id) := by
  induction backends generalizing world with
  | nil =>
    obtain rfl : world = left := (Prod.mk.inj run).2
    rcases settled with rest | ⟨listed, -⟩
    · exact rest
    · cases listed
  | cons backend rest ih =>
    obtain ⟨grown, added, middle, registered, rfl, others⟩ := register_cons run
    apply ih others
    rcases settled with atRest | ⟨listed, absent⟩
    · exact .inl (atRest.register registered)
    · by_cases here : backend = site.backend
      · subst here
        exact .inl (.of_register registered absent)
      · refine .inr ⟨(List.mem_cons.1 listed).resolve_left (Ne.symm here), fun key seam => ?_⟩
        rw [Registry.slot?_register registered, absent key seam,
          lookupIn_manifest here world key seam]
        rfl

/-- A world with one registry, which has the reference manifests of the pooling stacks. -/
def pooledWorld : World :=
  ((register ⟨0⟩ [.sessions, .pooled]).on .initial).2

def httpSite : PoolSite :=
  ⟨.pooled, ⟨"HttpConnectionPool", "HttpConnection"⟩, List.mem_cons_of_mem _ List.mem_cons_self,
    List.mem_cons_self⟩

-- one evaluation of the world, which the lemmas below read
private theorem pooledWorld_evaluated :
    ((register ⟨0⟩ [.sessions, .pooled]).on .initial).1.toBool = true ∧
      pooledWorld.shelves.entries.isEmpty = true ∧ pooledWorld.pools.entries.isEmpty = true ∧
      pooledWorld.caches.entries.isEmpty = true ∧
      ∀ key ∈ [httpSite.fallback, httpSite.connectionType],
        (pooledWorld.registries.get ⟨0⟩).contains key = true := by
  decide +kernel

theorem pooledWorld_atRest (site : PoolSite) :
    site.AtRest (pooledWorld.registries.get ⟨0⟩) := by
  have accepted := pooledWorld_evaluated.1
  have run : (register ⟨0⟩ [.sessions, .pooled]).on .initial = (.ok (), pooledWorld) := by
    unfold pooledWorld
    generalize (register ⟨0⟩ [.sessions, .pooled]).on .initial = turn at accepted ⊢
    obtain ⟨outcome, left⟩ := turn
    cases outcome with
    | ok result => rfl
    | error error => cases accepted
  exact register_atRest run (.inr ⟨site.pooling, fun _ _ => rfl⟩)

private theorem get_of_isEmpty {κ α : Type} [DecidableEq κ] [Inhabited α] {store : Store κ α}
    (none : store.entries.isEmpty = true) (key : κ) : store.get key = default := by
  rw [Store.get, List.isEmpty_iff.1 none]
  rfl

theorem pooledWorld_unbound (shelf : ShelfId) : (pooledWorld.shelves.get shelf).IsUnbound := by
  obtain ⟨-, none, -, -⟩ := pooledWorld_evaluated
  rw [get_of_isEmpty none]
  exact fun key type held => nomatch held

theorem pooledWorld_pools (pool : PoolId) : pooledWorld.pools.get pool = default :=
  get_of_isEmpty pooledWorld_evaluated.2.2.1 pool

theorem pooledWorld_isBound (cache : CacheId) : (pooledWorld.caches.get cache).IsBound := by
  obtain ⟨-, -, -, none, -⟩ := pooledWorld_evaluated
  rw [get_of_isEmpty none]
  exact fun key type held => nomatch held

theorem pooledWorld_contains : ∀ key ∈ [httpSite.fallback, httpSite.connectionType],
    (pooledWorld.registries.get ⟨0⟩).contains key = true :=
  pooledWorld_evaluated.2.2.2.2

end Reference

end TransportSeams

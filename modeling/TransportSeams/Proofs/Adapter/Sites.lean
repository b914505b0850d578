import TransportSeams.Adapter.Catalog
import TransportSeams.Proofs.Evaluation

/-!
The pool classes of the pooling stacks and their seams. An adapter emits patches at the seams that
it declares and nowhere else, and the seams of a pool class are declared by one adapter only.
-/

set_option autoImplicit false
set_option relaxedAutoImplicit false

namespace TransportSeams

open Adapter

structure PoolSite where
  backend : Backend
  poolClass : PoolClass
  pooling : backend ∈ [Backend.sessions, .pooled]
  listed : poolClass ∈ poolClasses

namespace PoolSite

variable (site : PoolSite)

def target : String :=
  site.poolClass.target site.backend

def connectionType : SeamKey :=
  Seam.connectionType site.target

def create : SeamKey :=
  Seam.create site.target

def acquire : SeamKey :=
  Seam.acquire site.target

def probe : SeamKey :=
  Seam.probe (probeTarget site.backend)

/-- Where the pool class's connection type stands in the connection module of its stack. -/
def fallback : SeamKey :=
  ⟨connectionTarget site.backend, site.poolClass.connection⟩

def seams : List SeamKey :=
  site.probe :: site.poolClass.seams site.backend

def Holds (pool : Pool) : Prop :=
  pool.className = site.target ∧ pool.probeTarget = probeTarget site.backend

instance (pool : Pool) : Decidable (site.Holds pool) :=
  inferInstanceAs (Decidable (_ ∧ _))

theorem mem_seams_iff (key : SeamKey) :
    key ∈ site.seams ↔ key = site.probe ∨ key = site.connectionType ∨ key = site.create ∨
      key = site.acquire := by
  simp [seams, PoolClass.seams, connectionType, create, acquire, target]

theorem probe_mem_seams : site.probe ∈ site.seams :=
  (site.mem_seams_iff _).2 (.inl rfl)

theorem connectionType_mem_seams : site.connectionType ∈ site.seams :=
  (site.mem_seams_iff _).2 (.inr (.inl rfl))

theorem create_mem_seams : site.create ∈ site.seams :=
  (site.mem_seams_iff _).2 (.inr (.inr (.inl rfl)))

theorem acquire_mem_seams : site.acquire ∈ site.seams :=
  (site.mem_seams_iff _).2 (.inr (.inr (.inr rfl)))

theorem create_ne_connectionType : site.create ≠ site.connectionType := by
  simp [create, connectionType, Seam.create, Seam.connectionType]

theorem acquire_ne_connectionType : site.acquire ≠ site.connectionType := by
  simp [acquire, connectionType, Seam.acquire, Seam.connectionType]

theorem acquire_ne_create : site.acquire ≠ site.create := by
  simp [acquire, create, Seam.acquire, Seam.create]

theorem connectionType_ne_probe : site.connectionType ≠ site.probe := by
  simp [connectionType, probe, Seam.connectionType, Seam.probe]

theorem create_ne_probe : site.create ≠ site.probe := by
  simp [create, probe, Seam.create, Seam.probe]

theorem acquire_ne_probe : site.acquire ≠ site.probe := by
  simp [acquire, probe, Seam.acquire, Seam.probe]

theorem eq_of_target_eq {site site' : PoolSite} (same : site.target = site'.target) :
    site = site' := by
  obtain ⟨backend, poolClass, pooling, listed⟩ := site
  obtain ⟨backend', poolClass', pooling', listed'⟩ := site'
  dsimp only [target] at same
  simp only [poolClasses, List.mem_cons, List.not_mem_nil, or_false] at pooling listed
  simp only [poolClasses, List.mem_cons, List.not_mem_nil, or_false] at pooling' listed'
  rcases pooling with rfl | rfl <;> rcases pooling' with rfl | rfl <;>
    rcases listed with rfl | rfl <;> rcases listed' with rfl | rfl <;>
      first | rfl | exact absurd same (by decide)

theorem eq_of_create_eq {site site' : PoolSite} (same : site.create = site'.create) :
    site = site' :=
  eq_of_target_eq (congrArg SeamKey.target same)

theorem eq_of_holds {site site' : PoolSite} {pool : Pool} (holds : site.Holds pool)
    (holds' : site'.Holds pool) : site = site' :=
  eq_of_target_eq (holds.1.symm.trans holds'.1)

theorem not_holds_default : ¬site.Holds default := by
  intro holds
  have named : (default : Pool).className = site.poolClass.target site.backend := holds.1
  obtain ⟨backend, poolClass, pooling, listed⟩ := site
  dsimp only at named
  simp only [poolClasses, List.mem_cons, List.not_mem_nil, or_false] at pooling listed
  rcases pooling with rfl | rfl <;> rcases listed with rfl | rfl <;>
    exact absurd named (by decide)

private theorem foreign_declares :
    ∀ backend ∈ [Backend.sessions, .pooled], ∀ poolClass ∈ poolClasses, ∀ other ∈ Backend.all,
      other ≠ backend → ∀ key ∈ Seam.probe (probeTarget backend) :: poolClass.seams backend,
        key ∉ (Adapter.standard other).declaredSeams := by
  decide

theorem not_declared {other : Backend} (different : other ≠ site.backend) :
    ∀ key ∈ site.seams, key ∉ (Adapter.standard other).declaredSeams :=
  foreign_declares site.backend site.pooling site.poolClass site.listed other
    (Backend.mem_all other) different

theorem standard_eq_pooling : Adapter.standard site.backend = Adapter.pooling site.backend := by
  have pooling := site.pooling
  simp only [List.mem_cons, List.not_mem_nil, or_false] at pooling
  rcases pooling with backend | backend <;> rw [backend] <;> rfl

theorem declared : ∀ key ∈ site.seams, key ∈ (Adapter.standard site.backend).declaredSeams := by
  intro key seam
  rw [site.standard_eq_pooling]
  rcases List.mem_cons.1 seam with rfl | seam
  · exact List.mem_append_left _ (List.mem_append_right _ (List.mem_singleton.2 rfl))
  · exact List.mem_append_right _ (List.mem_flatMap.2 ⟨site.poolClass, site.listed, seam⟩)

end PoolSite

namespace AdapterOutput

@[simp]
theorem specs_append (a b : AdapterOutput) : (a ++ b).specs = a.specs ++ b.specs :=
  rfl

@[simp]
theorem guards_append (a b : AdapterOutput) : (a ++ b).guards = a.guards ++ b.guards :=
  rfl

end AdapterOutput

namespace Adapter

theorem backend_standard (backend : Backend) : (Adapter.standard backend).backend = backend := by
  cases backend <;> rfl

variable {context : AdapterContext}

theorem swapTypes_emits (backend : Backend) (seams : List TypeSeam) (world : World) :
    (((swapTypes context backend seams).on world).1.map PatchSpec.key).Sublist
      (seams.map TypeSeam.key) := by
  induction seams generalizing world with
  | nil => exact .slnil
  | cons seam rest ih =>
    simp only [swapTypes, swapType, Action.on_bind, Action.on_pure]
    split
    · exact (ih _).cons_cons _
    · exact (ih _).cons _

theorem interceptSeams_emits (backend : Backend) (seams : List SeamKey) (world : World) :
    (((interceptSeams context backend seams).on world).1.map PatchSpec.key).Sublist seams := by
  induction seams generalizing world with
  | nil => exact .slnil
  | cons key rest ih =>
    simp only [interceptSeams, interceptSeam, Action.on_bind, Action.on_registry, Action.on_pure]
    split
    · simp only [Action.on_bind]
      split
      · exact (ih _).cons_cons _
      · exact (ih _).cons _
    · exact (ih _).cons _

theorem schemeStubs_names (schemes : List (String × String)) (world : World) :
    (((schemeStubs context schemes).on world).1.map fun entry => (entry.1, entry.2.1)).Sublist
      schemes := by
  induction schemes generalizing world with
  | nil => exact .slnil
  | cons scheme rest ih =>
    simp only [schemeStubs, Action.on_bind, Action.on_pure]
    cases ((context.session.stubs.transport? .timeoutHttp scheme.2).on world).1 with
    | some stub => exact (ih _).cons_cons _
    | none => exact (ih _).cons _

theorem trackCreate_emits (type : TransportType) (key : SeamKey) (world : World) :
    (((trackCreate context type key).on world).1.specs.map PatchSpec.key).Sublist [key] := by
  simp only [trackCreate, Action.on_bind, Action.on_registry]
  split
  · exact .refl [key]
  · exact List.nil_sublist [key]

theorem checkAcquire_emits (fallback key : SeamKey) (world : World) :
    (((checkAcquire context fallback key).on world).1.specs.map PatchSpec.key).Sublist [key] := by
  simp only [checkAcquire, Action.on_bind, Action.on_registry]
  split
  · exact .refl [key]
  · exact List.nil_sublist [key]

theorem buildPoolClass_emits (backend : Backend) (poolClass : PoolClass) (world : World) :
    (((buildPoolClass context backend poolClass).on world).1.specs.map PatchSpec.key).Sublist
      (poolClass.seams backend) := by
  simp only [buildPoolClass, Action.on_bind]
  split
  · exact List.nil_sublist _
  · rename_i stub _
    simp only [Action.on_bind, Action.on_pure, AdapterOutput.specs_append, List.map_append]
    have swapped : List.Sublist [Seam.connectionType (poolClass.target backend)]
        [Seam.connectionType (poolClass.target backend)] := .refl _
    exact (swapped.append (trackCreate_emits _ _ _)).append (checkAcquire_emits _ _ _)

theorem buildPoolClasses_emits (backend : Backend) (classes : List PoolClass) (world : World) :
    (((buildPoolClasses context backend classes).on world).1.specs.map PatchSpec.key).Sublist
      (classes.flatMap (·.seams backend)) := by
  induction classes generalizing world with
  | nil => exact .slnil
  | cons poolClass rest ih =>
    simp only [buildPoolClasses, Action.on_bind, Action.on_pure, AdapterOutput.specs_append,
      List.map_append]
    exact (buildPoolClass_emits backend poolClass world).append (ih _)

/-- A standard adapter emits patches at seams that it declares only, in the order in which it
declares them. -/
theorem standard_emits (backend : Backend) (context : AdapterContext) (world : World) :
    ((((Adapter.standard backend).build context).on world).1.specs.map PatchSpec.key).Sublist
      (Adapter.standard backend).declaredSeams := by
  have types (backend : Backend) (seams : List TypeSeam) :
      ((((direct backend seams).build context).on world).1.specs.map PatchSpec.key).Sublist
        (direct backend seams).declaredSeams :=
    swapTypes_emits backend seams world
  have wrapped (backend : Backend) (seams : List SeamKey) :
      ((((handlers backend seams).build context).on world).1.specs.map PatchSpec.key).Sublist
        (handlers backend seams).declaredSeams :=
    interceptSeams_emits backend seams world
  have pooled (backend : Backend) :
      ((((pooling backend).build context).on world).1.specs.map PatchSpec.key).Sublist
        (pooling backend).declaredSeams := by
    simp only [pooling, Action.on_bind, Action.on_pure, AdapterOutput.specs_append,
      List.map_append, AdapterOutput.ofSpecs]
    exact ((swapTypes_emits backend _ _).append (.refl _)).append
      (buildPoolClasses_emits backend _ _)
  cases backend with
  | stdHttp => exact types _ _
  | sessions => exact pooled _
  | aws => exact types _ _
  | pooled => exact pooled _
  | timeoutHttp =>
    have names : (((schemeStubs context timeoutSchemes).on world).1.map
        fun entry => (entry.1, entry.2.1)).Sublist timeoutSchemes :=
      schemeStubs_names timeoutSchemes world
    have named := names.map fun scheme => (⟨"timeout_http", scheme.2⟩ : SeamKey)
    simp only [standard, timeoutHttp, Action.on_bind, Action.on_pure, AdapterOutput.ofSpecs,
      List.map_append, List.map_map] at named ⊢
    refine named.append ?_
    split
    · exact List.nil_sublist _
    · exact .refl _
  | certHttp => exact types _ _
  | asyncFetch => exact wrapped _ _
  | clientSession => exact wrapped _ _
  | dualClient => exact wrapped _ _

theorem buildPoolClasses_declares (backend : Backend) (classes : List PoolClass) (world : World) :
    ∀ spec ∈ ((buildPoolClasses context backend classes).on world).1.specs,
      spec.key ∈ classes.flatMap (·.seams backend) :=
  fun _ member => (buildPoolClasses_emits backend classes world).subset (List.mem_map_of_mem member)

theorem standard_declares (backend : Backend) (context : AdapterContext) (world : World) :
    ∀ spec ∈ (((Adapter.standard backend).build context).on world).1.specs,
      spec.key ∈ (Adapter.standard backend).declaredSeams :=
  fun _ member => (standard_emits backend context world).subset (List.mem_map_of_mem member)

end Adapter

end TransportSeams

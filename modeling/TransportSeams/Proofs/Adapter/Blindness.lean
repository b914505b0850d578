import TransportSeams.Proofs.Scope.Blindness
import TransportSeams.Scope.Builder

/-!
Sessions are built blindly. Stub catalogs and adapters may be code of their users, which can be
asked not to look at what was told; with those that do not, and so with the standard ones, neither
building nor starting a session depends on it.
-/

set_option autoImplicit false
set_option relaxedAutoImplicit false

namespace TransportSeams

namespace Action

theorem substitute_isBlind (id : CacheId) (base : TransportType) (session : SessionId) :
    (substitute id base session).IsBlind := by
  refine isBlind_ite (isBlind_pure base) (isBlind_bind (cache_isBlind id) fun cache => ?_)
  split
  · exact isBlind_pure _
  · refine isBlind_bind freshTransport_isBlind fun fresh => ?_
    exact isBlind_bind (putCache_isBlind id _) fun _ => isBlind_pure _

theorem shelvedStub_isBlind (id : ShelfId) (key : StubKey) : (shelvedStub id key).IsBlind := by
  refine isBlind_bind (shelf_isBlind id) fun shelf => ?_
  split
  · exact isBlind_pure _
  · refine isBlind_bind freshTransport_isBlind fun fresh => ?_
    exact isBlind_bind (putShelf_isBlind id _) fun _ => isBlind_pure _

end Action

mutual

theorem SeamValue.resolve_isBlind (id : CacheId) (session : SessionId) :
    (value : SeamValue) → (value.resolve id session).IsBlind
  | .table entries =>
    Action.isBlind_bind (entries.resolve_isBlind id session) fun _ => Action.isBlind_pure _
  | .transport type => by
    unfold SeamValue.resolve
    refine Action.isBlind_ite ?_ (Action.isBlind_pure _)
    exact Action.isBlind_bind (Action.substitute_isBlind id type session) fun _ =>
      Action.isBlind_pure _
  | .acquire _ _ => Action.isBlind_pure _
  | .create _ _ => Action.isBlind_pure _
  | .probe _ => Action.isBlind_pure _
  | .handler _ => Action.isBlind_pure _

theorem SeamTable.resolve_isBlind (id : CacheId) (session : SessionId) {bound : Option String} :
    (entries : SeamTable bound) → (entries.resolve id session).IsBlind
  | .nil => Action.isBlind_pure _
  | .cons _ _ value rest =>
    Action.isBlind_bind (value.resolve_isBlind id session) fun _ =>
      Action.isBlind_bind (rest.resolve_isBlind id session) fun _ => Action.isBlind_pure _

end

theorem Action.buildPatch?_isBlind (registry : RegistryId) (cache : CacheId) (session : SessionId)
    (spec : PatchSpec) : (buildPatch? registry cache session spec).IsBlind := by
  refine isBlind_bind (registry_isBlind registry) fun registry => isBlind_ite ?_ ?_
  · exact isBlind_bind (spec.replacement.resolve_isBlind cache session) fun _ => isBlind_pure _
  · exact isBlind_bind (emit_isBlind _) fun _ => isBlind_pure none

structure StubCatalog.IsBlind (stubs : StubCatalog) : Prop where
  transport (backend : Backend) (name : String) : (stubs.transport? backend name).IsBlind
  intercept (backend : Backend) (name : String) (session : SessionId) (original : Handler) :
    (stubs.intercept? backend name session original).IsBlind

theorem StubCatalog.standard_isBlind (id : ShelfId) : (StubCatalog.standard id).IsBlind where
  transport _ _ := Action.isBlind_map some (Action.shelvedStub_isBlind id _)
  intercept _ _ _ _ :=
    Action.isBlind_bind Action.freshFunction_isBlind fun _ => Action.isBlind_pure _

theorem StubCatalog.IsBlind.restrict {stubs : StubCatalog} (blind : stubs.IsBlind)
    (lends intercepts : Backend → String → Bool) : (stubs.restrict lends intercepts).IsBlind where
  transport backend name :=
    Action.isBlind_ite (blind.transport backend name) (Action.isBlind_pure none)
  intercept backend name session original :=
    Action.isBlind_ite (blind.intercept backend name session original) (Action.isBlind_pure none)

def Adapter.IsBlind (adapter : Adapter) : Prop :=
  ∀ context, context.session.stubs.IsBlind → (adapter.build context).IsBlind

namespace Adapter

open TransportSeams.Action (isBlind_bind isBlind_pure)

variable {context : AdapterContext}

theorem swapTypes_isBlind (stubs : context.session.stubs.IsBlind) (backend : Backend)
    (seams : List TypeSeam) : (swapTypes context backend seams).IsBlind := by
  induction seams with
  | nil => exact isBlind_pure []
  | cons seam rest ih =>
    refine isBlind_bind (isBlind_bind (stubs.transport _ _) fun stub? => ?_) fun _ =>
      isBlind_bind ih fun _ => isBlind_pure _
    split <;> exact isBlind_pure _

theorem schemeStubs_isBlind (stubs : context.session.stubs.IsBlind)
    (schemes : List (String × String)) : (schemeStubs context schemes).IsBlind := by
  induction schemes with
  | nil => exact isBlind_pure []
  | cons scheme rest ih =>
    exact isBlind_bind (stubs.transport _ _) fun _ => isBlind_bind ih fun _ => isBlind_pure _

theorem interceptSeams_isBlind (stubs : context.session.stubs.IsBlind) (backend : Backend)
    (seams : List SeamKey) : (interceptSeams context backend seams).IsBlind := by
  induction seams with
  | nil => exact isBlind_pure []
  | cons key rest ih =>
    refine isBlind_bind (isBlind_bind (Action.registry_isBlind _) fun registry => ?_) fun _ =>
      isBlind_bind ih fun _ => isBlind_pure _
    split
    · refine isBlind_bind (stubs.intercept _ _ _ _) fun wrapped? => ?_
      split <;> exact isBlind_pure _
    · exact isBlind_pure none

theorem trackCreate_isBlind (type : TransportType) (key : SeamKey) :
    (trackCreate context type key).IsBlind := by
  refine isBlind_bind (Action.registry_isBlind _) fun registry => ?_
  split
  · refine isBlind_bind (Action.newTracker_isBlind type) fun tracker => ?_
    exact isBlind_bind Action.freshFunction_isBlind fun _ => isBlind_pure _
  · exact isBlind_pure _

theorem checkAcquire_isBlind (fallback key : SeamKey) :
    (checkAcquire context fallback key).IsBlind := by
  refine isBlind_bind (Action.registry_isBlind _) fun registry => ?_
  split
  · exact isBlind_bind Action.freshFunction_isBlind fun _ => isBlind_pure _
  · exact isBlind_pure _

theorem buildPoolClass_isBlind (stubs : context.session.stubs.IsBlind) (backend : Backend)
    (poolClass : PoolClass) : (buildPoolClass context backend poolClass).IsBlind := by
  refine isBlind_bind (stubs.transport _ _) fun stub? => ?_
  split
  · exact isBlind_pure _
  · refine isBlind_bind (Action.substitute_isBlind _ _ _) fun substitute => ?_
    refine isBlind_bind (trackCreate_isBlind _ _) fun tracked => ?_
    exact isBlind_bind (checkAcquire_isBlind _ _) fun _ => isBlind_pure _

theorem buildPoolClasses_isBlind (stubs : context.session.stubs.IsBlind) (backend : Backend)
    (classes : List PoolClass) : (buildPoolClasses context backend classes).IsBlind := by
  induction classes with
  | nil => exact isBlind_pure _
  | cons poolClass rest ih =>
    exact isBlind_bind (buildPoolClass_isBlind stubs backend poolClass) fun _ =>
      isBlind_bind ih fun _ => isBlind_pure _

theorem standard_isBlind (backend : Backend) : (Adapter.standard backend).IsBlind := by
  intro context stubs
  have types (backend : Backend) (seams : List TypeSeam) :
      ((direct backend seams).build context).IsBlind :=
    isBlind_bind (swapTypes_isBlind stubs backend seams) fun _ => isBlind_pure _
  have wrapped (backend : Backend) (seams : List SeamKey) :
      ((handlers backend seams).build context).IsBlind :=
    isBlind_bind (interceptSeams_isBlind stubs backend seams) fun _ => isBlind_pure _
  have pooled (backend : Backend) : ((pooling backend).build context).IsBlind := by
    refine isBlind_bind (swapTypes_isBlind stubs backend _) fun types => ?_
    refine isBlind_bind (isBlind_bind Action.freshFunction_isBlind fun _ => isBlind_pure _)
      fun probe => ?_
    exact isBlind_bind (buildPoolClasses_isBlind stubs backend _) fun _ => isBlind_pure _
  cases backend with
  | stdHttp => exact types _ _
  | sessions => exact pooled _
  | aws => exact types _ _
  | pooled => exact pooled _
  | timeoutHttp => exact isBlind_bind (schemeStubs_isBlind stubs _) fun _ => isBlind_pure _
  | certHttp => exact types _ _
  | asyncFetch => exact wrapped _ _
  | clientSession => exact wrapped _ _
  | dualClient => exact wrapped _ _

end Adapter

namespace Builder

open TransportSeams.Action (isBlind_bind isBlind_pure)

/-- None of the code that the builder was given looks at what was told. -/
structure IsBlind (builder : Builder) : Prop where
  stubs : builder.session.stubs.IsBlind
  adapters : ∀ adapter ∈ builder.catalog.values, adapter.IsBlind

variable {builder : Builder}

theorem IsBlind.withCatalog (blind : builder.IsBlind) {catalog : Catalog}
    (adapters : ∀ adapter ∈ catalog.values, adapter.IsBlind) :
    (builder.withCatalog catalog).IsBlind :=
  ⟨blind.stubs, adapters⟩

theorem IsBlind.withConfig (blind : builder.IsBlind) (config : Config) :
    (builder.withConfig config).IsBlind where
  stubs := blind.stubs
  adapters adapter member := by
    obtain ⟨entry, kept, rfl⟩ := List.mem_map.1 member
    exact blind.adapters _ (List.mem_map_of_mem (List.mem_filter.1 kept).1)

theorem buildPatches_isBlind (builder : Builder) (specs : List PatchSpec) :
    (builder.buildPatches specs).IsBlind := by
  induction specs with
  | nil => exact isBlind_pure []
  | cons spec rest ih =>
    exact isBlind_bind (Action.buildPatch?_isBlind _ _ _ spec) fun _ =>
      isBlind_bind ih fun _ => isBlind_pure _

theorem IsBlind.buildAdapter (blind : builder.IsBlind) {adapter : Adapter}
    (adapts : adapter.IsBlind) : (builder.buildAdapter adapter).IsBlind := by
  refine isBlind_bind (Action.registry_isBlind _) fun registry => Action.isBlind_ite ?_ ?_
  · refine isBlind_bind (adapts builder.context blind.stubs) fun output => ?_
    exact isBlind_bind (buildPatches_isBlind builder _) fun _ => isBlind_pure _
  · exact isBlind_bind (Action.emit_isBlind _) fun _ => isBlind_pure []

theorem IsBlind.buildAdapters (blind : builder.IsBlind) {adapters : List Adapter}
    (adapt : ∀ adapter ∈ adapters, adapter.IsBlind) : (builder.buildAdapters adapters).IsBlind := by
  induction adapters with
  | nil => exact isBlind_pure []
  | cons adapter rest ih =>
    obtain ⟨first, others⟩ := List.forall_mem_cons.1 adapt
    exact isBlind_bind (blind.buildAdapter first) fun _ =>
      isBlind_bind (ih others) fun _ => isBlind_pure _

theorem IsBlind.build (blind : builder.IsBlind) : builder.build.IsBlind := by
  refine isBlind_bind (blind.buildAdapters blind.adapters) fun adapted => ?_
  refine isBlind_bind (buildPatches_isBlind builder _) fun custom => ?_
  refine isBlind_bind (Action.cache_isBlind _) fun cache => ?_
  exact isBlind_bind (Action.emit_isBlind _) fun _ => isBlind_pure _

theorem IsBlind.start (blind : builder.IsBlind) : builder.start.IsBlind :=
  Attempt.isBlind_bind (Attempt.isBlind_lift blind.build) fun _ => Scope.enter_isBlind _ _

theorem new_isBlind (registry : RegistryId) (session : Session) :
    (Builder.new registry session).IsBlind :=
  isBlind_bind Action.newCache_isBlind fun _ => isBlind_pure _

theorem isBlind_of_new {session : Session} (stubs : session.stubs.IsBlind) (registry : RegistryId)
    (world : World) : ((Builder.new registry session).on world).1.IsBlind where
  stubs := stubs
  adapters adapter member := by
    have values : Catalog.standard.values = Backend.all.map Adapter.standard := rfl
    obtain ⟨backend, -, rfl⟩ := List.mem_map.1 (values ▸ member : adapter ∈ _)
    exact Adapter.standard_isBlind backend

end Builder

end TransportSeams

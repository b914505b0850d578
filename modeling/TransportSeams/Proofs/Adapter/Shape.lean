import Mathlib.Data.List.Forall2
import TransportSeams.Proofs.Adapter.Answering
import TransportSeams.Proofs.Adapter.Emitting

/-!
What the standard adapters emit for a session with standard stubs, whatever the registry holds. An
adapter has a kind of value for each of the seams that it declares. Types, tables and probes it puts
there in any case. Primitives and handlers it wraps, and so it leaves a seam out that holds no value
of the kind. For each create primitive that it wraps there is one guard.
-/

set_option autoImplicit false
set_option relaxedAutoImplicit false

namespace TransportSeams

open World Adapter

def Backend.kindAt (backend : Backend) (key : SeamKey) : SeamKind :=
  if backend.hasHandlers then .handler
  else if key = Seam.create key.target then .create
  else if key = Seam.acquire key.target then .acquire
  else if key = Seam.probe key.target then .probe
  else if key = schemeTable then .table
  else .transport

namespace Backend

variable {backend : Backend} (unhandled : backend.hasHandlers = false) (target : String)

include unhandled

theorem kindAt_create : backend.kindAt (Seam.create target) = .create := by
  simp [kindAt, unhandled, Seam.create]

theorem kindAt_acquire : backend.kindAt (Seam.acquire target) = .acquire := by
  simp [kindAt, unhandled, Seam.create, Seam.acquire]

theorem kindAt_probe : backend.kindAt (Seam.probe target) = .probe := by
  simp [kindAt, unhandled, Seam.create, Seam.acquire, Seam.probe]

theorem kindAt_connectionType : backend.kindAt (Seam.connectionType target) = .transport := by
  simp [kindAt, unhandled, Seam.create, Seam.acquire, Seam.probe, Seam.connectionType, schemeTable]

end Backend

def SeamKind.isWrapper : SeamKind → Bool
  | .acquire | .create | .handler => true
  | .transport | .table | .probe => false

/-- What the adapter of the stack wraps at the seam is there, if it wraps anything there. -/
def Registry.accepts (registry : Registry) (backend : Backend) (key : SeamKey) : Bool :=
  !(backend.kindAt key).isWrapper || (registry.value? key).any (·.kind = backend.kindAt key)

inductive SeamValue.Wraps (session : SessionId) : SeamValue → SeamValue → Prop where
  | create (function wrapper : FunctionId) (primitive : Create) (tracker : TrackerId) :
    Wraps session (.create function primitive) (.create wrapper (.tracked primitive tracker))
  | acquire (function wrapper : FunctionId) (primitive : Acquire) (fallback : SeamKey)
    (limit : Nat) :
    Wraps session (.acquire function primitive)
      (.acquire wrapper (.checked primitive fallback limit))
  | handler (inner : Handler) (wrapper : FunctionId) (name recorder : String) :
    Wraps session (.handler inner) (.handler (.stamped wrapper name session recorder inner))

theorem SeamValue.Wraps.mapTypes_eq {session : SessionId} {held value : SeamValue}
    (wraps : SeamValue.Wraps session held value) (change : TransportType → TransportType) :
    value.mapTypes change = value := by
  cases wraps <;> rfl

theorem SeamValue.kind_mapTypes (change : TransportType → TransportType) (value : SeamValue) :
    (value.mapTypes change).kind = value.kind := by
  cases value <;> rfl

/-- The value is what the adapter of a stack puts at a seam of the registry: one of the right kind,
and around the value that is there where it is a wrapper. -/
structure SeamValue.IsFor (registry : Registry) (session : SessionId) (backend : Backend)
    (key : SeamKey) (value : SeamValue) : Prop where
  kind : value.kind = backend.kindAt key
  wraps : (backend.kindAt key).isWrapper = true →
    ∃ held, registry.value? key = some held ∧ SeamValue.Wraps session held value

def PoolGuard.IsBehind (guard : PoolGuard) (value : SeamValue) : Prop :=
  ∃ function primitive, value = .create function (.tracked primitive guard.tracker)

/-- An output has one patch for each of the seams whose value the adapter can replace, and one guard
for each create primitive that is wrapped, in the same order. -/
structure AdapterOutput.IsFor (registry : Registry) (session : SessionId) (backend : Backend)
    (seams : List SeamKey) (output : AdapterOutput) : Prop where
  specs : List.Forall₂ (fun key spec => spec.key = key ∧
      spec.replacement.IsFor registry session backend key)
    (seams.filter (registry.accepts backend)) output.specs
  guards : List.Forall₂ (fun spec guard => guard.IsBehind spec.replacement)
    (output.specs.filter fun spec => spec.replacement.kind = .create) output.guards

section Output

variable {registry : Registry} {session : SessionId} {backend : Backend} {key : SeamKey}
  {value : SeamValue} {kind : SeamKind}

namespace Registry

theorem accepts_of_kindAt (kindAt : backend.kindAt key = kind) (plain : kind.isWrapper = false) :
    registry.accepts backend key = true := by
  rw [accepts, kindAt, plain]
  rfl

theorem accepts_of_value? (held : registry.value? key = some value)
    (kindAt : backend.kindAt key = value.kind) : registry.accepts backend key = true := by
  rw [accepts, held, kindAt, Option.any_some, decide_eq_true rfl, Bool.or_true]

theorem accepts_eq_false (kindAt : backend.kindAt key = kind) (wrapper : kind.isWrapper = true)
    (other : ∀ held, registry.value? key = some held → held.kind ≠ kind) :
    registry.accepts backend key = false := by
  rw [accepts, kindAt, wrapper]
  cases held : registry.value? key with
  | none => rfl
  | some value => exact decide_eq_false (other value held)

end Registry

namespace AdapterOutput.IsFor

theorem nil : IsFor registry session backend [] .empty :=
  ⟨.nil, .nil⟩

theorem of_mem {seams : List SeamKey} {output : AdapterOutput}
    (fits : output.IsFor registry session backend seams) :
    ∀ spec ∈ output.specs, spec.replacement.IsFor registry session backend spec.key := by
  have pairs := fits.specs
  generalize seams.filter (registry.accepts backend) = keys at pairs
  generalize output.specs = specs at pairs ⊢
  induction pairs with
  | nil => exact fun _ member => nomatch member
  | cons first _ ih =>
    obtain ⟨here, value⟩ := first
    exact List.forall_mem_cons.2 ⟨here.symm ▸ value, ih⟩

theorem append {first last : List SeamKey} {output others : AdapterOutput}
    (fits : output.IsFor registry session backend first)
    (fits' : others.IsFor registry session backend last) :
    (output ++ others).IsFor registry session backend (first ++ last) where
  specs := by
    rw [List.filter_append]
    exact List.rel_append fits.specs fits'.specs
  guards := by
    rw [specs_append, List.filter_append]
    exact List.rel_append fits.guards fits'.guards

theorem plain (kindAt : backend.kindAt key = value.kind)
    (plain : value.kind.isWrapper = false) :
    (ofSpecs [⟨key, value⟩]).IsFor registry session backend [key] where
  specs := by
    rw [List.filter_cons_of_pos (Registry.accepts_of_kindAt kindAt plain)]
    refine .cons ⟨rfl, kindAt.symm, fun wrapper => ?_⟩ .nil
    rw [kindAt, plain] at wrapper
    cases wrapper
  guards := by
    have other : value.kind ≠ .create := by
      intro create
      rw [create] at plain
      cases plain
    rw [ofSpecs, List.filter_cons_of_neg (by simp [other])]
    exact .nil

theorem none (kindAt : backend.kindAt key = kind) (wrapper : kind.isWrapper = true)
    (other : ∀ held, registry.value? key = some held → held.kind ≠ kind) :
    empty.IsFor registry session backend [key] where
  specs := by
    rw [List.filter_cons_of_neg (by simp [Registry.accepts_eq_false kindAt wrapper other])]
    exact .nil
  guards := .nil

theorem wrapper {held : SeamValue} {guards : List PoolGuard}
    (found : registry.value? key = some held) (kindAt : backend.kindAt key = held.kind)
    (wraps : SeamValue.Wraps session held value) (kind : value.kind = held.kind)
    (guarded : List.Forall₂ (fun spec guard => guard.IsBehind spec.replacement)
      ([PatchSpec.mk key value].filter fun spec => spec.replacement.kind = .create) guards) :
    IsFor registry session backend [key] ⟨[⟨key, value⟩], guards⟩ where
  specs := by
    rw [List.filter_cons_of_pos (Registry.accepts_of_value? found kindAt)]
    exact .cons ⟨rfl, kind.trans kindAt.symm, fun _ => ⟨held, found, wraps⟩⟩ .nil
  guards := guarded

end AdapterOutput.IsFor

end Output

namespace Adapter

variable {context : AdapterContext} {shelf : ShelfId} {backend : Backend} {world : World}
  {registry : Registry}

theorem trackCreate_isFor {key : SeamKey} (type : TransportType)
    (here : world.registries.get context.registry = registry)
    (kindAt : backend.kindAt key = .create) :
    ((trackCreate context type key).on world).1.IsFor registry context.session.id backend
      [key] := by
  subst here
  simp only [trackCreate, Action.on_bind, Action.on_registry]
  split
  · rename_i function primitive found
    exact .wrapper found kindAt (.create function _ primitive _) rfl
      (.cons ⟨_, primitive, rfl⟩ .nil)
  · rename_i other
    refine AdapterOutput.IsFor.none kindAt rfl fun held found create => ?_
    cases held <;> cases create
    exact other _ _ found

theorem checkAcquire_isFor {key : SeamKey} (fallback : SeamKey)
    (here : world.registries.get context.registry = registry)
    (kindAt : backend.kindAt key = .acquire) :
    ((checkAcquire context fallback key).on world).1.IsFor registry context.session.id backend
      [key] := by
  subst here
  simp only [checkAcquire, Action.on_bind, Action.on_registry]
  split
  · rename_i function primitive found
    exact .wrapper found kindAt (.acquire function _ primitive fallback _) rfl .nil
  · rename_i other
    refine AdapterOutput.IsFor.none kindAt rfl fun held found acquire => ?_
    cases held <;> cases acquire
    exact other _ _ found

section Standard

variable (stubs : context.session.stubs = .standard shelf)

include stubs

theorem swapTypes_isFor {seams : List TypeSeam}
    (types : ∀ seam ∈ seams, backend.kindAt seam.key = .transport) (world : World) :
    (AdapterOutput.ofSpecs ((swapTypes context backend seams).on world).1).IsFor registry
      context.session.id backend (seams.map TypeSeam.key) := by
  induction seams generalizing world with
  | nil => exact .nil
  | cons seam rest ih =>
    obtain ⟨type, others⟩ := List.forall_mem_cons.1 types
    obtain ⟨stub, left, lends⟩ := lends_standard stubs backend seam.stub world
    rw [on_swapTypes_cons, lends]
    have plain : (AdapterOutput.ofSpecs [⟨seam.key, .transport stub⟩]).IsFor registry
        context.session.id backend [seam.key] := .plain type rfl
    exact plain.append (ih others left)

theorem interceptSeam_isFor {key : SeamKey}
    (here : world.registries.get context.registry = registry)
    (kindAt : backend.kindAt key = .handler) :
    (AdapterOutput.ofSpecs ((interceptSeam context backend key).on world).1.toList).IsFor registry
      context.session.id backend [key] := by
  by_cases handled : ∃ inner, registry.value? key = some (.handler inner)
  · obtain ⟨inner, held⟩ := handled
    rw [on_interceptSeam backend stubs (here ▸ held)]
    exact .wrapper held kindAt (.handler inner _ _ _) rfl .nil
  · have other : ∀ held, registry.value? key = some held → held.kind ≠ .handler := by
      intro held found handler
      cases held <;> cases handler
      exact handled ⟨_, found⟩
    have nothing : ((interceptSeam context backend key).on world).1 = none := by
      simp only [interceptSeam, Action.on_bind, Action.on_registry, here]
      split
      · rename_i inner found
        exact absurd ⟨inner, found⟩ handled
      · rfl
    rw [nothing]
    exact .none kindAt rfl other

theorem interceptSeams_isFor {seams : List SeamKey}
    (here : world.registries.get context.registry = registry)
    (handled : ∀ key ∈ seams, backend.kindAt key = .handler) :
    (AdapterOutput.ofSpecs ((interceptSeams context backend seams).on world).1).IsFor registry
      context.session.id backend seams := by
  induction seams generalizing world with
  | nil => exact .nil
  | cons key rest ih =>
    obtain ⟨handler, others⟩ := List.forall_mem_cons.1 handled
    have kept := interceptSeam_keepsRegistries backend key stubs world
    have later := ih (by rwa [kept]) others
    have first : (AdapterOutput.ofSpecs
        ((interceptSeam context backend key).on world).1.toList).IsFor registry
          context.session.id backend [key] := interceptSeam_isFor stubs here handler
    exact first.append later

theorem buildPoolClass_isFor (unhandled : backend.hasHandlers = false) (poolClass : PoolClass)
    (here : world.registries.get context.registry = registry) :
    ((buildPoolClass context backend poolClass).on world).1.IsFor registry context.session.id
      backend (poolClass.seams backend) := by
  let target := poolClass.target backend
  obtain ⟨stub, left, lends⟩ := lends_standard stubs backend poolClass.connection world
  let bound := (Action.substitute context.cache stub context.session.id).on left
  let tracked := (trackCreate context bound.1 (Seam.create target)).on bound.2
  let checked := (checkAcquire context ⟨connectionTarget backend, poolClass.connection⟩
    (Seam.acquire target)).on tracked.2
  have run : ((buildPoolClass context backend poolClass).on world).1 =
      .ofSpecs [⟨Seam.connectionType target, .transport stub⟩] ++ tracked.1 ++ checked.1 := by
    simp only [buildPoolClass, Action.on_bind, lends]
    rfl
  have lentKept : left.registries = world.registries := by
    have kept := (stubs ▸ StubCatalog.standard_keepsRegistries shelf :
      context.session.stubs.Moves KeepsRegistries).transport backend poolClass.connection world
    rwa [lends] at kept
  have boundKept : bound.2.registries = left.registries :=
    Action.substitute_keepsRegistries context.cache stub context.session.id left
  have trackedKept : tracked.2.registries = bound.2.registries :=
    trackCreate_moves (R := KeepsRegistries) (fun _ => rfl) (fun _ _ => rfl) _ _ bound.2
  have type : (AdapterOutput.ofSpecs [⟨Seam.connectionType target, .transport stub⟩]).IsFor registry
      context.session.id backend [Seam.connectionType target] :=
    .plain (Backend.kindAt_connectionType unhandled target) rfl
  rw [run]
  refine (type.append (trackCreate_isFor bound.1 ?_ ?_)).append (checkAcquire_isFor _ ?_ ?_)
  · rw [boundKept, lentKept, here]
  · exact Backend.kindAt_create unhandled target
  · rw [trackedKept, boundKept, lentKept, here]
  · exact Backend.kindAt_acquire unhandled target

theorem buildPoolClasses_isFor (unhandled : backend.hasHandlers = false) (classes : List PoolClass)
    (here : world.registries.get context.registry = registry) :
    ((buildPoolClasses context backend classes).on world).1.IsFor registry context.session.id
      backend (classes.flatMap (·.seams backend)) := by
  induction classes generalizing world with
  | nil => exact .nil
  | cons poolClass rest ih =>
    have kept : ((buildPoolClass context backend poolClass).on world).2.registries =
        world.registries :=
      buildPoolClass_moves (R := KeepsRegistries)
        (stubs ▸ StubCatalog.standard_keepsRegistries shelf) (fun _ => rfl) (fun _ _ => rfl)
        (fun type => Action.substitute_keepsRegistries _ type _) backend poolClass world
    rw [on_buildPoolClasses_cons, List.flatMap_cons]
    exact (buildPoolClass_isFor stubs unhandled poolClass here).append (ih (by rwa [kept]))

theorem pooling_isFor (unhandled : backend.hasHandlers = false)
    (types : ∀ seam ∈ connectionSeams backend, backend.kindAt seam.key = .transport)
    (here : world.registries.get context.registry = registry) :
    (((pooling backend).build context).on world).1.IsFor registry context.session.id backend
      (pooling backend).declaredSeams := by
  have kept : ((swapTypes context backend (connectionSeams backend)).on world).2.registries =
      world.registries :=
    swapTypes_moves (R := KeepsRegistries) (stubs ▸ StubCatalog.standard_keepsRegistries shelf)
      backend _ world
  have probe (function : FunctionId) : (AdapterOutput.ofSpecs
      [⟨Seam.probe (probeTarget backend), .probe ⟨function, fun _ => false⟩⟩]).IsFor registry
        context.session.id backend [Seam.probe (probeTarget backend)] :=
    .plain (Backend.kindAt_probe unhandled (probeTarget backend)) rfl
  rw [on_build_pooling]
  exact ((swapTypes_isFor stubs types world).append (probe _)).append
    (buildPoolClasses_isFor stubs unhandled poolClasses (kept ▸ here))

theorem timeoutHttp_isFor (world : World) :
    ((timeoutHttp.build context).on world).1.IsFor registry context.session.id .timeoutHttp
      timeoutHttp.declaredSeams := by
  obtain ⟨http, middle, lends⟩ :=
    lends_standard stubs .timeoutHttp "HttpConnectionWithTimeout" world
  obtain ⟨https, left, lends'⟩ :=
    lends_standard stubs .timeoutHttp "HttpsConnectionWithTimeout" middle
  have lent : ((schemeStubs context timeoutSchemes).on world).1 =
      [("http", "HttpConnectionWithTimeout", http),
        ("https", "HttpsConnectionWithTimeout", https)] := by
    simp only [timeoutSchemes, on_schemeStubs_cons, lends, lends']
    rfl
  have type (name : String) (stub : TransportType)
      (kindAt : Backend.timeoutHttp.kindAt ⟨"timeout_http", name⟩ = .transport) :
      (AdapterOutput.ofSpecs [⟨⟨"timeout_http", name⟩, .transport stub⟩]).IsFor registry
        context.session.id .timeoutHttp [⟨"timeout_http", name⟩] := .plain kindAt rfl
  have scheduled : Backend.timeoutHttp.kindAt schemeTable = .table := by decide
  have table (entries : SeamTable none) :
      (AdapterOutput.ofSpecs [⟨schemeTable, .table entries⟩]).IsFor registry context.session.id
        .timeoutHttp [schemeTable] := .plain scheduled rfl
  simp only [timeoutHttp, Action.on_bind, Action.on_pure, lent]
  exact ((type _ http (by decide)).append (type _ https (by decide))).append (table _)

theorem standard_isFor (backend : Backend)
    (here : world.registries.get context.registry = registry) :
    (((Adapter.standard backend).build context).on world).1.IsFor registry context.session.id
      backend (Adapter.standard backend).declaredSeams := by
  have types {backend : Backend} {seams : List TypeSeam}
      (kinds : ∀ seam ∈ seams, backend.kindAt seam.key = .transport) :
      (((direct backend seams).build context).on world).1.IsFor registry context.session.id
        backend (direct backend seams).declaredSeams :=
    swapTypes_isFor stubs kinds world
  have wrapped {backend : Backend} {seams : List SeamKey}
      (kinds : ∀ key ∈ seams, backend.kindAt key = .handler) :
      (((handlers backend seams).build context).on world).1.IsFor registry context.session.id
        backend (handlers backend seams).declaredSeams :=
    interceptSeams_isFor stubs here kinds
  cases backend with
  | stdHttp => exact types (by decide)
  | sessions => exact pooling_isFor stubs rfl (by decide) here
  | aws => exact types (by decide)
  | pooled => exact pooling_isFor stubs rfl (by decide) here
  | timeoutHttp => exact timeoutHttp_isFor stubs world
  | certHttp => exact types (by decide)
  | asyncFetch => exact wrapped (by decide)
  | clientSession => exact wrapped (by decide)
  | dualClient => exact wrapped (by decide)

end Standard

end Adapter

end TransportSeams

import TransportSeams.Proofs.Adapter.Outfitting
import TransportSeams.Proofs.Substitute.Binding

/-!
What adapters make of what the catalog answers. A stub that is lent steadily is the same one
whenever an adapter asks for it, so what is put at the type seams of a stack is what the catalog
answers ever after; and a create primitive of a pool class for which there is a stub is wrapped.
-/

set_option autoImplicit false
set_option relaxedAutoImplicit false

namespace TransportSeams

open World Adapter

def StubCatalog.answer (stubs : StubCatalog) (world : World) (backend : Backend) (name : String) :
    Option TransportType :=
  ((stubs.transport? backend name).on world).1

namespace Adapter

def classSeams (backend : Backend) : List TypeSeam :=
  poolClasses.map fun poolClass =>
    ⟨Seam.connectionType (poolClass.target backend), poolClass.connection⟩

/-- The seams where a stack's adapter puts types, with the names of their stubs. -/
def typeSeams : Backend → List TypeSeam
  | .stdHttp =>
    [⟨⟨"std_http", "HttpConnection"⟩, "HttpConnection"⟩,
      ⟨⟨"std_http", "HttpsConnection"⟩, "HttpsConnection"⟩]
  | .sessions => connectionSeams .sessions ++ classSeams .sessions
  | .aws =>
    [⟨⟨"aws.HttpConnectionPool", "ConnectionCls"⟩, "AwsHttpConnection"⟩,
      ⟨⟨"aws.HttpsConnectionPool", "ConnectionCls"⟩, "AwsHttpsConnection"⟩]
  | .pooled => connectionSeams .pooled ++ classSeams .pooled
  | .timeoutHttp => timeoutSchemes.map fun (_, name) => ⟨⟨"timeout_http", name⟩, name⟩
  | .certHttp =>
    [⟨⟨"cert_http", "CertValidatingHttpsConnection"⟩, "CertValidatingHttpsConnection"⟩]
  | .asyncFetch | .clientSession | .dualClient => []

def typeKeys : List SeamKey :=
  Backend.all.flatMap fun backend => (typeSeams backend).map TypeSeam.key

theorem mem_typeKeys {backend : Backend} {seam : TypeSeam} (listed : seam ∈ typeSeams backend) :
    seam.key ∈ typeKeys :=
  List.mem_flatMap.2 ⟨backend, Backend.mem_all backend, List.mem_map_of_mem listed⟩

theorem schemeTable_not_mem_typeKeys : schemeTable ∉ typeKeys := by
  decide

private theorem typeSeams_apart : ∀ backend ∈ Backend.all, ∀ other ∈ Backend.all,
    ∀ seam ∈ typeSeams backend, ∀ seam' ∈ typeSeams other, seam'.key = seam.key →
      other = backend ∧ seam'.stub = seam.stub := by
  decide

theorem eq_of_key_eq {backend other : Backend} {seam seam' : TypeSeam}
    (listed : seam ∈ typeSeams backend) (listed' : seam' ∈ typeSeams other)
    (same : seam'.key = seam.key) : other = backend ∧ seam'.stub = seam.stub :=
  typeSeams_apart backend (Backend.mem_all backend) other (Backend.mem_all other) seam listed
    seam' listed' same

end Adapter

namespace PoolSite

variable (site : PoolSite)

theorem typeSeams_eq : typeSeams site.backend = connectionSeams site.backend ++
    classSeams site.backend := by
  have pooling := site.pooling
  simp only [List.mem_cons, List.not_mem_nil, or_false] at pooling
  rcases pooling with backend | backend <;> rw [backend] <;> rfl

theorem typeSeam_mem :
    ⟨site.connectionType, site.poolClass.connection⟩ ∈ typeSeams site.backend := by
  rw [typeSeams_eq]
  exact List.mem_append_right _ (List.mem_map.2 ⟨site.poolClass, site.listed, rfl⟩)

end PoolSite

theorem AdapterOutput.append_assoc (first middle last : AdapterOutput) :
    first ++ middle ++ last = first ++ (middle ++ last) := by
  show mk (first.specs ++ middle.specs ++ last.specs) (first.guards ++ middle.guards ++
    last.guards) = _
  rw [List.append_assoc, List.append_assoc]
  rfl

namespace Adapter

variable {context : AdapterContext} {start world last : World}

theorem on_swapTypes_cons (context : AdapterContext) (backend : Backend) (seam : TypeSeam)
    (rest : List TypeSeam) (world : World) :
    (swapTypes context backend (seam :: rest)).on world =
      let asked := (context.session.stubs.transport? backend seam.stub).on world
      let others := (swapTypes context backend rest).on asked.2
      ((asked.1.map fun stub => PatchSpec.mk seam.key (.transport stub)).toList ++ others.1,
        others.2) := by
  simp only [swapTypes, swapType, Action.on_bind]
  cases ((context.session.stubs.transport? backend seam.stub).on world).1 <;> rfl

theorem on_schemeStubs_cons (context : AdapterContext) (scheme name : String)
    (rest : List (String × String)) (world : World) :
    (schemeStubs context ((scheme, name) :: rest)).on world =
      let asked := (context.session.stubs.transport? .timeoutHttp name).on world
      let others := (schemeStubs context rest).on asked.2
      ((asked.1.map fun stub => (scheme, name, stub)).toList ++ others.1, others.2) :=
  rfl

theorem on_buildPoolClasses_append (context : AdapterContext) (backend : Backend)
    (first last : List PoolClass) (world : World) :
    (buildPoolClasses context backend (first ++ last)).on world =
      let built := (buildPoolClasses context backend first).on world
      let others := (buildPoolClasses context backend last).on built.2
      (built.1 ++ others.1, others.2) := by
  induction first generalizing world with
  | nil => rfl
  | cons poolClass rest ih =>
    simp only [List.cons_append, on_buildPoolClasses_cons, ih, AdapterOutput.append_assoc]

theorem asked_retains_buildPoolClass (context : AdapterContext) (site : PoolSite) (world : World) :
    ((context.session.stubs.transport? site.backend site.poolClass.connection).on world).2.Retains
      ((buildPoolClass context site.backend site.poolClass).on world).2 := by
  rw [buildPoolClass, Action.on_bind]
  suffices moves : Action.Moves Retains _ from moves _
  split
  · exact Action.moves_pure _
  · refine Action.moves_bind (Action.substitute_retains _ _ _) fun bound => ?_
    refine Action.moves_bind
      (trackCreate_moves Action.freshFunction_retains Action.newTracker_retains _ _) fun _ => ?_
    exact Action.moves_bind (checkAcquire_moves Action.freshFunction_retains _ _) fun _ =>
      Action.moves_pure _

theorem buildPoolClass_unlent {site : PoolSite}
    (unlent : ((context.session.stubs.transport? site.backend
      site.poolClass.connection).on world).1 = none) :
    ((buildPoolClass context site.backend site.poolClass).on world).1 = .empty := by
  simp only [buildPoolClass, Action.on_bind, unlent, Action.on_pure]

theorem buildPoolClass_lent {site : PoolSite} {stub : TransportType}
    (lent : ((context.session.stubs.transport? site.backend
      site.poolClass.connection).on world).1 = some stub) :
    (buildPoolClass context site.backend site.poolClass).on world =
      let asked := (context.session.stubs.transport? site.backend
        site.poolClass.connection).on world
      let bound := (Action.substitute context.cache stub context.session.id).on asked.2
      let tracked := (trackCreate context bound.1 site.create).on bound.2
      let checked := (checkAcquire context site.fallback site.acquire).on tracked.2
      (.ofSpecs [⟨site.connectionType, .transport stub⟩] ++ tracked.1 ++ checked.1, checked.2) := by
  simp only [buildPoolClass, Action.on_bind, lent]
  rfl

section Lending

variable (lends : context.session.stubs.LendsSteadily start)

include lends

theorem buildPoolClass_retains (backend : Backend) (poolClass : PoolClass) :
    (buildPoolClass context backend poolClass).Moves Retains :=
  buildPoolClass_moves lends.moves Action.freshFunction_retains Action.newTracker_retains
    (fun type => Action.substitute_retains _ type _) backend poolClass

theorem buildPoolClasses_retains (backend : Backend) (classes : List PoolClass) :
    (buildPoolClasses context backend classes).Moves Retains :=
  buildPoolClasses_moves lends.moves Action.freshFunction_retains Action.newTracker_retains
    (fun type => Action.substitute_retains _ type _) backend classes

variable (reached : start.Retains world)

include reached

theorem swapTypes_eq {backend : Backend} {seams : List TypeSeam}
    (kept : ((swapTypes context backend seams).on world).2.Retains last) :
    ((swapTypes context backend seams).on world).1 = seams.filterMap fun seam =>
      (context.session.stubs.answer last backend seam.stub).map fun stub =>
        ⟨seam.key, .transport stub⟩ := by
  induction seams generalizing world with
  | nil => rfl
  | cons seam rest ih =>
    rw [on_swapTypes_cons] at kept ⊢
    dsimp only at kept ⊢
    have asked := lends.moves.transport backend seam.stub world
    have others := swapTypes_moves lends.moves backend rest
      ((context.session.stubs.transport? backend seam.stub).on world).2
    have answered : context.session.stubs.answer last backend seam.stub = _ :=
      lends.steady reached (trans_of Retains others kept)
    rw [ih (trans_of Retains reached asked) kept, ← answered, List.filterMap_cons]
    cases context.session.stubs.answer last backend seam.stub <;> rfl

theorem schemeStubs_eq {schemes : List (String × String)}
    (kept : ((schemeStubs context schemes).on world).2.Retains last) :
    ((schemeStubs context schemes).on world).1 = schemes.filterMap fun (scheme, name) =>
      (context.session.stubs.answer last .timeoutHttp name).map fun stub =>
        (scheme, name, stub) := by
  induction schemes generalizing world with
  | nil => rfl
  | cons scheme rest ih =>
    obtain ⟨scheme, name⟩ := scheme
    rw [on_schemeStubs_cons] at kept ⊢
    dsimp only at kept ⊢
    have asked := lends.moves.transport .timeoutHttp name world
    have others := schemeStubs_moves lends.moves rest
      ((context.session.stubs.transport? .timeoutHttp name).on world).2
    have answered : context.session.stubs.answer last .timeoutHttp name = _ :=
      lends.steady reached (trans_of Retains others kept)
    rw [ih (trans_of Retains reached asked) kept, ← answered, List.filterMap_cons]
    cases context.session.stubs.answer last .timeoutHttp name <;> rfl

theorem mem_schemeStubs_iff (kept : ((schemeStubs context timeoutSchemes).on world).2.Retains last)
    (scheme name : String) (stub : TransportType) :
    (scheme, name, stub) ∈ ((schemeStubs context timeoutSchemes).on world).1 ↔
      (scheme, name) ∈ timeoutSchemes ∧
        context.session.stubs.answer last .timeoutHttp name = some stub := by
  rw [schemeStubs_eq lends reached kept, List.mem_filterMap]
  constructor
  · rintro ⟨⟨scheme', name'⟩, listed, found⟩
    obtain ⟨stub', answered, same⟩ := Option.map_eq_some_iff.1 found
    obtain ⟨rfl, rfl, rfl⟩ : scheme' = scheme ∧ name' = name ∧ stub' = stub := by
      simpa using same
    exact ⟨listed, answered⟩
  · rintro ⟨listed, answered⟩
    exact ⟨(scheme, name), listed, congrArg (Option.map _) answered⟩

theorem swapTypes_covers {backend : Backend} {seams : List TypeSeam}
    (kept : ((swapTypes context backend seams).on world).2.Retains last) {seam : TypeSeam}
    (listed : seam ∈ seams) {stub : TransportType}
    (lent : context.session.stubs.answer last backend seam.stub = some stub) :
    ⟨seam.key, .transport stub⟩ ∈ ((swapTypes context backend seams).on world).1 := by
  rw [swapTypes_eq lends reached kept]
  exact List.mem_filterMap.2 ⟨seam, listed, by rw [lent]; rfl⟩

/-- What the catalog answers in the end it answered when the class was built. -/
theorem lent_of_answer (site : PoolSite)
    (kept : ((buildPoolClass context site.backend site.poolClass).on world).2.Retains last)
    {stub : TransportType} (answered : context.session.stubs.answer last site.backend
      site.poolClass.connection = some stub) :
    ((context.session.stubs.transport? site.backend site.poolClass.connection).on world).1 =
      some stub := by
  have asked := trans_of Retains (asked_retains_buildPoolClass context site world) kept
  exact (lends.steady reached asked).symm.trans answered

theorem buildPoolClass_covers (site : PoolSite)
    (kept : ((buildPoolClass context site.backend site.poolClass).on world).2.Retains last)
    {stub : TransportType} (answered : context.session.stubs.answer last site.backend
      site.poolClass.connection = some stub) :
    ⟨site.connectionType, .transport stub⟩ ∈
      ((buildPoolClass context site.backend site.poolClass).on world).1.specs := by
  rw [buildPoolClass_lent (lent_of_answer lends reached site kept answered)]
  exact List.mem_append_left _ (List.mem_append_left _ List.mem_cons_self)

theorem buildPoolClass_wraps (site : PoolSite)
    (keeps : context.session.stubs.Moves KeepsRegistries)
    (kept : ((buildPoolClass context site.backend site.poolClass).on world).2.Retains last)
    {stub : TransportType} (answered : context.session.stubs.answer last site.backend
      site.poolClass.connection = some stub) {function : FunctionId} {primitive : Create}
    (held : (world.registries.get context.registry).value? site.create =
      some (.create function primitive)) :
    ∃ spec ∈ ((buildPoolClass context site.backend site.poolClass).on world).1.specs,
      spec.key = site.create := by
  let asked := (context.session.stubs.transport? site.backend site.poolClass.connection).on world
  let bound := (Action.substitute context.cache stub context.session.id).on asked.2
  have same : bound.2.registries = world.registries :=
    trans_of KeepsRegistries (keeps.transport site.backend site.poolClass.connection world)
      (Action.substitute_keepsRegistries context.cache stub context.session.id asked.2)
  rw [← same] at held
  obtain ⟨spec, member, here⟩ : ∃ spec ∈
      ((trackCreate context bound.1 site.create).on bound.2).1.specs, spec.key = site.create := by
    rw [on_trackCreate bound.1 held]
    exact ⟨_, List.mem_cons_self, rfl⟩
  rw [buildPoolClass_lent (lent_of_answer lends reached site kept answered)]
  exact ⟨spec, List.mem_append_left _ (List.mem_append_right _ member), here⟩

theorem pooling_builds (site : PoolSite)
    (kept : (((Adapter.pooling site.backend).build context).on world).2.Retains last) :
    ∃ middle, start.Retains middle ∧
      (context.session.stubs.Moves KeepsRegistries → world.KeepsRegistries middle) ∧
      ((buildPoolClass context site.backend site.poolClass).on middle).2.Retains last ∧
      ∀ spec ∈ ((buildPoolClass context site.backend site.poolClass).on middle).1.specs,
        spec ∈ (((Adapter.pooling site.backend).build context).on world).1.specs := by
  obtain ⟨front, back, parts⟩ := List.append_of_mem site.listed
  let swapped := (swapTypes context site.backend (connectionSeams site.backend)).on world
  let probed := Action.freshFunction.on swapped.2
  let before := (buildPoolClasses context site.backend front).on probed.2
  let built := (buildPoolClass context site.backend site.poolClass).on before.2
  have classes : (buildPoolClasses context site.backend poolClasses).on probed.2 =
      let others := (buildPoolClasses context site.backend back).on built.2
      (before.1 ++ (built.1 ++ others.1), others.2) := by
    rw [parts, on_buildPoolClasses_append]
    rfl
  rw [on_build_pooling] at kept ⊢
  -- the class is built after the connection types, the probe and the classes before it
  refine ⟨before.2, ?_, fun keeps => ?_, ?_, fun spec member => ?_⟩
  · exact trans_of Retains reached <|
      trans_of Retains (swapTypes_moves lends.moves site.backend _ world) <|
        trans_of Retains (Action.freshFunction_retains swapped.2)
          (buildPoolClasses_retains lends site.backend front probed.2)
  · exact trans_of KeepsRegistries (swapTypes_moves keeps site.backend _ world)
      (buildPoolClasses_moves keeps (fun _ => rfl) (fun _ _ => rfl)
        (fun type => Action.substitute_keepsRegistries _ type _) site.backend front probed.2)
  · have kept : ((buildPoolClasses context site.backend poolClasses).on probed.2).2.Retains last :=
      kept
    rw [classes] at kept
    exact trans_of Retains (buildPoolClasses_retains lends site.backend back built.2) kept
  · show spec ∈ _ ++ ((buildPoolClasses context site.backend poolClasses).on probed.2).1.specs
    rw [classes]
    exact List.mem_append_right _ (List.mem_append_right _ (List.mem_append_left _ member))

theorem standard_covers {backend : Backend} {seam : TypeSeam} (listed : seam ∈ typeSeams backend)
    (kept : (((Adapter.standard backend).build context).on world).2.Retains last)
    {stub : TransportType}
    (answered : context.session.stubs.answer last backend seam.stub = some stub) :
    ⟨seam.key, .transport stub⟩ ∈
      (((Adapter.standard backend).build context).on world).1.specs := by
  have types {backend : Backend} (listed : seam ∈ typeSeams backend)
      (answered : context.session.stubs.answer last backend seam.stub = some stub)
      (kept : (((direct backend (typeSeams backend)).build context).on world).2.Retains last) :
      ⟨seam.key, .transport stub⟩ ∈
        (((direct backend (typeSeams backend)).build context).on world).1.specs :=
    swapTypes_covers lends reached kept listed answered
  have pooled {backend : Backend} (pooling : backend ∈ [Backend.sessions, .pooled])
      (listed : seam ∈ connectionSeams backend ++ classSeams backend)
      (answered : context.session.stubs.answer last backend seam.stub = some stub)
      (kept : (((Adapter.pooling backend).build context).on world).2.Retains last) :
      ⟨seam.key, .transport stub⟩ ∈
        (((Adapter.pooling backend).build context).on world).1.specs := by
    rcases List.mem_append.1 listed with listed | listed
    · let swapped := (swapTypes context backend (connectionSeams backend)).on world
      rw [on_build_pooling] at kept ⊢
      have classes : swapped.2.Retains last :=
        trans_of Retains (Action.freshFunction_retains swapped.2)
          (trans_of Retains (buildPoolClasses_retains lends backend poolClasses _) kept)
      exact List.mem_append_left _ (List.mem_append_left _
        (swapTypes_covers lends reached classes listed answered))
    · obtain ⟨poolClass, member, rfl⟩ := List.mem_map.1 listed
      let site : PoolSite := ⟨backend, poolClass, pooling, member⟩
      obtain ⟨middle, earlier, -, toLast, among⟩ := pooling_builds lends reached site kept
      exact among _ (buildPoolClass_covers lends earlier site toLast answered)
  cases backend with
  | sessions => exact pooled List.mem_cons_self listed answered kept
  | pooled => exact pooled (List.mem_cons_of_mem _ List.mem_cons_self) listed answered kept
  | timeoutHttp =>
    obtain ⟨⟨scheme, name⟩, scheduled, rfl⟩ := List.mem_map.1 listed
    have found : (scheme, name, stub) ∈ ((schemeStubs context timeoutSchemes).on world).1 :=
      (mem_schemeStubs_iff lends reached kept scheme name stub).2 ⟨scheduled, answered⟩
    exact List.mem_append_left _ (List.mem_map.2 ⟨(scheme, name, stub), found, rfl⟩)
  | stdHttp => exact types listed answered kept
  | aws => exact types listed answered kept
  | certHttp => exact types listed answered kept
  | asyncFetch => cases listed
  | clientSession => cases listed
  | dualClient => cases listed

theorem standard_wraps (site : PoolSite) (keeps : context.session.stubs.Moves KeepsRegistries)
    (kept : (((Adapter.standard site.backend).build context).on world).2.Retains last)
    {stub : TransportType} (answered : context.session.stubs.answer last site.backend
      site.poolClass.connection = some stub) {function : FunctionId} {primitive : Create}
    (held : (world.registries.get context.registry).value? site.create =
      some (.create function primitive)) :
    ∃ spec ∈ (((Adapter.standard site.backend).build context).on world).1.specs,
      spec.key = site.create := by
  rw [site.standard_eq_pooling] at kept ⊢
  obtain ⟨middle, earlier, same, toLast, among⟩ := pooling_builds lends reached site kept
  have registries : middle.registries = world.registries := same keeps
  obtain ⟨spec, member, here⟩ :=
    buildPoolClass_wraps lends earlier site keeps toLast answered (registries ▸ held)
  exact ⟨spec, among spec member, here⟩

end Lending

end Adapter

end TransportSeams

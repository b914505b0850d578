import TransportSeams.Proofs.Registry.Reference
import TransportSeams.Proofs.Run.Calls
import TransportSeams.Proofs.Run.Living

/-!
Resources in the hands of their users. Anything that a user can do with registries, builders, single
resources and scopes is one deed, in any order: patches are entered twice or never left, scopes are
closed in any order or leaked, seams are overwritten or reset under them. Every deed keeps what is
held alive, so no enter and no exit ever fails.
-/

set_option autoImplicit false
set_option relaxedAutoImplicit false

namespace TransportSeams

open World

structure Opening where
  taken : List Resource
  scope : Scope

/-- What users hold: resources that are in no scope, and open scopes. -/
structure Bench where
  world : World
  held : List Resource
  openings : List Opening

/-- One call of a user. Dropping a scope closes it; closing one drops it afterwards, so it is left a
second time. Leaking it leaves nothing. -/
inductive Deed where
  | register (registry : RegistryId) (manifest : Manifest)
  | install (registry : RegistryId) (key : SeamKey) (binding : Binding)
  | reset (registry : RegistryId)
  | build (builder : Builder)
  | buildPatch (registry : RegistryId) (cache : CacheId) (session : SessionId) (spec : PatchSpec)
  | guard (guard : PoolGuard)
  | restore (registry : RegistryId)
  | enter (held : Nat)
  | leave (held : Nat)
  | openScope (session : SessionId) (taken kept : List Resource)
  | close (opening : Nat)
  | drop (opening : Nat)
  | leak (opening : Nat)
  | use (action : Action Unit)

namespace Bench

def initial (world : World) : Bench :=
  ⟨world, [], []⟩

def withWorld (bench : Bench) (world : World) : Bench :=
  { bench with world := world }

@[simp]
theorem world_withWorld (bench : Bench) (world : World) : (bench.withWorld world).world = world :=
  rfl

def holding (bench : Bench) (resources : List Resource) : Bench :=
  { bench with held := bench.held ++ resources }

def make {α : Type} (bench : Bench) (call : Call α) : Bench :=
  bench.withWorld (call.on bench.world).2

/-- What has been left is as it was before it was entered, even if leaving it fails. -/
def step (bench : Bench) : Deed → Bench
  | .register id manifest => bench.make (.register id manifest)
  | .install id key binding => bench.make (.install id key binding)
  | .reset id => bench.make (.reset id)
  | .build builder =>
    let (resources, left) := (Call.build builder).on bench.world
    (bench.withWorld left).holding resources
  | .buildPatch registry cache session spec =>
    let (handle?, left) := (Call.buildPatch registry cache session spec).on bench.world
    (bench.withWorld left).holding (handle?.map Resource.patch).toList
  | .guard guard => bench.holding [.poolGuard guard]
  | .restore id => bench.holding [.forceRestore (.new id)]
  | .enter index =>
    match bench.held[index]? with
    | none => bench
    | some resource =>
      match (Call.enter resource).on bench.world with
      | (.ok opened, left) => { bench.withWorld left with held := bench.held.set index opened }
      | (.error _, left) => bench.withWorld left
  | .leave index =>
    match bench.held[index]? with
    | none => bench
    | some resource =>
      { bench.make (.exit resource) with held := bench.held.set index resource.unentered }
  | .openScope session taken kept =>
    match (Call.openScope session taken).on bench.world with
    | (.ok scope, left) => ⟨left, kept, ⟨taken, scope⟩ :: bench.openings⟩
    | (.error _, left) => ⟨left, kept, bench.openings⟩
  | .close index =>
    match bench.openings[index]? with
    | none => bench
    | some opening =>
      let ((_, closed), left) := (Call.unwind opening.scope).on bench.world
      { (bench.withWorld left).make (.unwind closed) with
        openings := bench.openings.eraseIdx index }
  | .drop index =>
    match bench.openings[index]? with
    | none => bench
    | some opening =>
      { bench.make (.unwind opening.scope) with openings := bench.openings.eraseIdx index }
  | .leak index => { bench with openings := bench.openings.eraseIdx index }
  | .use action => bench.withWorld (action.on bench.world).2

/-- A scope takes its resources from those that are held. Nobody takes a seam away from a registry:
not the adapters of a builder, and nothing else that is done. -/
def Allows (bench : Bench) : Deed → Prop
  | .build builder => builder.KeepsSeams
  | .openScope _ taken kept => (taken ++ kept).Perm bench.held
  | .use action => action.Moves KeepsSeams
  | _ => True

inductive Reachable (start : Bench) : Bench → Prop where
  | start : Reachable start start
  | step {bench : Bench} (reached : Reachable start bench) (deed : Deed)
      (allowed : bench.Allows deed) : Reachable start (bench.step deed)

structure IsLive (bench : Bench) : Prop where
  held : ∀ resource ∈ bench.held, resource.IsLive bench.world
  scopes : ∀ opening ∈ bench.openings, opening.scope.closed = false ∧
    opening.scope.size = opening.taken.length ∧
    ∀ resource ∈ opening.scope.entered, resource.IsLive bench.world

namespace IsLive

variable {bench : Bench} {left : World}

theorem initial (world : World) : (Bench.initial world).IsLive where
  held _ member := nomatch member
  scopes _ member := nomatch member

theorem withWorld (live : bench.IsLive) (keeps : bench.world.KeepsSeams left) :
    (bench.withWorld left).IsLive where
  held resource member := (live.held resource member).kept keeps
  scopes opening member := by
    obtain ⟨isOpen, size, entered⟩ := live.scopes opening member
    exact ⟨isOpen, size, fun resource listed => (entered resource listed).kept keeps⟩

theorem holding (live : bench.IsLive) {resources : List Resource}
    (alive : ∀ resource ∈ resources, resource.IsLive bench.world) :
    (bench.holding resources).IsLive where
  held := List.forall_mem_append.2 ⟨live.held, alive⟩
  scopes := live.scopes

theorem set (live : bench.IsLive) (index : Nat) {resource : Resource}
    (alive : resource.IsLive bench.world) :
    { bench with held := bench.held.set index resource }.IsLive where
  held other member := by
    rcases List.mem_or_eq_of_mem_set member with member | rfl
    · exact live.held other member
    · exact alive
  scopes := live.scopes

theorem forget (live : bench.IsLive) (index : Nat) :
    { bench with openings := bench.openings.eraseIdx index }.IsLive where
  held := live.held
  scopes opening member := live.scopes opening (List.mem_of_mem_eraseIdx member)

theorem unwind (live : bench.IsLive) {opening : Opening} (member : opening ∈ bench.openings) :
    ∃ closed left, opening.scope.unwind.on bench.world =
        ((⟨opening.taken.length, []⟩, closed), left) ∧
      closed.unwind.on left = ((.empty, closed), left) ∧ bench.world.KeepsSeams left := by
  obtain ⟨isOpen, size, entered⟩ := live.scopes opening member
  have keeps := (Scope.unwind_moves Action.emit_keepsOrigins Attempt.install_keepsOrigins
    Action.drainForGuard_keepsOrigins opening.scope bench.world).keepsSeams
  rw [Scope.on_unwind isOpen] at keeps ⊢
  refine ⟨⟨opening.scope.session, [], true⟩, _, ?_, Scope.on_unwind_closed rfl _, keeps⟩
  rw [Scope.exitAll_live _ entered, ← size, TeardownReport.empty, Nat.zero_add]
  rfl

theorem enterScope (live : bench.IsLive) (session : SessionId) {taken kept : List Resource}
    (chosen : (taken ++ kept).Perm bench.held) : ∃ scope left,
      (Scope.enter session taken).on bench.world = (.ok scope, left) ∧
        bench.step (.openScope session taken kept) =
          ⟨left, kept, ⟨taken, scope⟩ :: bench.openings⟩ ∧
        (Bench.mk left kept (⟨taken, scope⟩ :: bench.openings)).IsLive := by
  have alive : ∀ resource ∈ taken ++ kept, resource.IsLive bench.world :=
    fun resource member => live.held resource (chosen.mem_iff.1 member)
  obtain ⟨ours, others⟩ := List.forall_mem_append.1 alive
  have keeps := (Scope.enterAll_keepsOrigins session taken [] bench.world).keepsSeams
  obtain ⟨entered, left, run, size, lives⟩ :=
    Scope.enterAll_live session ours (List.forall_mem_nil _)
  rw [run] at keeps
  have opened : (Scope.enter session taken).on bench.world =
      (.ok ⟨session, entered, false⟩, left) := run
  refine ⟨_, left, opened, by simp only [step, Call.on_openScope, opened], ?_, ?_⟩
  · exact fun resource member => (others resource member).kept keeps
  · exact List.forall_mem_cons.2 ⟨⟨rfl, size, lives⟩, (live.withWorld keeps).scopes⟩

theorem step (live : bench.IsLive) {deed : Deed} (allowed : bench.Allows deed) :
    (bench.step deed).IsLive := by
  cases deed with
  | register id manifest =>
    exact live.withWorld (Attempt.registerBackend_keepsSeams id manifest bench.world)
  | install id key binding =>
    exact live.withWorld (Attempt.install_keepsOrigins id key binding bench.world).keepsSeams
  | reset id => exact live.withWorld (Action.resetToPristine_keepsOrigins id bench.world).keepsSeams
  | build builder =>
    exact (live.withWorld (Builder.build_keepsSeams allowed bench.world)).holding
      (Builder.build_isLive allowed bench.world)
  | buildPatch registry cache session spec =>
    refine (live.withWorld (Action.buildPatch?_moves
      (fun event _ => Action.emit_keepsSeams event)
      (fun type => Action.substitute_keepsSeams cache type session) spec bench.world)).holding ?_
    intro resource member
    obtain ⟨handle, built, rfl⟩ := Option.map_eq_some_iff.1 (Option.mem_toList.1 member)
    exact Action.buildPatch?_isLive built
  | guard guard => exact live.holding (List.forall_mem_singleton.2 trivial)
  | restore id =>
    exact live.holding (List.forall_mem_singleton.2 fun saved entered => nomatch entered)
  | enter index =>
    unfold Bench.step
    cases found : bench.held[index]? with
    | none => simpa only [found] using live
    | some resource =>
      obtain ⟨opened, left, run, alive⟩ := (live.held resource (List.mem_of_getElem? found)).enter
      have keeps := (resource.enter_keepsOrigins bench.world).keepsSeams
      rw [run] at keeps
      simp only [found, Call.on_enter, run]
      exact (live.withWorld keeps).set index alive
  | leave index =>
    unfold Bench.step
    cases found : bench.held[index]? with
    | none => simpa only [found] using live
    | some resource =>
      obtain ⟨left, run, alive⟩ := (live.held resource (List.mem_of_getElem? found)).exit
      have keeps := (resource.exit_keepsOrigins bench.world).keepsSeams
      rw [run] at keeps
      simp only [found, make, Call.on_exit, run]
      exact (live.withWorld keeps).set index alive
  | openScope session taken kept =>
    obtain ⟨scope, left, -, opened, lives⟩ := live.enterScope session allowed
    rw [opened]
    exact lives
  | close index =>
    unfold Bench.step
    cases found : bench.openings[index]? with
    | none => simpa only [found] using live
    | some opening =>
      obtain ⟨closed, left, run, again, keeps⟩ := live.unwind (List.mem_of_getElem? found)
      simp only [found, make, world_withWorld, Call.on_unwind, run, again]
      exact (live.withWorld keeps).forget index
  | drop index =>
    unfold Bench.step
    cases found : bench.openings[index]? with
    | none => simpa only [found] using live
    | some opening =>
      obtain ⟨closed, left, run, -, keeps⟩ := live.unwind (List.mem_of_getElem? found)
      simp only [found, make, Call.on_unwind, run]
      exact (live.withWorld keeps).forget index
  | leak index => exact live.forget index
  | use action => exact live.withWorld (allowed bench.world)

end IsLive

theorem Reachable.isLive {world : World} {bench : Bench}
    (reached : Reachable (.initial world) bench) : bench.IsLive := by
  induction reached with
  | start => exact .initial world
  | step _ deed allowed ih => exact ih.step allowed

end Bench

/-- Whatever has been done before, in any order: entering and leaving a resource that is held
succeeds; a scope over any of them opens with all of them entered, and so does the scope of a
builder that starts; closing an open scope reports every resource that it was opened with and no
failure, and leaves nothing for a second time. -/
theorem Bench.infallible {world : World} {bench : Bench}
    (reached : Reachable (.initial world) bench) :
    (∀ resource ∈ bench.held,
      (∃ opened left, resource.enter.on bench.world = (.ok opened, left)) ∧
        ∃ left, resource.exit.on bench.world = (.ok resource.unentered, left)) ∧
    (∀ session taken kept, (taken ++ kept).Perm bench.held → ∃ scope left,
      (Scope.enter session taken).on bench.world = (.ok scope, left) ∧
        scope.size = taken.length) ∧
    (∀ builder : Builder, builder.KeepsSeams → ∃ scope left,
      builder.start.on bench.world = (.ok scope, left) ∧
        scope.size = (builder.build.on bench.world).1.length) ∧
    ∀ opening ∈ bench.openings, ∃ closed left,
      opening.scope.unwind.on bench.world = ((⟨opening.taken.length, []⟩, closed), left) ∧
        closed.unwind.on left = ((.empty, closed), left) := by
  have live := reached.isLive
  refine ⟨fun resource member => ?_, fun session taken kept chosen => ?_,
    fun builder keeps => ?_, fun opening member => ?_⟩
  · obtain ⟨opened, left, run, -⟩ := (live.held resource member).enter
    obtain ⟨after, run', -⟩ := (live.held resource member).exit
    exact ⟨⟨opened, left, run⟩, after, run'⟩
  · obtain ⟨scope, left, run, -, lives⟩ := live.enterScope session chosen
    exact ⟨scope, left, run, (lives.scopes _ List.mem_cons_self).2.1⟩
  · obtain ⟨entered, left, run, size, -⟩ :=
      Scope.enterAll_live builder.session.id (Builder.build_isLive keeps bench.world)
        (List.forall_mem_nil _)
    exact ⟨⟨builder.session.id, entered, false⟩, left, run, size⟩
  · obtain ⟨closed, left, run, again, -⟩ := live.unwind member
    exact ⟨closed, left, run, again⟩

private def plainBuilder : Builder :=
  ⟨⟨0⟩, .new ⟨"tape"⟩ (.standard ⟨0⟩), .ofBackends [.sessions], 4, ⟨1⟩⟩

/-- One patch and a restore are entered before the rest is built. -/
private def busyBench : Bench :=
  ((((Bench.initial Reference.pooledWorld).step (.restore ⟨0⟩)).step (.enter 0)).step
    (.build plainBuilder)).step (.enter 1)

private def resetBench : Bench :=
  (busyBench.step (.openScope ⟨"tape"⟩ busyBench.held [])).step (.reset ⟨0⟩)

theorem Bench.infallible_reset :
    Reachable (.initial Reference.pooledWorld) resetBench ∧
      resetBench.openings.map (·.taken.length) = [13] ∧
      ∀ opening ∈ resetBench.openings, ∃ closed left,
        opening.scope.unwind.on resetBench.world = ((⟨13, []⟩, closed), left) ∧
          closed.unwind.on left = ((.empty, closed), left) := by
  have keeps : plainBuilder.KeepsRegistries := by
    intro adapter member
    obtain rfl := List.mem_singleton.1 member
    exact Adapter.standard_keepsRegistries .sessions plainBuilder.context
      (StubCatalog.standard_keepsRegistries ⟨0⟩)
  have busy : Reachable (.initial Reference.pooledWorld) busyBench :=
    (((Reachable.start.step (.restore ⟨0⟩) trivial).step (.enter 0) trivial).step
      (.build plainBuilder) keeps.keepsSeams).step (.enter 1) trivial
  have chosen : (busyBench.held ++ []).Perm busyBench.held := by
    rw [List.append_nil]
  have reached : Reachable (.initial Reference.pooledWorld) resetBench :=
    (busy.step (.openScope ⟨"tape"⟩ busyBench.held []) chosen).step (.reset ⟨0⟩) trivial
  have sizes : resetBench.openings.map (·.taken.length) = [13] := by
    decide +kernel
  refine ⟨reached, sizes, fun opening member => ?_⟩
  have size : opening.taken.length = 13 := by
    have listed := List.mem_map_of_mem member (f := (·.taken.length))
    rw [sizes] at listed
    exact List.mem_singleton.1 listed
  obtain ⟨-, -, -, closes⟩ := infallible reached
  rw [← size]
  exact closes opening member

end TransportSeams

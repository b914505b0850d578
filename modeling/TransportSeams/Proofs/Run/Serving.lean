import TransportSeams.Proofs.Run.Pooling

/-!
Who is served which connections. In a run of nested sessions that leave the seams of a pool class to
the adapters, the class's acquire seam serves the innermost session with the stack enabled, whatever
the pool holds: the first idle instance of its own type, else a new connection, else an error. How
many others are skipped is the limit of the outermost such session.
-/

set_option autoImplicit false
set_option relaxedAutoImplicit false

namespace TransportSeams

open World Reference

def Frame.acquireLimit (frame : Frame) : Nat :=
  (frame.builder?.map Builder.acquireLimit).getD 0

section Layers

variable {site : PoolSite} {frames : List Frame}

namespace Dressed

theorem type (dressed : Dressed site frames)
    (leaves : ∀ frame ∈ frames, ∀ builder, frame.builder? = some builder →
      builder.session.Leaves site.connectionType) :
    Worn site site.connectionType (fun layers binding => ∀ layer ∈ layers.head?,
      binding = ⟨.transport layer.guard.connectionType, some layer.session⟩) frames := by
  induction frames with
  | nil => trivial
  | cons frame rest ih =>
    obtain ⟨⟨builder, dresses⟩, below⟩ := dressed
    refine ⟨?_, ih below fun other member => leaves other (List.mem_cons_of_mem frame member)⟩
    have wears := dresses.type (leaves frame List.mem_cons_self builder dresses.session)
    unfold Frame.Wears at wears ⊢
    split at wears
    · exact wears
    · obtain ⟨binding, shown, rfl⟩ := wears
      exact ⟨_, shown, fun layer head => by cases head; rfl⟩

theorem probe (dressed : Dressed site frames)
    (leaves : ∀ frame ∈ frames, ∀ builder, frame.builder? = some builder →
      builder.session.Leaves site.probe) :
    Worn site site.probe (fun layers binding => layers ≠ [] →
      ∃ function, binding.value = .probe ⟨function, fun _ => false⟩) frames := by
  induction frames with
  | nil => trivial
  | cons frame rest ih =>
    obtain ⟨⟨builder, dresses⟩, below⟩ := dressed
    refine ⟨?_, ih below fun other member => leaves other (List.mem_cons_of_mem frame member)⟩
    have wears := dresses.probe (leaves frame List.mem_cons_self builder dresses.session)
    unfold Frame.Wears at wears ⊢
    split at wears
    · exact wears
    · obtain ⟨binding, shown, probes⟩ := wears
      exact ⟨binding, shown, fun _ => probes⟩

theorem limits (dressed : Dressed site frames) :
    (layers site frames).map PoolLayer.limit =
      (frames.filter (·.enables site.backend)).map Frame.acquireLimit := by
  induction frames with
  | nil => rfl
  | cons frame rest ih =>
    obtain ⟨⟨builder, dresses⟩, below⟩ := dressed
    have enables := dresses.enabled
    cases laid : frame.layer? site with
    | none =>
      rw [laid] at enables
      rw [layers_cons_none laid, List.filter_cons_of_neg (by simp [enables]), ih below]
    | some layer =>
      rw [laid] at enables
      obtain ⟨-, limit, -⟩ := dresses.layer layer laid
      rw [layers_cons_some laid, List.filter_cons_of_pos enables, List.map_cons, List.map_cons,
        ih below, limit, Frame.acquireLimit, dresses.session]
      rfl

theorem newest (dressed : Dressed site frames) {newest : Frame} {older : List Frame}
    (enabled : frames.filter (·.enables site.backend) = newest :: older) :
    ∃ layer below, layers site frames = layer :: below ∧ layer.guard ∈ newest.guards ∧
      newest.session? = some layer.session ∧
      layer.guard.connectionType.owner? = newest.session? := by
  induction frames with
  | nil => cases enabled
  | cons frame rest ih =>
    obtain ⟨⟨builder, dresses⟩, below⟩ := dressed
    have enables := dresses.enabled
    cases laid : frame.layer? site with
    | none =>
      rw [laid] at enables
      rw [List.filter_cons_of_neg (by simp [enables])] at enabled
      rw [layers_cons_none laid]
      exact ih below enabled
    | some layer =>
      rw [laid] at enables
      rw [List.filter_cons_of_pos enables] at enabled
      obtain ⟨rfl, -⟩ := List.cons.inj enabled
      obtain ⟨session, -, guarded, owned⟩ := dresses.layer layer laid
      have here : frame.session? = some layer.session := by
        rw [Frame.session?, dresses.session, session]
        rfl
      exact ⟨layer, layers site rest, layers_cons_some laid rest, guarded, here,
        by rw [owned, here, session]⟩

end Dressed

end Layers

/-- How a pool answers a session that expects the type of its guard: with the first idle instance of
it when at most `limit` connections stand before that, with a new connection, of which the guard's
tracker is told, when there is none among at most `limit`, and else with an error. -/
structure World.ServesOwn (world : World) (id : PoolId) (guard : PoolGuard) (limit : Nat)
    (outcome : Except SeamError Connection) (left : World) : Prop where
  reuses (place : Nat) (connection : Connection) :
    (world.pools.get id).idle.findIdx? (·.isInstanceOf guard.connectionType) = some place →
    (world.pools.get id).idle[place]? = some connection → place ≤ limit →
      outcome = .ok connection ∧
        left = (world.withIdle id ((world.pools.get id).idle.drop (place + 1))).withTrace left.trace
  opens :
    (world.pools.get id).idle.findIdx? (·.isInstanceOf guard.connectionType) = none →
    (world.pools.get id).idle.length ≤ limit →
      outcome = .ok (world.fresh id guard.connectionType) ∧
        left.pools = (world.withIdle id []).pools ∧
        left.nextConnection = ⟨world.nextConnection.index + 1⟩ ∧
        world.nextConnection ∈ (left.trackers.get guard.tracker).tracked id
  refuses :
    (∀ place, (world.pools.get id).idle.findIdx? (·.isInstanceOf guard.connectionType) =
      some place → limit < place) →
    ((world.pools.get id).idle.findIdx? (·.isInstanceOf guard.connectionType) = none →
      limit < (world.pools.get id).idle.length) →
      outcome = .error (.pool (.exhausted (world.pools.get id).className
        guard.connectionType.name limit)) ∧
        left = (world.withIdle id ((world.pools.get id).idle.drop (limit + 1))).withTrace left.trace

theorem World.serving_servesOwn {world : World} {id : PoolId} {layer : PoolLayer}
    {layers : List PoolLayer} (member : layer ∈ layers) (limit : Nat) (trace : List Event)
    (tracking : (world.trackers.get layer.guard.tracker).connectionType =
      layer.guard.connectionType) :
    let served := world.serving id layer.guard.connectionType layers limit
      (pick (fun _ => false) (·.isInstanceOf layer.guard.connectionType) limit
        (world.pools.get id).idle)
    world.ServesOwn id layer.guard limit served.1 (served.2.withTrace trace) where
  reuses place connection found held within := by
    simp only [pick_reused found held within]
    exact ⟨rfl, rfl⟩
  opens absent within := by
    simp only [pick_opened absent within]
    refine ⟨rfl, pools_opening _ id _ layers, nextConnection_opening _ id _ layers, ?_⟩
    refine mem_tracked_tracking.2 (.inr ⟨⟨layer, member, rfl⟩, ?_, rfl, rfl⟩)
    show ((world.withIdle id []).fresh id layer.guard.connectionType).isInstanceOf
      (world.trackers.get layer.guard.tracker).connectionType = true
    rw [tracking]
    exact isInstanceOf_fresh _ id _
  refuses far many := by
    simp only [pick_exhausted far many]
    exact ⟨rfl, rfl⟩

def PoolSite.IsLeft (site : PoolSite) (session : Session) : Prop :=
  ∀ key ∈ site.seams, session.Leaves key

structure PoolSite.IsServed (site : PoolSite) (id : RegistryId) (start : Registry)
    (stage : Stage) : Prop where
  nested : Nested id start stage
  worn : site.IsWorn stage
  sessions : stage.AllSessions site.IsLeft

namespace PoolSite.IsServed

variable {site : PoolSite} {id : RegistryId} {start : Registry} {stage : Stage}

theorem step (served : site.IsServed id start stage) (rest : site.AtRest start)
    {operation : Operation} (nests : operation.NestsSessions)
    (brings : operation.Brings site.IsLeft) : site.IsServed id start (stage.step operation) where
  nested := served.nested.step nests
  worn := by
    refine served.worn.step served.nested rest (fun builder member => ?_) nests
    have left := served.sessions.builders builder member
    exact ⟨left _ site.create_mem_seams, left _ site.acquire_mem_seams⟩
  sessions := served.sessions.step served.nested.layered nests brings

theorem fits (served : site.IsServed id start stage) (rest : site.AtRest start)
    {layer : PoolLayer} {older : List PoolLayer}
    (all : layers site stage.frames = layer :: older) {pool : PoolId}
    (holds : site.Holds (stage.world.pools.get pool)) :
    stage.seams.binding? site.connectionType =
        some ⟨.transport layer.guard.connectionType, some layer.session⟩ ∧
      site.Fits (layer :: older) layer.guard.connectionType stage.registry pool stage.world := by
  obtain ⟨type, held, -⟩ := rest.type
  obtain ⟨ground, held, -⟩ := ground_value stage.seams held
  have shown := (served.worn.dressed.type fun frame member builder opened =>
    served.sessions.frames frame member builder opened _ site.connectionType_mem_seams).shown
      ⟨ground, held, fun _ head => nomatch head⟩
  rw [← served.nested.layered.shown] at shown
  obtain ⟨binding, held, suits⟩ := shown
  obtain rfl := suits layer (by rw [all]; rfl)
  refine ⟨held, holds, ?_, ?_⟩
  · rw [← all]
    exact served.worn.offers served.nested rest
  · show stage.seams.value? site.connectionType = _
    rw [Registry.value?, held]
    rfl

/-- While a session with the stack enabled is open, no connection of the class counts as dropped. -/
theorem isDropped (served : site.IsServed id start stage) (rest : site.AtRest start)
    {layer : PoolLayer} {older : List PoolLayer}
    (all : layers site stage.frames = layer :: older) {pool : Pool} (holds : site.Holds pool) :
    stage.seams.isDropped pool = fun _ => false := by
  obtain ⟨probe, held⟩ := rest.probe
  obtain ⟨ground, held, -⟩ := ground_value stage.seams held
  have shown := (served.worn.dressed.probe fun frame member builder opened =>
    served.sessions.frames frame member builder opened _ site.probe_mem_seams).shown
      ⟨ground, held, fun some => absurd rfl some⟩
  rw [← served.nested.layered.shown] at shown
  obtain ⟨binding, held, suits⟩ := shown
  obtain ⟨function, probes⟩ := suits (by rw [all]; exact List.cons_ne_nil _ _)
  refine site.isDropped_eq holds ⟨function, ?_⟩
  rw [Registry.value?, held, Option.map_some, probes]

end PoolSite.IsServed

/-- In every run of nested sessions that leave the seams of a pool class to the adapters, a pool of
the class, whatever it holds, serves the innermost session with the stack enabled connections of
that session only, and skips as many others as the outermost such session allows. -/
theorem Stage.getConnection_servesOwn {id : RegistryId} {world : World} {stage : Stage}
    {site : PoolSite} {pool : PoolId} {newest : Frame} {older : List Frame}
    (rest : site.AtRest (world.registries.get id))
    (shelves : ∀ shelf, (world.shelves.get shelf).IsUnbound)
    (reached : Reachable
      (fun _ operation => operation.NestsSessions ∧ operation.Brings site.IsLeft)
      (.initial id world) stage)
    (enabled : stage.frames.filter (·.enables site.backend) = newest :: older)
    (holds : site.Holds (stage.world.pools.get pool)) :
    ∃ guard ∈ newest.guards,
      guard.connectionType.owner? = newest.session? ∧
        stage.seams.binding? site.connectionType =
          some ⟨.transport guard.connectionType, newest.session?⟩ ∧
        stage.world.ServesOwn pool guard
          ((newest :: older).getLast (List.cons_ne_nil _ _)).acquireLimit
          ((Attempt.getConnection stage.registry pool).on stage.world).1
          ((Attempt.getConnection stage.registry pool).on stage.world).2 := by
  have served : site.IsServed id (world.registries.get id) stage :=
    reached.invariant ⟨.initial id shelves, rest.initial id, .initial _ id world⟩
      fun _ served fits => served.step rest fits.1 fits.2
  obtain ⟨layer, below, all, guarded, session, owned⟩ := served.worn.dressed.newest enabled
  obtain ⟨bound, fits⟩ := served.fits rest all holds
  have limit : ((layer :: below).getLast (List.cons_ne_nil _ _)).limit =
      ((newest :: older).getLast (List.cons_ne_nil _ _)).acquireLimit := by
    have limits := served.worn.dressed.limits
    rw [all, enabled] at limits
    rw [← List.getLast_map (f := PoolLayer.limit) (by simp),
      ← List.getLast_map (f := Frame.acquireLimit) (by simp)]
    simp only [limits]
  have tracking : (stage.world.trackers.get layer.guard.tracker).connectionType =
      layer.guard.connectionType := by
    refine served.nested.tracking layer.guard (List.mem_flatMap.2 ⟨newest, ?_, guarded⟩)
    exact List.mem_of_mem_filter (enabled ▸ List.mem_cons_self)
  refine ⟨layer.guard, guarded, owned, session ▸ bound, ?_⟩
  obtain ⟨trace, run⟩ := fits.on_acquiring layer below
  rw [← fits.on_getConnection] at run
  have alive := served.isDropped rest all holds
  unfold Stage.seams at alive
  rw [alive] at run
  rw [run, ← limit]
  exact serving_servesOwn List.mem_cons_self _ trace tracking

private def pooledOnly : Catalog :=
  Catalog.standard.without (Backend.all.filter (· ≠ .pooled))

private def opening (session : String) (limit : Nat) : Operation :=
  .newBuilder ⟨⟨session⟩, [], .standard ⟨0⟩⟩ pooledOnly limit

private def foreignPool : Pool :=
  ⟨httpSite.target, "pooled.connectionpool", "host",
    [⟨⟨0⟩, "host", .root ⟨⟨0⟩, "Plain", .unavailable⟩, false⟩,
      ⟨⟨1⟩, "host", .root ⟨⟨0⟩, "Plain", .unavailable⟩, false⟩]⟩

/-- The inner one of two sessions would skip four connections, the outer one skips one. -/
private def servedStage : Stage :=
  (((((Stage.initial ⟨0⟩ pooledWorld).step (opening "outer" 1)).step (opening "inner" 4)).step
    (.newPool foreignPool)).step (.start 0)).step (.start 1)

theorem Stage.getConnection_servesOwn_started :
    ∃ newest oldest, servedStage.frames.filter (·.enables httpSite.backend) = [newest, oldest] ∧
      newest.acquireLimit = 4 ∧ oldest.acquireLimit = 1 ∧ ∃ guard ∈ newest.guards,
        servedStage.world.ServesOwn ⟨3⟩ guard oldest.acquireLimit
          ((Attempt.getConnection servedStage.registry ⟨3⟩).on servedStage.world).1
          ((Attempt.getConnection servedStage.registry ⟨3⟩).on servedStage.world).2 := by
  have builds (session : String) (limit : Nat) : (opening session limit).NestsSessions ∧
      (opening session limit).Brings httpSite.IsLeft :=
    ⟨⟨⟨_, rfl⟩, _, rfl⟩, fun _ _ _ member => nomatch member⟩
  have begun : Reachable
      (fun _ operation => operation.NestsSessions ∧ operation.Brings httpSite.IsLeft)
      (.initial ⟨0⟩ pooledWorld) (.initial ⟨0⟩ pooledWorld) := .start
  have built := (begun.step _ (builds "outer" 1)).step _ (builds "inner" 4)
  have reached : Reachable
      (fun _ operation => operation.NestsSessions ∧ operation.Brings httpSite.IsLeft)
      (.initial ⟨0⟩ pooledWorld) servedStage :=
    ((built.step (.newPool foreignPool) ⟨trivial, trivial⟩).step (.start 0)
      ⟨trivial, trivial⟩).step (.start 1) ⟨trivial, trivial⟩
  have evaluated : (servedStage.frames.filter (·.enables httpSite.backend)).map
        Frame.acquireLimit = [4, 1] ∧
      httpSite.Holds (servedStage.world.pools.get ⟨3⟩) := by
    decide +kernel
  obtain ⟨limits, holds⟩ := evaluated
  obtain ⟨newest, others, enabled, four, others'⟩ := List.map_eq_cons_iff.1 limits
  obtain ⟨oldest, rest, rfl, one, last⟩ := List.map_eq_cons_iff.1 others'
  obtain rfl := List.map_eq_nil_iff.1 last
  obtain ⟨guard, guarded, -, -, serves⟩ := getConnection_servesOwn
    (pooledWorld_atRest httpSite) pooledWorld_unbound reached enabled holds
  exact ⟨newest, oldest, enabled, four, one, guard, guarded, serves⟩

end TransportSeams

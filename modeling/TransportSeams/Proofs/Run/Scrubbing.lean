import TransportSeams.Proofs.Run.Hygiene

/-!
Runs that keep pools clean. In a run of nested sessions that leave it to the adapters how
connections are opened and handed out, `Hygienic` holds throughout, and closing the newest session
takes the instances of its guards' types out of the idle stacks. These are all of the session's
connections when it also leaves the connection types to the adapters.
-/

set_option autoImplicit false
set_option relaxedAutoImplicit false

namespace TransportSeams

open World Reference

/-- The session has no patches of its own where connections are opened or handed out, and where a
pool class holds its connection type nothing but types with a session slot. -/
structure Session.KeepsPrimitives (session : Session) : Prop where
  create (site : PoolSite) : session.Leaves site.create
  acquire (site : PoolSite) : session.Leaves site.acquire
  retypes (site : PoolSite) : session.Retypes site.connectionType

/-- New pools are empty, connections are asked of pools of the classes only, and no session starts
that has been started before. -/
def Operation.IsClean (stage : Stage) : Operation → Prop
  | newPool pool => pool.idle = []
  | getConnection pool | newConnection pool =>
    ∃ site : PoolSite, site.Holds (stage.world.pools.get pool)
  | start index => ∀ builder, stage.builders[index]? = some builder →
    builder.session.id ∉ stage.started
  | _ => True

theorem Operation.Brings.mono {few many : Session → Prop}
    (wider : ∀ {session}, few session → many session) {operation : Operation}
    (brings : operation.Brings few) : operation.Brings many := by
  cases operation with
  | newBuilder session catalog limit => exact wider brings
  | _ => trivial

def Operation.RunsClean (kind : Session → Prop) (stage : Stage) (operation : Operation) : Prop :=
  operation.NestsSessions ∧ operation.Brings kind ∧ operation.IsClean stage

section Guards

variable {id : RegistryId} {start : Registry} {stage : Stage}

theorem Nested.trackersApart (nested : Nested id start stage) : TrackersApart stage.frames := by
  obtain ⟨-, apart⟩ := List.pairwise_flatMap.1 nested.increasing
  refine apart.imp fun newer guard guarded other guarded' same => ?_
  have older := newer guard guarded other guarded'
  rw [same] at older
  omega

theorem Nested.guardsApart (nested : Nested id start stage) {frame : Frame}
    (member : frame ∈ stage.frames) :
    frame.guards.Pairwise fun a b => a.tracker ≠ b.tracker := by
  obtain ⟨within, -⟩ := List.pairwise_flatMap.1 nested.increasing
  refine (within frame member).imp fun newer same => ?_
  rw [same] at newer
  omega

theorem Stage.mem_guards {frame : Frame} (member : frame ∈ stage.frames) {guard : PoolGuard}
    (guarded : guard ∈ frame.guards) : guard ∈ stage.guards :=
  List.mem_flatMap.2 ⟨frame, member, guarded⟩

end Guards

structure World.HasEmptyPools (world : World) : Prop where
  idle (pool : PoolId) : (world.pools.get pool).idle = []
  existing (site : PoolSite) (pool : PoolId) :
    site.Holds (world.pools.get pool) → pool.index < world.nextObject

theorem Reference.pooledWorld_hasEmptyPools : pooledWorld.HasEmptyPools where
  idle pool := by
    rw [pooledWorld_pools]
    rfl
  existing site pool holds := by
    rw [pooledWorld_pools] at holds
    exact absurd holds site.not_holds_default

/-- The run so far, with all pools clean. -/
structure Scrubbing (id : RegistryId) (start : Registry) (stage : Stage) : Prop where
  nested : Nested id start stage
  worn (site : PoolSite) : site.IsWorn stage
  sessions : stage.AllSessions Session.KeepsPrimitives
  hygienic : Hygienic stage.frames stage.started stage.held stage.world

namespace Scrubbing

variable {id : RegistryId} {start : Registry} {stage : Stage} {site : PoolSite} {pool : PoolId}

theorem keepsPools (scrubbing : Scrubbing id start stage) {world : World}
    (kept : stage.world.KeepsPools world) :
    Hygienic stage.frames stage.started stage.held world :=
  scrubbing.hygienic.kept (List.Sublist.refl _) <| .of_keepsPools kept
    fun _ member guard guarded => scrubbing.nested.issued guard (Stage.mem_guards member guarded)

theorem fits (scrubbing : Scrubbing id start stage) (rest : site.AtRest start)
    (holds : site.Holds (stage.world.pools.get pool)) :
    ∃ type, site.Fits (layers site stage.frames) type stage.registry pool stage.world ∧
      ∀ session, type.owner? = some session → ∃ frame ∈ stage.frames,
        frame.session? = some session ∧
          ∃ owner?, frame.shown? site.connectionType = some ⟨.transport type, owner?⟩ := by
  obtain ⟨plain, held, unowned⟩ := rest.type
  obtain ⟨ground, grounded, value⟩ := ground_value stage.seams held
  have offers := (scrubbing.worn site).offers scrubbing.nested rest
  have shown := congrFun scrubbing.nested.layered.shown site.connectionType
  have fits {binding : Binding} {type : TransportType}
      (bound : stage.seams.binding? site.connectionType = some binding)
      (value : binding.value = .transport type) :
      site.Fits (layers site stage.frames) type stage.registry pool stage.world := by
    refine ⟨holds, offers, ?_⟩
    show (stage.seams.binding? site.connectionType).map Binding.value = _
    rw [bound, ← value]
    rfl
  unfold overlays at shown
  cases search : stage.frames.findSome? (Frame.shown? site.connectionType) with
  | none =>
    rw [search, Option.none_or, grounded] at shown
    refine ⟨plain, fits shown value, fun session owned => ?_⟩
    rw [unowned] at owned
    cases owned
  | some binding =>
    rw [search, Option.some_or] at shown
    obtain ⟨frame, member, shows⟩ := List.exists_of_findSome?_eq_some search
    obtain ⟨older, builder, dresses⟩ := (scrubbing.worn site).dressed.of_mem member
    have kind := scrubbing.sessions.frames frame member builder dresses.session
    obtain ⟨type, value, owned⟩ := dresses.retyped (kind.retypes site) binding shows
    refine ⟨type, fits shown value, fun session owner => ⟨frame, member, ?_, binding.owner?, ?_⟩⟩
    · obtain rfl := Option.some.inj (owner.symm.trans owned)
      rw [Frame.session?, dresses.session]
      rfl
    · rw [shows, ← value]

theorem getConnection (scrubbing : Scrubbing id start stage) (rest : site.AtRest start)
    (holds : site.Holds (stage.world.pools.get pool)) :
    let later := stage.step (.getConnection pool)
    Hygienic later.frames later.started later.held later.world := by
  obtain ⟨type, fits, origin⟩ := scrubbing.fits rest holds
  have hygienic := scrubbing.hygienic
  simp only [Stage.step, Stage.checkOut, Call.on_getConnection]
  obtain ⟨trace, ⟨connection, others, below, run⟩ | run | ⟨error, others, below, run⟩⟩ :=
    fits.getConnection_cases
  · rw [run]
    exact hygienic.taken below trace
  · rw [run, ← opening_withTrace]
    have emptied := hygienic.lost (List.nil_sublist (stage.world.pools.get pool).idle) trace
    have fits' := (fits.withIdle []).withTrace trace
    have same : ((stage.world.withIdle pool []).withTrace trace).fresh pool type =
        stage.world.fresh pool type :=
      stage.world.fresh_withIdle pool [] type
    rw [← same]
    exact emptied.opening fits'.holds scrubbing.nested.trackersApart
      (fun frame member guard guarded =>
        scrubbing.nested.tracking guard (Stage.mem_guards member guarded)) origin
  · rw [run]
    exact hygienic.lost below trace

theorem newConnection (scrubbing : Scrubbing id start stage) (rest : site.AtRest start)
    (holds : site.Holds (stage.world.pools.get pool)) :
    let later := stage.step (.newConnection pool)
    Hygienic later.frames later.started later.held later.world := by
  obtain ⟨type, fits, origin⟩ := scrubbing.fits rest holds
  simp only [Stage.step, Stage.checkOut, Call.on_newConnection]
  rw [fits.on_newConnection]
  exact scrubbing.hygienic.opening holds scrubbing.nested.trackersApart
    (fun frame member guard guarded =>
      scrubbing.nested.tracking guard (Stage.mem_guards member guarded)) origin

theorem started (scrubbing : Scrubbing id start stage) {builder : Builder}
    (member : builder ∈ stage.builders) (unused : builder.session.id ∉ stage.started)
    {later : Stage} (starts : stage.Starts builder later)
    (worn : ∀ site : PoolSite, site.IsWorn later) :
    Hygienic later.frames later.started later.held later.world := by
  obtain ⟨⟨entered, built, frames⟩, apart, started, held⟩ := starts
  have fresh := (scrubbing.nested.supplied.builders builder member).build_newGuards
  have hygienic := scrubbing.keepsPools
    (trans_of KeepsPools fresh.grown.keepsPools apart.keepsPools)
  rw [frames, started, held]
  refine hygienic.started rfl unused (fun guard guarded pool => ?_) fun site layer laid => ?_
  · have listed : guard ∈ guardsOf (builder.build.on stage.world).1 := by
      rw [← List.mem_reverse, ← guardsOf_entered built]
      exact guarded
    rw [apart, fresh.empty guard listed]
    rfl
  · have dressed := (worn site).dressed
    rw [frames] at dressed
    obtain ⟨⟨opener, dresses⟩, -⟩ := dressed
    obtain rfl : builder = opener := Option.some.inj dresses.session
    exact (dresses.layer layer laid).2.2.2

theorem drained (scrubbing : Scrubbing id start stage) {frame : Frame} {older : List Frame}
    (frames : stage.frames = frame :: older) :
    stage.world.DrainedBy frame.guards stage.closeNewest.world ∧
      stage.closeNewest.frames = older ∧ stage.closeNewest.started = stage.started ∧
        stage.closeNewest.held = stage.held := by
  have member : frame ∈ stage.frames := frames ▸ List.mem_cons_self
  have isOpen := scrubbing.nested.layered.laid.isOpen frame member
  have distinct := scrubbing.nested.guardsApart member
  obtain ⟨session, -, opens⟩ := scrubbing.hygienic.opened frame member
  obtain ⟨before, opened⟩ := frame
  cases opened with
  | session builder scope =>
    obtain ⟨-, unclosed, -⟩ := isOpen
    simp only [Stage.closeNewest_session frames, Scope.on_close unclosed, and_self, and_true]
    exact Scope.exitAll_drainedBy scope.session distinct _ _
  | bracket restore => cases opens

theorem closed (scrubbing : Scrubbing id start stage) :
    Hygienic stage.closeNewest.frames stage.closeNewest.started stage.closeNewest.held
      stage.closeNewest.world := by
  cases frames : stage.frames with
  | nil =>
    rw [Stage.closeNewest_nil frames]
    exact scrubbing.hygienic
  | cons frame older =>
    obtain ⟨drained, frames', started, held⟩ := scrubbing.drained frames
    have below : older.Sublist stage.frames := frames ▸ List.sublist_cons_self frame older
    have apart := scrubbing.nested.trackersApart
    rw [frames] at apart
    rw [frames', started, held]
    refine scrubbing.hygienic.kept below
      { nextObject := stage.closeNewest_sustains.nextObject
        nextConnection := drained.nextConnection
        classes := fun pool site => by rw [drained.pools pool]; exact Iff.rfl
        fewer := fun pool => ?_
        trackers := fun other member guard guarded => drained.trackers _ fun mine listed =>
          (List.pairwise_cons.1 apart).1 other member mine listed guard guarded }
    unfold World.connections
    rw [drained.pools pool]
    exact (((sublist_scrubbed _ _ _ _).append_left _).map _).subperm

theorem step (scrubbing : Scrubbing id start stage) (rest : ∀ site : PoolSite, site.AtRest start)
    {operation : Operation} (nests : operation.NestsSessions)
    (brings : operation.Brings Session.KeepsPrimitives) (clean : operation.IsClean stage) :
    Scrubbing id start (stage.step operation) := by
  have worn (site : PoolSite) : site.IsWorn (stage.step operation) :=
    (scrubbing.worn site).step scrubbing.nested (rest site) (fun builder member =>
      have kind := scrubbing.sessions.builders builder member
      ⟨kind.create site, kind.acquire site⟩) nests
  refine ⟨scrubbing.nested.step nests, worn,
    scrubbing.sessions.step scrubbing.nested.layered nests brings, ?_⟩
  cases operation with
  | register manifest => exact scrubbing.keepsPools (Attempt.registerBackend_keepsPools _ _ _)
  | newBuilder session catalog limit =>
    exact scrubbing.keepsPools (Builder.new_keepsPools stage.registry session stage.world)
  | build index =>
    simp only [Stage.step]
    split
    · exact scrubbing.hygienic
    · rename_i builder found
      have standard := scrubbing.nested.supplied.builders builder (List.mem_of_getElem? found)
      exact scrubbing.keepsPools standard.build_extends.keepsPools
  | enter index => exact nests.elim
  | start index =>
    cases found : stage.builders[index]? with
    | none =>
      simp only [Stage.step, found]
      exact scrubbing.hygienic
    | some builder =>
      simp only [Stage.step, found] at worn ⊢
      have member := List.mem_of_getElem? found
      exact scrubbing.started member (clean builder found)
        (scrubbing.nested.layered.starts member) worn
  | restore => exact nests.elim
  | close => exact scrubbing.closed
  | newPool pool => exact scrubbing.hygienic.newPool clean
  | getConnection pool =>
    obtain ⟨site, holds⟩ := clean
    exact scrubbing.getConnection (rest site) holds
  | newConnection pool =>
    obtain ⟨site, holds⟩ := clean
    exact scrubbing.newConnection (rest site) holds
  | putConnection index =>
    simp only [Stage.step, Stage.putBack]
    split
    · exact scrubbing.hygienic
    · rename_i pool connection found
      exact scrubbing.hygienic.putBack found
  | markDropped index => exact scrubbing.hygienic.marked index
  | call seam request => exact scrubbing.hygienic

theorem initial (id : RegistryId) {world : World}
    (rest : ∀ site : PoolSite, site.AtRest (world.registries.get id))
    (shelves : ∀ shelf, (world.shelves.get shelf).IsUnbound) (empty : world.HasEmptyPools) :
    Scrubbing id (world.registries.get id) (.initial id world) := by
  refine ⟨.initial id shelves, fun site => (rest site).initial id, .initial _ id world, ?_⟩
  have none (pool : PoolId) : world.connections [] pool = [] := empty.idle pool
  exact
    { existing := fun pool site => empty.existing site pool
      classed := fun pool some => absurd (none pool) some
      owners := fun pool connection member => by cases none pool ▸ member
      distinct := fun pool => by
        rw [Stage.initial, none]
        exact .nil
      issued := fun pool connection member => by cases none pool ▸ member
      covered := fun pool site holds connection member => by cases none pool ▸ member
      sessions := .nil
      opened := fun frame member => nomatch member
      guards := fun frame member => nomatch member }

theorem of_reachable {id : RegistryId} {world : World} {stage : Stage} {kind : Session → Prop}
    (keeps : ∀ {session}, kind session → session.KeepsPrimitives)
    (rest : ∀ site : PoolSite, site.AtRest (world.registries.get id))
    (shelves : ∀ shelf, (world.shelves.get shelf).IsUnbound) (empty : world.HasEmptyPools)
    (reached : Stage.Reachable (Operation.RunsClean kind) (.initial id world) stage) :
    Scrubbing id (world.registries.get id) stage :=
  reached.invariant (initial id rest shelves empty) fun _ scrubbing fits =>
    scrubbing.step rest fits.1 (fits.2.1.mono keeps) fits.2.2

/-- Closing a frame takes the instances of its layer's type out of the pools of a class, and nothing
where it laid no layer. -/
theorem idle_closed (scrubbing : Scrubbing id start stage) {frame : Frame} {older : List Frame}
    (frames : stage.frames = frame :: older) (holds : site.Holds (stage.world.pools.get pool)) :
    (stage.closeNewest.world.pools.get pool).idle =
      match frame.layer? site with
      | none => (stage.world.pools.get pool).idle
      | some layer => (stage.world.pools.get pool).idle.filter fun connection =>
        !connection.isInstanceOf layer.guard.connectionType := by
  have member : frame ∈ stage.frames := frames ▸ List.mem_cons_self
  have hygienic := scrubbing.hygienic
  rw [(scrubbing.drained frames).1.pools pool]
  dsimp only
  -- only the guard of the frame's layer over the class tracks anything in the pool
  have laying {guard : PoolGuard} (guarded : guard ∈ frame.guards)
      (tracks : (stage.world.trackers.get guard.tracker).tracked pool ≠ []) :
      ∃ layer, frame.layer? site = some layer ∧ layer.guard.tracker = guard.tracker := by
    obtain ⟨other, layer, holds', laid, same⟩ :=
      hygienic.guards frame member guard guarded pool tracks
    obtain rfl := PoolSite.eq_of_holds holds holds'
    exact ⟨layer, laid, same⟩
  cases laid : frame.layer? site with
  | none =>
    refine scrubbed_untracked (fun guard guarded => ?_) _
    by_contra tracks
    obtain ⟨layer, laid', -⟩ := laying guarded tracks
    cases laid.symm.trans laid'
  | some layer =>
    have guarded := Frame.guard_mem_of_layer laid
    rw [scrubbed_sole (scrubbing.nested.guardsApart member) guarded fun guard guarded' other => ?_,
      scrubbing.nested.tracking layer.guard (Stage.mem_guards member guarded)]
    · have listed {connection : Connection}
          (idle : connection ∈ (stage.world.pools.get pool).idle) :
          connection ∈ stage.world.connections stage.held pool :=
        List.mem_append_right _ idle
      refine idle_sift (fun connection idle => ?_) ?_
      · exact (hygienic.covered pool site holds connection (listed idle) frame member).tracked
          layer laid
      · have distinct := hygienic.distinct pool
        rw [connections, List.map_append] at distinct
        exact distinct.of_append_right
    · by_contra tracks
      obtain ⟨layer', laid', same⟩ := laying guarded' tracks
      cases laid.symm.trans laid'
      exact other same.symm

theorem idle_unclassed (scrubbing : Scrubbing id start stage) {frame : Frame}
    {older : List Frame} (frames : stage.frames = frame :: older)
    (unclassed : ∀ site : PoolSite, ¬site.Holds (stage.world.pools.get pool)) :
    (stage.world.pools.get pool).idle = [] ∧
      (stage.closeNewest.world.pools.get pool).idle = [] := by
  have none : stage.world.connections stage.held pool = [] := by
    by_contra some
    obtain ⟨site, holds⟩ := scrubbing.hygienic.classed pool some
    exact unclassed site holds
  have before := (List.append_eq_nil_iff.1 none).2
  refine ⟨before, ?_⟩
  rw [(scrubbing.drained frames).1.pools pool, before]
  exact List.sublist_nil.1 (sublist_scrubbed _ _ _ _)

/-- What a session opened has the type that its frame shows, so the guard of its layer counts all of
its connections or none of them. -/
theorem isInstanceOf_eq (scrubbing : Scrubbing id start stage)
    (holds : site.Holds (stage.world.pools.get pool)) {frame : Frame}
    (member : frame ∈ stage.frames) {type : TransportType} {owner? : Option SessionId}
    (shown : frame.shown? site.connectionType = some ⟨.transport type, owner?⟩)
    {session : SessionId} (opens : frame.session? = some session) {layer : PoolLayer}
    (laid : frame.layer? site = some layer) {connection : Connection}
    (idle : connection ∈ (stage.world.pools.get pool).idle) :
    connection.isInstanceOf layer.guard.connectionType =
      (connection.owner? = some session && type.derivesFrom layer.guard.connectionType) := by
  obtain ⟨older, builder, dresses⟩ := (scrubbing.worn site).dressed.of_mem member
  have owned : layer.guard.connectionType.owner? = some session := by
    rw [Frame.session?, dresses.session] at opens
    exact (dresses.layer layer laid).2.2.2.trans opens
  by_cases own : connection.owner? = some session
  · obtain ⟨_, shown'⟩ := (scrubbing.hygienic.covered pool site holds connection
      (List.mem_append_right _ idle) frame member).typed session opens own
    obtain ⟨value, -⟩ := Binding.mk.inj (Option.some.inj (shown'.symm.trans shown))
    simp [Connection.isInstanceOf, owned, own, SeamValue.transport.inj value]
  · simp [Connection.isInstanceOf, owned, own, Ne.symm own]

theorem idle_closed_shown (scrubbing : Scrubbing id start stage) {frame : Frame}
    {older : List Frame} (frames : stage.frames = frame :: older)
    (holds : site.Holds (stage.world.pools.get pool)) {type : TransportType}
    {owner? : Option SessionId}
    (shown : frame.shown? site.connectionType = some ⟨.transport type, owner?⟩)
    {session : SessionId} (opens : frame.session? = some session) :
    (stage.closeNewest.world.pools.get pool).idle =
      if (frame.layer? site).any fun layer => type.derivesFrom layer.guard.connectionType
      then (stage.world.pools.get pool).idle.filter (·.owner? ≠ some session)
      else (stage.world.pools.get pool).idle := by
  have member : frame ∈ stage.frames := frames ▸ List.mem_cons_self
  refine (scrubbing.idle_closed frames holds).trans ?_
  cases laid : frame.layer? site with
  | none => rfl
  | some layer =>
    have counts {connection : Connection}
        (idle : connection ∈ (stage.world.pools.get pool).idle) :=
      scrubbing.isInstanceOf_eq holds member shown opens laid idle
    simp only [Option.any_some]
    split
    · rename_i derives
      apply List.filter_congr
      intro connection idle
      simp [counts idle, derives]
    · rename_i foreign
      apply List.filter_eq_self.2
      intro connection idle
      simp [counts idle, foreign]

end Scrubbing

/-- The session leaves it to the adapters which connections are opened and handed out. -/
structure Session.LeavesPools (session : Session) : Prop where
  connectionType (site : PoolSite) : session.Leaves site.connectionType
  create (site : PoolSite) : session.Leaves site.create
  acquire (site : PoolSite) : session.Leaves site.acquire

theorem Session.LeavesPools.keepsPrimitives {session : Session} (leaves : session.LeavesPools) :
    session.KeepsPrimitives :=
  ⟨leaves.create, leaves.acquire, fun site => (leaves.connectionType site).retypes⟩

/-- In every run of nested sessions that leave pools to the adapters, with any pools of the classes
and connections that are taken, marked and given back in any order, closing the newest session takes
its own connections out of every idle stack and leaves all others there in their order. -/
theorem Stage.close_removesOwned {id : RegistryId} {world : World} {stage : Stage} {frame : Frame}
    {older : List Frame} (rest : ∀ site : PoolSite, site.AtRest (world.registries.get id))
    (shelves : ∀ shelf, (world.shelves.get shelf).IsUnbound) (empty : world.HasEmptyPools)
    (reached : Reachable (Operation.RunsClean Session.LeavesPools) (.initial id world) stage)
    (frames : stage.frames = frame :: older) :
    ∃ session, frame.session? = some session ∧ ∀ pool,
      ((stage.step .close).world.pools.get pool).idle =
        (stage.world.pools.get pool).idle.filter (·.owner? ≠ some session) := by
  have clean {stage : Stage}
      (reached : Reachable (Operation.RunsClean Session.LeavesPools) (.initial id world) stage) :
      Scrubbing id (world.registries.get id) stage :=
    .of_reachable Session.LeavesPools.keepsPrimitives rest shelves empty reached
  have leaving : stage.AllSessions Session.LeavesPools :=
    reached.invariant (.initial _ id world) fun before leaving fits =>
      leaving.step (clean before).nested.layered fits.1 fits.2.1
  have scrubbing := clean reached
  have member : frame ∈ stage.frames := frames ▸ List.mem_cons_self
  obtain ⟨session, -, opens⟩ := scrubbing.hygienic.opened frame member
  refine ⟨session, opens, fun pool => ?_⟩
  by_cases classed : ∃ site : PoolSite, site.Holds (stage.world.pools.get pool)
  · obtain ⟨site, holds⟩ := classed
    obtain ⟨below, builder, dresses⟩ := (scrubbing.worn site).dressed.of_mem member
    have leaves := leaving.frames frame member builder dresses.session
    have wears := dresses.type (leaves.connectionType site)
    unfold Frame.Wears at wears
    cases laid : frame.layer? site with
    | none =>
      -- without a layer the session has opened nothing in the pool
      rw [laid] at wears
      have closed := scrubbing.idle_closed frames holds
      rw [laid] at closed
      refine closed.trans (List.filter_eq_self.2 fun connection idle => ?_).symm
      have covers := scrubbing.hygienic.covered pool site holds connection
        (List.mem_append_right _ idle) frame member
      apply decide_eq_true
      intro owned
      obtain ⟨_, shown⟩ := covers.typed session opens owned
      cases wears.symm.trans shown
    | some layer =>
      rw [laid] at wears
      obtain ⟨_, shown, rfl⟩ := wears
      refine (scrubbing.idle_closed_shown frames holds shown opens).trans (if_pos ?_)
      rw [laid]
      exact TransportType.derivesFrom_self _
  · obtain ⟨before, after⟩ := scrubbing.idle_unclassed frames (not_exists.1 classed)
    rw [before]
    exact after

private def readyStage : Stage :=
  ((Stage.initial ⟨0⟩ pooledWorld).step
    (.newBuilder ⟨⟨"tape"⟩, [], .standard ⟨0⟩⟩ (Catalog.standard.without []) 4)).step
      (.newPool (pool .pooled "HttpConnectionPool" "host"))

private def sharedStage : Stage :=
  readyStage.step (.getConnection ⟨2⟩)

private def startedStage : Stage :=
  sharedStage.step (.start 0)

/-- The session has taken one as well, and both have been given back. -/
private def mixedStage : Stage :=
  ((startedStage.step (.getConnection ⟨2⟩)).step (.putConnection 1)).step (.putConnection 0)

private theorem mixedStage_evaluated :
    httpSite.Holds (readyStage.world.pools.get ⟨2⟩) ∧ sharedStage.started = [] ∧
      httpSite.Holds (startedStage.world.pools.get ⟨2⟩) ∧ mixedStage.frames.length = 1 ∧
      (mixedStage.world.pools.get ⟨2⟩).idle.map Connection.owner? = [some ⟨"tape"⟩, none] := by
  decide +kernel

theorem Stage.close_removesOwned_mixed :
    (mixedStage.world.pools.get ⟨2⟩).idle.map Connection.owner? = [some ⟨"tape"⟩, none] ∧
      ∃ session, ∀ pool, ((mixedStage.step .close).world.pools.get pool).idle =
        (mixedStage.world.pools.get pool).idle.filter (·.owner? ≠ some session) := by
  obtain ⟨ready, unused, serving, single, owners⟩ := mixedStage_evaluated
  have begun : Reachable (Operation.RunsClean Session.LeavesPools)
      (.initial ⟨0⟩ pooledWorld) (.initial ⟨0⟩ pooledWorld) := .start
  have prepared : Reachable (Operation.RunsClean Session.LeavesPools)
      (.initial ⟨0⟩ pooledWorld) readyStage :=
    (begun.step (.newBuilder ⟨⟨"tape"⟩, [], .standard ⟨0⟩⟩ (Catalog.standard.without []) 4)
      ⟨⟨⟨_, rfl⟩, [], rfl⟩, ⟨fun _ _ member => (nomatch member),
        fun _ _ member => (nomatch member), fun _ _ member => (nomatch member)⟩, trivial⟩).step
          (.newPool (pool .pooled "HttpConnectionPool" "host")) ⟨trivial, trivial, rfl⟩
  have shared : Reachable (Operation.RunsClean Session.LeavesPools)
      (.initial ⟨0⟩ pooledWorld) sharedStage :=
    prepared.step (.getConnection ⟨2⟩) ⟨trivial, trivial, httpSite, ready⟩
  have started : Reachable (Operation.RunsClean Session.LeavesPools)
      (.initial ⟨0⟩ pooledWorld) startedStage :=
    shared.step (.start 0) ⟨trivial, trivial, fun _ _ => unused ▸ List.not_mem_nil⟩
  have mixed : Reachable (Operation.RunsClean Session.LeavesPools)
      (.initial ⟨0⟩ pooledWorld) mixedStage :=
    ((started.step (.getConnection ⟨2⟩) ⟨trivial, trivial, httpSite, serving⟩).step
      (.putConnection 1) ⟨trivial, trivial, trivial⟩).step (.putConnection 0)
        ⟨trivial, trivial, trivial⟩
  obtain ⟨frame, frames⟩ := List.length_eq_one_iff.1 single
  obtain ⟨session, -, removed⟩ := close_removesOwned pooledWorld_atRest pooledWorld_unbound
    pooledWorld_hasEmptyPools mixed frames
  exact ⟨owners, session, removed⟩

end TransportSeams

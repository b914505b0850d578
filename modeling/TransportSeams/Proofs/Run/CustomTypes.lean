import TransportSeams.Proofs.Run.Scrubbing

/-!
Connection types of a session's own. A custom patch at the connection type of a pool class stands
over the adapter's: connections then have the type of the patch, while the guard of the session's
layer goes on tracking the type of the adapter. Closing the session removes its connections where
the one type derives from the other, and leaves all of them in the pools where it does not.
-/

set_option autoImplicit false
set_option relaxedAutoImplicit false

namespace TransportSeams

open World Reference

/-- In every run of nested sessions that put nothing but types with a session slot where a pool
class holds its connection type: closing the newest session, whose frame shows a type there, takes
all of its connections out of a pool of the class if its layer tracks a type that the shown one
derives from, and none of them otherwise. -/
theorem Stage.close_removesDerived {id : RegistryId} {world : World} {stage : Stage} {frame : Frame}
    {older : List Frame} {site : PoolSite} {pool : PoolId} {type : TransportType}
    {owner? : Option SessionId} (rest : ∀ site : PoolSite, site.AtRest (world.registries.get id))
    (shelves : ∀ shelf, (world.shelves.get shelf).IsUnbound) (empty : world.HasEmptyPools)
    (reached : Reachable (Operation.RunsClean Session.KeepsPrimitives) (.initial id world) stage)
    (frames : stage.frames = frame :: older) (holds : site.Holds (stage.world.pools.get pool))
    (shown : frame.shown? site.connectionType = some ⟨.transport type, owner?⟩) :
    ∃ session, frame.session? = some session ∧ type.owner? = some session ∧
      ((stage.step .close).world.pools.get pool).idle =
        if (frame.layer? site).any fun layer => type.derivesFrom layer.guard.connectionType
        then (stage.world.pools.get pool).idle.filter (·.owner? ≠ some session)
        else (stage.world.pools.get pool).idle := by
  have scrubbing := Scrubbing.of_reachable (fun keeps => keeps) rest shelves empty reached
  have member : frame ∈ stage.frames := frames ▸ List.mem_cons_self
  obtain ⟨session, -, opens⟩ := scrubbing.hygienic.opened frame member
  obtain ⟨below, builder, dresses⟩ := (scrubbing.worn site).dressed.of_mem member
  have keeps := scrubbing.sessions.frames frame member builder dresses.session
  obtain ⟨type', value, owned⟩ := dresses.retyped (keeps.retypes site) _ shown
  obtain rfl : type = type' := SeamValue.transport.inj value
  refine ⟨session, opens, ?_, scrubbing.idle_closed_shown frames holds shown opens⟩
  rw [owned, ← opens, Frame.session?, dresses.session]
  rfl

private def customSession : Session :=
  ⟨⟨"cassette"⟩,
    [⟨httpSite.connectionType, .transport (.root ⟨⟨99⟩, "CustomHttp", .unbound⟩)⟩], .standard ⟨0⟩⟩

private theorem customSession_keepsPrimitives : customSession.KeepsPrimitives := by
  have sole {spec : PatchSpec} (member : spec ∈ customSession.customPatches) :
      spec = ⟨httpSite.connectionType, .transport (.root ⟨⟨99⟩, "CustomHttp", .unbound⟩)⟩ :=
    List.mem_singleton.1 member
  refine ⟨fun site spec member => ?_, fun site spec member => ?_, fun site spec member _ => ?_⟩
  · rw [sole member]
    simp [PoolSite.connectionType, PoolSite.create, Seam.connectionType, Seam.create]
  · rw [sole member]
    simp [PoolSite.connectionType, PoolSite.acquire, Seam.connectionType, Seam.acquire]
  · rw [sole member]
    exact ⟨_, rfl, rfl⟩

private def customStage : Stage :=
  (((Stage.initial ⟨0⟩ pooledWorld).step
    (.newBuilder customSession (Catalog.standard.without []) 4)).step
      (.newPool (pool .pooled "HttpConnectionPool" "host"))).step (.start 0)

/-- The session has taken a connection and given it back. -/
private def leakingStage : Stage :=
  (customStage.step (.getConnection ⟨2⟩)).step (.putConnection 0)

private theorem leakingStage_evaluated :
    httpSite.Holds (customStage.world.pools.get ⟨2⟩) ∧
      httpSite.Holds (leakingStage.world.pools.get ⟨2⟩) ∧
      (leakingStage.frames.map fun frame =>
        ((frame.shown? httpSite.connectionType).bind (·.value.asTransport?)).isSome) = [true] ∧
      leakingStage.held = [] ∧
      leakingStage.frames.map Frame.session? = [some ⟨"cassette"⟩] ∧
      ((leakingStage.step .close).world.pools.get ⟨2⟩).idle.map Connection.owner? =
        [some ⟨"cassette"⟩] ∧
      (leakingStage.step .close).frames.map Frame.session? = [] ∧
      ((leakingStage.step .close).step (.getConnection ⟨2⟩)).held.map (·.2.owner?) =
        [some ⟨"cassette"⟩] := by
  decide +kernel

private theorem leakingStage_reachable :
    Stage.Reachable (Operation.RunsClean Session.KeepsPrimitives) (.initial ⟨0⟩ pooledWorld)
      leakingStage := by
  have begun : Stage.Reachable (Operation.RunsClean Session.KeepsPrimitives)
      (.initial ⟨0⟩ pooledWorld) (.initial ⟨0⟩ pooledWorld) := .start
  have prepared := (begun.step (.newBuilder customSession (Catalog.standard.without []) 4)
    ⟨⟨⟨_, rfl⟩, [], rfl⟩, customSession_keepsPrimitives, trivial⟩).step
      (.newPool (pool .pooled "HttpConnectionPool" "host")) ⟨trivial, trivial, rfl⟩
  have custom : Stage.Reachable (Operation.RunsClean Session.KeepsPrimitives)
      (.initial ⟨0⟩ pooledWorld) customStage :=
    prepared.step (.start 0) ⟨trivial, trivial, fun _ _ => List.not_mem_nil⟩
  exact (custom.step (.getConnection ⟨2⟩)
    ⟨trivial, trivial, httpSite, leakingStage_evaluated.1⟩).step
      (.putConnection 0) ⟨trivial, trivial, trivial⟩

theorem Stage.close_removesDerived_custom :
    ∃ (frame : Frame) (session : SessionId) (type : TransportType),
      leakingStage.frames = [frame] ∧ type.owner? = some session ∧
      ((leakingStage.step .close).world.pools.get ⟨2⟩).idle =
        if (frame.layer? httpSite).any fun layer => type.derivesFrom layer.guard.connectionType
        then (leakingStage.world.pools.get ⟨2⟩).idle.filter (·.owner? ≠ some session)
        else (leakingStage.world.pools.get ⟨2⟩).idle := by
  obtain ⟨-, holds, single, -⟩ := leakingStage_evaluated
  obtain ⟨frame, frames, shows⟩ := List.map_eq_singleton_iff.1 single
  obtain ⟨type, shows⟩ := Option.isSome_iff_exists.1 shows
  obtain ⟨⟨value, owner?⟩, shown, typed⟩ := Option.bind_eq_some_iff.1 shows
  obtain rfl := SeamValue.eq_transport typed
  obtain ⟨session, -, owned, left⟩ := close_removesDerived pooledWorld_atRest pooledWorld_unbound
    pooledWorld_hasEmptyPools leakingStage_reachable frames holds shown
  exact ⟨frame, session, type, frames, owned, left⟩

/-- Nothing is checked out any more, and still the session's connection outlives it: the pool hands
it out when no session is open. -/
theorem Stage.close_leaksCustomType :
    Reachable (Operation.RunsClean Session.KeepsPrimitives) (.initial ⟨0⟩ pooledWorld)
      leakingStage ∧
    leakingStage.held = [] ∧
    leakingStage.frames.map Frame.session? = [some ⟨"cassette"⟩] ∧
    ((leakingStage.step .close).world.pools.get ⟨2⟩).idle.map Connection.owner? =
      [some ⟨"cassette"⟩] ∧
    (leakingStage.step .close).frames.map Frame.session? = [] ∧
    ((leakingStage.step .close).step (.getConnection ⟨2⟩)).held.map (·.2.owner?) =
      [some ⟨"cassette"⟩] :=
  ⟨leakingStage_reachable, leakingStage_evaluated.2.2.2⟩

end TransportSeams

import Mathlib.Data.List.Perm.Subperm
import TransportSeams.Proofs.Pool.Draining
import TransportSeams.Proofs.Run.Pooling

/-!
Pool hygiene. What an open session opened is idle in a pool only while the session's tracker tracks
it there, so that closing the session finds all of it. What holds of a run for this is `Hygienic`:
it speaks of the connections of each pool, idle or checked out.
-/

set_option autoImplicit false
set_option relaxedAutoImplicit false

namespace TransportSeams

open World

/-- What a connection is, whether it is marked as dropped or not. -/
def Connection.tag (connection : Connection) : ConnectionId × TransportType :=
  (connection.id, connection.transport)

def checkedOut (held : List (PoolId × Connection)) (pool : PoolId) : List Connection :=
  (held.filter (·.1 = pool)).map Prod.snd

theorem checkedOut_cons (pool other : PoolId) (connection : Connection)
    (held : List (PoolId × Connection)) :
    checkedOut ((pool, connection) :: held) other =
      if pool = other then connection :: checkedOut held other else checkedOut held other := by
  unfold checkedOut
  by_cases here : pool = other <;> simp [here]

def World.connections (world : World) (held : List (PoolId × Connection)) (pool : PoolId) :
    List Connection :=
  checkedOut held pool ++ (world.pools.get pool).idle

namespace Frame

theorem guard_mem_of_layer {site : PoolSite} {frame : Frame} {layer : PoolLayer}
    (laid : frame.layer? site = some layer) : layer.guard ∈ frame.guards := by
  unfold layer? at laid
  split at laid
  · obtain ⟨guard, found, rfl⟩ := Option.map_eq_some_iff.1 laid
    exact List.mem_of_find?_eq_some found
  · cases laid

/-- A connection of a pool of the class that the frame's layer would remove is tracked for it, and
one that the frame's session owns has the type that the frame shows. -/
structure Covers (frame : Frame) (site : PoolSite) (world : World) (pool : PoolId)
    (connection : Connection) : Prop where
  tracked (layer : PoolLayer) : frame.layer? site = some layer →
    connection.isInstanceOf layer.guard.connectionType = true →
      connection.id ∈ (world.trackers.get layer.guard.tracker).tracked pool
  typed (session : SessionId) : frame.session? = some session →
    connection.owner? = some session →
      ∃ owner?, frame.shown? site.connectionType = some ⟨.transport connection.transport, owner?⟩

end Frame

structure Hygienic (frames : List Frame) (started : List SessionId)
    (held : List (PoolId × Connection)) (world : World) : Prop where
  existing (pool : PoolId) (site : PoolSite) :
    site.Holds (world.pools.get pool) → pool.index < world.nextObject
  classed (pool : PoolId) :
    world.connections held pool ≠ [] → ∃ site : PoolSite, site.Holds (world.pools.get pool)
  owners (pool : PoolId) : ∀ connection ∈ world.connections held pool, ∀ session,
    connection.owner? = some session → session ∈ started
  distinct (pool : PoolId) : ((world.connections held pool).map Connection.id).Nodup
  issued (pool : PoolId) : ∀ connection ∈ world.connections held pool,
    connection.id.index < world.nextConnection.index
  covered (pool : PoolId) (site : PoolSite) : site.Holds (world.pools.get pool) →
    ∀ connection ∈ world.connections held pool, ∀ frame ∈ frames,
      frame.Covers site world pool connection
  /-- No two open frames are of the same session. -/
  sessions : frames.Pairwise fun a b => a.session? ≠ b.session?
  opened : ∀ frame ∈ frames, ∃ session ∈ started, frame.session? = some session
  /-- A tracker tracks connections only in pools of the class that its guard's layer is for. -/
  guards : ∀ frame ∈ frames, ∀ guard ∈ frame.guards, ∀ pool,
    (world.trackers.get guard.tracker).tracked pool ≠ [] → ∃ (site : PoolSite) (layer : PoolLayer),
      site.Holds (world.pools.get pool) ∧ frame.layer? site = some layer ∧
        layer.guard.tracker = guard.tracker

/-- The second world has the pools of the first one and no further connections of them, with the
same trackers for the guards of the frames. -/
structure World.Keeps (frames : List Frame) (old : World) (held : List (PoolId × Connection))
    (new : World) (held' : List (PoolId × Connection)) : Prop where
  nextObject : old.nextObject ≤ new.nextObject
  nextConnection : new.nextConnection = old.nextConnection
  classes (pool : PoolId) (site : PoolSite) :
    site.Holds (new.pools.get pool) ↔ site.Holds (old.pools.get pool)
  fewer (pool : PoolId) : ((new.connections held' pool).map Connection.tag).Subperm
    ((old.connections held pool).map Connection.tag)
  trackers : ∀ frame ∈ frames, ∀ guard ∈ frame.guards,
    new.trackers.get guard.tracker = old.trackers.get guard.tracker

structure World.KeepsPools (old new : World) : Prop where
  pools : new.pools = old.pools
  nextConnection : new.nextConnection = old.nextConnection
  nextObject : old.nextObject ≤ new.nextObject
  trackers (id : TrackerId) :
    id.index < old.nextObject → new.trackers.get id = old.trackers.get id

instance : IsPreorder World World.KeepsPools where
  refl _ := ⟨rfl, rfl, Nat.le_refl _, fun _ _ => rfl⟩
  trans _ _ _ first second :=
    { pools := second.pools.trans first.pools
      nextConnection := second.nextConnection.trans first.nextConnection
      nextObject := Nat.le_trans first.nextObject second.nextObject
      trackers := fun id earlier =>
        (second.trackers id (Nat.lt_of_lt_of_le earlier first.nextObject)).trans
          (first.trackers id earlier) }

theorem World.Extends.keepsPools {old new : World} (grown : old.Extends new) :
    old.KeepsPools new :=
  ⟨grown.pools, grown.nextConnection, grown.nextObject, grown.trackers⟩

theorem World.DiffersAtSeams.keepsPools {old new : World} (differs : old.DiffersAtSeams new) :
    old.KeepsPools new := by
  unfold DiffersAtSeams at differs
  rw [differs]
  exact ⟨rfl, rfl, Nat.le_refl _, fun _ _ => rfl⟩

theorem Attempt.registerBackend_keepsPools (id : RegistryId) (manifest : Manifest) :
    (registerBackend id manifest).Moves KeepsPools := by
  intro world
  cases registered : (world.registries.get id).register manifest with
  | error error =>
    rw [on_registerBackend_refused registered]
    exact refl_of KeepsPools world
  | ok outcome =>
    rw [on_registerBackend registered]
    exact ⟨rfl, rfl, Nat.le_refl _, fun _ _ => rfl⟩

theorem Builder.new_keepsPools (registry : RegistryId) (session : Session) :
    (Builder.new registry session).Moves KeepsPools :=
  fun _ => ⟨rfl, rfl, Nat.le_succ _, fun _ _ => rfl⟩

namespace World.Keeps

variable {frames : List Frame} {old new : World} {held held' : List (PoolId × Connection)}

theorem of_keepsPools (kept : old.KeepsPools new)
    (issued : ∀ frame ∈ frames, ∀ guard ∈ frame.guards, guard.tracker.index < old.nextObject) :
    old.Keeps frames held new held where
  nextObject := kept.nextObject
  nextConnection := kept.nextConnection
  classes pool site := by rw [kept.pools]
  fewer pool := by
    unfold connections
    rw [kept.pools]
  trackers frame member guard guarded := kept.trackers _ (issued frame member guard guarded)

theorem withIdle {pool : PoolId} {idle : List Connection} (trace : List Event)
    (here : ((checkedOut held' pool ++ idle).map Connection.tag).Subperm
      ((old.connections held pool).map Connection.tag))
    (others : ∀ other, other ≠ pool → ((checkedOut held' other).map Connection.tag).Subperm
      ((checkedOut held other).map Connection.tag)) :
    old.Keeps frames held ((old.withIdle pool idle).withTrace trace) held' where
  nextObject := Nat.le_refl _
  nextConnection := rfl
  classes other site := by
    show site.Holds ((old.withIdle pool idle).pools.get other) ↔ _
    by_cases same : other = pool
    · rw [same, pool_withIdle]
      exact Iff.rfl
    · rw [old.pool_withIdle_of_ne (Ne.symm same)]
  fewer other := by
    show ((checkedOut held' other ++ ((old.withIdle pool idle).pools.get other).idle).map
      Connection.tag).Subperm _
    by_cases same : other = pool
    · rw [same, pool_withIdle]
      exact here
    · rw [old.pool_withIdle_of_ne (Ne.symm same), connections, List.map_append, List.map_append]
      exact (List.subperm_append_right _).2 (others other same)
  trackers _ _ _ _ := rfl

theorem holding (fewer : ∀ pool, ((checkedOut held' pool).map Connection.tag).Subperm
    ((checkedOut held pool).map Connection.tag)) : old.Keeps frames held old held' where
  nextObject := Nat.le_refl _
  nextConnection := rfl
  classes _ _ := Iff.rfl
  fewer pool := by
    rw [connections, connections, List.map_append, List.map_append]
    exact (List.subperm_append_right _).2 (fewer pool)
  trackers _ _ _ _ := rfl

theorem before (keeps : old.Keeps frames held new held') {pool : PoolId} {connection : Connection}
    (member : connection ∈ new.connections held' pool) :
    ∃ other ∈ old.connections held pool, other.id = connection.id ∧
      other.transport = connection.transport := by
  have tagged := (keeps.fewer pool).subset (List.mem_map_of_mem member)
  obtain ⟨other, listed, same⟩ := List.mem_map.1 tagged
  obtain ⟨id, transport⟩ := Prod.mk.inj same
  exact ⟨other, listed, id, transport⟩

theorem ids (keeps : old.Keeps frames held new held') (pool : PoolId)
    (distinct : ((old.connections held pool).map Connection.id).Nodup) :
    ((new.connections held' pool).map Connection.id).Nodup := by
  obtain ⟨some, perm, sub⟩ := keeps.fewer pool
  have ids (connections : List Connection) :
      connections.map Connection.id = (connections.map Connection.tag).map Prod.fst := by
    rw [List.map_map]
    rfl
  rw [ids] at distinct ⊢
  exact (perm.map Prod.fst).nodup_iff.1 (distinct.sublist (sub.map Prod.fst))

end World.Keeps

theorem Hygienic.kept {frames frames' : List Frame} {started : List SessionId}
    {held held' : List (PoolId × Connection)} {world world' : World}
    (hygienic : Hygienic frames started held world) (fewer : frames'.Sublist frames)
    (keeps : world.Keeps frames' held world' held') : Hygienic frames' started held' world' where
  existing pool site holds := by
    have before := hygienic.existing pool site ((keeps.classes pool site).1 holds)
    have grown := keeps.nextObject
    omega
  classed pool some := by
    obtain ⟨connection, member⟩ := List.exists_mem_of_ne_nil _ some
    obtain ⟨other, listed, -⟩ := keeps.before member
    obtain ⟨site, holds⟩ := hygienic.classed pool (List.ne_nil_of_mem listed)
    exact ⟨site, (keeps.classes pool site).2 holds⟩
  owners pool connection member session owned := by
    obtain ⟨other, listed, -, transport⟩ := keeps.before member
    apply hygienic.owners pool other listed session
    rw [Connection.owner?, transport]
    exact owned
  distinct pool := keeps.ids pool (hygienic.distinct pool)
  issued pool connection member := by
    obtain ⟨other, listed, id, -⟩ := keeps.before member
    rw [keeps.nextConnection, ← id]
    exact hygienic.issued pool other listed
  covered pool site holds connection member frame listed := by
    obtain ⟨other, before, id, transport⟩ := keeps.before member
    have covers := hygienic.covered pool site ((keeps.classes pool site).1 holds) other before frame
      (fewer.subset listed)
    refine ⟨fun layer laid accepted => ?_, fun session opened owned => ?_⟩
    · rw [keeps.trackers frame listed _ (Frame.guard_mem_of_layer laid), ← id]
      apply covers.tracked layer laid
      rw [Connection.isInstanceOf, Connection.owner?, transport]
      exact accepted
    · rw [← transport]
      apply covers.typed session opened
      rw [Connection.owner?, transport]
      exact owned
  sessions := hygienic.sessions.sublist fewer
  opened frame listed := hygienic.opened frame (fewer.subset listed)
  guards frame listed guard guarded pool some := by
    rw [keeps.trackers frame listed guard guarded] at some
    obtain ⟨site, layer, holds, laid, same⟩ :=
      hygienic.guards frame (fewer.subset listed) guard guarded pool some
    exact ⟨site, layer, (keeps.classes pool site).2 holds, laid, same⟩

theorem Hygienic.started {frames : List Frame} {started : List SessionId}
    {held : List (PoolId × Connection)} {world : World}
    (hygienic : Hygienic frames started held world) {frame : Frame} {session : SessionId}
    (opens : frame.session? = some session) (fresh : session ∉ started)
    (empty : ∀ guard ∈ frame.guards, ∀ pool,
      (world.trackers.get guard.tracker).tracked pool = [])
    (owned : ∀ site layer, frame.layer? site = some layer →
      layer.guard.connectionType.owner? = some session) :
    Hygienic (frame :: frames) (session :: started) held world where
  existing := hygienic.existing
  classed := hygienic.classed
  owners pool connection member opener owner :=
    List.mem_cons_of_mem session (hygienic.owners pool connection member opener owner)
  distinct := hygienic.distinct
  issued := hygienic.issued
  covered pool site holds connection member other listed := by
    have foreign : connection.owner? ≠ some session :=
      fun owner => fresh (hygienic.owners pool connection member session owner)
    rcases List.mem_cons.1 listed with rfl | listed
    · refine ⟨fun layer laid accepted => ?_, fun opener opens' owner => ?_⟩
      · exact absurd (Connection.owner?_of_isInstanceOf (owned site layer laid) accepted) foreign
      · obtain rfl := Option.some.inj (opens'.symm.trans opens)
        exact absurd owner foreign
    · exact hygienic.covered pool site holds connection member other listed
  sessions := by
    refine List.pairwise_cons.2 ⟨fun other listed same => ?_, hygienic.sessions⟩
    obtain ⟨opener, begun, opens'⟩ := hygienic.opened other listed
    obtain rfl := Option.some.inj (opens.symm.trans (same.trans opens'))
    exact fresh begun
  opened other listed := by
    rcases List.mem_cons.1 listed with rfl | listed
    · exact ⟨session, List.mem_cons_self, opens⟩
    · obtain ⟨opener, begun, opens'⟩ := hygienic.opened other listed
      exact ⟨opener, List.mem_cons_of_mem session begun, opens'⟩
  guards other listed guard guarded pool some := by
    rcases List.mem_cons.1 listed with rfl | listed
    · exact absurd (empty guard guarded pool) some
    · exact hygienic.guards other listed guard guarded pool some

theorem Hygienic.newPool {frames : List Frame} {started : List SessionId}
    {held : List (PoolId × Connection)} {world : World}
    (hygienic : Hygienic frames started held world) {pool : Pool} (empty : pool.idle = []) :
    Hygienic frames started held ((Action.newPool pool).on world).2 := by
  let new : PoolId := ⟨world.nextObject⟩
  have get (other : PoolId) : ((Action.newPool pool).on world).2.pools.get other =
      if new = other then pool else world.pools.get other :=
    Store.get_put world.pools new other pool
  have absent (site : PoolSite) : ¬site.Holds (world.pools.get new) :=
    fun holds => Nat.lt_irrefl _ (hygienic.existing new site holds)
  have unused : world.connections held new = [] := by
    by_contra some
    obtain ⟨site, holds⟩ := hygienic.classed new some
    exact absent site holds
  have connections (other : PoolId) :
      ((Action.newPool pool).on world).2.connections held other = world.connections held other := by
    unfold connections at unused ⊢
    rw [get]
    split
    · rename_i here
      subst here
      rw [unused, empty, (List.append_eq_nil_iff.1 unused).1]
      rfl
    · rfl
  -- where there are connections, the pool is an older one
  have older {other : PoolId} (some : world.connections held other ≠ []) :
      ((Action.newPool pool).on world).2.pools.get other = world.pools.get other := by
    rw [get, if_neg]
    rintro rfl
    exact some unused
  refine
    { existing := ?_, classed := ?_, owners := ?_, distinct := ?_, issued := ?_, covered := ?_
      sessions := hygienic.sessions, opened := hygienic.opened, guards := ?_ }
  · intro other site holds
    rw [get] at holds
    split at holds
    · rename_i here
      subst here
      exact Nat.lt_succ_self _
    · have before := hygienic.existing other site holds
      show other.index < world.nextObject + 1
      omega
  · intro other some
    rw [connections] at some
    rw [older some]
    exact hygienic.classed other some
  · simp only [connections]
    exact hygienic.owners
  · simp only [connections]
    exact hygienic.distinct
  · simp only [connections]
    exact hygienic.issued
  · intro other site holds connection member
    rw [connections] at member
    rw [older (List.ne_nil_of_mem member)] at holds
    intro frame listed
    obtain ⟨tracked, typed⟩ := hygienic.covered other site holds connection member frame listed
    exact ⟨tracked, typed⟩
  · intro frame listed guard guarded other some
    obtain ⟨site, layer, holds, laid, same⟩ := hygienic.guards frame listed guard guarded other some
    refine ⟨site, layer, ?_, laid, same⟩
    rw [get, if_neg]
    · exact holds
    · rintro rfl
      exact absent site holds

section Moving

variable {frames : List Frame} {started : List SessionId} {held : List (PoolId × Connection)}
  {world : World} {pool : PoolId} {idle : List Connection}

theorem Hygienic.lost (hygienic : Hygienic frames started held world)
    (below : idle.Sublist (world.pools.get pool).idle) (trace : List Event) :
    Hygienic frames started held ((world.withIdle pool idle).withTrace trace) := by
  refine hygienic.kept (List.Sublist.refl frames) (.withIdle trace ?_ fun _ _ => .refl _)
  exact ((below.append_left _).map _).subperm

theorem Hygienic.taken (hygienic : Hygienic frames started held world) {connection : Connection}
    (below : (connection :: idle).Sublist (world.pools.get pool).idle) (trace : List Event) :
    Hygienic frames started ((pool, connection) :: held)
      ((world.withIdle pool idle).withTrace trace) := by
  refine hygienic.kept (List.Sublist.refl frames) (.withIdle trace ?_ fun other different => ?_)
  · rw [checkedOut_cons, if_pos rfl]
    have moved : (connection :: checkedOut held pool ++ idle).Perm
        (checkedOut held pool ++ connection :: idle) :=
      List.perm_middle.symm
    exact (moved.map _).subperm.trans ((below.append_left _).map _).subperm
  · rw [checkedOut_cons, if_neg (Ne.symm different)]

theorem Hygienic.putBack (hygienic : Hygienic frames started held world) {index : Nat}
    {connection : Connection} (found : held[index]? = some (pool, connection)) :
    Hygienic frames started (held.eraseIdx index)
      (world.withIdle pool (connection :: (world.pools.get pool).idle)) := by
  refine hygienic.kept (List.Sublist.refl frames) (.withIdle world.trace ?_ fun other _ => ?_)
  · obtain ⟨bound, here⟩ := List.getElem?_eq_some_iff.1 found
    have held' := (List.getElem_cons_eraseIdx_perm bound).filter (·.1 = pool)
    rw [here, List.filter_cons_of_pos (by simp)] at held'
    have moved : (checkedOut (held.eraseIdx index) pool ++
        connection :: (world.pools.get pool).idle).Perm (world.connections held pool) :=
      List.perm_middle.trans ((held'.map Prod.snd).append_right _)
    exact (moved.map _).subperm
  · exact ((((List.eraseIdx_sublist held index).filter _).map _).map _).subperm

/-- Being marked as dropped changes neither what a connection is nor where it is. -/
theorem Hygienic.marked (hygienic : Hygienic frames started held world) (index : Nat) :
    Hygienic frames started
      (held.modify index fun entry => (entry.1, entry.2.markDropped)) world := by
  refine hygienic.kept (List.Sublist.refl frames) (.holding fun other => ?_)
  have same (held : List (PoolId × Connection)) : (checkedOut held other).map Connection.tag =
      ((held.map fun entry => (entry.1, entry.2.tag)).filter (·.1 = other)).map Prod.snd := by
    rw [List.filter_map, List.map_map]
    unfold checkedOut
    rw [List.map_map]
    rfl
  have tags : (held.modify index fun entry => (entry.1, entry.2.markDropped)).map
      (fun entry => (entry.1, entry.2.tag)) = held.map fun entry => (entry.1, entry.2.tag) := by
    clear hygienic same
    induction held generalizing index with
    | nil => cases index <;> rfl
    | cons entry rest ih =>
      cases index with
      | zero => rfl
      | succ index => simp only [List.modify_succ_cons, List.map_cons, ih]
  rw [same, same, tags]

end Moving

theorem World.connections_opening (world : World) (held : List (PoolId × Connection))
    (pool other : PoolId) (type : TransportType) (layers : List PoolLayer) :
    (world.opening pool type layers).connections ((pool, world.fresh pool type) :: held) other =
      if pool = other then world.fresh pool type :: world.connections held other
      else world.connections held other := by
  unfold connections
  rw [pools_opening, checkedOut_cons]
  split <;> rfl

theorem World.mem_connections_opening {world : World} {held : List (PoolId × Connection)}
    {pool other : PoolId} {type : TransportType} {layers : List PoolLayer} {connection : Connection}
    (member : connection ∈ (world.opening pool type layers).connections
      ((pool, world.fresh pool type) :: held) other) :
    (pool = other ∧ connection = world.fresh pool type) ∨
      connection ∈ world.connections held other := by
  rw [connections_opening] at member
  split at member
  · rename_i here
    rcases List.mem_cons.1 member with same | member
    · exact .inl ⟨here, same⟩
    · exact .inr member
  · exact .inr member

theorem World.mem_tracked_opening {world : World} {pool other : PoolId} {type : TransportType}
    {layers : List PoolLayer} {tracker : TrackerId} {id : ConnectionId} :
    id ∈ ((world.opening pool type layers).trackers.get tracker).tracked other ↔
      id ∈ (world.trackers.get tracker).tracked other ∨
        (∃ layer ∈ layers, layer.guard.tracker = tracker) ∧
          (world.fresh pool type).isInstanceOf (world.trackers.get tracker).connectionType = true ∧
            other = pool ∧ id = world.nextConnection :=
  mem_tracked_tracking

def TrackersApart (frames : List Frame) : Prop :=
  frames.Pairwise fun a b => ∀ guard ∈ a.guards, ∀ other ∈ b.guards, guard.tracker ≠ other.tracker

theorem TrackersApart.eq_of_tracker_eq {frames : List Frame} (apart : TrackersApart frames)
    {a b : Frame} (memberA : a ∈ frames) (memberB : b ∈ frames) {guard other : PoolGuard}
    (guarded : guard ∈ a.guards) (guarded' : other ∈ b.guards)
    (same : guard.tracker = other.tracker) : a = b := by
  have all : ∀ a ∈ frames, ∀ b ∈ frames, ∀ guard ∈ a.guards, ∀ other ∈ b.guards,
      guard.tracker = other.tracker → a = b := by
    refine fun a memberA b memberB => List.Pairwise.forall_of_forall_of_flip
      (R := fun a b => ∀ guard ∈ a.guards, ∀ other ∈ b.guards,
        guard.tracker = other.tracker → a = b)
      (fun _ _ _ _ _ _ _ => rfl) ?_ ?_ memberA memberB
    · exact apart.imp fun apart guard guarded other guarded' same =>
        absurd same (apart guard guarded other guarded')
    · exact apart.imp fun apart guard guarded other guarded' same =>
        absurd same.symm (apart other guarded' guard guarded)
  exact all a memberA b memberB guard guarded other guarded' same

section Opening

variable {frames : List Frame} {started : List SessionId} {held : List (PoolId × Connection)}
  {world : World} {site : PoolSite} {pool : PoolId} {type : TransportType}

theorem Hygienic.eq_of_session_eq (hygienic : Hygienic frames started held world) {a b : Frame}
    (memberA : a ∈ frames) (memberB : b ∈ frames) (same : a.session? = b.session?) : a = b :=
  List.inj_on_of_nodup_map (List.pairwise_map.2 hygienic.sessions) memberA memberB same

/-- A new connection is tracked by all layers of its class that it counts for, and what was tracked
stays tracked. -/
theorem Hygienic.opening (hygienic : Hygienic frames started held world)
    (holds : site.Holds (world.pools.get pool)) (apart : TrackersApart frames)
    (tracking : ∀ frame ∈ frames, ∀ guard ∈ frame.guards,
      (world.trackers.get guard.tracker).connectionType = guard.connectionType)
    (origin : ∀ session, type.owner? = some session → ∃ frame ∈ frames,
      frame.session? = some session ∧
        ∃ owner?, frame.shown? site.connectionType = some ⟨.transport type, owner?⟩) :
    Hygienic frames started ((pool, world.fresh pool type) :: held)
      (world.opening pool type (layers site frames)) := by
  have pools := world.pools_opening pool type (layers site frames)
  have nextObject := world.nextObject_opening pool type (layers site frames)
  have nextConnection := world.nextConnection_opening pool type (layers site frames)
  refine
    { existing := ?_, classed := ?_, owners := ?_, distinct := ?_, issued := ?_, covered := ?_
      sessions := hygienic.sessions, opened := hygienic.opened, guards := ?_ }
  · rw [pools, nextObject]
    exact hygienic.existing
  · intro other some
    rw [pools]
    obtain ⟨connection, member⟩ := List.exists_mem_of_ne_nil _ some
    rcases mem_connections_opening member with ⟨rfl, -⟩ | before
    · exact ⟨site, holds⟩
    · exact hygienic.classed other (List.ne_nil_of_mem before)
  · intro other connection member session owned
    rcases mem_connections_opening member with ⟨rfl, rfl⟩ | before
    · obtain ⟨frame, listed, session', -⟩ := origin session owned
      obtain ⟨opener, begun, named⟩ := hygienic.opened frame listed
      obtain rfl := Option.some.inj (named.symm.trans session')
      exact begun
    · exact hygienic.owners other connection before session owned
  · intro other
    rw [world.connections_opening]
    split
    · rw [List.map_cons]
      refine List.nodup_cons.2 ⟨fun reused => ?_, hygienic.distinct other⟩
      obtain ⟨connection, before, same⟩ := List.mem_map.1 reused
      have earlier := hygienic.issued other connection before
      have here : connection.id.index = world.nextConnection.index := congrArg _ same
      omega
    · exact hygienic.distinct other
  · intro other connection member
    rw [nextConnection]
    rcases mem_connections_opening member with ⟨rfl, rfl⟩ | before
    · exact Nat.lt_succ_self _
    · have earlier := hygienic.issued other connection before
      show connection.id.index < world.nextConnection.index + 1
      omega
  · intro other site' holds' connection member frame listed
    rw [pools] at holds'
    rcases mem_connections_opening member with ⟨rfl, rfl⟩ | before
    · obtain rfl := PoolSite.eq_of_holds holds holds'
      refine ⟨fun layer laid accepted => ?_, fun session begun owned => ?_⟩
      · have among : layer ∈ layers site frames := List.mem_filterMap.2 ⟨frame, listed, laid⟩
        refine mem_tracked_opening.2 (.inr ⟨⟨layer, among, rfl⟩, ?_, rfl, rfl⟩)
        rw [tracking frame listed _ (Frame.guard_mem_of_layer laid)]
        exact accepted
      · obtain ⟨opener, among, begun', shown⟩ := origin session owned
        obtain rfl := hygienic.eq_of_session_eq listed among (begun.trans begun'.symm)
        exact shown
    · have covers := hygienic.covered other site' holds' connection before frame listed
      refine ⟨fun layer laid accepted => ?_, covers.typed⟩
      exact mem_tracked_opening.2 (.inl (covers.tracked layer laid accepted))
  · intro frame listed guard guarded other some
    rw [pools]
    obtain ⟨id, member⟩ := List.exists_mem_of_ne_nil _ some
    rcases mem_tracked_opening.1 member with before | ⟨⟨layer, among, same⟩, -, rfl, -⟩
    · exact hygienic.guards frame listed guard guarded other (List.ne_nil_of_mem before)
    · obtain ⟨opener, listed', laid⟩ := List.mem_filterMap.1 among
      obtain rfl := apart.eq_of_tracker_eq listed listed' guarded (Frame.guard_mem_of_layer laid)
        same.symm
      exact ⟨site, layer, holds, laid, same⟩

end Opening

end TransportSeams

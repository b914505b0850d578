import Mathlib.Algebra.Ring.Nat
import Mathlib.Data.List.Induction
import TransportSeams.Proofs.Pool.Draining
import TransportSeams.Proofs.Pool.Serving

/-!
The exact rule of a drain. Where ids tell connections apart, only instances are tracked, so a drain
goes down an idle stack just as far as the tracked connections lie in it, or to the bottom when one
of them is not there. Of what it has passed it keeps what is no instance, in the same order.
-/

set_option autoImplicit false
set_option relaxedAutoImplicit false

namespace TransportSeams

open World

section Depth

variable {type : TransportType} {tracked : List ConnectionId} {idle : List Connection}

/-- How far down an idle stack a drain goes: the length of the shortest part at the top that holds
every tracked connection, and of the whole stack when not all of them are there. -/
def drainDepth (tracked : List ConnectionId) (idle : List Connection) : Nat :=
  ((List.range idle.length).find? fun depth =>
    ∀ id ∈ tracked, id ∈ (idle.take depth).map Connection.id).getD idle.length

def passed (tracked : List ConnectionId) (idle : List Connection) : List Connection :=
  idle.take (drainDepth tracked idle)

/-- What is idle after a drain: the others among those that were passed, on top of the rest. -/
def siftedIdle (type : TransportType) (tracked : List ConnectionId) (idle : List Connection) :
    List Connection :=
  (passed tracked idle).filter (fun connection => !connection.isInstanceOf type) ++
    idle.drop (drainDepth tracked idle)

theorem drainDepth_nil (idle : List Connection) : drainDepth [] idle = 0 := by
  cases idle <;> simp [drainDepth, List.range_succ_eq_map]

/-- Below a connection it goes as far as those that are left of the tracked ones lie. -/
theorem drainDepth_cons (distinct : tracked.Nodup) (some : tracked ≠ []) (connection : Connection)
    (rest : List Connection) :
    drainDepth tracked (connection :: rest) =
      drainDepth (tracked.erase connection.id) rest + 1 := by
  have below (depth : Nat) :
      (∀ id ∈ tracked, id ∈ ((connection :: rest).take (depth + 1)).map Connection.id) ↔
        ∀ id ∈ tracked.erase connection.id, id ∈ (rest.take depth).map Connection.id := by
    simp only [List.take_succ_cons, List.map_cons, List.mem_cons, distinct.mem_erase_iff]
    exact ⟨fun all id ⟨other, held⟩ => (all id held).resolve_left other,
      fun all id held => (Decidable.em (id = connection.id)).imp_right fun other =>
        all id ⟨other, held⟩⟩
  have top : ¬∀ id ∈ tracked, id ∈ ((connection :: rest).take 0).map Connection.id := by
    simpa [List.eq_nil_iff_forall_not_mem] using some
  unfold drainDepth
  rw [List.length_cons, List.range_succ_eq_map, List.find?_cons_of_neg (by simpa using top),
    List.find?_map]
  simp only [Function.comp_def, below, Nat.succ_eq_add_one]
  cases (List.range rest.length).find? fun depth =>
    ∀ id ∈ tracked.erase connection.id, id ∈ (rest.take depth).map Connection.id <;> rfl

theorem sift_eq (distinct : tracked.Nodup)
    (instances : ∀ connection ∈ idle, connection.id ∈ tracked →
      connection.isInstanceOf type = true) :
    sift type tracked idle =
      ⟨siftedIdle type tracked idle, (passed tracked idle).filter (·.isInstanceOf type),
        (passed tracked idle).countP fun connection => !connection.isInstanceOf type⟩ := by
  induction idle generalizing tracked with
  | nil => cases tracked <;> rfl
  | cons connection rest ih =>
    obtain ⟨first, others⟩ := List.forall_mem_cons.1 instances
    have below := ih (distinct.erase connection.id) fun other member listed =>
      others other member (List.mem_of_mem_erase listed)
    cases tracked with
    | nil => simp [sift, siftedIdle, passed, drainDepth_nil]
    | cons id ids =>
      have deeper := drainDepth_cons distinct (List.cons_ne_nil id ids) connection rest
      unfold sift
      cases accepted : connection.isInstanceOf type with
      | true => simp [below, siftedIdle, passed, deeper, accepted]
      | false =>
        have untracked : (id :: ids).erase connection.id = id :: ids :=
          List.erase_of_not_mem fun listed => by simp [first listed] at accepted
        rw [untracked] at below deeper
        simp [below, siftedIdle, passed, deeper, accepted]

theorem filter_siftedIdle (type : TransportType) (tracked : List ConnectionId)
    (idle : List Connection) :
    (siftedIdle type tracked idle).filter (fun connection => !connection.isInstanceOf type) =
      idle.filter fun connection => !connection.isInstanceOf type := by
  unfold siftedIdle passed
  rw [List.filter_append, List.filter_filter]
  simp only [Bool.and_self]
  rw [← List.filter_append, List.take_append_drop]

theorem mem_passed_of_tracked {connection : Connection} (member : connection ∈ idle)
    (listed : connection.id ∈ tracked) :
    connection.id ∈ (passed tracked idle).map Connection.id := by
  unfold passed drainDepth
  cases found : (List.range idle.length).find? fun depth =>
      ∀ id ∈ tracked, id ∈ (idle.take depth).map Connection.id with
  | none =>
    rw [Option.getD_none, List.take_length]
    exact List.mem_map_of_mem member
  | some depth =>
    have all := List.find?_some found
    exact of_decide_eq_true all connection.id listed

theorem not_mem_siftedIdle (distinct : (idle.map Connection.id).Nodup)
    (instances : ∀ connection ∈ idle, connection.id ∈ tracked →
      connection.isInstanceOf type = true) :
    ∀ connection ∈ siftedIdle type tracked idle, connection.id ∉ tracked := by
  intro connection member listed
  rcases List.mem_append.1 member with above | below
  · obtain ⟨taken, refused⟩ := List.mem_filter.1 above
    simp [instances connection (List.mem_of_mem_take taken) listed] at refused
  · have split := List.take_append_drop (drainDepth tracked idle) idle
    rw [← split, List.map_append] at distinct
    exact (List.nodup_append.1 distinct).2.2 _
      (mem_passed_of_tracked (List.mem_of_mem_drop below) listed) _
      (List.mem_map_of_mem below) rfl

end Depth

inductive TrackerCall where
  | add (pool : PoolId) (connection : Connection)
  | remove (pool : PoolId) (connection : Connection)

namespace Tracker

def told (tracker : Tracker) : TrackerCall → Tracker
  | .add pool connection => tracker.add pool connection
  | .remove pool connection => tracker.remove pool connection

def after (type : TransportType) (calls : List TrackerCall) : Tracker :=
  calls.foldl told (new type)

variable {type : TransportType} {calls : List TrackerCall}

theorem tracked_remove (tracker : Tracker) (pool other : PoolId) (connection : Connection) :
    (tracker.remove pool connection).tracked other =
      if other = pool then (tracker.tracked other).erase connection.id
      else tracker.tracked other := by
  simp only [tracked, remove, KeyMap.find?_adjust]
  split
  · cases tracker.pools.find? other <;> rfl
  · rfl

theorem nodup_tracked_add {tracker : Tracker} {other : PoolId}
    (distinct : (tracker.tracked other).Nodup) (pool : PoolId) (connection : Connection) :
    ((tracker.add pool connection).tracked other).Nodup := by
  unfold add
  split
  · rw [tracked_insert]
    split
    · rename_i here
      subst here
      split
      · exact distinct
      · rename_i missing
        exact List.nodup_cons.2 ⟨missing, distinct⟩
    · exact distinct
  · exact distinct

/-- Whatever calls it gets, a tracker keeps its type and tracks each of the connections once that
it was told of; they are instances of the type. -/
theorem tracked_after (type : TransportType) (calls : List TrackerCall) :
    (after type calls).connectionType = type ∧
      ∀ pool, ((after type calls).tracked pool).Nodup ∧
        ∀ id ∈ (after type calls).tracked pool, ∃ connection,
          .add pool connection ∈ calls ∧ connection.id = id ∧
            connection.isInstanceOf type = true := by
  induction calls using List.reverseRecOn with
  | nil => exact ⟨rfl, fun _ => ⟨List.nodup_nil, fun _ member => nomatch member⟩⟩
  | append_singleton calls call ih =>
    obtain ⟨same, tracks⟩ := ih
    have step : after type (calls ++ [call]) = (after type calls).told call := by
      rw [after, List.foldl_append]
      rfl
    rw [step]
    cases call with
    | add pool connection =>
      refine ⟨(connectionType_add _ _ _).trans same, fun other => ?_⟩
      obtain ⟨distinct, added⟩ := tracks other
      refine ⟨nodup_tracked_add distinct pool connection, fun id listed => ?_⟩
      rcases mem_tracked_add.1 listed with earlier | ⟨accepted, rfl, rfl⟩
      · obtain ⟨known, member, here, instance?⟩ := added id earlier
        exact ⟨known, List.mem_append_left _ member, here, instance?⟩
      · rw [same] at accepted
        exact ⟨connection, List.mem_append_right _ (List.mem_singleton.2 rfl), rfl, accepted⟩
    | remove pool connection =>
      refine ⟨same, fun other => ?_⟩
      obtain ⟨distinct, added⟩ := tracks other
      have sublist : ((after type calls).remove pool connection).tracked other
          |>.Sublist ((after type calls).tracked other) := by
        rw [tracked_remove]
        split
        · exact List.erase_sublist
        · exact .refl _
      refine ⟨distinct.sublist sublist, fun id listed => ?_⟩
      obtain ⟨known, member, here, instance?⟩ := added id (sublist.subset listed)
      exact ⟨known, List.mem_append_left _ member, here, instance?⟩

end Tracker

/-- Ids tell connections apart: no idle stack has an id twice, and an idle connection with the id of
one that the tracker was told of has its type. -/
structure World.TellsApart (calls : List TrackerCall) (world : World) : Prop where
  distinct (pool : PoolId) : ((world.pools.get pool).idle.map Connection.id).Nodup
  same {pool other : PoolId} {added connection : Connection} : .add pool added ∈ calls →
    connection ∈ (world.pools.get other).idle → connection.id = added.id →
      connection.transport = added.transport

theorem World.TellsApart.instances {calls : List TrackerCall} {world : World}
    (apart : world.TellsApart calls) (type : TransportType) (pool : PoolId) :
    ∀ connection ∈ (world.pools.get pool).idle,
      connection.id ∈ (Tracker.after type calls).tracked pool →
        connection.isInstanceOf type = true := by
  intro connection member listed
  obtain ⟨added, told, same, accepted⟩ := ((Tracker.tracked_after type calls).2 pool).2 _ listed
  have alike := apart.same told member same.symm
  rw [Connection.isInstanceOf, Connection.owner?, alike]
  exact accepted

namespace Action

theorem on_drainPools_report (type : TransportType) {entries : List (PoolId × List ConnectionId)}
    (distinct : (entries.map Prod.fst).Nodup) (report : DrainReport) (world : World) :
    ((drainPools type entries report).on world).1 =
      ⟨report.pools + entries.length,
        report.discarded + (entries.map fun entry =>
          (sift type entry.2 (world.pools.get entry.1).idle).discarded.length).sum,
        report.preserved + (entries.map fun entry =>
          (sift type entry.2 (world.pools.get entry.1).idle).preserved).sum⟩ := by
  induction entries generalizing report world with
  | nil => rfl
  | cons entry rest ih =>
    obtain ⟨id, tracked⟩ := entry
    have absent : id ∉ rest.map Prod.fst := (List.nodup_cons.1 distinct).1
    have distinct' := (List.nodup_cons.1 distinct).2
    -- the pools of the other entries are as they were
    have others (entry : PoolId × List ConnectionId) (member : entry ∈ rest) (pool : Pool) :
        (world.withPool id pool).pools.get entry.1 = world.pools.get entry.1 :=
      (Store.get_put _ _ _ _).trans <| if_neg fun (here : id = entry.1) =>
        absent (by rw [here]; exact List.mem_map_of_mem member)
    simp only [drainPools, on_bind, on_pool, on_putPool, ih distinct', DrainReport.add,
      List.length_cons, List.map_cons, List.sum_cons, DrainReport.mk.injEq]
    refine ⟨by omega, ?_, ?_⟩ <;>
    · rw [Nat.add_assoc]
      congr 3
      exact List.map_congr_left fun entry member => by rw [others entry member]

theorem pools_drain (id : TrackerId) (world : World) (pool : PoolId) :
    ((drain id).on world).2.pools.get pool =
      { world.pools.get pool with
        idle := (sift (world.trackers.get id).connectionType
          ((world.trackers.get id).tracked pool) (world.pools.get pool).idle).idle } :=
  pools_drainPools _ (world.trackers.get id).pools.keys_nodup .zero
    (world.withTracker id (world.trackers.get id).cleared) pool

theorem drain_report (id : TrackerId) (world : World) :
    let tracker := world.trackers.get id
    let sifted (entry : PoolId × List ConnectionId) :=
      sift tracker.connectionType entry.2 (world.pools.get entry.1).idle
    ((drain id).on world).1 =
      ⟨tracker.pools.size, (tracker.pools.entries.map fun entry =>
          (sifted entry).discarded.length).sum,
        (tracker.pools.entries.map fun entry => (sifted entry).preserved).sum⟩ := by
  have drained := on_drainPools_report (world.trackers.get id).connectionType
    (world.trackers.get id).pools.keys_nodup .zero
    (world.withTracker id (world.trackers.get id).cleared)
  simp only [DrainReport.zero, Nat.zero_add] at drained
  exact drained

theorem drain_apart (id : TrackerId) (world : World) :
    ((drain id).on world).2 =
      { world with
        pools := ((drain id).on world).2.pools
        trackers := world.trackers.put id (world.trackers.get id).cleared } := by
  have apart (type : TransportType) (entries : List (PoolId × List ConnectionId))
      (report : DrainReport) (world : World) :
      ((drainPools type entries report).on world).2 =
        { world with pools := ((drainPools type entries report).on world).2.pools } := by
    induction entries generalizing report world with
    | nil => rfl
    | cons entry rest ih => exact ih _ _
  exact apart _ _ _ _

theorem on_drain_empty {id : TrackerId} {type : TransportType} {world : World}
    (empty : world.trackers.get id = .new type) :
    (drain id).on world = (.zero, world.withTracker id (.new type)) := by
  simp only [drain, on_bind, on_tracker, empty, on_putTracker]
  rfl

end Action

/-- What a drain makes of a world and reports, for a tracker of a type that tracked some
connections in some pools. -/
structure World.IsSifted (old : World) (id : TrackerId) (type : TransportType)
    (tracked : KeyMap PoolId (List ConnectionId)) (report : DrainReport) (new : World) :
    Prop where
  idle {pool : PoolId} {ids : List ConnectionId} : tracked.find? pool = some ids →
    new.pools.get pool = { old.pools.get pool with
      idle := siftedIdle type ids (old.pools.get pool).idle }
  untouched {pool : PoolId} : tracked.find? pool = none → new.pools.get pool = old.pools.get pool
  apart : new =
    { old with pools := new.pools, trackers := old.trackers.put id (.new type) }
  again : (Action.drain id).on new = (.zero, new)
  pools : report.pools = tracked.size
  discarded : report.discarded = (tracked.entries.map fun entry =>
    (passed entry.2 (old.pools.get entry.1).idle).countP (·.isInstanceOf type)).sum
  preserved : report.preserved = (tracked.entries.map fun entry =>
    (passed entry.2 (old.pools.get entry.1).idle).countP (!·.isInstanceOf type)).sum
  kept (pool : PoolId) :
    (new.pools.get pool).idle.filter (!·.isInstanceOf type) =
      (old.pools.get pool).idle.filter (!·.isInstanceOf type)
  gone {pool : PoolId} {ids : List ConnectionId} : tracked.find? pool = some ids →
    ∀ connection ∈ (new.pools.get pool).idle, connection.id ∉ ids

/-- Whatever a tracker was told before, a drain follows the rule: of each tracked pool it passes
the shortest part at the top that holds every tracked connection, or the whole stack if one of them
is not there, and takes the instances out of it. It leaves the tracker empty, so that a second drain
does nothing, and counts what it removed and what it put back. -/
theorem Action.drain_sifts {id : TrackerId} {type : TransportType} {calls : List TrackerCall}
    {world : World} (held : world.trackers.get id = .after type calls)
    (apart : world.TellsApart calls) :
    world.IsSifted id type (Tracker.after type calls).pools ((drain id).on world).1
      ((drain id).on world).2 := by
  obtain ⟨same, tracks⟩ := Tracker.tracked_after type calls
  have ruled (pool : PoolId) := sift_eq (tracks pool).1 (apart.instances type pool)
  have tracked {pool : PoolId} {ids : List ConnectionId}
      (found : (Tracker.after type calls).pools.find? pool = some ids) :
      (Tracker.after type calls).tracked pool = ids := by
    rw [Tracker.tracked, found]
    rfl
  have left (pool : PoolId) : ((drain id).on world).2.pools.get pool =
      { world.pools.get pool with
        idle := siftedIdle type ((Tracker.after type calls).tracked pool)
          (world.pools.get pool).idle } := by
    rw [pools_drain, held, same, ruled]
  have empty : ((drain id).on world).2.trackers.get id = .new type := by
    rw [drain_apart, Store.get_put, if_pos rfl, held, Tracker.cleared, same]
  have counted (entry : PoolId × List ConnectionId)
      (member : entry ∈ (Tracker.after type calls).pools.entries) :
      sift type entry.2 (world.pools.get entry.1).idle =
        ⟨siftedIdle type entry.2 (world.pools.get entry.1).idle,
          (passed entry.2 (world.pools.get entry.1).idle).filter (·.isInstanceOf type),
          (passed entry.2 (world.pools.get entry.1).idle).countP (!·.isInstanceOf type)⟩ := by
    have found := tracked ((KeyMap.mem_entries_iff _ entry.1 entry.2).1 member)
    rw [← found]
    exact ruled entry.1
  have reported := drain_report id world
  simp only [held, same] at reported
  exact {
    idle := fun found => by rw [left, tracked found]
    untouched := fun {pool} missing => by
      have none : (Tracker.after type calls).tracked pool = [] := by
        rw [Tracker.tracked, missing]
        rfl
      rw [left, none, siftedIdle, passed, drainDepth_nil]
      rfl
    apart := by
      conv_lhs => rw [drain_apart, held, Tracker.cleared, same]
    again := by
      rw [on_drain_empty empty, drain_apart]
      simp only [withTracker, held, Tracker.cleared, same, Store.put_put]
    pools := by rw [reported]
    discarded := by
      rw [reported]
      refine congrArg List.sum (List.map_congr_left fun entry member => ?_)
      rw [counted entry member]
      exact List.countP_eq_length_filter.symm
    preserved := by
      rw [reported]
      refine congrArg List.sum (List.map_congr_left fun entry member => ?_)
      rw [counted entry member]
    kept := fun pool => by rw [left, filter_siftedIdle]
    gone := fun {pool ids} found connection member => by
      rw [left, ← tracked found] at *
      exact not_mem_siftedIdle (apart.distinct pool) (apart.instances type pool) connection member }

private def stubType : TransportType :=
  .root ⟨⟨0⟩, "Recording", .unbound⟩

private def tapeType : TransportType :=
  .derived ⟨⟨1⟩, "Recording_tape", .bound ⟨"tape"⟩⟩ stubType

private def connectionOf (type : TransportType) (id : Nat) : Connection :=
  ⟨⟨id⟩, "host", type, false⟩

/-- Instances and others by turns; not all instances are tracked. -/
private def mixedStack : List Connection :=
  [connectionOf stubType 1, connectionOf tapeType 2, connectionOf stubType 3,
    connectionOf tapeType 4, connectionOf tapeType 5, connectionOf stubType 6,
    connectionOf tapeType 7]

private def otherStack : List Connection :=
  [connectionOf stubType 10, connectionOf tapeType 11]

private def siftedCalls : List TrackerCall :=
  [.add ⟨1⟩ (connectionOf tapeType 5), .add ⟨1⟩ (connectionOf stubType 1),
    .add ⟨1⟩ (connectionOf tapeType 7), .add ⟨2⟩ (connectionOf tapeType 9),
    .add ⟨1⟩ (connectionOf tapeType 2), .remove ⟨1⟩ (connectionOf tapeType 7)]

private def siftedWorld : World :=
  ((World.initial.withPool ⟨1⟩ ⟨"Class", "probe", "host", mixedStack⟩).withPool ⟨2⟩
    ⟨"Class", "probe", "host", otherStack⟩).withTracker ⟨0⟩ (.after tapeType siftedCalls)

private def subject : TrackerCall → Connection
  | .add _ connection => connection
  | .remove _ connection => connection

private theorem siftedCalls_unique : ∀ call ∈ siftedCalls,
    ∀ connection ∈ mixedStack ++ otherStack, connection.id = (subject call).id →
      connection.transport = (subject call).transport := by
  decide

private theorem siftedWorld_apart : siftedWorld.TellsApart siftedCalls := by
  have idle (pool : PoolId) : (siftedWorld.pools.get pool).idle = mixedStack ∨
      (siftedWorld.pools.get pool).idle = otherStack ∨
      (siftedWorld.pools.get pool).idle = [] := by
    simp only [siftedWorld, withPool, withTracker, Store.get_put]
    split
    · exact .inr (.inl rfl)
    · split
      · exact .inl rfl
      · exact .inr (.inr rfl)
  constructor
  · intro pool
    rcases idle pool with stack | stack | stack <;> rw [stack] <;> decide
  · intro pool other added connection told member same
    have listed : connection ∈ mixedStack ++ otherStack := by
      rcases idle other with stack | stack | stack <;> rw [stack] at member
      · exact List.mem_append_left _ member
      · exact List.mem_append_right _ member
      · cases member
    exact siftedCalls_unique (.add pool added) told connection listed same

theorem Action.drain_sifts_mixed :
    siftedWorld.trackers.get ⟨0⟩ = .after tapeType siftedCalls ∧
      siftedWorld.TellsApart siftedCalls ∧
      siftedWorld.IsSifted ⟨0⟩ tapeType (Tracker.after tapeType siftedCalls).pools ⟨2, 4, 3⟩
        ((drain ⟨0⟩).on siftedWorld).2 ∧
      (((drain ⟨0⟩).on siftedWorld).2.pools.get ⟨1⟩).idleIds = [⟨1⟩, ⟨3⟩, ⟨6⟩, ⟨7⟩] ∧
      (((drain ⟨0⟩).on siftedWorld).2.pools.get ⟨2⟩).idleIds = [⟨10⟩] := by
  have report : ((drain ⟨0⟩).on siftedWorld).1 = ⟨2, 4, 3⟩ := by decide +kernel
  have sifts := @drain_sifts ⟨0⟩ tapeType siftedCalls siftedWorld rfl siftedWorld_apart
  rw [report] at sifts
  exact ⟨rfl, siftedWorld_apart, sifts, by decide +kernel⟩

end TransportSeams

import TransportSeams.Proofs.Scope.Overlay
import TransportSeams.Proofs.Scope.Supplies

/-!
What leaving the guards of a scope does to pools and trackers. Draining removes instances of a type
only, and all of them when every one is tracked; trackers of other guards stay as they are.
-/

set_option autoImplicit false
set_option relaxedAutoImplicit false

namespace TransportSeams

open World

@[simp]
theorem sift_nil (type : TransportType) (idle : List Connection) :
    sift type [] idle = ⟨idle, [], 0⟩ := by
  cases idle <;> rfl

/-- Where all instances are tracked, the drain goes on until it has met every one of them. -/
theorem idle_sift {type : TransportType} {ids : List ConnectionId} {idle : List Connection}
    (tracked : ∀ connection ∈ idle, connection.isInstanceOf type = true → connection.id ∈ ids)
    (distinct : (idle.map Connection.id).Nodup) :
    (sift type ids idle).idle = idle.filter fun connection => !connection.isInstanceOf type := by
  induction idle generalizing ids with
  | nil => cases ids <;> rfl
  | cons connection rest ih =>
    obtain ⟨fresh, distinct'⟩ := List.nodup_cons.1 distinct
    cases ids with
    | nil =>
      rw [sift_nil]
      refine (List.filter_eq_self.2 fun other member => ?_).symm
      cases instance? : other.isInstanceOf type with
      | false => rfl
      | true => cases tracked other member instance?
    | cons id ids =>
      have below := fun other member => tracked other (List.mem_cons_of_mem connection member)
      unfold sift
      cases instance? : connection.isInstanceOf type with
      | true =>
        rw [List.filter_cons_of_neg (by simp [instance?]), if_pos rfl]
        refine ih (fun other member accepted => ?_) distinct'
        -- the connection that was met is not met again
        refine (List.mem_erase_of_ne ?_).2 (below other member accepted)
        rintro same
        exact fresh (same ▸ List.mem_map_of_mem member)
      | false =>
        rw [List.filter_cons_of_pos (by simp [instance?])]
        simp only [Bool.false_eq_true, if_false]
        rw [ih below distinct']

theorem sublist_sift (type : TransportType) (ids : List ConnectionId) (idle : List Connection) :
    (sift type ids idle).idle.Sublist idle := by
  induction idle generalizing ids with
  | nil => cases ids <;> exact .slnil
  | cons connection rest ih =>
    cases ids with
    | nil => simp
    | cons id ids =>
      unfold sift
      split
      · exact (ih _).cons connection
      · exact (ih _).cons_cons connection

namespace Action

theorem pools_drainPools (type : TransportType) {entries : List (PoolId × List ConnectionId)}
    (distinct : (entries.map Prod.fst).Nodup) (report : DrainReport) (world : World)
    (pool : PoolId) :
    ((drainPools type entries report).on world).2.pools.get pool =
      { world.pools.get pool with
        idle := (sift type ((KeyMap.lookupIn pool entries).getD [])
          (world.pools.get pool).idle).idle } := by
  induction entries generalizing report world with
  | nil => simp [drainPools, KeyMap.lookupIn]
  | cons entry rest ih =>
    obtain ⟨id, ids⟩ := entry
    obtain ⟨absent, distinct'⟩ := List.nodup_cons.1 distinct
    simp only [drainPools, on_bind, on_pool, on_putPool, ih distinct']
    simp only [withPool, Store.get_put]
    by_cases here : id = pool
    · subst here
      have missing : KeyMap.lookupIn id rest = none := by
        rwa [KeyMap.mem_fst_iff_lookupIn, Option.not_isSome_iff_eq_none] at absent
      simp [KeyMap.lookupIn, missing]
    · simp [KeyMap.lookupIn, here]

theorem pools_drainForGuard (id : TrackerId) (world : World) (pool : PoolId) :
    ((drainForGuard id).on world).2.pools.get pool =
      { world.pools.get pool with
        idle := (sift (world.trackers.get id).connectionType
          ((world.trackers.get id).tracked pool) (world.pools.get pool).idle).idle } := by
  have drained := pools_drainPools (world.trackers.get id).connectionType
    (world.trackers.get id).pools.keys_nodup .zero
    (world.withTracker id (world.trackers.get id).cleared) pool
  have told : ((drainForGuard id).on world).2.pools = ((drain id).on world).2.pools := by
    simp only [drainForGuard, on_bind, on_ite]
    split <;> rfl
  rw [told]
  exact drained

theorem drainPools_tracks (type : TransportType) (entries : List (PoolId × List ConnectionId))
    (report : DrainReport) (world : World) :
    ((drainPools type entries report).on world).2.trackers = world.trackers ∧
      ((drainPools type entries report).on world).2.nextConnection = world.nextConnection := by
  induction entries generalizing report world with
  | nil => exact ⟨rfl, rfl⟩
  | cons entry rest ih => exact ih _ _

theorem drainForGuard_tracks (id : TrackerId) (world : World) :
    ((drainForGuard id).on world).2.trackers =
        world.trackers.put id (world.trackers.get id).cleared ∧
      ((drainForGuard id).on world).2.nextConnection = world.nextConnection := by
  have drained := drainPools_tracks (world.trackers.get id).connectionType
    (world.trackers.get id).pools.entries .zero
    (world.withTracker id (world.trackers.get id).cleared)
  have told : ((drainForGuard id).on world).2.trackers = ((drain id).on world).2.trackers ∧
      ((drainForGuard id).on world).2.nextConnection = ((drain id).on world).2.nextConnection := by
    simp only [drainForGuard, on_bind, on_ite]
    split <;> exact ⟨rfl, rfl⟩
  rw [told.1, told.2]
  exact drained

end Action

/-- What guards leave of an idle stack, each with its own tracker, one after the other. -/
def scrubbed (trackers : Store TrackerId Tracker) (pool : PoolId) :
    List PoolGuard → List Connection → List Connection
  | [], idle => idle
  | guard :: rest, idle =>
    let tracker := trackers.get guard.tracker
    scrubbed trackers pool rest (sift tracker.connectionType (tracker.tracked pool) idle).idle

theorem scrubbed_congr {trackers trackers' : Store TrackerId Tracker} {guards : List PoolGuard}
    (same : ∀ guard ∈ guards, trackers'.get guard.tracker = trackers.get guard.tracker)
    (pool : PoolId) (idle : List Connection) :
    scrubbed trackers' pool guards idle = scrubbed trackers pool guards idle := by
  induction guards generalizing idle with
  | nil => rfl
  | cons guard rest ih =>
    unfold scrubbed
    rw [same guard List.mem_cons_self,
      ih fun other member => same other (List.mem_cons_of_mem guard member)]

theorem sublist_scrubbed (trackers : Store TrackerId Tracker) (pool : PoolId)
    (guards : List PoolGuard) (idle : List Connection) :
    (scrubbed trackers pool guards idle).Sublist idle := by
  induction guards generalizing idle with
  | nil => exact List.Sublist.refl idle
  | cons guard rest ih => exact (ih _).trans (sublist_sift _ _ _)

theorem scrubbed_append (trackers : Store TrackerId Tracker) (pool : PoolId)
    (first last : List PoolGuard) (idle : List Connection) :
    scrubbed trackers pool (first ++ last) idle =
      scrubbed trackers pool last (scrubbed trackers pool first idle) := by
  induction first generalizing idle with
  | nil => rfl
  | cons guard rest ih => exact ih _

theorem scrubbed_untracked {trackers : Store TrackerId Tracker} {pool : PoolId}
    {guards : List PoolGuard}
    (untracked : ∀ guard ∈ guards, (trackers.get guard.tracker).tracked pool = [])
    (idle : List Connection) : scrubbed trackers pool guards idle = idle := by
  induction guards with
  | nil => rfl
  | cons guard rest ih =>
    unfold scrubbed
    simp only [untracked guard List.mem_cons_self, sift_nil]
    exact ih fun other member => untracked other (List.mem_cons_of_mem guard member)

theorem scrubbed_sole {trackers : Store TrackerId Tracker} {pool : PoolId}
    {guards : List PoolGuard} (distinct : guards.Pairwise fun a b => a.tracker ≠ b.tracker)
    {sole : PoolGuard} (member : sole ∈ guards)
    (untracked : ∀ guard ∈ guards, guard.tracker ≠ sole.tracker →
      (trackers.get guard.tracker).tracked pool = []) (idle : List Connection) :
    scrubbed trackers pool guards idle =
      (sift (trackers.get sole.tracker).connectionType
        ((trackers.get sole.tracker).tracked pool) idle).idle := by
  induction guards with
  | nil => cases member
  | cons guard rest ih =>
    obtain ⟨apart, distinct'⟩ := List.pairwise_cons.1 distinct
    have others := fun other listed => untracked other (List.mem_cons_of_mem guard listed)
    unfold scrubbed
    rcases List.mem_cons.1 member with rfl | member
    · exact scrubbed_untracked (fun other listed => others other listed (apart other listed).symm) _
    · simp only [untracked guard List.mem_cons_self (apart sole member), sift_nil]
      exact ih distinct' member others

/-- A connection that is alone in its pool does not outlast the guard that tracks it. -/
theorem scrubbed_tracked {trackers : Store TrackerId Tracker} {pool : PoolId}
    {guards : List PoolGuard} {guard : PoolGuard} (guarded : guard ∈ guards)
    {connection : Connection}
    (accepted : connection.isInstanceOf (trackers.get guard.tracker).connectionType = true)
    (tracked : connection.id ∈ (trackers.get guard.tracker).tracked pool) :
    scrubbed trackers pool guards [connection] = [] := by
  induction guards with
  | nil => cases guarded
  | cons other rest ih =>
    unfold scrubbed
    dsimp only
    rcases List.mem_cons.1 guarded with rfl | guarded
    · rw [idle_sift (List.forall_mem_singleton.2 fun _ => tracked) (List.pairwise_singleton _ _),
        List.filter_cons_of_neg (by simp [accepted]), List.filter_nil]
      exact List.eq_nil_of_sublist_nil (sublist_scrubbed _ _ _ _)
    · -- another guard may have removed it before
      rcases List.sublist_cons_iff.1 (sublist_sift _ _ [connection]) with gone | ⟨_, left, none⟩
      · rw [List.eq_nil_of_sublist_nil gone]
        exact List.eq_nil_of_sublist_nil (sublist_scrubbed _ _ _ _)
      · rw [left, List.eq_nil_of_sublist_nil none]
        exact ih guarded

structure World.DrainedBy (guards : List PoolGuard) (old new : World) : Prop where
  pools (pool : PoolId) : new.pools.get pool =
    { old.pools.get pool with
      idle := scrubbed old.trackers pool guards (old.pools.get pool).idle }
  trackers (id : TrackerId) : (∀ guard ∈ guards, guard.tracker ≠ id) →
    new.trackers.get id = old.trackers.get id
  nextConnection : new.nextConnection = old.nextConnection

theorem World.DiffersAtSeams.drainedBy {old new : World} (differs : old.DiffersAtSeams new) :
    old.DrainedBy [] new := by
  unfold DiffersAtSeams at differs
  rw [differs]
  exact ⟨fun _ => rfl, fun _ _ => rfl, rfl⟩

namespace World.DrainedBy

variable {old middle new : World} {first last : List PoolGuard}

theorem append (drained : old.DrainedBy first middle) (rest : middle.DrainedBy last new)
    (apart : ∀ a ∈ first, ∀ b ∈ last, a.tracker ≠ b.tracker) :
    old.DrainedBy (first ++ last) new where
  pools pool := by
    rw [rest.pools, drained.pools, scrubbed_append, scrubbed_congr fun guard member =>
      drained.trackers guard.tracker fun other listed => apart other listed guard member]
  trackers id others := by
    have left := fun guard member => others guard (List.mem_append_left last member)
    have right := fun guard member => others guard (List.mem_append_right first member)
    rw [rest.trackers id right, drained.trackers id left]
  nextConnection := rest.nextConnection.trans drained.nextConnection

theorem telling (drained : old.DrainedBy first new) (event : Event) :
    old.DrainedBy first (new.telling event) :=
  ⟨drained.pools, drained.trackers, drained.nextConnection⟩

end World.DrainedBy

theorem Action.drainForGuard_drainedBy (guard : PoolGuard) (world : World) :
    world.DrainedBy [guard] ((drainForGuard guard.tracker).on world).2 where
  pools pool := pools_drainForGuard guard.tracker world pool
  trackers id other := by
    rw [(drainForGuard_tracks guard.tracker world).1, Store.get_put,
      if_neg (other guard List.mem_cons_self)]
  nextConnection := (drainForGuard_tracks guard.tracker world).2

theorem Resource.exit_drainedBy (resource : Resource) (world : World) :
    world.DrainedBy (guardsOf [resource]) (resource.exit.on world).2 := by
  cases resource with
  | patch handle =>
    have moves : (Resource.patch handle).exit.Moves DiffersAtSeams :=
      Attempt.moves_bind (handle.exit_moves (fun event world => differsAtSeams_telling world event)
        Attempt.install_differsAtSeams) fun _ => Attempt.moves_pure _
    exact (moves world).drainedBy
  | poolGuard guard => exact Action.drainForGuard_drainedBy guard world
  | forceRestore restore =>
    have moves : (Resource.forceRestore restore).exit.Moves DiffersAtSeams :=
      Attempt.moves_bind (restore.exit_moves Attempt.install_differsAtSeams) fun _ =>
        Attempt.moves_pure _
    exact (moves world).drainedBy

theorem Scope.exitAll_drainedBy (session : SessionId) {entered : List Resource}
    (distinct : (guardsOf entered).Pairwise fun a b => a.tracker ≠ b.tracker)
    (report : TeardownReport) (world : World) :
    world.DrainedBy (guardsOf entered) ((exitAll session entered report).on world).2 := by
  induction entered generalizing report world with
  | nil => exact ⟨fun _ => rfl, fun _ _ => rfl, rfl⟩
  | cons resource rest ih =>
    have split : guardsOf (resource :: rest) = guardsOf [resource] ++ guardsOf rest :=
      List.filterMap_append (l := [resource])
    rw [split] at distinct ⊢
    obtain ⟨-, distinct', apart⟩ := List.pairwise_append.1 distinct
    have left := resource.exit_drainedBy world
    simp only [exitAll, Action.on_bind, Attempt.on_outcome]
    generalize resource.exit.on world = turn at left ⊢
    obtain ⟨outcome, middle⟩ := turn
    cases outcome with
    | ok exited => exact left.append (ih distinct' _ _) apart
    | error error => exact (left.telling _).append (ih distinct' _ _) apart

end TransportSeams

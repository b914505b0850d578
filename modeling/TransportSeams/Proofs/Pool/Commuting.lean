import TransportSeams.Proofs.Pool.Sifting

/-!
Drains that do not interfere. Where no connection counts as an instance of the types of two
trackers, what one of them takes out of a pool neither stops the other one earlier nor takes it
further down: each discards the same connections whichever is drained first, and in the end the same
ones are idle. So guards may be left in any order.
-/

set_option autoImplicit false
set_option relaxedAutoImplicit false

namespace TransportSeams

open World

namespace TransportType

/-- No connection is an instance of both types. -/
def Excludes (a b : TransportType) : Prop :=
  ∀ connection : Connection, connection.isInstanceOf a = true → connection.isInstanceOf b = false

variable {a b : TransportType}

theorem Excludes.symm (excludes : a.Excludes b) : b.Excludes a := by
  intro connection accepted
  cases other : connection.isInstanceOf a with
  | false => rfl
  | true => rw [excludes connection other] at accepted; cases accepted

theorem Excludes.ne (excludes : a.Excludes b) : a ≠ b := by
  rintro rfl
  let connection : Connection := ⟨⟨0⟩, "", a, false⟩
  have accepted : connection.isInstanceOf a = true := connection.isInstanceOf_transport
  rw [excludes connection accepted] at accepted
  cases accepted

theorem excludes_of_owner? {first second : SessionId} (owned : a.owner? = some first)
    (owned' : b.owner? = some second) (different : first ≠ second) : a.Excludes b := by
  intro connection accepted
  cases other : connection.isInstanceOf b with
  | false => rfl
  | true =>
    have owner := Connection.owner?_of_isInstanceOf owned accepted
    rw [Connection.owner?_of_isInstanceOf owned' other, Option.some.injEq] at owner
    exact absurd owner.symm different

end TransportType

section Sift

variable {a b type : TransportType} {ids : List ConnectionId} {connection : Connection}

theorem sift_cons_instance (accepted : connection.isInstanceOf type = true) (some : ids ≠ [])
    (rest : List Connection) :
    (sift type ids (connection :: rest)).idle = (sift type (ids.erase connection.id) rest).idle ∧
      (sift type ids (connection :: rest)).discarded =
        connection :: (sift type (ids.erase connection.id) rest).discarded := by
  cases ids with
  | nil => exact absurd rfl some
  | cons id ids => simp only [sift, accepted, if_true, and_self]

theorem sift_cons_other (refused : connection.isInstanceOf type = false) (ids : List ConnectionId)
    (rest : List Connection) :
    (sift type ids (connection :: rest)).idle = connection :: (sift type ids rest).idle ∧
      (sift type ids (connection :: rest)).discarded = (sift type ids rest).discarded := by
  cases ids with
  | nil => simp only [sift_nil, and_self]
  | cons id ids => simp only [sift, refused, Bool.false_eq_true, if_false, and_self]

/-- Every connection that was idle stays idle or is discarded. -/
theorem perm_sift (type : TransportType) (ids : List ConnectionId) (idle : List Connection) :
    idle.Perm ((sift type ids idle).idle ++ (sift type ids idle).discarded) := by
  induction idle generalizing ids with
  | nil => cases ids <;> exact .refl []
  | cons connection rest ih =>
    by_cases none : ids = []
    · rw [none, sift_nil, List.append_nil]
    cases accepted : connection.isInstanceOf type with
    | true =>
      obtain ⟨kept, gone⟩ := sift_cons_instance accepted none rest
      rw [kept, gone]
      exact ((ih _).cons connection).trans List.perm_middle.symm
    | false =>
      obtain ⟨kept, gone⟩ := sift_cons_other accepted ids rest
      rw [kept, gone]
      exact (ih ids).cons connection

variable (excludes : a.Excludes b)

include excludes

theorem discarded_sift_sift (ids ids' : List ConnectionId) (idle : List Connection) :
    (sift a ids (sift b ids' idle).idle).discarded = (sift a ids idle).discarded := by
  induction idle generalizing ids ids' with
  | nil => cases ids' <;> rfl
  | cons connection rest ih =>
    by_cases none' : ids' = []
    · rw [none', sift_nil]
    cases other : connection.isInstanceOf b with
    | true =>
      have refused := excludes.symm connection other
      rw [(sift_cons_instance other none' rest).1, ih, (sift_cons_other refused ids rest).2]
    | false =>
      rw [(sift_cons_other other ids' rest).1]
      by_cases none : ids = []
      · rw [none, sift_nil, sift_nil]
      cases accepted : connection.isInstanceOf a with
      | true =>
        rw [(sift_cons_instance accepted none _).2, ih, (sift_cons_instance accepted none rest).2]
      | false => rw [(sift_cons_other accepted ids _).2, ih, (sift_cons_other accepted ids rest).2]

theorem idle_sift_comm (ids ids' : List ConnectionId) (idle : List Connection) :
    (sift a ids (sift b ids' idle).idle).idle = (sift b ids' (sift a ids idle).idle).idle := by
  induction idle generalizing ids ids' with
  | nil => cases ids <;> cases ids' <;> rfl
  | cons connection rest ih =>
    by_cases none : ids = []
    · simp only [none, sift_nil]
    by_cases none' : ids' = []
    · simp only [none', sift_nil]
    cases accepted : connection.isInstanceOf a with
    | true =>
      have other := excludes connection accepted
      rw [(sift_cons_other other ids' rest).1, (sift_cons_instance accepted none _).1,
        (sift_cons_instance accepted none rest).1, ih]
    | false =>
      rw [(sift_cons_other accepted ids rest).1]
      cases other : connection.isInstanceOf b with
      | true =>
        rw [(sift_cons_instance other none' rest).1, (sift_cons_instance other none' _).1, ih]
      | false =>
        rw [(sift_cons_other other ids' rest).1, (sift_cons_other accepted ids _).1,
          (sift_cons_other other ids' _).1, ih]

end Sift

section Scrub

variable {trackers : Store TrackerId Tracker}

theorem scrubbed_perm {guards guards' : List PoolGuard} (perm : guards.Perm guards')
    (excluding : guards.Pairwise fun one two =>
      (trackers.get one.tracker).connectionType.Excludes
        (trackers.get two.tracker).connectionType) (pool : PoolId) (idle : List Connection) :
    scrubbed trackers pool guards idle = scrubbed trackers pool guards' idle := by
  induction perm generalizing idle with
  | nil => rfl
  | cons guard _ ih => exact ih (List.pairwise_cons.1 excluding).2 _
  | swap one two rest =>
    have excludes := (List.pairwise_cons.1 excluding).1 one List.mem_cons_self
    simp only [scrubbed]
    rw [idle_sift_comm excludes]
  | trans first _ ih ih' =>
    exact (ih excluding idle).trans
      (ih' (excluding.perm first fun excludes => excludes.symm) idle)

theorem scrubbed_sift {type : TransportType} {guards : List PoolGuard}
    (excluding : ∀ guard ∈ guards,
      type.Excludes (trackers.get guard.tracker).connectionType) (pool : PoolId)
    (ids : List ConnectionId) (idle : List Connection) :
    scrubbed trackers pool guards (sift type ids idle).idle =
      (sift type ids (scrubbed trackers pool guards idle)).idle := by
  induction guards generalizing idle with
  | nil => rfl
  | cons guard rest ih =>
    simp only [scrubbed]
    rw [← idle_sift_comm (excluding guard List.mem_cons_self),
      ih fun other listed => excluding other (List.mem_cons_of_mem guard listed)]

/-- Guards of two scopes do not interfere, whatever guards of one scope do to each other. -/
theorem scrubbed_comm {first last : List PoolGuard}
    (excluding : ∀ one ∈ first, ∀ two ∈ last,
      (trackers.get one.tracker).connectionType.Excludes
        (trackers.get two.tracker).connectionType) (pool : PoolId) (idle : List Connection) :
    scrubbed trackers pool last (scrubbed trackers pool first idle) =
      scrubbed trackers pool first (scrubbed trackers pool last idle) := by
  induction first generalizing idle with
  | nil => rfl
  | cons guard rest ih =>
    simp only [scrubbed]
    rw [ih fun one listed => excluding one (List.mem_cons_of_mem guard listed),
      scrubbed_sift (excluding guard List.mem_cons_self)]

end Scrub

namespace World

def drained (world : World) (id : TrackerId) : World :=
  ((Action.drain id).on world).2

/-- The connections that a drain of the tracker discards from the pool. -/
def discards (world : World) (id : TrackerId) (pool : PoolId) : List Connection :=
  (sift (world.trackers.get id).connectionType ((world.trackers.get id).tracked pool)
    (world.pools.get pool).idle).discarded

def Unrelated (world : World) (one two : TrackerId) : Prop :=
  (world.trackers.get one).connectionType.Excludes (world.trackers.get two).connectionType

variable {world : World} {one two : TrackerId}

theorem pools_drained (world : World) (id : TrackerId) (pool : PoolId) :
    (world.drained id).pools.get pool =
      { world.pools.get pool with
        idle := (sift (world.trackers.get id).connectionType
          ((world.trackers.get id).tracked pool) (world.pools.get pool).idle).idle } :=
  Action.pools_drain id world pool

theorem trackers_drained (unrelated : world.Unrelated one two) :
    (world.drained one).trackers.get two = world.trackers.get two := by
  have different : one ≠ two := fun same => unrelated.ne (by rw [same])
  rw [drained, Action.drain_apart, Store.get_put, if_neg different]

theorem Unrelated.symm (unrelated : world.Unrelated one two) : world.Unrelated two one :=
  TransportType.Excludes.symm unrelated

theorem discards_drained (unrelated : world.Unrelated one two) (pool : PoolId) :
    (world.drained two).discards one pool = world.discards one pool := by
  rw [discards, trackers_drained unrelated.symm, pools_drained]
  exact discarded_sift_sift unrelated _ _ _

theorem pools_drained_comm (unrelated : world.Unrelated one two) (pool : PoolId) :
    ((world.drained one).drained two).pools.get pool =
      ((world.drained two).drained one).pools.get pool := by
  simp only [pools_drained, trackers_drained unrelated, trackers_drained unrelated.symm]
  rw [idle_sift_comm unrelated]

theorem perm_drained (world : World) (id : TrackerId) (pool : PoolId) :
    (world.pools.get pool).idle.Perm
      (((world.drained id).pools.get pool).idle ++ world.discards id pool) := by
  rw [pools_drained]
  exact perm_sift _ _ _

theorem perm_drained_drained (unrelated : world.Unrelated one two) (pool : PoolId) :
    (world.pools.get pool).idle.Perm
      ((((world.drained one).drained two).pools.get pool).idle ++
        (world.discards one pool ++ world.discards two pool)) := by
  have first := world.perm_drained one pool
  have second := (world.drained one).perm_drained two pool
  rw [discards_drained unrelated.symm] at second
  refine (first.trans (second.append_right _)).trans ?_
  rw [List.append_assoc]
  exact List.perm_append_comm.append_left _

def left (world : World) (session : SessionId) (entered : List Resource) : World :=
  ((Scope.exitAll session entered .empty).on world).2

def UnrelatedGuards (world : World) (one two : PoolGuard) : Prop :=
  world.Unrelated one.tracker two.tracker

variable {entered entered' : List Resource}

theorem UnrelatedGuards.ne {one two : PoolGuard} (unrelated : world.UnrelatedGuards one two) :
    one.tracker ≠ two.tracker :=
  fun same => TransportType.Excludes.ne unrelated (by rw [same])

theorem pools_left_perm (session session' : SessionId) (perm : entered.Perm entered')
    (unrelated : (guardsOf entered).Pairwise world.UnrelatedGuards) (pool : PoolId) :
    (world.left session entered).pools.get pool =
      (world.left session' entered').pools.get pool := by
  have perm' : (guardsOf entered).Perm (guardsOf entered') := perm.filterMap _
  have unrelated' := unrelated.perm perm' fun unrelated => Unrelated.symm unrelated
  rw [left, left,
    (Scope.exitAll_drainedBy session (unrelated.imp UnrelatedGuards.ne) .empty world).pools,
    (Scope.exitAll_drainedBy session' (unrelated'.imp UnrelatedGuards.ne) .empty world).pools,
    scrubbed_perm perm' unrelated]

theorem pools_left_comm (session session' : SessionId)
    (distinct : (guardsOf entered).Pairwise fun one two => one.tracker ≠ two.tracker)
    (distinct' : (guardsOf entered').Pairwise fun one two => one.tracker ≠ two.tracker)
    (unrelated : ∀ one ∈ guardsOf entered, ∀ two ∈ guardsOf entered',
      world.UnrelatedGuards one two) (pool : PoolId) :
    ((world.left session entered).left session' entered').pools.get pool =
      ((world.left session' entered').left session entered).pools.get pool := by
  have first (world : World) : world.DrainedBy (guardsOf entered) (world.left session entered) :=
    Scope.exitAll_drainedBy session distinct .empty world
  have last (world : World) : world.DrainedBy (guardsOf entered') (world.left session' entered') :=
    Scope.exitAll_drainedBy session' distinct' .empty world
  have apart := fun one member two member' => (unrelated one member two member').ne
  rw [((first world).append (last _) apart).pools,
    ((last world).append (first _) fun two member' one member =>
      (apart one member two member').symm).pools, scrubbed_append, scrubbed_append,
    scrubbed_comm unrelated]

end World

/-- Trackers with no common instance can be drained in either order: each of them discards the same
connections from every pool, the same connections stay idle, and what was idle before stays or is
discarded. So guards over such trackers can be left in any order, and so can two scopes whose
guards have nothing in common with each other's. -/
theorem Action.drains_commute (world : World) :
    (∀ one two, world.Unrelated one two → ∀ pool,
      ((world.drained one).drained two).pools.get pool =
          ((world.drained two).drained one).pools.get pool ∧
        (world.drained two).discards one pool = world.discards one pool ∧
        (world.drained one).discards two pool = world.discards two pool ∧
        (world.pools.get pool).idle.Perm
          ((((world.drained one).drained two).pools.get pool).idle ++
            (world.discards one pool ++ world.discards two pool))) ∧
      (∀ session session' entered entered', entered.Perm entered' →
        (guardsOf entered).Pairwise world.UnrelatedGuards → ∀ pool,
          (world.left session entered).pools.get pool =
            (world.left session' entered').pools.get pool) ∧
      ∀ session session' entered entered',
        ((guardsOf entered).Pairwise fun one two => one.tracker ≠ two.tracker) →
        ((guardsOf entered').Pairwise fun one two => one.tracker ≠ two.tracker) →
        (∀ one ∈ guardsOf entered, ∀ two ∈ guardsOf entered', world.UnrelatedGuards one two) →
        ∀ pool,
          ((world.left session entered).left session' entered').pools.get pool =
            ((world.left session' entered').left session entered).pools.get pool := by
  refine ⟨fun one two unrelated pool => ⟨?idle, ?first, ?second, ?all⟩, ?guards, ?scopes⟩
  case idle => exact pools_drained_comm unrelated pool
  case first => exact discards_drained unrelated pool
  case second => exact discards_drained unrelated.symm pool
  case all => exact perm_drained_drained unrelated pool
  case guards =>
    exact fun session session' _ _ perm unrelated => pools_left_perm session session' perm unrelated
  case scopes =>
    exact fun session session' _ _ distinct distinct' unrelated =>
      pools_left_comm session session' distinct distinct' unrelated

private def sharedStub : TransportType :=
  .root ⟨⟨0⟩, "Recording", .unbound⟩

private def earlyTape : TransportType :=
  .derived ⟨⟨1⟩, "Recording_early", .bound ⟨"early"⟩⟩ sharedStub

private def lateTape : TransportType :=
  .derived ⟨⟨2⟩, "Recording_late", .bound ⟨"late"⟩⟩ sharedStub

private def idleOf (type : TransportType) (id : Nat) : Connection :=
  ⟨⟨id⟩, "host", type, false⟩

private def earlyGuard : PoolGuard :=
  ⟨⟨0⟩, earlyTape⟩

private def lateGuard : PoolGuard :=
  ⟨⟨1⟩, lateTape⟩

/-- Two sessions share two pools. Each has its connections above and below those of the other one,
and the early one also tracks a connection that is not idle. -/
private def sharedWorld : World :=
  (((World.initial.withPool ⟨1⟩ ⟨"Class", "probe", "host",
        [idleOf earlyTape 1, idleOf lateTape 2, idleOf sharedStub 3, idleOf earlyTape 4,
          idleOf lateTape 5, idleOf earlyTape 6, idleOf lateTape 7]⟩).withPool
      ⟨2⟩ ⟨"Class", "probe", "host", [idleOf lateTape 11, idleOf earlyTape 12]⟩).withTracker
      ⟨0⟩ (.after earlyTape [.add ⟨1⟩ (idleOf earlyTape 4), .add ⟨1⟩ (idleOf earlyTape 1),
        .add ⟨2⟩ (idleOf earlyTape 19)])).withTracker
    ⟨1⟩ (.after lateTape [.add ⟨1⟩ (idleOf lateTape 5), .add ⟨1⟩ (idleOf lateTape 2)])

private theorem sharedWorld_unrelated : sharedWorld.Unrelated ⟨0⟩ ⟨1⟩ := by
  have early : earlyTape.owner? = some ⟨"early"⟩ := rfl
  have late : lateTape.owner? = some ⟨"late"⟩ := rfl
  exact TransportType.excludes_of_owner? early late (by decide)

theorem Action.drains_commute_overlapping :
    ((sharedWorld.drained ⟨0⟩).discards ⟨1⟩ ⟨1⟩ = sharedWorld.discards ⟨1⟩ ⟨1⟩) ∧
      (sharedWorld.discards ⟨0⟩ ⟨1⟩).map Connection.id = [⟨1⟩, ⟨4⟩] ∧
      (sharedWorld.discards ⟨1⟩ ⟨1⟩).map Connection.id = [⟨2⟩, ⟨5⟩] ∧
      (((sharedWorld.drained ⟨0⟩).drained ⟨1⟩).pools.get ⟨1⟩).idleIds = [⟨3⟩, ⟨6⟩, ⟨7⟩] ∧
      (((sharedWorld.drained ⟨1⟩).drained ⟨0⟩).pools.get ⟨2⟩).idleIds = [⟨11⟩] ∧
      (∀ pool, (sharedWorld.left ⟨"early"⟩ [.poolGuard earlyGuard, .poolGuard lateGuard]).pools.get
          pool =
        (sharedWorld.left ⟨"late"⟩ [.poolGuard lateGuard, .poolGuard earlyGuard]).pools.get pool) ∧
      ∀ pool,
        ((sharedWorld.left ⟨"early"⟩ [.poolGuard earlyGuard]).left ⟨"late"⟩
            [.poolGuard lateGuard]).pools.get pool =
          ((sharedWorld.left ⟨"late"⟩ [.poolGuard lateGuard]).left ⟨"early"⟩
            [.poolGuard earlyGuard]).pools.get pool := by
  obtain ⟨trackers, guards, scopes⟩ := drains_commute sharedWorld
  refine ⟨(trackers ⟨0⟩ ⟨1⟩ sharedWorld_unrelated ⟨1⟩).2.2.1, by decide +kernel, by decide +kernel,
    by decide +kernel, by decide +kernel, ?_, ?_⟩
  · exact guards _ _ _ _ (.swap _ _ [])
      (List.pairwise_pair.2 sharedWorld_unrelated)
  · refine scopes _ _ _ _ (List.pairwise_singleton _ _) (List.pairwise_singleton _ _) ?_
    rintro one member two member'
    rw [List.mem_singleton.1 member, List.mem_singleton.1 member']
    exact sharedWorld_unrelated

end TransportSeams

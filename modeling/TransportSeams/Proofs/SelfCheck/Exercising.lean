import TransportSeams.Proofs.SelfCheck.Opening
import TransportSeams.Proofs.SelfCheck.Stocking

/-!
What the self-check does while its session is open. At each stocked pool the stale connection is
skipped and a new one of the session is opened, unless nothing may be skipped; given back, it is
idle where a guard of the session tracks it. Each wrapped handler answers.
-/

set_option autoImplicit false
set_option relaxedAutoImplicit false

namespace TransportSeams

open World

def World.Tracks (world : World) (guards : List PoolGuard) (id : PoolId) : Prop :=
  ∃ connection, (world.pools.get id).idle = [connection] ∧ ∃ guard ∈ guards,
    connection.isInstanceOf (world.trackers.get guard.tracker).connectionType = true ∧
      connection.id ∈ (world.trackers.get guard.tracker).tracked id

section Pools

variable {site : PoolSite} {layer : PoolLayer} {registry : RegistryId} {id : PoolId}
  {world : World}

theorem PoolSite.IsShown.on_getConnection
    (shown : site.IsShown layer (world.registries.get registry))
    (stocked : site.IsStocked (world.pools.get id)) :
    ∃ connection trace, connection.isInstanceOf layer.guard.connectionType = false ∧
      (Attempt.getConnection registry id).on world =
        let served := world.serving id layer.guard.connectionType [layer] layer.limit
          (pick (fun _ => false) (·.isInstanceOf layer.guard.connectionType) layer.limit
            [connection])
        (served.1, served.2.withTrace trace) := by
  obtain ⟨connection, idle, unowned⟩ := stocked.stock
  have fits : site.Fits [layer] layer.guard.connectionType registry id world :=
    ⟨stocked.holds, shown.offers, shown.type⟩
  obtain ⟨trace, run⟩ := fits.on_acquiring layer []
  rw [← fits.on_getConnection, PoolSite.isDropped_eq stocked.holds shown.probe, idle] at run
  refine ⟨connection, trace, Bool.eq_false_iff.2 fun accepted => ?_, run⟩
  have owned := Connection.owner?_of_isInstanceOf shown.owned accepted
  rw [unowned] at owned
  cases owned

theorem PoolSite.IsShown.on_getConnection_fresh
    (shown : site.IsShown layer (world.registries.get registry))
    (stocked : site.IsStocked (world.pools.get id)) (positive : 0 < layer.limit) :
    ∃ trace, (Attempt.getConnection registry id).on world =
      (.ok (world.fresh id layer.guard.connectionType),
        ((world.withIdle id []).opening id layer.guard.connectionType [layer]).withTrace
          trace) := by
  obtain ⟨connection, trace, foreign, run⟩ := shown.on_getConnection stocked
  obtain ⟨less, limit⟩ := Nat.exists_eq_add_one_of_ne_zero (Nat.ne_of_gt positive)
  refine ⟨trace, run.trans ?_⟩
  simp only [limit, pick_alive_cons, foreign, Bool.false_eq_true, if_false, pick_alive_nil,
    World.serving]

theorem PoolSite.IsShown.on_getConnection_refused
    (shown : site.IsShown layer (world.registries.get registry))
    (stocked : site.IsStocked (world.pools.get id)) (none : layer.limit = 0) :
    ∃ fault left,
      (Attempt.getConnection registry id).on world = (.error (.pool fault), left) := by
  obtain ⟨connection, trace, foreign, run⟩ := shown.on_getConnection stocked
  simp only [none, pick_alive_cons, foreign, Bool.false_eq_true, if_false,
    World.serving] at run
  exact ⟨_, _, run⟩

def World.returned (world : World) (id : PoolId) (layer : PoolLayer) (trace : List Event) : World :=
  let opened := ((world.withIdle id []).opening id layer.guard.connectionType [layer]).withTrace
    trace
  opened.withPool id ((opened.pools.get id).putIdle (world.fresh id layer.guard.connectionType))

theorem World.pool_returned (world : World) (id : PoolId) (layer : PoolLayer)
    (trace : List Event) : (world.returned id layer trace).pools.get id =
      { world.pools.get id with idle := [world.fresh id layer.guard.connectionType] } := by
  have emptied : (((world.withIdle id []).opening id layer.guard.connectionType
      [layer]).withTrace trace).pools.get id = { world.pools.get id with idle := [] } :=
    pool_withIdle world id []
  refine ((Store.get_put _ id id _).trans (if_pos rfl)).trans ?_
  rw [emptied]
  rfl

theorem World.pool_returned_of_ne (world : World) {id other : PoolId} (different : id ≠ other)
    (layer : PoolLayer) (trace : List Event) :
    (world.returned id layer trace).pools.get other = world.pools.get other :=
  ((Store.get_put _ id other _).trans (if_neg different)).trans
    (pool_withIdle_of_ne world different [])

theorem World.tracks_returned (world : World) (id : PoolId) (trace : List Event)
    {guards : List PoolGuard} (guarded : layer.guard ∈ guards)
    (tracking : (world.trackers.get layer.guard.tracker).connectionType =
      layer.guard.connectionType) :
    (world.returned id layer trace).Tracks guards id := by
  have accepted : (world.fresh id layer.guard.connectionType).isInstanceOf
      (world.trackers.get layer.guard.tracker).connectionType = true := by
    rw [tracking]
    exact isInstanceOf_fresh world id _
  refine ⟨world.fresh id layer.guard.connectionType, ?_, layer.guard, guarded, ?_, ?_⟩
  · rw [pool_returned]
  · exact (congrArg _ (connectionType_tracking _ id _ [layer] layer.guard.tracker)).trans accepted
  · refine mem_tracked_tracking.2 (.inr ⟨⟨layer, List.mem_singleton.2 rfl, rfl⟩, ?_, rfl, rfl⟩)
    rw [fresh_withIdle]
    exact accepted

theorem World.Tracks.returned {guards : List PoolGuard} {other : PoolId}
    (tracks : world.Tracks guards other) (different : id ≠ other) (trace : List Event) :
    (world.returned id layer trace).Tracks guards other := by
  obtain ⟨connection, idle, guard, guarded, accepted, tracked⟩ := tracks
  refine ⟨connection, ?_, guard, guarded, ?_, ?_⟩
  · rwa [pool_returned_of_ne world different]
  · exact (congrArg _ (connectionType_tracking _ id _ [layer] guard.tracker)).trans accepted
  · exact mem_tracked_tracking.2 (.inl tracked)

theorem World.returned_differsAtPools (world : World) (id : PoolId) (layer : PoolLayer)
    (trace : List Event) : world.DiffersAtPools (world.returned id layer trace) :=
  ⟨rfl, fun tracker => connectionType_tracking _ id _ [layer] tracker⟩

end Pools

namespace SelfCheck

/-- The class has a layer of the self-check's session with one of the guards, whose tracker tracks
its type. -/
def IsLaid (limit : Nat) (guards : List PoolGuard) (registry : RegistryId) (world : World)
    (site : PoolSite) : Prop :=
  ∃ guard ∈ guards,
    site.IsShown ⟨sessionId, limit, guard⟩ (world.registries.get registry) ∧
      (world.trackers.get guard.tracker).connectionType = guard.connectionType

variable {limit : Nat} {guards : List PoolGuard} {registry : RegistryId} {world left : World}

theorem IsLaid.later {site : PoolSite} (laid : IsLaid limit guards registry world site)
    (differs : world.DiffersAtPools left) : IsLaid limit guards registry left site := by
  obtain ⟨guard, guarded, shown, tracking⟩ := laid
  refine ⟨guard, guarded, ?_, (differs.types _).trans tracking⟩
  rwa [differs.registries]

theorem on_exercisePools_cons {site : PoolSite} {id : PoolId}
    (laid : IsLaid limit guards registry world site)
    (stocked : site.IsStocked (world.pools.get id)) (positive : 0 < limit) (rest : List PoolId) :
    ∃ used, world.DiffersAtPools used ∧ used.Tracks guards id ∧
      (∀ other, id ≠ other → used.pools.get other = world.pools.get other) ∧
      (∀ other, id ≠ other → world.Tracks guards other → used.Tracks guards other) ∧
      ∀ {count left}, (exercisePools registry rest).on used = (.ok count, left) →
        (exercisePools registry (id :: rest)).on world = (.ok (count + 1), left) := by
  obtain ⟨guard, guarded, shown, tracking⟩ := laid
  obtain ⟨trace, run⟩ := shown.on_getConnection_fresh stocked positive
  refine ⟨world.returned id ⟨sessionId, limit, guard⟩ trace,
    world.returned_differsAtPools id _ trace, world.tracks_returned id trace guarded tracking,
    fun other different => world.pool_returned_of_ne different _ trace,
    fun other different tracks => tracks.returned different trace, fun {count left} others => ?_⟩
  have owned : (world.fresh id guard.connectionType).owner? = some sessionId := shown.owned
  have given : (Action.putIdle id (world.fresh id guard.connectionType)).on
      (((world.withIdle id []).opening id guard.connectionType
        [⟨sessionId, limit, guard⟩]).withTrace trace) =
      ((), world.returned id ⟨sessionId, limit, guard⟩ trace) := rfl
  simp only [exercisePools, Attempt.on_bind, run, owned, ne_eq, not_true_eq_false, if_false,
    Attempt.on_pure, Attempt.on_lift, given, others]

/-- Every pool is used once, and in the end a guard tracks what is idle in it. -/
theorem on_exercisePools {stock : List (PoolSite × PoolId)} (usable : stock ≠ [] → 0 < limit)
    (laid : ∀ entry ∈ stock, IsLaid limit guards registry world entry.1)
    (stocked : ∀ entry ∈ stock, entry.1.IsStocked (world.pools.get entry.2))
    (distinct : (stock.map Prod.snd).Nodup) :
    ∃ left, (exercisePools registry (stock.map Prod.snd)).on world = (.ok stock.length, left) ∧
      world.DiffersAtPools left ∧ (∀ id ∈ stock.map Prod.snd, left.Tracks guards id) ∧
      ∀ id ∉ stock.map Prod.snd, world.Tracks guards id → left.Tracks guards id := by
  induction stock generalizing world with
  | nil =>
    exact ⟨world, rfl, refl_of DiffersAtPools world, List.forall_mem_nil _,
      fun _ _ tracks => tracks⟩
  | cons entry rest ih =>
    obtain ⟨site, id⟩ := entry
    obtain ⟨laidHere, laidRest⟩ := List.forall_mem_cons.1 laid
    obtain ⟨stockedHere, stockedRest⟩ := List.forall_mem_cons.1 stocked
    obtain ⟨absent, distinct'⟩ := List.nodup_cons.1 distinct
    have positive := usable (List.cons_ne_nil _ _)
    obtain ⟨used, differs, tracks, others, keeps, run⟩ :=
      on_exercisePools_cons laidHere stockedHere positive (rest.map Prod.snd)
    have apart {entry : PoolSite × PoolId} (member : entry ∈ rest) : id ≠ entry.2 :=
      fun same => absent (List.mem_map.2 ⟨entry, member, same.symm⟩)
    obtain ⟨left, run', differs', tracked, kept⟩ :=
      ih (fun _ => positive) (fun entry member => (laidRest entry member).later differs)
        (fun entry member => by
          rw [others entry.2 (apart member)]
          exact stockedRest entry member) distinct'
    refine ⟨left, run run', trans_of DiffersAtPools differs differs',
      List.forall_mem_cons.2 ⟨kept id absent tracks, tracked⟩, fun other unlisted held => ?_⟩
    rw [List.map_cons, List.mem_cons, not_or] at unlisted
    exact kept other unlisted.2 (keeps other (Ne.symm unlisted.1) held)

theorem on_exercisePools_refused {stock : List (PoolSite × PoolId)} (some : stock ≠ [])
    (laid : ∀ entry ∈ stock, IsLaid 0 guards registry world entry.1)
    (stocked : ∀ entry ∈ stock, entry.1.IsStocked (world.pools.get entry.2)) :
    ∃ fault left, (exercisePools registry (stock.map Prod.snd)).on world =
      (.error (.pool fault), left) := by
  obtain ⟨entry, rest, rfl⟩ := List.exists_cons_of_ne_nil some
  obtain ⟨guard, -, shown, -⟩ := laid entry List.mem_cons_self
  obtain ⟨fault, left, run⟩ :=
    shown.on_getConnection_refused (stocked entry List.mem_cons_self) rfl
  refine ⟨fault, left, ?_⟩
  simp only [List.map_cons, exercisePools, Attempt.on_bind, run]

def Answers (handler : Handler) : Prop :=
  handler.owner? = some sessionId ∧ ∃ response, handler.answer request = .ok response

theorem exerciseHandlers_eq {registry : Registry} {keys : List SeamKey}
    (handled : ∀ key ∈ keys, Reference.isHandled key = true →
      ∃ handler, registry.value? key = some (.handler handler) ∧ Answers handler)
    (plain : ∀ key ∈ keys, Reference.isHandled key = false →
      ∀ handler, registry.value? key ≠ some (.handler handler)) :
    exerciseHandlers registry keys = .ok (keys.countP Reference.isHandled) := by
  induction keys with
  | nil => rfl
  | cons key rest ih =>
    obtain ⟨handledHere, handledRest⟩ := List.forall_mem_cons.1 handled
    obtain ⟨plainHere, plainRest⟩ := List.forall_mem_cons.1 plain
    have others := ih handledRest plainRest
    rw [exerciseHandlers]
    cases isHandled : Reference.isHandled key with
    | true =>
      obtain ⟨handler, held, owned, response, answered⟩ := handledHere isHandled
      rw [held, List.countP_cons_of_pos isHandled]
      simp only [owned, ne_eq, not_true_eq_false, if_false, answered, others]
      rfl
    | false =>
      rw [List.countP_cons_of_neg (by simp [isHandled])]
      split
      · rename_i handler held
        exact absurd held (plainHere isHandled handler)
      · exact others

end SelfCheck

end TransportSeams

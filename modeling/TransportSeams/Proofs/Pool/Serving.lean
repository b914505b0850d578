import TransportSeams.Proofs.Adapter.Pooling
import TransportSeams.Proofs.Pool.Effects
import TransportSeams.Proofs.Pool.Stacking

/-!
What the pool primitives do under layers of open sessions. A new connection has the type that the
pool's class holds, and the tracker of every layer is told of it. However many checks are nested,
the acquire seam asks the idle stack as the innermost check alone would: it skips connections of
other types up to the limit of that check.
-/

set_option autoImplicit false
set_option relaxedAutoImplicit false

namespace TransportSeams

/-- What an open session with the stack enabled lays over a pool class. -/
structure PoolLayer where
  session : SessionId
  limit : Nat
  guard : PoolGuard

def creating : List PoolLayer → Create
  | [] => .stock
  | layer :: older => .tracked (creating older) layer.guard.tracker

def acquiring (site : PoolSite) : List PoolLayer → Acquire
  | [] => .stock
  | layer :: older => .checked (acquiring site older) site.fallback layer.limit

/-- The checks of the layers are nested checks by their limits, the oldest one innermost. -/
theorem acquiring_eq_checkedBy (site : PoolSite) (layers : List PoolLayer) :
    acquiring site layers =
      Acquire.stock.checkedBy site.fallback (layers.reverse.map PoolLayer.limit) := by
  induction layers with
  | nil => rfl
  | cons layer older ih =>
    rw [acquiring, ih, List.reverse_cons, List.map_append, Acquire.checkedBy, Acquire.checkedBy,
      List.foldl_append]
    rfl

/-- What comes of asking an idle stack. -/
inductive Pick where
  | reused (connection : Connection) (rest : List Connection)
  | opened
  | exhausted (rest : List Connection)

/-- Passes over the connections that are no longer alive and takes the first one that is accepted;
of the others at most so many are skipped. -/
def pick (dropped accepts : Connection → Bool) : Nat → List Connection → Pick
  | 0, idle =>
    match idle.dropWhile dropped with
    | [] => .opened
    | connection :: rest =>
      if accepts connection then .reused connection rest else .exhausted rest
  | left + 1, idle =>
    match idle.dropWhile dropped with
    | [] => .opened
    | connection :: rest =>
      if accepts connection then .reused connection rest else pick dropped accepts left rest

section Picking

variable {dropped accepts : Connection → Bool} {left : Nat} {idle : List Connection}

theorem sublist_of_dropWhile {connection : Connection} {rest : List Connection}
    (live : idle.dropWhile dropped = connection :: rest) : (connection :: rest).Sublist idle :=
  live ▸ List.dropWhile_sublist dropped

theorem sublist_of_pick :
    (∀ connection rest, pick dropped accepts left idle = .reused connection rest →
      (connection :: rest).Sublist idle) ∧
    ∀ rest, pick dropped accepts left idle = .exhausted rest → rest.Sublist idle := by
  induction left generalizing idle with
  | zero =>
    simp only [pick]
    split
    · exact ⟨nofun, nofun⟩
    · rename_i first others live
      have below := sublist_of_dropWhile live
      split
      · exact ⟨fun connection rest picked => by cases picked; exact below, nofun⟩
      · refine ⟨nofun, fun rest picked => ?_⟩
        cases picked
        exact (List.sublist_cons_self first others).trans below
  | succ left ih =>
    simp only [pick]
    split
    · exact ⟨nofun, nofun⟩
    · rename_i first others live
      have below := sublist_of_dropWhile live
      split
      · exact ⟨fun connection rest picked => by cases picked; exact below, nofun⟩
      · have rest := (List.sublist_cons_self first others).trans below
        exact ⟨fun connection last picked => (ih.1 connection last picked).trans rest,
          fun last picked => (ih.2 last picked).trans rest⟩

theorem pick_alive_cons (connection : Connection) (rest : List Connection) :
    pick (fun _ => false) accepts left (connection :: rest) =
      if accepts connection then .reused connection rest
      else match left with
        | 0 => .exhausted rest
        | less + 1 => pick (fun _ => false) accepts less rest := by
  cases left <;> rfl

theorem pick_alive_nil : pick (fun _ => false) accepts left [] = .opened := by
  cases left <;> rfl

theorem pick_reused {place : Nat} {connection : Connection}
    (found : idle.findIdx? accepts = some place) (held : idle[place]? = some connection)
    (within : place ≤ left) :
    pick (fun _ => false) accepts left idle = .reused connection (idle.drop (place + 1)) := by
  induction idle generalizing place left with
  | nil => cases found
  | cons first rest ih =>
    rw [pick_alive_cons]
    rw [List.findIdx?_cons] at found
    split at found
    · rename_i accepted
      cases found
      cases held
      rw [if_pos accepted]
      rfl
    · rename_i refused
      obtain ⟨before, earlier, rfl⟩ := Option.map_eq_some_iff.1 found
      obtain ⟨less, rfl⟩ : ∃ less, left = less + 1 := ⟨left - 1, by omega⟩
      rw [if_neg refused]
      exact ih earlier held (by omega)

theorem pick_opened (absent : idle.findIdx? accepts = none) (within : idle.length ≤ left) :
    pick (fun _ => false) accepts left idle = .opened := by
  induction idle generalizing left with
  | nil => exact pick_alive_nil
  | cons first rest ih =>
    rw [pick_alive_cons]
    rw [List.findIdx?_cons] at absent
    split at absent
    · cases absent
    · rename_i refused
      rw [List.length_cons] at within
      obtain ⟨less, rfl⟩ : ∃ less, left = less + 1 := ⟨left - 1, by omega⟩
      rw [if_neg refused]
      exact ih (Option.map_eq_none_iff.1 absent) (by omega)

/-- With more than `left` others before it, or in its absence, the stack loses one more than
`left`. -/
theorem pick_exhausted (far : ∀ place, idle.findIdx? accepts = some place → left < place)
    (many : idle.findIdx? accepts = none → left < idle.length) :
    pick (fun _ => false) accepts left idle = .exhausted (idle.drop (left + 1)) := by
  induction idle generalizing left with
  | nil => exact absurd (many rfl) (Nat.not_lt_zero left)
  | cons first rest ih =>
    rw [pick_alive_cons]
    rw [List.findIdx?_cons] at far many
    split at far
    · exact absurd (far 0 rfl) (Nat.not_lt_zero left)
    · rename_i refused
      rw [if_neg refused] at many ⊢
      cases left with
      | zero => rfl
      | succ less =>
        refine ih ?_ ?_
        · intro place found
          have before := far (place + 1) (by rw [found]; rfl)
          omega
        · intro absent
          have before := many (by rw [absent]; rfl)
          rw [List.length_cons] at before
          omega

end Picking

theorem Tracker.tracked_insert (tracker : Tracker) (pool other : PoolId)
    (ids : List ConnectionId) :
    { tracker with pools := tracker.pools.insert pool ids }.tracked other =
      if pool = other then ids else tracker.tracked other := by
  simp only [tracked, KeyMap.find?_insert]
  split <;> rfl

theorem Tracker.mem_tracked_add {tracker : Tracker} {pool other : PoolId} {connection : Connection}
    {id : ConnectionId} :
    id ∈ (tracker.add pool connection).tracked other ↔
      id ∈ tracker.tracked other ∨
        connection.isInstanceOf tracker.connectionType = true ∧ other = pool ∧
          id = connection.id := by
  unfold add
  split
  · rename_i accepted
    simp only [accepted, true_and, tracked_insert]
    split
    · rename_i here
      subst here
      simp only [true_and]
      split
      · rename_i known
        refine ⟨.inl, ?_⟩
        rintro (held | rfl)
        · exact held
        · exact known
      · rw [List.mem_cons, or_comm]
    · rename_i elsewhere
      simp [Ne.symm elsewhere]
  · rename_i refused
    simp [refused]

namespace World

def withTrace (world : World) (trace : List Event) : World :=
  { world with trace := trace }

def withIdle (world : World) (id : PoolId) (idle : List Connection) : World :=
  world.withPool id { world.pools.get id with idle := idle }

def tracking (world : World) (id : PoolId) (connection : Connection) : List PoolLayer → World
  | [] => world
  | layer :: older =>
    let told := world.tracking id connection older
    told.withTracker layer.guard.tracker
      ((told.trackers.get layer.guard.tracker).add id connection)

def fresh (world : World) (id : PoolId) (type : TransportType) : Connection :=
  ⟨world.nextConnection, (world.pools.get id).host, type, false⟩

def opening (world : World) (id : PoolId) (type : TransportType) (layers : List PoolLayer) :
    World :=
  { world with nextConnection := ⟨world.nextConnection.index + 1⟩ }.tracking id
    (world.fresh id type) layers

/-- What is handed out and what is left when an idle stack has been asked. -/
def serving (world : World) (id : PoolId) (type : TransportType) (layers : List PoolLayer)
    (limit : Nat) : Pick → Except SeamError Connection × World
  | .reused connection rest => (.ok connection, world.withIdle id rest)
  | .opened => (.ok (world.fresh id type), (world.withIdle id []).opening id type layers)
  | .exhausted rest =>
    (.error (.pool (.exhausted (world.pools.get id).className type.name limit)),
      world.withIdle id rest)

theorem pool_withIdle (world : World) (id : PoolId) (idle : List Connection) :
    (world.withIdle id idle).pools.get id = { world.pools.get id with idle := idle } :=
  (Store.get_put world.pools id id _).trans (if_pos rfl)

theorem pool_withIdle_of_ne (world : World) {id other : PoolId} (different : id ≠ other)
    (idle : List Connection) : (world.withIdle id idle).pools.get other = world.pools.get other :=
  (Store.get_put world.pools id other _).trans (if_neg different)

theorem withIdle_withIdle (world : World) (id : PoolId) (first last : List Connection) :
    (world.withIdle id first).withIdle id last = world.withIdle id last := by
  unfold withIdle withPool
  simp [Store.put_put]

theorem fresh_withIdle (world : World) (id : PoolId) (idle : List Connection)
    (type : TransportType) : (world.withIdle id idle).fresh id type = world.fresh id type := by
  unfold fresh
  rw [pool_withIdle]
  rfl

theorem tracking_eq (world : World) (id : PoolId) (connection : Connection)
    (layers : List PoolLayer) :
    world.tracking id connection layers =
      { world with trackers := (world.tracking id connection layers).trackers } := by
  induction layers with
  | nil => rfl
  | cons layer older ih =>
    simp only [tracking, withTracker]
    rw [ih]

theorem opening_eq (world : World) (id : PoolId) (type : TransportType)
    (layers : List PoolLayer) :
    world.opening id type layers =
      { world with
        nextConnection := ⟨world.nextConnection.index + 1⟩
        trackers := (world.opening id type layers).trackers } :=
  tracking_eq { world with nextConnection := ⟨world.nextConnection.index + 1⟩ } id
    (world.fresh id type) layers

theorem pools_opening (world : World) (id : PoolId) (type : TransportType)
    (layers : List PoolLayer) : (world.opening id type layers).pools = world.pools := by
  rw [opening_eq]

theorem nextObject_opening (world : World) (id : PoolId) (type : TransportType)
    (layers : List PoolLayer) : (world.opening id type layers).nextObject = world.nextObject := by
  rw [opening_eq]

theorem nextConnection_opening (world : World) (id : PoolId) (type : TransportType)
    (layers : List PoolLayer) :
    (world.opening id type layers).nextConnection = ⟨world.nextConnection.index + 1⟩ := by
  rw [opening_eq]

theorem connectionType_tracking (world : World) (id : PoolId) (connection : Connection)
    (layers : List PoolLayer) (tracker : TrackerId) :
    ((world.tracking id connection layers).trackers.get tracker).connectionType =
      (world.trackers.get tracker).connectionType := by
  induction layers with
  | nil => rfl
  | cons layer older ih =>
    simp only [tracking, withTracker, Store.get_put]
    split
    · rename_i here
      rw [Tracker.connectionType_add, here, ih]
    · exact ih

theorem mem_tracked_tracking {world : World} {id other : PoolId} {connection : Connection}
    {layers : List PoolLayer} {tracker : TrackerId} {tracked : ConnectionId} :
    tracked ∈ ((world.tracking id connection layers).trackers.get tracker).tracked other ↔
      tracked ∈ (world.trackers.get tracker).tracked other ∨
        (∃ layer ∈ layers, layer.guard.tracker = tracker) ∧
          connection.isInstanceOf (world.trackers.get tracker).connectionType = true ∧
            other = id ∧ tracked = connection.id := by
  induction layers with
  | nil => simp [tracking]
  | cons layer older ih =>
    simp only [tracking, withTracker, Store.get_put]
    split
    · rename_i here
      rw [here, Tracker.mem_tracked_add, ih, connectionType_tracking]
      simp only [List.mem_cons, exists_eq_or_imp, here, true_or, true_and]
      grind
    · rename_i elsewhere
      rw [ih]
      simp only [List.mem_cons, exists_eq_or_imp, elsewhere, false_or]

theorem tracking_withTrace (world : World) (trace : List Event) (id : PoolId)
    (connection : Connection) (layers : List PoolLayer) :
    (world.withTrace trace).tracking id connection layers =
      (world.tracking id connection layers).withTrace trace := by
  induction layers with
  | nil => rfl
  | cons layer older ih =>
    simp only [tracking, ih]
    rfl

theorem opening_withTrace (world : World) (trace : List Event) (id : PoolId)
    (type : TransportType) (layers : List PoolLayer) :
    (world.withTrace trace).opening id type layers =
      (world.opening id type layers).withTrace trace :=
  tracking_withTrace { world with nextConnection := ⟨world.nextConnection.index + 1⟩ } trace id
    (world.fresh id type) layers

end World

open World

/-- A pool of the class is used through a registry that holds the primitives of the layers and a
connection type at the seams of the class. -/
structure PoolSite.Fits (site : PoolSite) (layers : List PoolLayer) (type : TransportType)
    (registry : RegistryId) (id : PoolId) (world : World) : Prop where
  holds : site.Holds (world.pools.get id)
  offers : (world.registries.get registry).Offers site (creating layers) (acquiring site layers)
  type : (world.registries.get registry).value? site.connectionType = some (.transport type)

namespace PoolSite.Fits

variable {site : PoolSite} {layers : List PoolLayer} {type : TransportType}
  {registry : RegistryId} {id : PoolId} {world : World}

theorem withIdle (fits : site.Fits layers type registry id world) (idle : List Connection) :
    site.Fits layers type registry id (world.withIdle id idle) where
  holds := by
    rw [pool_withIdle]
    exact fits.holds
  offers := fits.offers
  type := fits.type

theorem withTrace (fits : site.Fits layers type registry id world) (trace : List Event) :
    site.Fits layers type registry id (world.withTrace trace) :=
  ⟨fits.holds, fits.offers, fits.type⟩

theorem transportAt (fits : site.Fits layers type registry id world) :
    (world.registries.get registry).transportAt
      (Seam.connectionType (world.pools.get id).className) = .ok type := by
  have held : (world.registries.get registry).value?
      (Seam.connectionType (world.pools.get id).className) = some (.transport type) := by
    rw [fits.holds.1]
    exact fits.type
  rw [Registry.transportAt, held]

theorem expectedType (fits : site.Fits layers type registry id world) (fallback : SeamKey) :
    (world.registries.get registry).expectedType (world.pools.get id).className fallback =
      .ok type := by
  have known : (world.registries.get registry).contains
      (Seam.connectionType (world.pools.get id).className) = true := by
    rw [fits.holds.1]
    obtain ⟨binding, held, -⟩ := Option.map_eq_some_iff.1 fits.type
    exact Registry.contains_of_binding? held
  unfold Registry.expectedType
  rw [if_pos known, fits.transportAt]

theorem on_creating (fits : site.Fits layers type registry id world) (some : List PoolLayer) :
    ((creating some).run registry id).on world =
      (.ok (world.fresh id type), world.opening id type some) := by
  induction some with
  | nil =>
    simp only [creating, Create.run, Attempt.openBound, Attempt.on_bind, Attempt.on_lift,
      Action.on_pool, Action.on_registry, Attempt.on_ofExcept, fits.transportAt]
    rfl
  | cons layer older ih =>
    simp only [creating, Create.run, Attempt.on_bind, ih, Attempt.on_lift]
    rfl

theorem on_newConnection (fits : site.Fits layers type registry id world) :
    (Attempt.newConnection registry id).on world =
      (.ok (world.fresh id type), world.opening id type layers) := by
  obtain ⟨function, create⟩ := fits.offers.create
  have held : (world.registries.get registry).value?
      (Seam.create (world.pools.get id).className) = some (.create function (creating layers)) := by
    rw [fits.holds.1]
    exact create
  simp only [Attempt.newConnection, Attempt.on_bind, Attempt.on_lift, Action.on_pool,
    Action.on_registry, held]
  exact fits.on_creating layers

end PoolSite.Fits

theorem Action.on_takeLive? (registry : RegistryId) (id : PoolId) (world : World) :
    (takeLive? registry id).on world =
      match (world.pools.get id).idle.dropWhile
          ((world.registries.get registry).isDropped (world.pools.get id)) with
      | [] => (none, world.withIdle id [])
      | connection :: rest => (some connection, world.withIdle id rest) := by
  simp only [takeLive?, on_bind, on_registry, on_pool]
  generalize (world.pools.get id).idle.dropWhile
    ((world.registries.get registry).isDropped (world.pools.get id)) = live
  cases live <;> rfl

theorem TransportType.derivesFrom_self (type : TransportType) : type.derivesFrom type = true := by
  unfold derivesFrom
  cases type <;> simp [lineage, isSame]

theorem Connection.isInstanceOf_transport (connection : Connection) :
    connection.isInstanceOf connection.transport = true := by
  simp [isInstanceOf, owner?, TransportType.derivesFrom_self]

theorem World.isInstanceOf_fresh (world : World) (id : PoolId) (type : TransportType) :
    (world.fresh id type).isInstanceOf type = true :=
  Connection.isInstanceOf_transport (world.fresh id type)

theorem Connection.owner?_of_isInstanceOf {connection : Connection} {type : TransportType}
    {session : SessionId} (owned : type.owner? = some session)
    (accepted : connection.isInstanceOf type = true) : connection.owner? = some session := by
  simp only [isInstanceOf, owned, Option.isNone_some, Bool.false_or, Bool.and_eq_true,
    decide_eq_true_eq] at accepted
  exact accepted.1.symm

theorem PoolSite.isDropped_eq {site : PoolSite} {registry : Registry} {pool : Pool}
    (holds : site.Holds pool)
    (probes : ∃ function, registry.value? site.probe = some (.probe ⟨function, fun _ => false⟩)) :
    registry.isDropped pool = fun _ => false := by
  obtain ⟨function, held⟩ := probes
  have value : registry.value? (Seam.probe pool.probeTarget) =
      some (.probe ⟨function, fun _ => false⟩) := by
    rw [holds.2]
    exact held
  funext connection
  rw [Registry.isDropped, value]

theorem World.serving_skipped (world : World) (trace : List Event) (id : PoolId)
    (type : TransportType) (layers : List PoolLayer) (limit : Nat) (rest : List Connection)
    (picked : Pick) :
    ((world.withIdle id rest).withTrace trace).serving id type layers limit picked =
      ((world.serving id type layers limit picked).1,
        (world.serving id type layers limit picked).2.withTrace trace) := by
  have skipped : ((world.withIdle id rest).withTrace trace).pools.get id =
      { world.pools.get id with idle := rest } :=
    pool_withIdle world id rest
  have again (idle : List Connection) :
      ((world.withIdle id rest).withTrace trace).withIdle id idle =
        (world.withIdle id idle).withTrace trace :=
    congrArg (withTrace · trace) (withIdle_withIdle world id rest idle)
  cases picked with
  | reused connection last => simp only [serving, again]
  | opened =>
    have fresh : ((world.withIdle id rest).withTrace trace).fresh id type = world.fresh id type :=
      fresh_withIdle world id rest type
    simp only [serving, again, fresh, opening_withTrace]
  | exhausted last => simp only [serving, again, skipped]

namespace PoolSite.Fits

variable {site : PoolSite} {layers : List PoolLayer} {type : TransportType}
  {registry : RegistryId} {id : PoolId} {world : World}

theorem on_reuseOrOpen (fits : site.Fits layers type registry id world) :
    (Attempt.reuseOrOpen registry id).on world =
      match (world.pools.get id).idle.dropWhile
          ((world.registries.get registry).isDropped (world.pools.get id)) with
      | [] => (.ok (world.fresh id type), (world.withIdle id []).opening id type layers)
      | connection :: rest => (.ok connection, world.withIdle id rest) := by
  simp only [Attempt.reuseOrOpen, Attempt.on_bind, Attempt.on_lift, Action.on_takeLive?]
  generalize (world.pools.get id).idle.dropWhile
    ((world.registries.get registry).isDropped (world.pools.get id)) = live
  cases live with
  | nil =>
    refine (fits.withIdle []).on_newConnection.trans ?_
    rw [fresh_withIdle]
  | cons connection rest => rfl

theorem on_skipStale (fits : site.Fits layers type registry id world) (limit left : Nat) :
    ∃ trace, (Attempt.skipStale (Attempt.reuseOrOpen registry id) (world.pools.get id).className
        type limit left).on world =
      let served := world.serving id type layers limit
        (pick ((world.registries.get registry).isDropped (world.pools.get id))
          (·.isInstanceOf type) left (world.pools.get id).idle)
      (served.1, served.2.withTrace trace) := by
  induction left generalizing world with
  | zero =>
    simp only [Attempt.skipStale, Attempt.on_bind, fits.on_reuseOrOpen, pick]
    generalize (world.pools.get id).idle.dropWhile
      ((world.registries.get registry).isDropped (world.pools.get id)) = live
    cases live with
    | nil => exact ⟨((world.withIdle id []).opening id type layers).trace, by
        simp only [isInstanceOf_fresh, if_true, serving]
        rfl⟩
    | cons connection rest =>
      refine ⟨world.trace, ?_⟩
      cases accepted : connection.isInstanceOf type <;> simp [accepted, serving] <;> rfl
  | succ left ih =>
    simp only [Attempt.skipStale, Attempt.on_bind, fits.on_reuseOrOpen, pick]
    generalize live : (world.pools.get id).idle.dropWhile
      ((world.registries.get registry).isDropped (world.pools.get id)) = idle
    cases idle with
    | nil => exact ⟨((world.withIdle id []).opening id type layers).trace, by
        simp only [isInstanceOf_fresh, if_true, serving]
        rfl⟩
    | cons connection rest =>
      cases accepted : connection.isInstanceOf type with
      | true => exact ⟨world.trace, by simp [accepted, serving]; rfl⟩
      | false =>
        let trace := Event.staleDiscarded (world.pools.get id).className connection.id
          connection.transport.name type.name :: world.trace
        have skipped : ((world.withIdle id rest).withTrace trace).pools.get id =
            { world.pools.get id with idle := rest } :=
          pool_withIdle world id rest
        obtain ⟨last, run⟩ := ih ((fits.withIdle rest).withTrace trace)
        simp only [serving_skipped, skipped] at run
        refine ⟨last, ?_⟩
        simp only [accepted, Bool.false_eq_true, if_false]
        exact run

theorem on_checked (fits : site.Fits layers type registry id world) (original : Attempt Connection)
    (limit : Nat) :
    (Attempt.checked original site.fallback limit registry id).on world =
      (Attempt.skipStale original (world.pools.get id).className type limit limit).on world := by
  rw [Attempt.on_checked, fits.expectedType]

/-- Nested checks serve what the outermost session's check alone would. -/
theorem on_acquiring (fits : site.Fits layers type registry id world) (layer : PoolLayer)
    (older : List PoolLayer) :
    ∃ trace, ((acquiring site (layer :: older)).run registry id).on world =
      let limit := ((layer :: older).getLast (List.cons_ne_nil _ _)).limit
      let served := world.serving id type layers limit
        (pick ((world.registries.get registry).isDropped (world.pools.get id))
          (·.isInstanceOf type) limit (world.pools.get id).idle)
      (served.1, served.2.withTrace trace) := by
  let limit := ((layer :: older).getLast (List.cons_ne_nil _ _)).limit
  obtain ⟨outer, limits⟩ : ∃ outer,
      (layer :: older).reverse.map PoolLayer.limit = limit :: outer := by
    rw [← List.dropLast_concat_getLast (List.cons_ne_nil layer older), List.reverse_append]
    exact ⟨_, rfl⟩
  have collapsed : (acquiring site (layer :: older)).run registry id =
      Attempt.checked (Attempt.reuseOrOpen registry id) site.fallback limit registry id := by
    rw [acquiring_eq_checkedBy, limits, Acquire.run_checkedBy]
    exact Attempt.checkedBy_checked _ site.fallback limit outer registry id
  rw [collapsed, fits.on_checked]
  exact fits.on_skipStale limit limit

theorem on_getConnection (fits : site.Fits layers type registry id world) :
    (Attempt.getConnection registry id).on world =
      ((acquiring site layers).run registry id).on world := by
  obtain ⟨function, acquire⟩ := fits.offers.acquire
  have held : (world.registries.get registry).value?
      (Seam.acquire (world.pools.get id).className) =
        some (.acquire function (acquiring site layers)) := by
    rw [fits.holds.1]
    exact acquire
  simp only [Attempt.getConnection, Attempt.on_bind, Attempt.on_lift, Action.on_pool,
    Action.on_registry, held]

theorem getConnection_cases (fits : site.Fits layers type registry id world) :
    ∃ trace,
      (∃ connection rest, (connection :: rest).Sublist (world.pools.get id).idle ∧
        (Attempt.getConnection registry id).on world =
          (.ok connection, (world.withIdle id rest).withTrace trace)) ∨
      (Attempt.getConnection registry id).on world = (.ok (world.fresh id type),
        ((world.withIdle id []).opening id type layers).withTrace trace) ∨
      ∃ error rest, rest.Sublist (world.pools.get id).idle ∧
        (Attempt.getConnection registry id).on world =
          (.error error, (world.withIdle id rest).withTrace trace) := by
  rw [fits.on_getConnection]
  cases layers with
  | nil =>
    have run : ((acquiring site []).run registry id).on world = _ := fits.on_reuseOrOpen
    rw [run]
    split
    · exact ⟨_, .inr (.inl rfl)⟩
    · rename_i connection rest live
      exact ⟨_, .inl ⟨connection, rest, sublist_of_dropWhile live, rfl⟩⟩
  | cons layer older =>
    obtain ⟨trace, run⟩ := fits.on_acquiring layer older
    rw [run]
    refine ⟨trace, ?_⟩
    dsimp only
    generalize picked : pick ((world.registries.get registry).isDropped (world.pools.get id))
      (·.isInstanceOf type) _ (world.pools.get id).idle = choice
    cases choice with
    | reused connection rest =>
      exact .inl ⟨connection, rest, sublist_of_pick.1 connection rest picked, rfl⟩
    | opened => exact .inr (.inl rfl)
    | exhausted rest => exact .inr (.inr ⟨_, rest, sublist_of_pick.2 rest picked, rfl⟩)

end PoolSite.Fits

end TransportSeams

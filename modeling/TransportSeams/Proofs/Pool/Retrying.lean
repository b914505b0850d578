import TransportSeams.Proofs.Pool.Serving
import TransportSeams.Proofs.Registry.Reference

/-!
How often a check asks. A check takes the first answer that is an error or an instance of what the
pool expects, and gives up after one answer more than it may skip. Over the stock primitive every
stale connection costs one answer, and what a failed acquisition has skipped is gone, so repeated
acquisitions come to an end.
-/

set_option autoImplicit false
set_option relaxedAutoImplicit false

namespace TransportSeams

open World

/-- The pool's class holds the type, or the fallback does where the class has no such seam. -/
def Registry.Resolves (registry : Registry) (className : String) (fallback : SeamKey)
    (type : TransportType) : Prop :=
  registry.value? (Seam.connectionType className) = some (.transport type) ∨
    registry.value? (Seam.connectionType className) = none ∧
      registry.value? fallback = some (.transport type)

namespace Registry

variable {registry : Registry} {className : String} {fallback : SeamKey} {type : TransportType}

theorem contains_eq_isSome_value? (registry : Registry) (key : SeamKey) :
    registry.contains key = (registry.value? key).isSome := by
  simp [contains, value?, binding?]

theorem transportAt_eq_ok {key : SeamKey} :
    registry.transportAt key = .ok type ↔ registry.value? key = some (.transport type) := by
  unfold transportAt
  split
  · rename_i held found
    simp [found]
  · rename_i other different found
    simp only [found, reduceCtorEq, false_iff, Option.some.injEq]
    exact different type
  · rename_i found
    simp [found]

theorem expectedType_eq_ok :
    registry.expectedType className fallback = .ok type ↔
      registry.Resolves className fallback type := by
  unfold expectedType Resolves
  simp only [contains_eq_isSome_value?]
  cases class? : registry.value? (Seam.connectionType className) with
  | some value => simp [transportAt_eq_ok, class?]
  | none =>
    cases other? : registry.value? fallback with
    | some value => simp [transportAt_eq_ok, other?]
    | none => simp

end Registry

namespace Attempt

def isStale (expected : TransportType) : Except SeamError Connection → Bool
  | .ok connection => !connection.isInstanceOf expected
  | .error _ => false

def passing (className : String) (expected : TransportType) :
    Except SeamError Connection × World → World
  | (.ok connection, left) =>
    left.telling (.staleDiscarded className connection.id connection.transport.name expected.name)
  | (.error _, left) => left

/-- The answer of an attempt that is asked once more, when so many answers have been passed over
already, together with the world that this last call leaves. -/
def answer (original : Attempt Connection) (className : String) (expected : TransportType) :
    Nat → World → Except SeamError Connection × World
  | 0, world => original.on world
  | before + 1, world =>
    answer original className expected before (passing className expected (original.on world))

variable {original : Attempt Connection} {className : String} {expected : TransportType}
  {limit left place : Nat} {world : World}

theorem on_skipStale_stale (stale : isStale expected (original.on world).1 = true) :
    (skipStale original className expected limit (left + 1)).on world =
      (skipStale original className expected limit left).on
        (passing className expected (original.on world)) := by
  rw [on_skipStale]
  generalize original.on world = turn at stale ⊢
  obtain ⟨outcome, given⟩ := turn
  cases outcome with
  | error error => cases stale
  | ok connection =>
    have refused : connection.isInstanceOf expected = false := by
      simpa [isStale] using stale
    simp [refused, passing]

theorem on_skipStale_settled (settled : isStale expected (original.on world).1 = false) :
    (skipStale original className expected limit left).on world = original.on world := by
  refine on_skipStale_accepted (fun connection given => ?_) limit left
  rw [given] at settled
  simpa [isStale] using settled

theorem skipStale_eq_answer (within : place ≤ left)
    (passed : ∀ before < place,
      isStale expected (answer original className expected before world).1 = true)
    (settled : isStale expected (answer original className expected place world).1 = false) :
    (skipStale original className expected limit left).on world =
      answer original className expected place world := by
  induction place generalizing left world with
  | zero => exact on_skipStale_settled settled
  | succ place ih =>
    obtain ⟨less, rfl⟩ : ∃ less, left = less + 1 := ⟨left - 1, by omega⟩
    rw [on_skipStale_stale (passed 0 (by omega))]
    exact ih (by omega) (fun before earlier => passed (before + 1) (by omega)) settled

theorem skipStale_exhausted (passed : ∀ before ≤ left,
      isStale expected (answer original className expected before world).1 = true) :
    (skipStale original className expected limit left).on world =
      (.error (.pool (.exhausted className expected.name limit)),
        (answer original className expected left world).2) := by
  induction left generalizing world with
  | zero =>
    have stale := passed 0 (Nat.le_refl 0)
    rw [on_skipStale]
    simp only [answer] at stale ⊢
    generalize original.on world = turn at stale ⊢
    obtain ⟨outcome, given⟩ := turn
    cases outcome with
    | error error => cases stale
    | ok connection =>
      have refused : connection.isInstanceOf expected = false := by
        simpa [isStale] using stale
      simp [refused]
  | succ left ih =>
    rw [on_skipStale_stale (passed 0 (by omega))]
    exact ih fun before within => passed (before + 1) (by omega)

end Attempt

/-- The idle connections of a pool are alive and none of them is of the type that the pool expects;
its create seam opens connections of that type. -/
structure World.IsStale (world : World) (registryId : RegistryId) (id : PoolId)
    (fallback : SeamKey) (expected : TransportType) : Prop where
  resolves : (world.registries.get registryId).Resolves (world.pools.get id).className fallback
    expected
  alive : ∀ connection ∈ (world.pools.get id).idle,
    (world.registries.get registryId).isDropped (world.pools.get id) connection = false
  stale : ∀ connection ∈ (world.pools.get id).idle, connection.isInstanceOf expected = false
  opens (later : World) : later.registries.get registryId = world.registries.get registryId →
    later.pools.get id = { world.pools.get id with idle := [] } →
      ∃ connection, ((Attempt.newConnection registryId id).on later).1 = .ok connection ∧
        connection.isInstanceOf expected = true

def Attempt.repeated (attempt : Attempt Connection) : Nat → World → World
  | 0, world => world
  | count + 1, world => repeated attempt count (attempt.on world).2

namespace World.IsStale

open Attempt

variable {registryId : RegistryId} {id : PoolId} {fallback : SeamKey} {expected : TransportType}
  {world : World} {className : String}

theorem later (stale : world.IsStale registryId id fallback expected) (count : Nat) {later : World}
    (registry : later.registries.get registryId = world.registries.get registryId)
    (pool : later.pools.get id =
      { world.pools.get id with idle := (world.pools.get id).idle.drop count }) :
    later.IsStale registryId id fallback expected where
  resolves := by
    rw [registry, pool]
    exact stale.resolves
  alive := by
    rw [registry, pool]
    exact fun connection member => stale.alive connection (List.mem_of_mem_drop member)
  stale := by
    rw [pool]
    exact fun connection member => stale.stale connection (List.mem_of_mem_drop member)
  opens := by
    rw [registry, pool]
    exact stale.opens

theorem on_reuseOrOpen_cons (stale : world.IsStale registryId id fallback expected)
    {connection : Connection} {rest : List Connection}
    (idle : (world.pools.get id).idle = connection :: rest) :
    (reuseOrOpen registryId id).on world = (.ok connection, world.withIdle id rest) := by
  have alive := stale.alive connection (idle ▸ List.mem_cons_self)
  have live : (connection :: rest).dropWhile ((world.registries.get registryId).isDropped
      (world.pools.get id)) = connection :: rest :=
    List.dropWhile_cons_of_neg (by simp [alive])
  simp only [reuseOrOpen, Attempt.on_bind, on_lift, Action.on_takeLive?, idle, live]
  rfl

theorem on_reuseOrOpen_nil (idle : (world.pools.get id).idle = []) :
    (reuseOrOpen registryId id).on world = (newConnection registryId id).on
      (world.withIdle id []) := by
  simp only [reuseOrOpen, Attempt.on_bind, on_lift, Action.on_takeLive?, idle, List.dropWhile_nil]

theorem pass (stale : world.IsStale registryId id fallback expected)
    {connection : Connection} {rest : List Connection}
    (idle : (world.pools.get id).idle = connection :: rest) (className : String) :
    let asked := (reuseOrOpen registryId id).on world
    Attempt.isStale expected asked.1 = true ∧ asked.2.registries = world.registries ∧
      asked.2.pools.get id = { world.pools.get id with idle := rest } ∧
      (passing className expected asked).IsStale registryId id fallback expected ∧
      (passing className expected asked).registries = world.registries ∧
      (passing className expected asked).pools.get id =
        { world.pools.get id with idle := rest } := by
  have refused := stale.stale connection (idle ▸ List.mem_cons_self)
  have pool := pool_withIdle world id rest
  rw [stale.on_reuseOrOpen_cons idle]
  refine ⟨by simp [Attempt.isStale, refused], rfl, pool, ?_, rfl, pool⟩
  exact stale.later 1 rfl (by rw [idle]; exact pool)

theorem answer_idle (stale : world.IsStale registryId id fallback expected) {place : Nat}
    (within : place < (world.pools.get id).idle.length) (className : String) :
    let answered := answer (reuseOrOpen registryId id) className expected place world
    Attempt.isStale expected answered.1 = true ∧ answered.2.registries = world.registries ∧
      answered.2.pools.get id =
        { world.pools.get id with idle := (world.pools.get id).idle.drop (place + 1) } := by
  induction place generalizing world with
  | zero =>
    obtain ⟨connection, rest, idle⟩ := List.exists_cons_of_length_pos within
    obtain ⟨skipped, kept, left, -⟩ := stale.pass idle className
    rw [idle]
    exact ⟨skipped, kept, left⟩
  | succ place ih =>
    obtain ⟨connection, rest, idle⟩ := List.exists_cons_of_length_pos (Nat.zero_lt_of_lt within)
    obtain ⟨-, -, -, below, kept, pool⟩ := stale.pass idle className
    rw [idle, List.length_cons] at within
    have answered := ih below (by rw [pool]; exact Nat.lt_of_succ_lt_succ within)
    simp only [kept, pool] at answered
    rw [idle]
    exact answered

theorem answer_opened (stale : world.IsStale registryId id fallback expected)
    (className : String) :
    ∃ connection, (answer (reuseOrOpen registryId id) className expected
        (world.pools.get id).idle.length world).1 = .ok connection ∧
      connection.isInstanceOf expected = true := by
  generalize counted : (world.pools.get id).idle.length = count
  induction count generalizing world with
  | zero =>
    have idle := List.eq_nil_of_length_eq_zero counted
    rw [answer, on_reuseOrOpen_nil idle]
    exact stale.opens _ rfl (pool_withIdle world id [])
  | succ count ih =>
    obtain ⟨connection, rest, idle⟩ :=
      List.exists_cons_of_length_pos (Nat.lt_of_lt_of_eq (Nat.succ_pos count) counted.symm)
    obtain ⟨-, -, -, below, -, pool⟩ := stale.pass idle className
    refine ih below ?_
    rw [idle, List.length_cons] at counted
    rw [pool]
    exact Nat.succ.inj counted

theorem on_checked (stale : world.IsStale registryId id fallback expected)
    (original : Attempt Connection) (limit : Nat) :
    (checked original fallback limit registryId id).on world =
      (skipStale original (world.pools.get id).className expected limit limit).on world := by
  rw [Attempt.on_checked, Registry.expectedType_eq_ok.2 stale.resolves]

variable {limit : Nat}

theorem on_acquire (stale : world.IsStale registryId id fallback expected)
    (within : (world.pools.get id).idle.length ≤ limit) :
    (checked (reuseOrOpen registryId id) fallback limit registryId id).on world =
      answer (reuseOrOpen registryId id) (world.pools.get id).className expected
        (world.pools.get id).idle.length world := by
  obtain ⟨connection, opened, accepted⟩ := stale.answer_opened (world.pools.get id).className
  rw [stale.on_checked]
  refine skipStale_eq_answer within (fun before earlier => (stale.answer_idle earlier _).1) ?_
  rw [opened]
  simp [Attempt.isStale, accepted]

theorem on_acquire_exhausted (stale : world.IsStale registryId id fallback expected)
    (many : limit < (world.pools.get id).idle.length) :
    let acquired := (checked (reuseOrOpen registryId id) fallback limit registryId id).on world
    acquired = (.error (.pool (.exhausted (world.pools.get id).className expected.name limit)),
        (answer (reuseOrOpen registryId id) (world.pools.get id).className expected limit
          world).2) ∧
      acquired.2.IsStale registryId id fallback expected ∧
      acquired.2.pools.get id =
        { world.pools.get id with idle := (world.pools.get id).idle.drop (limit + 1) } := by
  obtain ⟨-, kept, pool⟩ := stale.answer_idle many (world.pools.get id).className
  have run := (stale.on_checked (reuseOrOpen registryId id) limit).trans
    (skipStale_exhausted fun before earlier =>
      (stale.answer_idle (Nat.lt_of_le_of_lt earlier many) _).1)
  refine ⟨run, ?_⟩
  rw [run]
  exact ⟨stale.later (limit + 1) (congrArg (Store.get · registryId) kept) pool, pool⟩

/-- Each failure takes one connection more than may be skipped, so the failures can be counted. -/
theorem repeated_acquire (stale : world.IsStale registryId id fallback expected) :
    let acquire := checked (reuseOrOpen registryId id) fallback limit registryId id
    let failures := (world.pools.get id).idle.length / (limit + 1)
    (∀ count < failures, (acquire.on (repeated acquire count world)).1 =
      .error (.pool (.exhausted (world.pools.get id).className expected.name limit))) ∧
    ∃ connection, (acquire.on (repeated acquire failures world)).1 = .ok connection ∧
      connection.isInstanceOf expected = true := by
  intro acquire
  generalize counted : (world.pools.get id).idle.length / (limit + 1) = failures
  induction failures generalizing world with
  | zero =>
    have within : (world.pools.get id).idle.length ≤ limit :=
      Nat.lt_succ_iff.1 ((Nat.div_eq_zero_iff_lt (Nat.succ_pos limit)).1 counted)
    refine ⟨fun count few => absurd few (Nat.not_lt_zero count), ?_⟩
    rw [repeated, stale.on_acquire within]
    exact stale.answer_opened _
  | succ failures ih =>
    have many : limit < (world.pools.get id).idle.length := by
      refine Nat.lt_of_not_le fun few => ?_
      rw [Nat.div_eq_of_lt (Nat.lt_succ_of_le few)] at counted
      cases counted
    obtain ⟨run, below, pool⟩ := stale.on_acquire_exhausted many
    rw [Nat.div_eq_sub_div (Nat.succ_pos limit) many] at counted
    obtain ⟨fails, opens⟩ := ih below (by
      rw [pool, List.length_drop]
      exact Nat.succ.inj counted)
    rw [pool] at fails
    refine ⟨fun count few => ?_, opens⟩
    cases count with
    | zero => exact congrArg Prod.fst run
    | succ count => exact fails count (Nat.lt_of_succ_lt_succ few)

end World.IsStale

theorem PoolSite.AtRest.isStale {site : PoolSite} {registryId : RegistryId} {id : PoolId}
    {type : TransportType} {world : World}
    (rest : site.AtRest (world.registries.get registryId)) (holds : site.Holds (world.pools.get id))
    (held : (world.registries.get registryId).value? site.connectionType = some (.transport type))
    (alive : ∀ connection ∈ (world.pools.get id).idle,
      (world.registries.get registryId).isDropped (world.pools.get id) connection = false)
    (stale : ∀ connection ∈ (world.pools.get id).idle, connection.isInstanceOf type = false)
    (fallback : SeamKey) : world.IsStale registryId id fallback type where
  resolves := by
    refine .inl ?_
    rw [holds.1]
    exact held
  alive := alive
  stale := stale
  opens later registry pool := by
    have fits : site.Fits [] type registryId id later := by
      constructor
      · rw [pool]
        exact holds
      · rw [registry]
        exact ⟨rest.create, rest.acquire⟩
      · rw [registry]
        exact held
    rw [fits.on_newConnection]
    exact ⟨later.fresh id type, rfl, isInstanceOf_fresh later id type⟩

/-- A check hands on the first answer that is an error or an instance of what the pool expects, and
has asked for no more; after one answer more than it may skip it fails, and it asks for nothing when
the pool expects no type. Over the stock primitive it takes one answer more than there are stale
connections to skip, so that of repeated acquisitions as many fail as the stale ones fill. -/
theorem Acquire.checked_settles (fallback : SeamKey) (limit : Nat) (registryId : RegistryId)
    (id : PoolId) (world : World) :
    let registry := world.registries.get registryId
    let pool := world.pools.get id
    (∀ (original : Attempt Connection) (expected : TransportType),
      registry.Resolves pool.className fallback expected →
        let answer := original.answer pool.className expected
        let checked := (original.checked fallback limit registryId id).on world
        (∀ place ≤ limit,
          (∀ before < place, Attempt.isStale expected (answer before world).1 = true) →
            Attempt.isStale expected (answer place world).1 = false →
              checked = answer place world) ∧
        ((∀ before ≤ limit, Attempt.isStale expected (answer before world).1 = true) →
          checked = (.error (.pool (.exhausted pool.className expected.name limit)),
            (answer limit world).2))) ∧
    (∀ original : Attempt Connection,
      (¬∃ expected, registry.Resolves pool.className fallback expected) →
        ∃ error, (original.checked fallback limit registryId id).on world =
          (.error error, world)) ∧
    ∀ expected, world.IsStale registryId id fallback expected →
      let acquire := (Acquire.checked .stock fallback limit).run registryId id
      let answer := (Acquire.stock.run registryId id).answer pool.className expected
      let failures := pool.idle.length / (limit + 1)
      (acquire.on world).2 = (answer (min pool.idle.length limit) world).2 ∧
      (∀ count < failures, (acquire.on (acquire.repeated count world)).1 =
        .error (.pool (.exhausted pool.className expected.name limit))) ∧
      ∃ connection, (acquire.on (acquire.repeated failures world)).1 = .ok connection ∧
        connection.isInstanceOf expected = true := by
  refine ⟨fun original expected resolves => ?_, fun original unresolved => ?_,
    fun expected stale => ⟨?_, stale.repeated_acquire⟩⟩
  · rw [Attempt.on_checked, Registry.expectedType_eq_ok.2 resolves]
    exact ⟨fun place within => Attempt.skipStale_eq_answer within, Attempt.skipStale_exhausted⟩
  · rw [Attempt.on_checked]
    cases expects : (world.registries.get registryId).expectedType (world.pools.get id).className
        fallback with
    | ok expected => exact absurd ⟨expected, Registry.expectedType_eq_ok.1 expects⟩ unresolved
    | error error => exact ⟨error, rfl⟩
  · rcases Nat.lt_or_ge limit (world.pools.get id).idle.length with many | few
    · rw [Nat.min_eq_right (Nat.le_of_lt many)]
      have run := congrArg Prod.snd (stale.on_acquire_exhausted many).1
      exact run
    · rw [Nat.min_eq_left few]
      have run := congrArg Prod.snd (stale.on_acquire few)
      exact run

open Reference

private def staleConnection (id : Nat) : Connection :=
  ⟨⟨id⟩, "host", .root ⟨⟨1000⟩, "Recording", .unavailable⟩, false⟩

private def staleStack : List Connection :=
  [staleConnection 1, staleConnection 2, staleConnection 3]

private def stalePool : Pool :=
  ⟨httpSite.target, Adapter.probeTarget httpSite.backend, "host", staleStack⟩

private def SeamValue.passesOver (connection : Connection) : SeamValue → Bool
  | .transport expected => !connection.isInstanceOf expected
  | .probe liveness => !liveness.isDropped connection
  | _ => false

private theorem pooledWorld_values :
    (∀ connection ∈ staleStack,
      ((pooledWorld.registries.get ⟨0⟩).value? httpSite.connectionType).any
          (SeamValue.passesOver connection) = true ∧
        ((pooledWorld.registries.get ⟨0⟩).value? httpSite.probe).any
          (SeamValue.passesOver connection) = true) ∧
      ((pooledWorld.registries.get ⟨0⟩).value? (Seam.connectionType "")).isNone = true ∧
      ((pooledWorld.registries.get ⟨0⟩).value? ⟨"none", "none"⟩).isNone = true := by
  decide +kernel

private theorem stale_of_passesOver {world : World} (id : PoolId)
    (rest : httpSite.AtRest (world.registries.get ⟨0⟩))
    (passes : ∀ connection ∈ staleStack,
      ((world.registries.get ⟨0⟩).value? httpSite.connectionType).any
          (SeamValue.passesOver connection) = true ∧
        ((world.registries.get ⟨0⟩).value? httpSite.probe).any
          (SeamValue.passesOver connection) = true) (fallback : SeamKey) :
    ∃ expected, (world.withPool id stalePool).IsStale ⟨0⟩ id fallback expected := by
  obtain ⟨type, held, -⟩ := rest.type
  obtain ⟨probe, probes⟩ := rest.probe
  have pool : (world.withPool id stalePool).pools.get id = stalePool := by
    simp [withPool, Store.get_put]
  have atRest : httpSite.AtRest ((world.withPool id stalePool).registries.get ⟨0⟩) := rest
  refine ⟨type, atRest.isStale ?_ held ?_ ?_ fallback⟩
  · rw [pool]
    exact ⟨rfl, rfl⟩
  · rw [pool]
    intro connection listed
    obtain ⟨-, alive⟩ := passes connection listed
    rw [probes] at alive
    have value : ((world.withPool id stalePool).registries.get ⟨0⟩).value?
        (Seam.probe stalePool.probeTarget) = some (.probe probe) := probes
    rw [Registry.isDropped, value]
    simpa [SeamValue.passesOver] using alive
  · rw [pool]
    intro connection listed
    obtain ⟨refused, -⟩ := passes connection listed
    rw [held] at refused
    simpa [SeamValue.passesOver] using refused

private theorem pooledWorld_unresolved :
    ¬∃ type, (pooledWorld.registries.get ⟨0⟩).Resolves "" ⟨"none", "none"⟩ type := by
  have unknown := pooledWorld_values.2
  rw [Option.isNone_iff_eq_none, Option.isNone_iff_eq_none] at unknown
  rintro ⟨type, held | ⟨-, held⟩⟩
  · rw [unknown.1] at held
    cases held
  · rw [unknown.2] at held
    cases held

private def refusing : Acquire :=
  .custom (PoolAction.refusing "closed")

/-- With one connection to skip at most, three stale ones cost one failure. A primitive that refuses
is asked once, and a pool without a class is not served at all. -/
theorem Acquire.checked_settles_pooled :
    let world := pooledWorld.withPool ⟨1⟩ stalePool
    let acquire := (Acquire.checked .stock httpSite.fallback 1).run ⟨0⟩
    ∃ expected, world.IsStale ⟨0⟩ ⟨1⟩ httpSite.fallback expected ∧
      ((acquire ⟨1⟩).on world).1 = .error (.pool (.exhausted httpSite.target expected.name 1)) ∧
      (∃ connection, ((acquire ⟨1⟩).on ((acquire ⟨1⟩).on world).2).1 = .ok connection ∧
        connection.isInstanceOf expected = true) ∧
      ((Acquire.checked refusing httpSite.fallback 1).run ⟨0⟩ ⟨1⟩).on world =
        (refusing.run ⟨0⟩ ⟨1⟩).on world ∧
      ∃ error, ((Acquire.checked .stock ⟨"none", "none"⟩ 1).run ⟨0⟩ ⟨2⟩).on world =
        (.error error, world) := by
  intro world acquire
  have idle : (world.pools.get ⟨1⟩) = stalePool := by
    simp [world, withPool, Store.get_put]
  obtain ⟨expected, stale⟩ := stale_of_passesOver ⟨1⟩ (pooledWorld_atRest httpSite)
    pooledWorld_values.1 httpSite.fallback
  obtain ⟨settles, -, retries⟩ := checked_settles httpSite.fallback 1 ⟨0⟩ ⟨1⟩ world
  obtain ⟨-, unresolved, -⟩ := checked_settles ⟨"none", "none"⟩ 1 ⟨0⟩ ⟨2⟩ world
  obtain ⟨-, fails, opens⟩ := retries expected stale
  have once : stalePool.idle.length / (1 + 1) = 1 := rfl
  rw [idle, once] at fails opens
  rw [Attempt.repeated, Attempt.repeated] at opens
  have first := fails 0 Nat.one_pos
  rw [Attempt.repeated] at first
  refine ⟨expected, stale, first, opens, ?_, unresolved _ ?_⟩
  · refine (settles (refusing.run ⟨0⟩ ⟨1⟩) expected stale.resolves).1 0 (Nat.zero_le 1) ?_ rfl
    exact fun before earlier => absurd earlier (Nat.not_lt_zero before)
  · have classless : (world.pools.get ⟨2⟩).className = "" := by
      simp only [world, withPool, Store.get_put, pooledWorld_pools]
      rfl
    rw [classless, registries_withPool]
    exact pooledWorld_unresolved

end TransportSeams

import TransportSeams.Pool.Checkout
import TransportSeams.Proofs.Evaluation

/-!
Checks over checks. What a check hands out is an instance of the type that the pool expected when it
was asked, and a check around it is asked in the same world, expects the same type and takes the
first thing that it is given. So of nested checks only the innermost one does anything: it is its
limit that counts.
-/

set_option autoImplicit false
set_option relaxedAutoImplicit false

namespace TransportSeams

namespace Attempt

variable {original : Attempt Connection} {className : String} {expected : TransportType}
  {fallback : SeamKey} {registryId : RegistryId} {id : PoolId} {world : World}

theorem ext_on {α : Type} {first last : Attempt α}
    (same : ∀ world, first.on world = last.on world) : first = last :=
  funext same

theorem on_skipStale (limit left : Nat) :
    (skipStale original className expected limit left).on world =
      match original.on world with
      | (.error error, given) => (.error error, given)
      | (.ok connection, given) =>
        if connection.isInstanceOf expected then (.ok connection, given)
        else match left with
          | 0 => (.error (.pool (.exhausted className expected.name limit)), given)
          | less + 1 => (skipStale original className expected limit less).on
            (given.telling (.staleDiscarded className connection.id connection.transport.name
              expected.name)) := by
  cases left <;>
  · simp only [skipStale, on_bind]
    generalize original.on world = turn
    obtain ⟨outcome, given⟩ := turn
    cases outcome with
    | error error => rfl
    | ok connection => cases accepted : connection.isInstanceOf expected <;> simp [accepted] <;> rfl

theorem on_skipStale_accepted
    (accepted : ∀ connection, (original.on world).1 = .ok connection →
      connection.isInstanceOf expected = true) (limit left : Nat) :
    (skipStale original className expected limit left).on world = original.on world := by
  rw [on_skipStale]
  generalize original.on world = turn at accepted ⊢
  obtain ⟨outcome, given⟩ := turn
  cases outcome with
  | error error => rfl
  | ok connection => exact if_pos (accepted connection rfl)

theorem isInstanceOf_of_skipStale {limit left : Nat} {connection : Connection}
    (served : ((skipStale original className expected limit left).on world).1 = .ok connection) :
    connection.isInstanceOf expected = true := by
  induction left generalizing world with
  | zero =>
    rw [on_skipStale] at served
    split at served
    · cases served
    · split at served
      · rename_i accepted
        obtain rfl := Except.ok.inj served
        exact accepted
      · cases served
  | succ left ih =>
    rw [on_skipStale] at served
    split at served
    · cases served
    · split at served
      · rename_i accepted
        obtain rfl := Except.ok.inj served
        exact accepted
      · exact ih served

theorem on_checked (original : Attempt Connection) (fallback : SeamKey) (limit : Nat)
    (registryId : RegistryId) (id : PoolId) (world : World) :
    (checked original fallback limit registryId id).on world =
      match (world.registries.get registryId).expectedType (world.pools.get id).className
        fallback with
      | .ok expected =>
        (skipStale original (world.pools.get id).className expected limit limit).on world
      | .error error => (.error error, world) := by
  simp only [checked, on_bind, on_lift, Action.on_pool, Action.on_registry, on_ofExcept]
  cases (world.registries.get registryId).expectedType (world.pools.get id).className fallback <;>
    rfl

/-- A check around a check that expects the same adds nothing, whatever its own limit. -/
theorem checked_checked (original : Attempt Connection) (fallback : SeamKey) (inner outer : Nat)
    (registryId : RegistryId) (id : PoolId) :
    checked (checked original fallback inner registryId id) fallback outer registryId id =
      checked original fallback inner registryId id := by
  apply ext_on
  intro world
  rw [on_checked]
  have given := on_checked original fallback inner registryId id world
  split
  · rename_i expected expects
    rw [expects] at given
    refine on_skipStale_accepted (fun connection served => ?_) outer outer
    rw [given] at served
    exact isInstanceOf_of_skipStale served
  · rename_i error expects
    rw [given, expects]

/-- The attempt under one check for each limit, the first one innermost. -/
def checkedBy (original : Attempt Connection) (fallback : SeamKey) (limits : List Nat)
    (registryId : RegistryId) (id : PoolId) : Attempt Connection :=
  limits.foldl (fun inner limit => checked inner fallback limit registryId id) original

theorem checkedBy_checked (original : Attempt Connection) (fallback : SeamKey) (first : Nat)
    (others : List Nat) (registryId : RegistryId) (id : PoolId) :
    (checked original fallback first registryId id).checkedBy fallback others registryId id =
      checked original fallback first registryId id := by
  induction others with
  | nil => rfl
  | cons limit rest ih =>
    rw [checkedBy, List.foldl_cons, checked_checked]
    exact ih

end Attempt

namespace Acquire

def checkedBy (original : Acquire) (fallback : SeamKey) (limits : List Nat) : Acquire :=
  limits.foldl (fun inner limit => .checked inner fallback limit) original

theorem run_checkedBy (original : Acquire) (fallback : SeamKey) (limits : List Nat)
    (registryId : RegistryId) (id : PoolId) :
    (original.checkedBy fallback limits).run registryId id =
      (original.run registryId id).checkedBy fallback limits registryId id := by
  induction limits generalizing original with
  | nil => rfl
  | cons limit rest ih => exact ih (.checked original fallback limit)

end Acquire

/-- Nested checks of one pool do what the innermost one does alone: they are the same program, so
that in every world they hand out the same connection or fail with the same error, leave the same
pools and the same trace, and ask the original the same times. This holds of every attempt in the
place of the original, also of one that tells of each time it is asked. -/
theorem Acquire.checkedBy_eq_first (fallback : SeamKey) (first : Nat) (others : List Nat)
    (registryId : RegistryId) (id : PoolId) :
    (∀ original : Acquire, (original.checkedBy fallback (first :: others)).run registryId id =
      (Acquire.checked original fallback first).run registryId id) ∧
    ∀ original : Attempt Connection,
      original.checkedBy fallback (first :: others) registryId id =
        Attempt.checked original fallback first registryId id := by
  have collapses (original : Attempt Connection) :
      original.checkedBy fallback (first :: others) registryId id =
        Attempt.checked original fallback first registryId id :=
    Attempt.checkedBy_checked original fallback first others registryId id
  refine ⟨fun original => ?_, collapses⟩
  rw [run_checkedBy, collapses, run]

end TransportSeams

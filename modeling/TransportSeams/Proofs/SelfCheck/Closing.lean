import TransportSeams.Proofs.Pool.Draining
import TransportSeams.Proofs.Registry.Resetting
import TransportSeams.Proofs.SelfCheck.Exercising

/-!
The end of the self-check. Closing a scope that lies over a registry at rest leaves all of its
seams pristine, and its guards drain the pools in which they track what is idle, so the checks that
follow find nothing to complain about.
-/

set_option autoImplicit false
set_option relaxedAutoImplicit false

namespace TransportSeams

open World

variable {scope : Scope} {guards : List PoolGuard} {registry : RegistryId} {pools : List PoolId}
  {world left : World}

theorem Scope.LiesOver.on_close {before : Registry}
    (lies : scope.LiesOver registry before (world.registries.get registry)) :
    ∃ left, scope.close.on world = (⟨scope.size, []⟩, left) ∧
      (left.registries.get registry).SameSeams before ∧
      (left.registries.get registry).binding? = before.binding? ∧
      world.DrainedBy (guardsOf scope.entered) left := by
  obtain ⟨left, run, same, uncovered⟩ := Scope.on_exitAll world scope.session .empty lies.saved
    (fun key contained => (lies.same.contains_eq key).trans contained) lies.shown
  have drained := Scope.exitAll_drainedBy scope.session lies.distinct .empty world
  rw [run] at drained
  refine ⟨left, ?_, fun key => (same key).trans (lies.same key), uncovered, drained⟩
  rw [Scope.on_close lies.isOpen, run, TeardownReport.empty, Nat.zero_add]
  rfl

theorem World.Tracks.drained {id : PoolId} (tracks : world.Tracks guards id)
    (drained : world.DrainedBy guards left) : (left.pools.get id).idle = [] := by
  obtain ⟨connection, idle, guard, guarded, accepted, tracked⟩ := tracks
  rw [drained.pools, idle]
  exact scrubbed_tracked guarded accepted tracked

namespace SelfCheck

theorem on_checkPools (drained : ∀ id ∈ pools, (world.pools.get id).idle = []) :
    (checkPools pools).on world = (.ok (), world) := by
  induction pools with
  | nil => rfl
  | cons id rest ih =>
    obtain ⟨here, others⟩ := List.forall_mem_cons.1 drained
    have owned : ownedCount (world.pools.get id) = 0 := by
      rw [ownedCount, here, List.countP_nil]
    simp only [checkPools, Attempt.on_bind, Attempt.on_lift, Action.on_pool, owned,
      Nat.lt_irrefl, gt_iff_lt, if_false, ih others]

theorem on_checkTeardown {report : TeardownReport} (clean : report.failures = [])
    (restored : (world.registries.get registry).patchedKeys = [])
    (drained : ∀ id ∈ pools, (world.pools.get id).idle = []) :
    (checkTeardown registry pools report).on world = (.ok (), world) := by
  simp only [checkTeardown, TeardownReport.isClean, clean, List.isEmpty_nil, if_true,
    Attempt.on_bind, Attempt.on_lift, Action.on_registry, restored,
    on_checkPools drained]

end SelfCheck

end TransportSeams

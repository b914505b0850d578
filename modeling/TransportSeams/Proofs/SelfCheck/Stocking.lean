import TransportSeams.Proofs.Pool.Serving
import TransportSeams.Proofs.SelfCheck.Registering
import TransportSeams.SelfCheck

/-!
The pools of the self-check. Each is a new pool of a class at rest, and its one idle connection was
opened through the stock primitives, so it belongs to no session.
-/

set_option autoImplicit false
set_option relaxedAutoImplicit false

namespace TransportSeams

open World

structure PoolSite.IsStocked (site : PoolSite) (pool : Pool) : Prop where
  holds : site.Holds pool
  stock : ∃ connection, pool.idle = [connection] ∧ connection.owner? = none

theorem PoolSite.AtRest.offers {site : PoolSite} {registry : Registry}
    (rest : site.AtRest registry) : registry.Offers site .stock .stock :=
  ⟨rest.create, rest.acquire⟩

namespace SelfCheck

def label (site : PoolSite) : Backend × String :=
  (site.backend, site.poolClass.name)

def sites (enabled : List Backend) : List PoolSite :=
  [Backend.sessions, .pooled].attach.flatMap fun backend =>
    if enabled.contains backend.1 then
      Adapter.poolClasses.attach.map fun poolClass =>
        ⟨backend.1, poolClass.1, backend.2, poolClass.2⟩
    else []

theorem poolClasses_eq (enabled : List Backend) :
    poolClasses enabled = (sites enabled).map label := by
  unfold poolClasses sites
  simp only [List.attach_cons, List.attach_nil, List.map_cons, List.map_nil, List.flatMap_cons,
    List.flatMap_nil]
  cases enabled.contains .sessions <;> cases enabled.contains .pooled <;> rfl

theorem mem_sites {enabled : List Backend} {site : PoolSite} :
    site ∈ sites enabled ↔ site.backend ∈ enabled := by
  obtain ⟨backend, poolClass, pooling, listed⟩ := site
  simp only [sites, List.mem_flatMap, List.mem_attach, true_and, Subtype.exists]
  constructor
  · rintro ⟨other, pooling', member⟩
    split at member
    · rename_i known
      obtain ⟨_, -, same⟩ := List.mem_map.1 member
      cases same
      exact List.contains_iff_mem.1 known
    · cases member
  · intro known
    refine ⟨backend, pooling, ?_⟩
    rw [if_pos (List.contains_iff_mem.2 known)]
    exact List.mem_map.2 ⟨⟨poolClass, listed⟩, List.mem_attach _ _, rfl⟩

theorem length_sites (keep : Backend → Bool) : (sites (Backend.all.filter keep)).length =
    2 * ((Backend.all.filter keep).filter Backend.hasPools).length := by
  have contains (backend : Backend) :
      (Backend.all.filter keep).contains backend = keep backend := by
    rw [Bool.eq_iff_iff, List.contains_iff_mem, List.mem_filter]
    exact and_iff_right (Backend.mem_all backend)
  have pools : (Backend.all.filter keep).filter Backend.hasPools =
      [Backend.sessions, .pooled].filter keep := by
    rw [List.filter_filter]
    simp only [Bool.and_comm]
    rw [← List.filter_filter]
    rfl
  rw [pools]
  unfold sites
  simp only [List.attach_cons, List.attach_nil, List.map_cons, List.map_nil, List.flatMap_cons,
    List.flatMap_nil, contains, List.filter_cons, List.filter_nil]
  cases keep .sessions <;> cases keep .pooled <;> rfl

/-- The second world has new pools of the classes, with stock, and the pools of the first one. -/
structure Stocks (stock : List (PoolSite × PoolId)) (old new : World) : Prop where
  kept : old.KeepsRegistries new
  stocked : ∀ entry ∈ stock, entry.1.IsStocked (new.pools.get entry.2)
  distinct : (stock.map Prod.snd).Nodup
  issued : ∀ entry ∈ stock, old.nextObject ≤ entry.2.index
  others (id : PoolId) : id.index < old.nextObject → new.pools.get id = old.pools.get id

variable {registry : RegistryId} {site : PoolSite} {world : World}

theorem holds_pool (site : PoolSite) :
    site.Holds (Reference.pool site.backend site.poolClass.name host) :=
  ⟨rfl, rfl⟩

theorem on_makePools_cons (atRest : site.AtRest (world.registries.get registry))
    (rest : List (Backend × String)) :
    ∃ stocked, Stocks [(site, ⟨world.nextObject⟩)] world stocked ∧
      stocked.nextObject = world.nextObject + 1 ∧
      ∀ {pools left}, (makePools registry rest).on stocked = (.ok pools, left) →
        (makePools registry (label site :: rest)).on world =
          (.ok (⟨world.nextObject⟩ :: pools), left) := by
  let id : PoolId := ⟨world.nextObject⟩
  let made : World := ({ world with nextObject := world.nextObject + 1 } : World).withPool id
    (Reference.pool site.backend site.poolClass.name host)
  have held : made.pools.get id = Reference.pool site.backend site.poolClass.name host :=
    (Store.get_put world.pools id id _).trans (if_pos rfl)
  obtain ⟨type, typed, unowned⟩ := atRest.type
  have fits : site.Fits [] type registry id made :=
    ⟨by rw [held]; exact holds_pool site, atRest.offers, typed⟩
  let opened := made.opening id type []
  let stocked := opened.withPool id ((opened.pools.get id).putIdle (made.fresh id type))
  have pool : stocked.pools.get id =
      (Reference.pool site.backend site.poolClass.name host).putIdle (made.fresh id type) := by
    refine ((Store.get_put opened.pools id id _).trans (if_pos rfl)).trans ?_
    rw [pools_opening, held]
  refine ⟨stocked, ⟨rfl, ?_, List.pairwise_singleton _ _, ?_, ?_⟩, rfl, ?_⟩
  · intro entry member
    obtain rfl := List.mem_singleton.1 member
    show site.IsStocked (stocked.pools.get id)
    rw [pool]
    exact ⟨holds_pool site, _, rfl, unowned⟩
  · intro entry member
    obtain rfl := List.mem_singleton.1 member
    exact Nat.le_refl _
  · intro other earlier
    have different : id ≠ other := by
      rintro rfl
      exact Nat.lt_irrefl _ earlier
    refine ((Store.get_put opened.pools id other _).trans (if_neg different)).trans ?_
    exact (Store.get_put world.pools id other _).trans (if_neg different)
  · intro pools left run
    have new : (Action.newPool (Reference.pool site.backend site.poolClass.name host)).on world =
        (id, made) := rfl
    have put : (Action.putIdle id (made.fresh id type)).on opened = ((), stocked) := rfl
    have opens : (Attempt.newConnection registry id).on made = (.ok (made.fresh id type), opened) :=
      fits.on_newConnection
    simp only [label, makePools, Attempt.on_bind, Attempt.on_lift, new, opens, put, run]
    rfl

theorem on_makePools {sites : List PoolSite}
    (atRest : ∀ site ∈ sites, site.AtRest (world.registries.get registry)) :
    ∃ stock left, (makePools registry (sites.map label)).on world =
        (.ok (stock.map Prod.snd), left) ∧
      stock.map Prod.fst = sites ∧ Stocks stock world left := by
  induction sites generalizing world with
  | nil =>
    exact ⟨[], world, rfl, rfl, rfl, List.forall_mem_nil _, .nil, List.forall_mem_nil _,
      fun _ _ => rfl⟩
  | cons site rest ih =>
    obtain ⟨first, others⟩ := List.forall_mem_cons.1 atRest
    obtain ⟨middle, made, next, run⟩ := on_makePools_cons first (rest.map label)
    rw [← made.kept] at others
    obtain ⟨stock, left, run', labelled, stocks⟩ := ih others
    have new : (⟨world.nextObject⟩ : PoolId).index < middle.nextObject := by
      rw [next]
      exact Nat.lt_succ_self _
    refine ⟨(site, ⟨world.nextObject⟩) :: stock, left, run run', congrArg (site :: ·) labelled,
      trans_of KeepsRegistries made.kept stocks.kept, ?_, List.nodup_cons.2 ⟨?_, stocks.distinct⟩,
      ?_, ?_⟩
    · refine List.forall_mem_cons.2 ⟨?_, stocks.stocked⟩
      rw [stocks.others _ new]
      exact made.stocked _ List.mem_cons_self
    · intro again
      obtain ⟨entry, member, same⟩ := List.mem_map.1 again
      exact Nat.not_lt.2 (stocks.issued entry member) (same ▸ new)
    · refine List.forall_mem_cons.2 ⟨Nat.le_refl _, fun entry member => ?_⟩
      have later := stocks.issued entry member
      omega
    · intro id before
      rw [stocks.others id (by omega), made.others id before]

end SelfCheck

end TransportSeams

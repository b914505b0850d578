import TransportSeams.Proofs.SelfCheck.Closing
import TransportSeams.Proofs.SelfCheck.Preparing

/-!
The outcome of the self-check. Whatever is disabled, it succeeds with counts that the enabled
backends determine, unless there are pools to use and no stale connection may be skipped: then it
fails at the first pool.
-/

set_option autoImplicit false
set_option relaxedAutoImplicit false

namespace TransportSeams

open World

namespace SelfCheck

/-- The counts of a self-check that succeeds. -/
def expected (config : Config) : SelfCheckSummary :=
  let enabled := config.enabledBackends
  let seams := (Reference.seamsOf enabled).length
  let guards := 2 * (enabled.filter Backend.hasPools).length
  { backends := enabled.length
    seams := seams
    resources := seams + guards
    patched := seams
    handlerCalls := (Reference.seamsOf enabled).countP fun seam => seam.2.asHandler?.isSome
    poolCheckouts := guards }

def UsesPools (config : Config) : Prop :=
  .sessions ∈ config.enabledBackends ∨ .pooled ∈ config.enabledBackends

instance (config : Config) : Decidable (UsesPools config) :=
  inferInstanceAs (Decidable (_ ∨ _))

def conclude (config : Config) (registry : RegistryId) (pools : List PoolId) (scope : Scope) :
    Attempt SelfCheckSummary := do
  let during ← Action.registry registry
  let exercised ← (exercise registry pools).observe
  let report ← scope.close
  let (checkouts, calls) ← Attempt.ofExcept exercised
  checkTeardown registry pools report
  let summary : SelfCheckSummary :=
    ⟨config.enabledBackends.length, during.keys.length, scope.size, during.patchedKeys.length,
      calls, checkouts⟩
  Action.emit (.selfCheckCompleted summary)
  return summary

theorem on_run {config : Config} {builder : Builder} {pools : List PoolId} {scope : Scope}
    {world old new : World} (prepared : (prepare config).on world = (.ok (builder, pools), old))
    (started : builder.start.on old = (.ok scope, new)) :
    (run config).on world = (conclude config builder.registry pools scope).on new := by
  simp only [prepare, Attempt.on_bind, Attempt.on_lift] at prepared
  simp only [run, Attempt.on_bind, Attempt.on_lift]
  generalize Action.newRegistry.on world = opened at prepared ⊢
  generalize (Reference.register opened.1 config.enabledBackends).on opened.2 = registered
    at prepared ⊢
  obtain ⟨outcome, middle⟩ := registered
  cases outcome with
  | error error => cases prepared
  | ok _ =>
    dsimp only at prepared ⊢
    generalize (makePools opened.1 (poolClasses config.enabledBackends)).on middle = stocked
      at prepared ⊢
    obtain ⟨outcome, left⟩ := stocked
    cases outcome with
    | error error => cases prepared
    | ok made =>
      cases prepared
      show _ = (conclude config opened.1 pools scope).on new
      simp only [started, conclude, Attempt.on_bind, Attempt.on_lift]

section Session

variable {config : Config} {builder : Builder} {stock : List (PoolSite × PoolId)} {scope : Scope}
  {old new : World}

namespace Ready

variable (ready : Ready config builder stock old)

include ready

theorem length_stock :
    stock.length = 2 * (config.enabledBackends.filter Backend.hasPools).length := by
  rw [← List.length_map Prod.fst, ready.classes]
  exact length_sites _

theorem stock_ne_nil_iff : stock ≠ [] ↔ UsesPools config := by
  rw [← List.length_pos_iff, ready.length_stock, Nat.mul_pos_iff_of_pos_left (Nat.zero_lt_two),
    List.length_filter_pos_iff]
  constructor
  · rintro ⟨backend, enabled, pools⟩
    have pooling : backend ∈ [Backend.sessions, .pooled] := of_decide_eq_true pools
    rcases List.mem_cons.1 pooling with rfl | pooling
    · exact .inl enabled
    · obtain rfl := List.mem_singleton.1 pooling
      exact .inr enabled
  · rintro (enabled | enabled)
    · exact ⟨.sessions, enabled, rfl⟩
    · exact ⟨.pooled, enabled, rfl⟩

variable (opens : builder.Opens old scope new)

include opens

theorem keys_perm : (new.registries.get builder.registry).keys.Perm
    (config.enabledBackends.flatMap fun backend => (Adapter.standard backend).declaredSeams) :=
  opens.liesOver.same.keys_perm.trans (ready.references.keys_perm List.filter_sublist)

theorem length_keys : (new.registries.get builder.registry).keys.length =
    (Reference.seamsOf config.enabledBackends).length := by
  rw [(ready.keys_perm opens).length_eq, ← Reference.keys_seamsOf, List.length_map]

theorem owned : ∀ key ∈ (new.registries.get builder.registry).keys, ∃ value,
    (new.registries.get builder.registry).binding? key = some ⟨value, some sessionId⟩ ∧
      (value.asHandler? = none ∨ Reference.isHandled key = true) := by
  intro key listed
  rw [← ready.session]
  exact opens.owns ready.serves ((ready.keys_perm opens).mem_iff.1 listed)

theorem patchedKeys_eq : (new.registries.get builder.registry).patchedKeys =
    (new.registries.get builder.registry).keys :=
  Registry.patchedKeys_eq_keys fun key listed =>
    have ⟨value, held, _⟩ := ready.owned opens key listed
    ⟨value, sessionId, held⟩

theorem size_eq : scope.size = (expected config).resources := by
  rw [opens.size_eq, ready.serves.length_build.2]
  rfl

theorem laid : ∀ entry ∈ stock,
    IsLaid config.acquireLimit (guardsOf scope.entered) builder.registry new entry.1 := by
  intro entry member
  have enabled : entry.1.backend ∈ config.enabledBackends := by
    rw [← mem_sites, ← ready.classes]
    exact List.mem_map_of_mem member
  obtain ⟨guard, guarded, shown, empty⟩ :=
    opens.shows_layer ready.serves enabled (ready.atRest entry.1 enabled).offers
  rw [ready.session, ready.limit] at shown
  exact ⟨guard, guarded, shown, by rw [empty]; rfl⟩

theorem stocked_during : ∀ entry ∈ stock, entry.1.IsStocked (new.pools.get entry.2) := by
  rw [opens.pools_eq ready.serves]
  exact ready.stocked

theorem answers {key : SeamKey} (listed : key ∈ (new.registries.get builder.registry).keys)
    (handled : Reference.isHandled key = true) :
    ∃ handler, (new.registries.get builder.registry).value? key = some (.handler handler) ∧
      Answers handler := by
  rw [Registry.mem_keys_iff, opens.liesOver.same.contains_eq] at listed
  obtain ⟨site, rfl, enabled, function, held⟩ := ready.references.handles listed handled
  obtain ⟨wrapper, shown⟩ := opens.wraps ready.serves enabled held
  exact ⟨_, shown, congrArg some ready.session, _, rfl⟩

theorem exerciseHandlers_keys : exerciseHandlers (new.registries.get builder.registry)
    (new.registries.get builder.registry).keys = .ok (expected config).handlerCalls := by
  rw [exerciseHandlers_eq fun key listed => ready.answers opens listed]
  · rw [(ready.keys_perm opens).countP_eq, ← Reference.countP_seamsOf]
    rfl
  · intro key listed plain handler held
    obtain ⟨value, shown, placed⟩ := ready.owned opens key listed
    rw [Registry.value?, shown] at held
    obtain rfl : value = .handler handler := Option.some.inj held
    rcases placed with none | handled
    · cases none
    · rw [plain] at handled
      cases handled

theorem on_exercise (usable : stock ≠ [] → 0 < config.acquireLimit) :
    ∃ left, (exercise builder.registry (stock.map Prod.snd)).on new =
        (.ok ((expected config).poolCheckouts, (expected config).handlerCalls), left) ∧
      new.DiffersAtPools left ∧
      ∀ id ∈ stock.map Prod.snd, left.Tracks (guardsOf scope.entered) id := by
  obtain ⟨left, run, differs, tracked, -⟩ := on_exercisePools usable (ready.laid opens)
    (ready.stocked_during opens) ready.distinct
  refine ⟨left, ?_, differs, tracked⟩
  have calls := ready.exerciseHandlers_keys opens
  rw [← differs.registries] at calls
  have count : stock.length = (expected config).poolCheckouts := ready.length_stock
  simp only [exercise, Attempt.on_bind, run, count, Attempt.on_lift, Action.on_registry, calls]
  rfl

theorem on_conclude (usable : stock ≠ [] → 0 < config.acquireLimit) :
    ∃ left, (conclude config builder.registry (stock.map Prod.snd) scope).on new =
      (.ok (expected config), left) := by
  obtain ⟨used, exercised, differs, tracked⟩ := ready.on_exercise opens usable
  have lies := opens.liesOver
  rw [← differs.registries] at lies
  obtain ⟨closed, run, same, uncovered, drained⟩ := lies.on_close
  have restored : (closed.registries.get builder.registry).patchedKeys = [] := by
    refine Registry.patchedKeys_eq_nil ?_
    rw [uncovered, ready.references.binding?_eq]
    exact funext fun key => (same key).symm
  have checked : (checkTeardown builder.registry (stock.map Prod.snd) ⟨scope.size, []⟩).on closed =
      (.ok (), closed) :=
    on_checkTeardown rfl restored fun id listed => (tracked id listed).drained drained
  have summary : (⟨config.enabledBackends.length,
      (new.registries.get builder.registry).keys.length, scope.size,
      (new.registries.get builder.registry).patchedKeys.length, (expected config).handlerCalls,
      (expected config).poolCheckouts⟩ : SelfCheckSummary) = expected config := by
    rw [ready.patchedKeys_eq opens, ready.length_keys opens, ready.size_eq opens]
    rfl
  refine ⟨closed.telling (.selfCheckCompleted (expected config)), ?_⟩
  simp only [conclude, Attempt.on_bind, Attempt.on_lift, Action.on_registry, Attempt.on_observe,
    exercised, run, Attempt.on_ofExcept, checked, summary]
  rfl

theorem on_conclude_refused (some : stock ≠ []) (none : config.acquireLimit = 0) :
    ∃ fault left, (conclude config builder.registry (stock.map Prod.snd) scope).on new =
      (.error (.pool fault), left) := by
  have laid := ready.laid opens
  rw [none] at laid
  obtain ⟨fault, used, run⟩ := on_exercisePools_refused some laid (ready.stocked_during opens)
  have exercised : (exercise builder.registry (stock.map Prod.snd)).on new =
      (.error (.pool fault), used) := by
    simp only [exercise, Attempt.on_bind, run]
  refine ⟨fault, (scope.close.on used).2, ?_⟩
  simp only [conclude, Attempt.on_bind, Attempt.on_lift, Action.on_registry, Attempt.on_observe,
    exercised, Attempt.on_ofExcept]

end Ready

end Session

variable {config : Config}

/-- Whatever the world, the self-check gets as far as its session. -/
theorem run_reaches (config : Config) (world : World) : ∃ builder stock scope old new,
    Ready config builder stock old ∧ builder.Opens old scope new ∧
      (run config).on world =
        (conclude config builder.registry (stock.map Prod.snd) scope).on new := by
  obtain ⟨builder, stock, old, prepared, ready⟩ := on_prepare config world
  obtain ⟨scope, new, started, opens⟩ := ready.serves.on_start
  exact ⟨builder, stock, scope, old, new, ready, opens, on_run prepared started⟩

theorem run_ok (usable : UsesPools config → 0 < config.acquireLimit) (world : World) :
    ∃ left, (run config).on world = (.ok (expected config), left) := by
  obtain ⟨builder, stock, scope, old, new, ready, opens, run⟩ := run_reaches config world
  rw [run]
  exact ready.on_conclude opens fun some => usable (ready.stock_ne_nil_iff.1 some)

theorem run_refused (pools : UsesPools config) (none : config.acquireLimit = 0) (world : World) :
    ∃ fault left, (run config).on world = (.error (.pool fault), left) := by
  obtain ⟨builder, stock, scope, old, new, ready, opens, run⟩ := run_reaches config world
  rw [run]
  exact ready.on_conclude_refused opens (ready.stock_ne_nil_iff.2 pools) none

/-- The self-check succeeds, with the counts of the enabled backends, exactly if a stale connection
may be skipped or there are no pools to use; otherwise it fails at a pool. -/
theorem outcome_iff (config : Config) (world : World) :
    (((run config).on world).1 = .ok (expected config) ↔
      0 < config.acquireLimit ∨ ¬UsesPools config) ∧
    ((∃ fault, ((run config).on world).1 = .error (.pool fault)) ↔
      config.acquireLimit = 0 ∧ UsesPools config) := by
  by_cases refuses : config.acquireLimit = 0 ∧ UsesPools config
  · obtain ⟨none, pools⟩ := refuses
    obtain ⟨fault, left, run⟩ := run_refused pools none world
    simp [run, none, pools]
  · have usable (pools : UsesPools config) : 0 < config.acquireLimit :=
      Nat.pos_of_ne_zero fun none => refuses ⟨none, pools⟩
    obtain ⟨left, run⟩ := run_ok usable world
    simp [run, refuses, Decidable.or_not_of_imp usable]

end SelfCheck

end TransportSeams

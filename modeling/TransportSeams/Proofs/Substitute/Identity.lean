import Mathlib.Data.Finset.Dedup
import Mathlib.Data.Finset.Card
import TransportSeams.Proofs.Pool.Serving
import TransportSeams.Proofs.Substitute.History

/-!
What a substitute says of the pair that it was asked for. It tells the type that it stands for and
the session that it belongs to, so two pairs share a substitute only where one of the types is that
substitute already, and each cache has exactly as many entries as it was asked for other pairs.
-/

set_option autoImplicit false
set_option relaxedAutoImplicit false

namespace TransportSeams

open World

namespace TransportType

variable {base other : TransportType} {session session' : SessionId} {id id' : TransportId}

theorem substitute_ne (base : TransportType) (session : SessionId) (id : TransportId) :
    base.substitute session id ≠ base := by
  intro same
  have sizes := congrArg sizeOf same
  simp only [substitute, derived.sizeOf_spec] at sizes
  omega

theorem substitute_inj (same : base.substitute session id = other.substitute session' id') :
    session = session' ∧ base = other := by
  injection same with header bases
  injection header with _ _ slots
  injection slots with sessions
  exact ⟨sessions, bases⟩

theorem isBoundTo_substitute : (base.substitute session id).isBoundTo session = true :=
  decide_eq_true rfl

theorem derivesFrom_substitute : (base.substitute session id).derivesFrom base = true := by
  have self := base.derivesFrom_self
  unfold derivesFrom at self ⊢
  rw [substitute, lineage, List.any_cons, self, Bool.or_true]

theorem isBoundTo_unique (bound : base.isBoundTo session = true)
    (bound' : base.isBoundTo session' = true) : session = session' := by
  rw [isBoundTo, decide_eq_true_eq] at bound bound'
  exact Option.some.inj (bound.symm.trans bound')

end TransportType

theorem World.Accounts.bound_of_again {known : List TransportType}
    {asked : CacheId → List SubstitutePair} {world : World} (accounts : world.Accounts known asked)
    {cache : CacheId} {base type : TransportType} {session : SessionId} (member : base ∈ known)
    (again : (Action.substitute cache base session).on world = (type, world)) :
    type.isBoundTo session = true ∧ type.derivesFrom base = true := by
  rcases accounts.substitute_cases member again with ⟨own, same⟩ | ⟨-, made⟩
  · rw [same]
    exact ⟨own, base.derivesFrom_self⟩
  · rw [made]
    exact ⟨TransportType.isBoundTo_substitute, TransportType.derivesFrom_substitute⟩

namespace TypeHistory

variable {history : List FinishedCall} {world : World} {cache cache' : CacheId}
  {base base' type type' : TransportType} {session session' : SessionId}

theorem known_base (run : TypeHistory history world)
    (call : .got cache base session type ∈ history) : base ∈ knownTypes history :=
  run.known_given _ call base List.mem_cons_self

theorem known_got (call : .got cache base session type ∈ history) : type ∈ knownTypes history :=
  known_types call type List.mem_cons_self

theorem eq_of_isSame (run : TypeHistory history world) (known : type ∈ knownTypes history)
    (known' : type' ∈ knownTypes history) (same : type.isSame type' = true) : type = type' :=
  run.accounts.told type known type' known' (of_decide_eq_true same)

theorem got_cases (run : TypeHistory history world)
    (call : .got cache base session type ∈ history) :
    (base.isBoundTo session = true ∧ type = base) ∨
      (base.isBoundTo session = false ∧ type = base.substitute session type.id) :=
  run.accounts.substitute_cases (run.known_base call) (run.isKept _ call)

theorem isBoundTo_got (run : TypeHistory history world)
    (call : .got cache base session type ∈ history) : type.isBoundTo session = true :=
  (run.accounts.bound_of_again (run.known_base call) (run.isKept _ call)).1

theorem isSame_base_iff (run : TypeHistory history world)
    (call : .got cache base session type ∈ history) :
    type.isSame base = true ↔ base.isBoundTo session = true := by
  constructor
  · intro same
    have equal := run.eq_of_isSame (known_got call) (run.known_base call) same
    rcases run.got_cases call with ⟨own, -⟩ | ⟨-, made⟩
    · exact own
    · exact absurd (made.symm.trans equal) (base.substitute_ne session type.id)
  · intro own
    rcases run.got_cases call with ⟨-, same⟩ | ⟨other, -⟩
    · rw [same]
      exact decide_eq_true rfl
    · rw [own] at other
      cases other

theorem base?_got (run : TypeHistory history world)
    (call : .got cache base session type ∈ history) (foreign : base.isBoundTo session = false) :
    type.base? = some base := by
  rcases run.got_cases call with ⟨own, -⟩ | ⟨-, made⟩
  · rw [foreign] at own
    cases own
  · rw [made]
    rfl

theorem got_unique (run : TypeHistory history world)
    (call : .got cache base session type ∈ history)
    (call' : .got cache base' session type' ∈ history) (same : base.isSame base' = true) :
    type = type' := by
  cases run.eq_of_isSame (run.known_base call) (run.known_base call') same
  exact (Prod.mk.inj ((run.isKept _ call).symm.trans (run.isKept _ call'))).1

/-- Where two calls, of whatever caches, come to the same, they were made for the same session, and
for the same type unless one of the two is what came out. -/
theorem pair_of_got (run : TypeHistory history world)
    (call : .got cache base session type ∈ history)
    (call' : .got cache' base' session' type' ∈ history) (same : type.isSame type' = true) :
    session = session' ∧ (base = base' ∨ base = type ∨ base' = type) := by
  cases run.eq_of_isSame (known_got call) (known_got call') same
  refine ⟨TransportType.isBoundTo_unique (run.isBoundTo_got call) (run.isBoundTo_got call'), ?_⟩
  rcases run.got_cases call with ⟨-, own⟩ | ⟨-, made⟩
  · exact .inr (.inl own.symm)
  · rcases run.got_cases call' with ⟨-, own'⟩ | ⟨-, made'⟩
    · exact .inr (.inr own'.symm)
    · exact .inl (TransportType.substitute_inj (made.symm.trans made')).2

theorem size_cache (run : TypeHistory history world) (cache : CacheId) :
    (world.caches.get cache).size = (askedPairs history cache).toFinset.card := by
  have keys := congrArg List.length (run.accounts.keys cache)
  rw [List.length_map, List.length_map] at keys
  rw [List.card_toFinset]
  exact keys

end TypeHistory

/-- What the calls of a run say of the substitutes that came out. -/
structure World.Identifies (world : World) (history : List FinishedCall) : Prop where
  /-- Equality of the types of the run is identity. -/
  objects : ∀ type ∈ knownTypes history, ∀ type' ∈ knownTypes history,
    type.isSame type' = true → type = type'
  same {cache : CacheId} {base base' : TransportType} {session : SessionId}
    {type type' : TransportType} : .got cache base session type ∈ history →
      .got cache base' session type' ∈ history → base.isSame base' = true → type = type'
  bound {cache : CacheId} {base : TransportType} {session : SessionId} {type : TransportType} :
    .got cache base session type ∈ history →
      type.isBoundTo session = true ∧ type.derivesFrom base = true
  itself {cache : CacheId} {base : TransportType} {session : SessionId} {type : TransportType} :
    .got cache base session type ∈ history →
      (type.isSame base = true ↔ base.isBoundTo session = true)
  derived {cache : CacheId} {base : TransportType} {session : SessionId} {type : TransportType} :
    .got cache base session type ∈ history → base.isBoundTo session = false →
      type.base? = some base
  /-- Nothing is added for a substitute of the session's own substitute. -/
  again {cache : CacheId} {base : TransportType} {session : SessionId} {type : TransportType} :
    .got cache base session type ∈ history →
      (Action.substitute cache type session).on world = (type, world)
  apart {cache cache' : CacheId} {base base' : TransportType} {session session' : SessionId}
    {type type' : TransportType} : .got cache base session type ∈ history →
      .got cache' base' session' type' ∈ history → type.isSame type' = true →
        session = session' ∧ (base = base' ∨ base = type ∨ base' = type)
  size (cache : CacheId) :
    (world.caches.get cache).size = (askedPairs history cache).toFinset.card

/-- In every run substitutes tell what they were asked for: calls for the same type and session come
to the same, other calls only if one of the types is the substitute itself, and the size of a cache
is the number of pairs that it was asked for, those left out whose type is the session's own. -/
theorem TypeHistory.identifies {history : List FinishedCall} {world : World}
    (run : TypeHistory history world) : world.Identifies history where
  objects _ known _ known' := run.eq_of_isSame known known'
  same := run.got_unique
  bound call := run.accounts.bound_of_again (run.known_base call) (run.isKept _ call)
  itself := run.isSame_base_iff
  derived := run.base?_got
  again call := Action.on_substitute_self (run.isBoundTo_got call) _ world
  apart := run.pair_of_got
  size := run.size_cache

private def chainCache : CacheId :=
  ⟨0⟩

private def morning : SessionId :=
  ⟨"morning"⟩

private def evening : SessionId :=
  ⟨"evening"⟩

private def chainPlain : TransportType :=
  .root ⟨⟨1⟩, "HttpConnection", .unavailable⟩

private def chainStub : TransportType :=
  .derived ⟨⟨2⟩, "RecordingHttpConnection", .unbound⟩ chainPlain

private def morningStub : TransportType :=
  chainStub.substitute morning ⟨3⟩

private def eveningStub : TransportType :=
  morningStub.substitute evening ⟨4⟩

/-- Substitutes of substitutes, and of a library's own type; another cache is asked as well. -/
private def chainCalls : List TypeCall :=
  [.plain "HttpConnection", .instrumented "RecordingHttpConnection" (some chainPlain),
    .get chainCache chainStub morning, .get chainCache morningStub evening,
    .get chainCache eveningStub morning, .get ⟨1⟩ chainStub morning,
    .get chainCache chainStub morning, .get chainCache morningStub morning,
    .get chainCache chainPlain morning]

private def chainRun : List FinishedCall × World :=
  chainCalls.foldl (fun reached call => call.record reached) ([], .initial)

private theorem chainRun_isHistory : TypeHistory chainRun.1 chainRun.2 :=
  TypeHistory.calls (.start fun _ => rfl) (by decide +kernel)

theorem TypeHistory.identifies_chain :
    TypeHistory chainRun.1 chainRun.2 ∧ chainRun.2.Identifies chainRun.1 ∧
      (chainRun.2.caches.get chainCache).size = 4 :=
  ⟨chainRun_isHistory, chainRun_isHistory.identifies, by decide +kernel⟩

end TransportSeams

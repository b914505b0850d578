import TransportSeams.Proofs.Registry.Resetting
import TransportSeams.Proofs.Substitute.Identity

/-!
Resolving as rewriting. At each path through the tables of a value the result has the same: a table
with the same keys, the same leaf, or, for a type with a session slot, the substitute that the cache
has for it. All values that were resolved for a session by one cache are rewritten alike, and a
result is rewritten to itself.
-/

set_option autoImplicit false
set_option relaxedAutoImplicit false

namespace TransportSeams

open World

def SeamValue.at? : List String → SeamValue → Option SeamValue
  | [], value => some value
  | key :: path, .table entries => (entries.find? key).bind (at? path)
  | _ :: _, _ => none

namespace SeamTable

variable {bound : Option String}

theorem keys_mapTypes (change : TransportType → TransportType) :
    {bound : Option String} → (entries : SeamTable bound) →
      (entries.mapTypes change).keys = entries.keys
  | _, .nil => rfl
  | _, .cons key _ _ rest => congrArg (key :: ·) (rest.keys_mapTypes change)

theorem mem_types_of_find? {key : String} {value : SeamValue} {type : TransportType}
    (member : type ∈ value.types) : {bound : Option String} → (entries : SeamTable bound) →
      entries.find? key = some value → type ∈ entries.types
  | _, .cons first _ present rest, found => by
    rw [find?] at found
    rw [types, List.mem_append]
    split at found
    · cases found
      exact .inl member
    · exact .inr (rest.mem_types_of_find? member found)

end SeamTable

namespace SeamValue

theorem at?_mapTypes (change : TransportType → TransportType) (path : List String)
    (value : SeamValue) :
    (value.mapTypes change).at? path = (value.at? path).map (·.mapTypes change) := by
  induction path generalizing value with
  | nil => rw [at?, at?, Option.map_some]
  | cons key path ih =>
    cases value with
    | table entries =>
      rw [mapTypes, at?, at?, entries.find?_mapTypes change key]
      cases entries.find? key with
      | none => rfl
      | some entry => exact ih entry
    | transport | acquire | create | probe | handler => rfl

theorem mem_types_of_at? {path : List String} {value : SeamValue} {type : TransportType}
    (here : value.at? path = some (.transport type)) : type ∈ value.types := by
  induction path generalizing value with
  | nil =>
    rw [Option.some.inj here]
    exact List.mem_cons_self
  | cons key path ih =>
    cases value with
    | table entries =>
      obtain ⟨entry, found, below⟩ := Option.bind_eq_some_iff.1 here
      exact entries.mem_types_of_find? (ih below) found
    | transport | acquire | create | probe | handler => cases here

end SeamValue

mutual

theorem SeamValue.on_resolve_bound (cache : CacheId) (session : SessionId) (world : World) :
    (value : SeamValue) →
      (∀ type ∈ value.types, type.hasSessionSlot = true → type.isBoundTo session = true) →
        (value.resolve cache session).on world = (value, world)
  | .table entries, bound => by
    rw [SeamValue.resolve, Action.on_bind, entries.on_resolve_bound cache session world bound]
    rfl
  | .transport type, bound => by
    rw [SeamValue.resolve, Action.on_ite]
    split
    · rename_i slot
      rw [Action.on_bind, Action.on_substitute_self (bound type List.mem_cons_self slot)]
      rfl
    · rfl
  | .acquire _ _, _ | .create _ _, _ | .probe _, _ | .handler _, _ => rfl

theorem SeamTable.on_resolve_bound (cache : CacheId) (session : SessionId) (world : World)
    {bound : Option String} : (entries : SeamTable bound) →
      (∀ type ∈ entries.types, type.hasSessionSlot = true → type.isBoundTo session = true) →
        (entries.resolve cache session).on world = (entries, world)
  | .nil, _ => rfl
  | .cons _ _ value rest, bound => by
    have first := value.on_resolve_bound cache session world fun type member =>
      bound type (List.mem_append_left _ member)
    have last := rest.on_resolve_bound cache session world fun type member =>
      bound type (List.mem_append_right _ member)
    simp only [SeamTable.resolve, Action.on_bind, first, last]
    rfl

end

/-- What resolving has made of what was at a path: of a type with a session slot the substitute
that the cache has for it, of a table one with the same keys, and of all else nothing new. -/
def SeamValue.BecomesIn (world : World) (cache : CacheId) (session : SessionId) :
    SeamValue → SeamValue → Prop
  | .transport type, result =>
    if type.hasSessionSlot then
      ∃ substitute, result = .transport substitute ∧ substitute.isBoundTo session = true ∧
        substitute.derivesFrom type = true ∧
        (Action.substitute cache type session).on world = (substitute, world)
    else result = .transport type
  | .table entries, result => ∃ others, result = .table others ∧ others.keys = entries.keys
  | leaf, result => result = leaf

namespace TypeHistory

variable {history : List FinishedCall} {world : World} {cache : CacheId} {session : SessionId}
  {value value' result result' : SeamValue} {path path' : List String}

theorem leaf_resolved (run : TypeHistory history world)
    (call : .resolved cache value session result ∈ history) {type : TransportType}
    (here : value.at? path = some (.transport type)) (slot : type.hasSessionSlot = true) :
    ∃ substitute, result.at? path = some (.transport substitute) ∧
      (Action.substitute cache type session).on world = (substitute, world) := by
  obtain ⟨change, rewritten, answers⟩ := run.isKept _ call
  have answer := answers type (SeamValue.mem_types_of_at? here)
  rw [if_pos slot] at answer
  refine ⟨change type, ?_, answer⟩
  rw [rewritten, SeamValue.at?_mapTypes, here]
  rfl

theorem becomes_resolved (run : TypeHistory history world)
    (call : .resolved cache value session result ∈ history) (path : List String) :
    Option.Rel (SeamValue.BecomesIn world cache session) (value.at? path) (result.at? path) := by
  obtain ⟨change, rewritten, answers⟩ := run.isKept _ call
  rw [rewritten, SeamValue.at?_mapTypes]
  cases here : value.at? path with
  | none => exact .none
  | some part =>
    refine .some ?_
    cases part with
    | table entries => exact ⟨_, rfl, entries.keys_mapTypes change⟩
    | transport type =>
      have member := SeamValue.mem_types_of_at? here
      have answer := answers type member
      rw [SeamValue.BecomesIn]
      split
      · rename_i slot
        rw [if_pos slot] at answer
        obtain ⟨bound, derived⟩ :=
          run.accounts.bound_of_again (run.known_given _ call type member) answer
        exact ⟨change type, rfl, bound, derived, answer⟩
      · rename_i plain
        rw [if_neg plain] at answer
        exact congrArg SeamValue.transport answer
    | acquire | create | probe | handler => rfl

theorem consistent_resolved (run : TypeHistory history world)
    (call : .resolved cache value session result ∈ history)
    (call' : .resolved cache value' session result' ∈ history) {type type' : TransportType}
    (here : value.at? path = some (.transport type))
    (here' : value'.at? path' = some (.transport type')) (same : type.isSame type' = true)
    (slot : type.hasSessionSlot = true) :
    ∃ substitute, result.at? path = some (.transport substitute) ∧
      result'.at? path' = some (.transport substitute) := by
  have known := run.known_given _ call type (SeamValue.mem_types_of_at? here)
  have known' := run.known_given _ call' type' (SeamValue.mem_types_of_at? here')
  cases run.eq_of_isSame known known' same
  obtain ⟨substitute, there, answer⟩ := run.leaf_resolved call here slot
  obtain ⟨substitute', there', answer'⟩ := run.leaf_resolved call' here' slot
  cases (Prod.mk.inj (answer.symm.trans answer')).1
  exact ⟨substitute, there, there'⟩

theorem on_resolve_resolved (run : TypeHistory history world)
    (call : .resolved cache value session result ∈ history) :
    (result.resolve cache session).on world = (result, world) := by
  refine result.on_resolve_bound cache session world fun type member slot => ?_
  obtain ⟨change, rewritten, answers⟩ := run.isKept _ call
  rw [rewritten, SeamValue.types_mapTypes] at member
  obtain ⟨base, listed, rfl⟩ := List.mem_map.1 member
  have answer := answers base listed
  split at answer
  · exact (run.accounts.bound_of_again (run.known_given _ call base listed) answer).1
  · rename_i plain
    rw [answer] at slot
    exact absurd slot plain

end TypeHistory

/-- What the resolutions of a run have made of the values. -/
structure World.Rewrites (world : World) (history : List FinishedCall) : Prop where
  shape {cache : CacheId} {session : SessionId} {value result : SeamValue} :
    .resolved cache value session result ∈ history → ∀ path,
      Option.Rel (SeamValue.BecomesIn world cache session) (value.at? path) (result.at? path)
  consistent {cache : CacheId} {session : SessionId} {value value' result result' : SeamValue}
    {path path' : List String} {type type' : TransportType} :
    .resolved cache value session result ∈ history →
      .resolved cache value' session result' ∈ history →
        value.at? path = some (.transport type) → value'.at? path' = some (.transport type') →
          type.isSame type' = true → type.hasSessionSlot = true →
            ∃ substitute, result.at? path = some (.transport substitute) ∧
              result'.at? path' = some (.transport substitute)
  /-- Nothing is added when a result is resolved, and it comes out as it is. -/
  again {cache : CacheId} {session : SessionId} {value result : SeamValue} :
    .resolved cache value session result ∈ history →
      (result.resolve cache session).on world = (result, world) ∧ result.isSame result = true

/-- In every run, resolving keeps the tables and their keys, replaces the types that have a session
slot by the substitutes of the cache, all values of a session alike, and leaves all else and its own
results as they are. -/
theorem TypeHistory.rewrites {history : List FinishedCall} {world : World}
    (run : TypeHistory history world) : world.Rewrites history where
  shape := run.becomes_resolved
  consistent call call' := run.consistent_resolved call call'
  again {_ _ _ result} call := ⟨run.on_resolve_resolved call, result.isSame_refl⟩

private def nestedCache : CacheId :=
  ⟨0⟩

private def daily : SessionId :=
  ⟨"daily"⟩

private def nestedPlain : TransportType :=
  .root ⟨⟨1⟩, "HttpConnection", .unavailable⟩

private def nestedStub : TransportType :=
  .derived ⟨⟨2⟩, "RecordingHttpConnection", .unbound⟩ nestedPlain

private def weeklyStub : TransportType :=
  nestedStub.substitute ⟨"weekly"⟩ ⟨3⟩

private def dailyStub : TransportType :=
  nestedStub.substitute daily ⟨4⟩

/-- A stub, the session's substitute of it and another session's, and a library's own type. -/
private def nestedTable : SeamValue :=
  .table <| .ofList [("http", .transport nestedStub), ("plain", .transport nestedPlain),
    ("schemes", .table <| .ofList [("http", .transport nestedStub),
      ("other", .transport weeklyStub), ("own", .transport dailyStub)])]

private def nestedCalls : List TypeCall :=
  [.plain "HttpConnection", .instrumented "RecordingHttpConnection" (some nestedPlain),
    .get nestedCache nestedStub ⟨"weekly"⟩, .get nestedCache nestedStub daily,
    .resolve nestedCache nestedTable daily,
    .resolve nestedCache (.transport nestedStub) daily]

private def nestedRun : List FinishedCall × World :=
  nestedCalls.foldl (fun reached call => call.record reached) ([], .initial)

private theorem nestedRun_isHistory : TypeHistory nestedRun.1 nestedRun.2 :=
  TypeHistory.calls (.start fun _ => rfl) (by decide +kernel)

private def nestedResult : SeamValue :=
  ((nestedTable.resolve nestedCache daily).on
    ((nestedCalls.take 4).foldl (fun reached call => call.record reached) ([], .initial)).2).1

private theorem nestedResult_mem :
    .resolved nestedCache nestedTable daily nestedResult ∈ nestedRun.1 :=
  List.mem_cons_of_mem _ List.mem_cons_self

theorem TypeHistory.rewrites_nested :
    TypeHistory nestedRun.1 nestedRun.2 ∧ nestedRun.2.Rewrites nestedRun.1 ∧
      (∃ substitute, nestedResult.at? ["http"] = some (.transport substitute) ∧
        nestedResult.at? ["schemes", "http"] = some (.transport substitute)) ∧
      (nestedRun.2.caches.get nestedCache).size = 3 := by
  have rewrites := nestedRun_isHistory.rewrites
  refine ⟨nestedRun_isHistory, rewrites, ?_, by decide +kernel⟩
  exact rewrites.consistent nestedResult_mem nestedResult_mem rfl rfl
    (decide_eq_true rfl : nestedStub.isSame nestedStub = true) rfl

end TransportSeams

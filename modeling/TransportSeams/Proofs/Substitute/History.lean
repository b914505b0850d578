import Mathlib.Data.List.Dedup
import TransportSeams.Proofs.Run.Calls
import TransportSeams.Proofs.Substitute.Binding

/-!
Whole runs of calls that make types and ask caches for substitutes, with what came out of every
call. A type that came out may be the base of a later one or may be asked for again, from any cache
and for any session. After every run an id stands for one type, each cache holds one entry for each
pair that it was asked for, in the order of the first requests, and all answers are still the ones
that it would give.
-/

set_option autoImplicit false
set_option relaxedAutoImplicit false

namespace TransportSeams

open World

inductive TypeCall where
  | plain (name : String)
  | instrumented (name : String) (base? : Option TransportType)
  | get (cache : CacheId) (base : TransportType) (session : SessionId)
  | resolve (cache : CacheId) (value : SeamValue) (session : SessionId)

/-- A call, with what came out of it. -/
inductive FinishedCall where
  | made (type : TransportType)
  | got (cache : CacheId) (base : TransportType) (session : SessionId) (type : TransportType)
  | resolved (cache : CacheId) (value : SeamValue) (session : SessionId) (result : SeamValue)

namespace TypeCall

def given : TypeCall → List TransportType
  | plain _ => []
  | instrumented _ base? => base?.toList
  | get _ base _ => [base]
  | resolve _ value _ => value.types

def finish : TypeCall → Action FinishedCall
  | plain name => .made <$> (Call.plainType name).perform
  | instrumented name base? => .made <$> (Call.instrumentedType name base?).perform
  | get cache base session =>
    .got cache base session <$> (Call.substitute cache base session).perform
  | resolve cache value session =>
    .resolved cache value session <$> (Call.resolve cache session value).perform

end TypeCall

abbrev SubstitutePair : Type :=
  TransportType × SessionId

def SubstitutePair.key (pair : SubstitutePair) : SubstituteKey :=
  ⟨pair.1.id, pair.2⟩

/-- The pair that a cache is asked for, unless the type is the session's own. -/
def TransportType.pairs (base : TransportType) (session : SessionId) : List SubstitutePair :=
  if base.isBoundTo session then [] else [(base, session)]

def SeamValue.pairs (value : SeamValue) (session : SessionId) : List SubstitutePair :=
  (value.types.filter (·.hasSessionSlot)).reverse.flatMap (·.pairs session)

namespace FinishedCall

def given : FinishedCall → List TransportType
  | made _ => []
  | got _ base _ _ => [base]
  | resolved _ value _ _ => value.types

def types : FinishedCall → List TransportType
  | made type => [type]
  | got _ _ _ type => [type]
  | resolved _ _ _ result => result.types

def pairs (cache : CacheId) : FinishedCall → List SubstitutePair
  | made _ => []
  | got asked base session _ => if asked = cache then base.pairs session else []
  | resolved asked value session _ => if asked = cache then value.pairs session else []

end FinishedCall

def knownTypes (history : List FinishedCall) : List TransportType :=
  history.flatMap (·.types)

def askedPairs (history : List FinishedCall) (cache : CacheId) : List SubstitutePair :=
  history.flatMap (·.pairs cache)

/-- Worlds that runs reach, with the finished calls, the newest first. A run starts with empty
caches. It passes only types that it knows, and whatever is done meanwhile makes no types. -/
inductive TypeHistory : List FinishedCall → World → Prop where
  | start {world : World} : (∀ cache, world.caches.get cache = .empty) → TypeHistory [] world
  | meanwhile {history : List FinishedCall} {world later : World} :
    (∀ cache, later.caches.get cache = world.caches.get cache) →
      later.nextTransport = world.nextTransport → TypeHistory history world →
        TypeHistory history later
  | call {history : List FinishedCall} {world : World} (call : TypeCall) :
    (∀ type ∈ call.given, type ∈ knownTypes history) → TypeHistory history world →
      TypeHistory ((call.finish.on world).1 :: history) (call.finish.on world).2

namespace TypeCall

def record (call : TypeCall) (reached : List FinishedCall × World) : List FinishedCall × World :=
  ((call.finish.on reached.2).1 :: reached.1, (call.finish.on reached.2).2)

/-- Every one of the calls passes only types that are known by then. -/
def Passes : List TypeCall → List FinishedCall × World → Prop
  | [], _ => True
  | call :: rest, reached =>
    (∀ type ∈ call.given, type ∈ knownTypes reached.1) ∧ Passes rest (call.record reached)

instance : (calls : List TypeCall) → (reached : List FinishedCall × World) →
    Decidable (Passes calls reached)
  | [], _ => .isTrue trivial
  | call :: rest, reached =>
    have := instDecidablePasses rest (call.record reached)
    inferInstanceAs (Decidable (_ ∧ _))

end TypeCall

theorem TypeHistory.calls {calls : List TypeCall} {reached : List FinishedCall × World}
    (run : TypeHistory reached.1 reached.2) (passes : TypeCall.Passes calls reached) :
    let last := calls.foldl (fun reached call => call.record reached) reached
    TypeHistory last.1 last.2 := by
  induction calls generalizing reached with
  | nil => exact run
  | cons call rest ih => exact ih (run.call call passes.1) passes.2

theorem SubstituteCache.find?_eq_none {cache : SubstituteCache} {key : SubstituteKey} :
    cache.find? key = none ↔ key ∉ cache.entries.map Prod.fst := by
  rw [find?, Option.map_eq_none_iff, List.find?_eq_none]
  simp only [decide_eq_true_eq, List.mem_map, not_exists, not_and]

/-- A world in which ids stand for one of the known types each and caches hold the substitutes of
the pairs that they were asked for. -/
structure World.Accounts (known : List TransportType) (asked : CacheId → List SubstitutePair)
    (world : World) : Prop where
  earlier : ∀ type ∈ known, type.id.index < world.nextTransport.index
  told : ∀ a ∈ known, ∀ b ∈ known, a.id = b.id → a = b
  foreign (cache : CacheId) : ∀ pair ∈ asked cache,
    pair.1 ∈ known ∧ pair.1.isBoundTo pair.2 = false
  held (cache : CacheId) : ∀ pair ∈ asked cache, ∃ type ∈ known,
    (world.caches.get cache).find? pair.key = some type ∧
      type = pair.1.substitute pair.2 type.id
  keys (cache : CacheId) :
    (world.caches.get cache).entries.map Prod.fst = (asked cache).dedup.map SubstitutePair.key

namespace World.Accounts

variable {known known' : List TransportType} {asked asked' : CacheId → List SubstitutePair}
  {world later : World}

theorem start (empty : ∀ cache, world.caches.get cache = .empty) :
    world.Accounts [] fun _ => [] where
  earlier _ member := by cases member
  told _ member := by cases member
  foreign _ _ member := by cases member
  held _ _ member := by cases member
  keys cache := by rw [empty]; rfl

theorem meanwhile (accounts : world.Accounts known asked)
    (caches : ∀ cache, later.caches.get cache = world.caches.get cache)
    (supply : later.nextTransport = world.nextTransport) : later.Accounts known asked where
  earlier type member := by
    rw [supply]
    exact accounts.earlier type member
  told := accounts.told
  foreign := accounts.foreign
  held cache := by
    rw [caches]
    exact accounts.held cache
  keys cache := by rw [caches, accounts.keys]

/-- Neither the order of the known types matters nor that a pair was asked for again. -/
theorem regroup (accounts : world.Accounts known asked)
    (types : ∀ type, type ∈ known' ↔ type ∈ known)
    (pairs : ∀ cache, (asked' cache).dedup = (asked cache).dedup) :
    world.Accounts known' asked' := by
  have member (cache : CacheId) (pair : SubstitutePair) :
      pair ∈ asked' cache ↔ pair ∈ asked cache := by
    rw [← List.mem_dedup, pairs, List.mem_dedup]
  constructor
  · exact fun type listed => accounts.earlier type ((types type).1 listed)
  · exact fun a listed b listed' => accounts.told a ((types a).1 listed) b ((types b).1 listed')
  · intro cache pair listed
    exact (accounts.foreign cache pair ((member cache pair).1 listed)).imp_left (types _).2
  · intro cache pair listed
    obtain ⟨type, listed', found, made⟩ := accounts.held cache pair ((member cache pair).1 listed)
    exact ⟨type, (types type).2 listed', found, made⟩
  · intro cache
    rw [accounts.keys, pairs]

theorem fresh (accounts : world.Accounts known asked) {type other : TransportType}
    (new : type.id = world.nextTransport) (member : other ∈ known) : other.id ≠ type.id := by
  intro same
  have earlier := accounts.earlier other member
  rw [same, new] at earlier
  exact Nat.lt_irrefl _ earlier

theorem told_cons (accounts : world.Accounts known asked) {type : TransportType}
    (new : type.id = world.nextTransport) :
    ∀ a ∈ type :: known, ∀ b ∈ type :: known, a.id = b.id → a = b := by
  intro a member b member' same
  rcases List.mem_cons.1 member with here | member
  · rcases List.mem_cons.1 member' with here' | member'
    · rw [here, here']
    · exact absurd (here ▸ same.symm) (accounts.fresh new member')
  · rcases List.mem_cons.1 member' with here' | member'
    · exact absurd (here' ▸ same) (accounts.fresh new member)
    · exact accounts.told a member b member' same

theorem earlier_cons (accounts : world.Accounts known asked) {type : TransportType}
    (new : type.id = world.nextTransport) :
    ∀ other ∈ type :: known, other.id.index < world.nextTransport.index + 1 := by
  intro other member
  rcases List.mem_cons.1 member with rfl | member
  · rw [new]
    exact Nat.lt_succ_self _
  · exact Nat.lt_succ_of_lt (accounts.earlier other member)

theorem made (accounts : world.Accounts known asked) {type : TransportType}
    (new : type.id = world.nextTransport) :
    World.Accounts (type :: known) asked
      { world with nextTransport := ⟨world.nextTransport.index + 1⟩ } where
  earlier := accounts.earlier_cons new
  told := accounts.told_cons new
  foreign cache pair member := by
    obtain ⟨listed, other⟩ := accounts.foreign cache pair member
    exact ⟨List.mem_cons_of_mem type listed, other⟩
  held cache pair member := by
    obtain ⟨held, listed, found⟩ := accounts.held cache pair member
    exact ⟨held, List.mem_cons_of_mem type listed, found⟩
  keys := accounts.keys

theorem mem_of_key (accounts : world.Accounts known asked) {cache : CacheId}
    {base : TransportType} {session : SessionId} (member : base ∈ known)
    (key : SubstitutePair.key (base, session) ∈ (asked cache).dedup.map SubstitutePair.key) :
    (base, session) ∈ asked cache := by
  obtain ⟨⟨other, _⟩, listed, same⟩ := List.mem_map.1 key
  rw [List.mem_dedup] at listed
  obtain ⟨ids, rfl⟩ := SubstituteKey.mk.injEq .. ▸ same
  rwa [← accounts.told other (accounts.foreign cache _ listed).1 base member ids]

theorem missing (accounts : world.Accounts known asked) {cache : CacheId} {base : TransportType}
    {session : SessionId} (member : base ∈ known) (new : (base, session) ∉ asked cache) :
    (world.caches.get cache).find? ⟨base.id, session⟩ = none := by
  rw [SubstituteCache.find?_eq_none, accounts.keys]
  exact fun key => new (accounts.mem_of_key member key)

def asking (asked : CacheId → List SubstitutePair) (cache : CacheId) (pairs : List SubstitutePair)
    (other : CacheId) : List SubstitutePair :=
  (if cache = other then pairs else []) ++ asked other

theorem asking_nil (asked : CacheId → List SubstitutePair) (cache other : CacheId) :
    asking asked cache [] other = asked other := by
  rw [asking, ite_self, List.nil_append]

theorem asking_append (asked : CacheId → List SubstitutePair) (cache : CacheId)
    (first last : List SubstitutePair) (other : CacheId) :
    asking asked cache (last ++ first) other =
      asking (asking asked cache first) cache last other := by
  simp only [asking]
  split
  · rw [List.append_assoc]
  · rfl

theorem substitute_new (accounts : world.Accounts known asked) {cache : CacheId}
    {base : TransportType} {session : SessionId} (member : base ∈ known)
    (foreign : base.isBoundTo session = false) (new : (base, session) ∉ asked cache) :
    World.Accounts (((Action.substitute cache base session).on world).1 :: known)
      (asking asked cache [(base, session)])
      ((Action.substitute cache base session).on world).2 := by
  have grown := Action.substitute_extends cache base session world
  rw [Action.on_substitute_new foreign (accounts.missing member new)] at grown ⊢
  let made := base.substitute session world.nextTransport
  have own : made.id = world.nextTransport := rfl
  refine ⟨accounts.earlier_cons own, accounts.told_cons own, ?foreign, ?held, ?keys⟩
  case foreign =>
    intro other pair listed
    rcases List.mem_append.1 listed with listed | listed
    · split at listed
      · rw [List.mem_singleton.1 listed]
        exact ⟨List.mem_cons_of_mem made member, foreign⟩
      · cases listed
    · exact (accounts.foreign other pair listed).imp_left (List.mem_cons_of_mem made)
  case held =>
    intro other pair listed
    rcases List.mem_append.1 listed with listed | listed
    · split at listed
      · rename_i here
        rw [List.mem_singleton.1 listed, Store.get_put, if_pos here, SubstituteCache.find?_insert]
        exact ⟨made, List.mem_cons_self, if_pos rfl, rfl⟩
      · cases listed
    · obtain ⟨type, known, found, shape⟩ := accounts.held other pair listed
      exact ⟨type, List.mem_cons_of_mem made known, grown.substitutes other _ type found, shape⟩
  case keys =>
    intro other
    rw [Store.get_put, asking]
    split
    · rename_i here
      subst here
      rw [List.singleton_append, List.dedup_cons_of_notMem new]
      exact congrArg (List.cons _) (accounts.keys cache)
    · exact accounts.keys other

theorem substitute_held (accounts : world.Accounts known asked) {cache : CacheId}
    {base : TransportType} {session : SessionId} (old : (base, session) ∈ asked cache) :
    World.Accounts (((Action.substitute cache base session).on world).1 :: known)
      (asking asked cache [(base, session)])
      ((Action.substitute cache base session).on world).2 := by
  obtain ⟨type, listed, found, -⟩ := accounts.held cache _ old
  rw [Action.on_substitute_made (accounts.foreign cache _ old).2 found]
  refine accounts.regroup (fun other => ?_) fun other => ?_
  · exact ⟨fun member => (List.mem_cons.1 member).elim (· ▸ listed) id,
      List.mem_cons_of_mem type⟩
  · rw [asking]
    split
    · rename_i here
      subst here
      exact List.dedup_cons_of_mem old
    · rfl

theorem substitute (accounts : world.Accounts known asked) (cache : CacheId)
    {base : TransportType} (session : SessionId) (member : base ∈ known) :
    World.Accounts (((Action.substitute cache base session).on world).1 :: known)
      (asking asked cache (base.pairs session))
      ((Action.substitute cache base session).on world).2 := by
  rw [TransportType.pairs]
  split
  · rename_i own
    rw [Action.on_substitute_self own]
    refine accounts.regroup (fun other => ?_) fun other => by rw [asking_nil]
    exact ⟨fun listed => (List.mem_cons.1 listed).elim (· ▸ member) id,
      List.mem_cons_of_mem base⟩
  · rename_i other
    by_cases old : (base, session) ∈ asked cache
    · exact accounts.substitute_held old
    · exact accounts.substitute_new member (by simpa using other) old

variable {cache : CacheId} {session : SessionId}

mutual

theorem resolve {asked : CacheId → List SubstitutePair} {known : List TransportType}
    {world : World} (accounts : world.Accounts known asked) : (value : SeamValue) →
      (∀ type ∈ value.types, type ∈ known) →
        World.Accounts (((value.resolve cache session).on world).1.types ++ known)
          (asking asked cache (value.pairs session)) ((value.resolve cache session).on world).2
  | .table entries, passed => accounts.resolveTable entries passed
  | .transport type, passed => by
    have member := passed type List.mem_cons_self
    rw [SeamValue.resolve, Action.on_ite, SeamValue.pairs, SeamValue.types]
    split
    · rename_i slot
      have pairs : ([type].filter (·.hasSessionSlot)).reverse.flatMap (·.pairs session) =
          type.pairs session := by simp [slot]
      rw [pairs]
      exact accounts.substitute cache session member
    · rename_i plain
      have pairs : ([type].filter (·.hasSessionSlot)).reverse.flatMap (·.pairs session) = [] := by
        simp [plain]
      rw [pairs]
      refine accounts.regroup (fun other => ?_) fun other => by rw [asking_nil]
      exact ⟨fun listed => (List.mem_cons.1 listed).elim (· ▸ member) id,
        List.mem_cons_of_mem type⟩
  | .acquire _ _, _ | .create _ _, _ | .probe _, _ | .handler _, _ =>
    accounts.regroup (fun _ => Iff.rfl) fun other => congrArg _ (asking_nil asked cache other)

theorem resolveTable {asked : CacheId → List SubstitutePair} {known : List TransportType}
    {world : World} (accounts : world.Accounts known asked) {bound : Option String} :
    (entries : SeamTable bound) → (∀ type ∈ entries.types, type ∈ known) →
      World.Accounts (((entries.resolve cache session).on world).1.types ++ known)
        (asking asked cache
          ((entries.types.filter (·.hasSessionSlot)).reverse.flatMap (·.pairs session)))
        ((entries.resolve cache session).on world).2
  | .nil, _ => accounts.regroup (fun _ => Iff.rfl) fun other =>
    congrArg _ (asking_nil asked cache other)
  | .cons _ _ value rest, passed => by
    have first := accounts.resolve value fun type listed =>
      passed type (List.mem_append_left _ listed)
    have last := first.resolveTable rest fun type listed =>
      List.mem_append_right _ (passed type (List.mem_append_right _ listed))
    refine last.regroup (fun type => ?_) fun other => ?_
    · simp only [SeamTable.resolve, Action.on_bind, Action.on_pure, SeamTable.types,
        List.mem_append]
      exact or_assoc.trans or_left_comm
    · rw [SeamTable.types, List.filter_append, List.reverse_append, List.flatMap_append,
        asking_append]
      rfl

end

end World.Accounts

def World.KeepsSubstitutes (old new : World) : Prop :=
  ∀ cache key type, (old.caches.get cache).find? key = some type →
    (new.caches.get cache).find? key = some type

theorem Action.on_substitute_later {cache : CacheId} {base type : TransportType}
    {session : SessionId} {world later : World} (kept : world.KeepsSubstitutes later)
    (got : (substitute cache base session).on world = (type, world)) :
    (substitute cache base session).on later = (type, later) := by
  cases own : base.isBoundTo session with
  | true =>
    rw [on_substitute_self own] at got ⊢
    rw [(Prod.mk.inj got).1]
  | false =>
    have held := find?_substitute own cache world
    rw [got] at held
    exact on_substitute_made own (kept cache _ type held)

/-- The world gives the answer of the call again, and nothing is added for it. -/
def FinishedCall.IsKept (world : World) : FinishedCall → Prop
  | made _ => True
  | got cache base session type => (Action.substitute cache base session).on world = (type, world)
  | resolved cache value session result =>
    ∃ change, result = value.mapTypes change ∧ ∀ type ∈ value.types,
      if type.hasSessionSlot then
        (Action.substitute cache type session).on world = (change type, world)
      else change type = type

theorem FinishedCall.IsKept.later {world later : World} (kept : world.KeepsSubstitutes later)
    {call : FinishedCall} (known : call.IsKept world) : call.IsKept later := by
  cases call with
  | made _ => trivial
  | got => exact Action.on_substitute_later kept known
  | resolved =>
    obtain ⟨change, result, answers⟩ := known
    refine ⟨change, result, fun type member => ?_⟩
    have answer := answers type member
    split
    · rename_i slot
      rw [if_pos slot] at answer
      exact Action.on_substitute_later kept answer
    · rename_i plain
      rwa [if_neg plain] at answer

namespace World.Accounts

variable {known : List TransportType} {asked : CacheId → List SubstitutePair} {world : World}
  {cache : CacheId} {base type : TransportType} {session : SessionId}

theorem on_substitute (accounts : world.Accounts known asked)
    (old : (base, session) ∈ asked cache) :
    ∃ type, (world.caches.get cache).find? ⟨base.id, session⟩ = some type ∧
      (Action.substitute cache base session).on world = (type, world) := by
  obtain ⟨type, -, found, -⟩ := accounts.held cache _ old
  exact ⟨type, found, Action.on_substitute_made (accounts.foreign cache _ old).2 found⟩

theorem substitute_cases (accounts : world.Accounts known asked) (member : base ∈ known)
    (again : (Action.substitute cache base session).on world = (type, world)) :
    (base.isBoundTo session = true ∧ type = base) ∨
      (base.isBoundTo session = false ∧ type = base.substitute session type.id) := by
  cases own : base.isBoundTo session with
  | true =>
    rw [Action.on_substitute_self own] at again
    exact .inl ⟨rfl, (Prod.mk.inj again).1.symm⟩
  | false =>
    have found := Action.find?_substitute own cache world
    rw [again] at found
    have old : (base, session) ∈ asked cache := by
      by_contra new
      rw [accounts.missing member new] at found
      cases found
    obtain ⟨substitute, -, held, made⟩ := accounts.held cache _ old
    cases Option.some.inj (held.symm.trans found)
    exact .inr ⟨rfl, made⟩

end World.Accounts

theorem SeamValue.mem_pairs {value : SeamValue} {type : TransportType} {session : SessionId}
    (member : type ∈ value.types) (slot : type.hasSessionSlot = true)
    (foreign : type.isBoundTo session = false) : (type, session) ∈ value.pairs session := by
  refine List.mem_flatMap.2 ⟨type, List.mem_reverse.2 (List.mem_filter.2 ⟨member, slot⟩), ?_⟩
  rw [TransportType.pairs, if_neg (by simp [foreign])]
  exact List.mem_singleton_self _

theorem FinishedCall.isKept_resolved {known : List TransportType}
    {asked : CacheId → List SubstitutePair} {world : World} (accounts : world.Accounts known asked)
    (cache : CacheId) (value : SeamValue) (session : SessionId)
    (passed : ∀ type ∈ value.types, type ∈ known) :
    (resolved cache value session ((value.resolve cache session).on world).1).IsKept
      ((value.resolve cache session).on world).2 := by
  have after : World.Accounts _ (World.Accounts.asking asked cache (value.pairs session)) _ :=
    accounts.resolve value passed
  obtain ⟨bind, follows⟩ := SubstituteCache.exists_follows
    (((value.resolve cache session).on world).2.caches.get cache) session
  refine ⟨TransportType.boundBy session bind, value.resolve_eq follows, fun type member => ?_⟩
  split
  · rename_i slot
    cases own : type.isBoundTo session with
    | true =>
      have same : type.boundBy session bind = type := if_neg (by simp [own])
      exact (Action.on_substitute_self own cache _).trans (by rw [same])
    | false =>
      have old : (type, session) ∈
          World.Accounts.asking asked cache (value.pairs session) cache := by
        rw [World.Accounts.asking, if_pos rfl]
        exact List.mem_append_left _ (SeamValue.mem_pairs member slot own)
      obtain ⟨substitute, found, again⟩ := after.on_substitute old
      have same : type.boundBy session bind = bind type.id := if_pos (by simp [slot, own])
      exact again.trans (by rw [same, follows _ _ found])
  · rename_i plain
    exact if_neg (by simp [plain])

namespace TypeHistory

variable {history : List FinishedCall} {world : World}

/-- One call keeps the accounts of what is known and asked for. -/
theorem accounts_call {known : List TransportType} {asked : CacheId → List SubstitutePair}
    (accounts : world.Accounts known asked) (call : TypeCall)
    (given : ∀ type ∈ call.given, type ∈ known) :
    World.Accounts ((call.finish.on world).1.types ++ known)
      (fun cache => (call.finish.on world).1.pairs cache ++ asked cache)
      (call.finish.on world).2 := by
  cases call with
  | plain name => exact accounts.made rfl
  | instrumented name base? => exact accounts.made (by cases base? <;> rfl)
  | get cache base session =>
    exact accounts.substitute cache session (given base List.mem_cons_self)
  | resolve cache value session => exact accounts.resolve value given

theorem keeps_call (call : TypeCall) (world : World) :
    world.KeepsSubstitutes (call.finish.on world).2 := by
  cases call with
  | plain _ | instrumented _ _ => exact fun _ _ _ found => found
  | get cache base session => exact (Action.substitute_extends cache base session world).substitutes
  | resolve cache value session =>
    exact (value.resolve_moves (fun type => Action.substitute_extends cache type session)
      world).substitutes

theorem accounts (run : TypeHistory history world) :
    world.Accounts (knownTypes history) (askedPairs history) := by
  induction run with
  | start empty => exact .start empty
  | meanwhile caches supply _ ih => exact ih.meanwhile caches supply
  | call call given _ ih => exact accounts_call ih call given

theorem known_given (run : TypeHistory history world) :
    ∀ call ∈ history, ∀ type ∈ call.given, type ∈ knownTypes history := by
  induction run with
  | start _ => exact fun _ member => nomatch member
  | meanwhile _ _ _ ih => exact ih
  | call call given _ ih =>
    intro finished member type passed
    refine List.mem_append_right _ ?_
    rcases List.mem_cons.1 member with rfl | member
    · cases call with
      | plain _ | instrumented _ _ => cases passed
      | get | resolve => exact given type passed
    · exact ih finished member type passed

theorem known_types {call : FinishedCall} (member : call ∈ history) :
    ∀ type ∈ call.types, type ∈ knownTypes history :=
  fun _ listed => List.mem_flatMap.2 ⟨call, member, listed⟩

theorem isKept (run : TypeHistory history world) : ∀ call ∈ history, call.IsKept world := by
  induction run with
  | start _ => exact fun _ member => nomatch member
  | meanwhile caches _ _ ih =>
    exact fun call member => (ih call member).later fun cache _ _ found => by rwa [caches cache]
  | @call history world call given run ih =>
    intro finished member
    rcases List.mem_cons.1 member with rfl | member
    · cases call with
      | plain _ | instrumented _ _ => trivial
      | get cache base session =>
        exact Action.on_substitute_again cache base session (refl_of World.Extends _)
      | resolve cache value session =>
        exact FinishedCall.isKept_resolved run.accounts cache value session given
    · exact (ih finished member).later (keeps_call call world)

end TypeHistory

end TransportSeams

import TransportSeams.Proofs.Substitute.Identity

/-!
The lineages of the types of a run. Whatever was made, in whatever order, the base of a type is
known and has a smaller id, so that the types are partially ordered by their lineages. A connection
is an instance of what its type derives from, those types left out that are bound to a session which
is not the connection's own.
-/

set_option autoImplicit false
set_option relaxedAutoImplicit false

namespace TransportSeams

open World

namespace TransportType

theorem lineage_suffix {type other : TransportType} (member : other ∈ type.lineage) :
    other.lineage <:+ type.lineage := by
  induction type with
  | root header => rw [List.mem_singleton.1 member]
  | derived header base ih =>
    rcases List.mem_cons.1 member with rfl | above
    · exact List.suffix_rfl
    · exact (ih above).trans (List.suffix_cons _ _)

theorem head?_lineage (type : TransportType) : type.lineage.head? = some type := by
  cases type <;> rfl

theorem derivesFrom_of_mem {type other : TransportType} (member : other ∈ type.lineage) :
    type.derivesFrom other = true :=
  List.any_eq_true.2 ⟨other, member, decide_eq_true rfl⟩

end TransportType

/-- The base of a known type is known and has a smaller id. -/
def IsRanked (known : List TransportType) : Prop :=
  ∀ type ∈ known, ∀ base ∈ type.base?, base ∈ known ∧ base.id.index < type.id.index

namespace IsRanked

variable {known known' : List TransportType} {asked : CacheId → List SubstitutePair}
  {world : World} {type other base : TransportType} {cache : CacheId} {session : SessionId}

theorem nil : IsRanked [] :=
  fun _ member => nomatch member

theorem regroup (ranked : IsRanked known) (types : ∀ type, type ∈ known' ↔ type ∈ known) :
    IsRanked known' :=
  fun type member base derived =>
    (ranked type ((types type).1 member) base derived).imp_left (types base).2

theorem again (ranked : IsRanked known) (member : type ∈ known) : IsRanked (type :: known) :=
  ranked.regroup fun _ =>
    ⟨fun listed => (List.mem_cons.1 listed).elim (· ▸ member) id, List.mem_cons_of_mem type⟩

theorem new (ranked : IsRanked known)
    (below : ∀ base ∈ type.base?, base ∈ known ∧ base.id.index < type.id.index) :
    IsRanked (type :: known) := by
  intro other member base derived
  rcases List.mem_cons.1 member with rfl | member
  · exact (below base derived).imp_left (List.mem_cons_of_mem _)
  · exact (ranked other member base derived).imp_left (List.mem_cons_of_mem _)

theorem substitute (ranked : IsRanked known) (accounts : world.Accounts known asked)
    (member : base ∈ known) :
    IsRanked (((Action.substitute cache base session).on world).1 :: known) := by
  cases own : base.isBoundTo session with
  | true =>
    rw [Action.on_substitute_self own]
    exact ranked.again member
  | false =>
    by_cases old : (base, session) ∈ asked cache
    · obtain ⟨held, listed, found, -⟩ := accounts.held cache _ old
      rw [Action.on_substitute_made own found]
      exact ranked.again listed
    · rw [Action.on_substitute_new own (accounts.missing member old)]
      refine ranked.new fun below derived => ?_
      obtain rfl : base = below := Option.some.inj derived
      exact ⟨member, accounts.earlier base member⟩

mutual

theorem resolve {known : List TransportType} {asked : CacheId → List SubstitutePair}
    {world : World} (ranked : IsRanked known) (accounts : world.Accounts known asked) :
    (value : SeamValue) → (∀ type ∈ value.types, type ∈ known) →
      IsRanked (((value.resolve cache session).on world).1.types ++ known)
  | .table entries, passed => ranked.resolveTable accounts entries passed
  | .transport type, passed => by
    have member := passed type List.mem_cons_self
    rw [SeamValue.resolve, Action.on_ite]
    split
    · exact ranked.substitute accounts member
    · exact ranked.again member
  | .acquire _ _, _ | .create _ _, _ | .probe _, _ | .handler _, _ => ranked

theorem resolveTable {known : List TransportType} {asked : CacheId → List SubstitutePair}
    {world : World} (ranked : IsRanked known) (accounts : world.Accounts known asked)
    {bound : Option String} : (entries : SeamTable bound) →
      (∀ type ∈ entries.types, type ∈ known) →
        IsRanked (((entries.resolve cache session).on world).1.types ++ known)
  | .nil, _ => ranked
  | .cons _ _ value rest, passed => by
    have here : ∀ type ∈ value.types, type ∈ known :=
      fun type listed => passed type (List.mem_append_left _ listed)
    have first : World.Accounts (((value.resolve cache session).on world).1.types ++ known) _ _ :=
      accounts.resolve value here
    have last := (ranked.resolve accounts value here).resolveTable first rest fun type listed =>
      List.mem_append_right _ (passed type (List.mem_append_right _ listed))
    -- The run ends with the rest of the table, so that its types are listed first.
    refine last.regroup fun type => ?_
    simp only [SeamTable.resolve, Action.on_bind, Action.on_pure, SeamTable.types, List.mem_append]
    exact or_assoc.trans or_left_comm

end

theorem call (ranked : IsRanked known) (accounts : world.Accounts known asked) (call : TypeCall)
    (given : ∀ type ∈ call.given, type ∈ known) :
    IsRanked ((call.finish.on world).1.types ++ known) := by
  cases call with
  | plain name => exact ranked.new fun _ derived => nomatch derived
  | instrumented name base? =>
    refine ranked.new fun base derived => ?_
    cases base? with
    | none => cases derived
    | some first =>
      obtain rfl : first = base := Option.some.inj derived
      have member := given first List.mem_cons_self
      exact ⟨member, accounts.earlier first member⟩
  | get cache base session => exact ranked.substitute accounts (given base List.mem_cons_self)
  | resolve cache value session => exact ranked.resolve accounts value given

theorem lineage_subset (ranked : IsRanked known) (member : type ∈ known) :
    type.lineage ⊆ known := by
  induction type with
  | root header => exact List.cons_subset.2 ⟨member, List.nil_subset _⟩
  | derived header base ih =>
    exact List.cons_subset.2 ⟨member, ih (ranked _ member base rfl).1⟩

theorem pairwise_lineage (ranked : IsRanked known) (member : type ∈ known) :
    type.lineage.Pairwise fun a b => b.id.index < a.id.index := by
  induction type with
  | root header => exact List.pairwise_singleton _ _
  | derived header base ih =>
    obtain ⟨known, older⟩ := ranked _ member base rfl
    have rest := ih known
    refine List.pairwise_cons.2 ⟨fun other above => ?_, rest⟩
    have first := base.head?_lineage
    cases chain : base.lineage with
    | nil => rw [chain] at first; cases first
    | cons head tail =>
      rw [chain] at first above rest
      cases first
      rcases List.mem_cons.1 above with rfl | above
      · exact older
      · exact Nat.lt_trans ((List.pairwise_cons.1 rest).1 other above) older

theorem length_lineage (ranked : IsRanked known) (member : type ∈ known) :
    type.lineage.length ≤ type.id.index + 1 := by
  induction type with
  | root header => exact Nat.succ_le_succ (Nat.zero_le _)
  | derived header base ih =>
    obtain ⟨known, older⟩ := ranked _ member base rfl
    exact Nat.succ_le_succ (Nat.le_trans (ih known) older)

end IsRanked

namespace TypeHistory

variable {history : List FinishedCall} {world : World} {a b c type : TransportType}

theorem isRanked (run : TypeHistory history world) : IsRanked (knownTypes history) := by
  induction run with
  | start _ => exact .nil
  | meanwhile _ _ _ ih => exact ih
  | call call given run ih => exact ih.call run.accounts call given

/-- What a known type derives from is in its lineage, and not only the id of it. -/
theorem mem_lineage_iff (run : TypeHistory history world) (known : a ∈ knownTypes history)
    (known' : b ∈ knownTypes history) : a.derivesFrom b = true ↔ b ∈ a.lineage := by
  refine ⟨fun derives => ?_, TransportType.derivesFrom_of_mem⟩
  obtain ⟨other, member, same⟩ := List.any_eq_true.1 derives
  rwa [← run.eq_of_isSame (run.isRanked.lineage_subset known member) known' same]

theorem derivesFrom_trans (run : TypeHistory history world) (known : a ∈ knownTypes history)
    (known' : b ∈ knownTypes history) (first : a.derivesFrom b = true)
    (second : b.derivesFrom c = true) : a.derivesFrom c = true := by
  have below := TransportType.lineage_suffix ((run.mem_lineage_iff known known').1 first)
  obtain ⟨other, member, same⟩ := List.any_eq_true.1 second
  exact List.any_eq_true.2 ⟨other, below.subset member, same⟩

theorem derivesFrom_antisymm (run : TypeHistory history world) (known : a ∈ knownTypes history)
    (known' : b ∈ knownTypes history) (first : a.derivesFrom b = true)
    (second : b.derivesFrom a = true) : a = b := by
  have below := TransportType.lineage_suffix ((run.mem_lineage_iff known known').1 first)
  have above := TransportType.lineage_suffix ((run.mem_lineage_iff known' known).1 second)
  have same := below.eq_of_length_le above.length_le
  exact Option.some.inj (by rw [← a.head?_lineage, ← b.head?_lineage, same])

end TypeHistory

namespace Connection

theorem isInstanceOf_iff {connection : Connection} {type : TransportType} :
    connection.isInstanceOf type = true ↔
    (type.owner? = none ∨ type.owner? = connection.owner?) ∧
      connection.transport.derivesFrom type = true := by
  simp [isInstanceOf]

end Connection

/-- What derivation is among the types of a run, and what it is for connections of these types. -/
structure FollowsLineage (known : List TransportType) : Prop where
  /-- The walk is among known types with smaller and smaller ids, so that it ends. -/
  walk : ∀ type ∈ known, type.lineage ⊆ known ∧
    (type.lineage.Pairwise fun a b => b.id.index < a.id.index) ∧
      type.lineage.length ≤ type.id.index + 1
  refl : ∀ a ∈ known, a.derivesFrom a = true
  trans : ∀ a ∈ known, ∀ b ∈ known, ∀ c ∈ known, a.derivesFrom b = true →
    b.derivesFrom c = true → a.derivesFrom c = true
  antisymm : ∀ a ∈ known, ∀ b ∈ known, a.derivesFrom b = true → b.derivesFrom a = true →
    a.isSame b = true
  /-- No connection is an instance of types of two sessions. -/
  apart (connection : Connection) (a b : TransportType) (session session' : SessionId) :
    a.isBoundTo session = true → b.isBoundTo session' = true →
      connection.isInstanceOf a = true → connection.isInstanceOf b = true → session = session'
  above : ∀ connection : Connection, connection.transport ∈ known → ∀ a ∈ known, ∀ b ∈ known,
    connection.isInstanceOf a = true → a.derivesFrom b = true →
      (connection.isInstanceOf b = true ↔ b.owner? = none ∨ b.owner? = connection.owner?)

/-- In every run the known types follow the laws of lineage. -/
theorem TypeHistory.followsLineage {history : List FinishedCall} {world : World}
    (run : TypeHistory history world) : FollowsLineage (knownTypes history) where
  walk _ known :=
    ⟨run.isRanked.lineage_subset known, run.isRanked.pairwise_lineage known,
      run.isRanked.length_lineage known⟩
  refl a _ := a.derivesFrom_self
  trans _ known _ known' _ _ first second := run.derivesFrom_trans known known' first second
  antisymm _ known _ known' first second := by
    rw [run.derivesFrom_antisymm known known' first second]
    exact decide_eq_true rfl
  apart connection _ _ _ _ bound bound' first second := by
    have own := Connection.owner?_of_isInstanceOf (of_decide_eq_true bound) first
    rw [Connection.owner?_of_isInstanceOf (of_decide_eq_true bound') second] at own
    exact (Option.some.inj own).symm
  above connection known a known' b _ first second := by
    have reaches := (Connection.isInstanceOf_iff.1 first).2
    have derives := run.derivesFrom_trans known known' reaches second
    rw [Connection.isInstanceOf_iff, derives]
    exact and_iff_left rfl

private def library : TransportType :=
  .root ⟨⟨1⟩, "HttpsConnection", .unavailable⟩

private def stubbed : TransportType :=
  .derived ⟨⟨2⟩, "RecordingHttpsConnection", .unbound⟩ library

private def lent : TransportType :=
  stubbed.substitute ⟨"lender"⟩ ⟨3⟩

private def borrowed : TransportType :=
  lent.substitute ⟨"borrower"⟩ ⟨4⟩

private def borrowing : List FinishedCall × World :=
  [TypeCall.plain "HttpsConnection",
    .instrumented "RecordingHttpsConnection" (some library), .get ⟨0⟩ stubbed ⟨"lender"⟩,
    .get ⟨0⟩ lent ⟨"borrower"⟩].foldl (fun reached call => call.record reached) ([], .initial)

private theorem borrowing_isHistory : TypeHistory borrowing.1 borrowing.2 :=
  TypeHistory.calls (.start fun _ => rfl) (by decide +kernel)

/-- A connection of the borrower is an instance of the stub below both substitutes, and not of the
lender's substitute between them. -/
theorem TypeHistory.followsLineage_borrowed :
    TypeHistory borrowing.1 borrowing.2 ∧ FollowsLineage (knownTypes borrowing.1) ∧
      knownTypes borrowing.1 = [borrowed, lent, stubbed, library] ∧
        [lent, stubbed, library].map (Connection.mk ⟨1⟩ "host" borrowed false).isInstanceOf =
          [false, true, true] :=
  ⟨borrowing_isHistory, borrowing_isHistory.followsLineage, by decide +kernel⟩

end TransportSeams

import TransportSeams.Proofs.Substitute.Rewriting

/-!
When values count as the same. Comparing values is comparing their identities: the id of a type or
a function, and for a table the keys with the identities of the entries, in order. So being the same
is an equivalence that keeps the kind; tables are the same when they have the same keys and the same
entries under them, and a table in which one entry has been replaced, at any depth, is the same as
before just when the entries are.
-/

set_option autoImplicit false
set_option relaxedAutoImplicit false

namespace TransportSeams

/-- What a value is compared by. -/
inductive Identity where
  | transport (id : TransportId)
  | table (entries : List (String × Identity))
  | acquire (id : FunctionId)
  | create (id : FunctionId)
  | probe (id : FunctionId)
  | handler (id : FunctionId)

def Identity.kind : Identity → SeamKind
  | .transport _ => .transport
  | .table _ => .table
  | .acquire _ => .acquire
  | .create _ => .create
  | .probe _ => .probe
  | .handler _ => .handler

mutual

def SeamValue.identity : SeamValue → Identity
  | .transport type => .transport type.id
  | .table entries => .table entries.identities
  | .acquire id _ => .acquire id
  | .create id _ => .create id
  | .probe probe => .probe probe.id
  | .handler handler => .handler handler.id

def SeamTable.identities {bound : Option String} : SeamTable bound → List (String × Identity)
  | .nil => []
  | .cons key _ value rest => (key, value.identity) :: rest.identities

end

mutual

theorem SeamValue.isSame_iff_identity :
    (a b : SeamValue) → (a.isSame b = true ↔ a.identity = b.identity)
  | .table a, .table b => by
    rw [SeamValue.isSame, a.isSame_iff_identities b, SeamValue.identity, SeamValue.identity,
      Identity.table.injEq]
  | .transport _, b => by
    cases b <;> simp [SeamValue.isSame, SeamValue.identity, TransportType.isSame]
  | .acquire _ _, b | .create _ _, b | .probe _, b => by
    cases b <;> simp [SeamValue.isSame, SeamValue.identity]
  | .handler _, b => by
    cases b <;> simp [SeamValue.isSame, SeamValue.identity, Handler.isSame]
  | .table _, .transport _ | .table _, .acquire _ _ | .table _, .create _ _ | .table _, .probe _
  | .table _, .handler _ => by
    simp [SeamValue.isSame, SeamValue.identity]

theorem SeamTable.isSame_iff_identities {bound bound' : Option String} :
    (a : SeamTable bound) → (b : SeamTable bound') →
      (a.isSame b = true ↔ a.identities = b.identities)
  | .nil, .nil => by
    simp [SeamTable.isSame, SeamTable.identities]
  | .nil, .cons _ _ _ _ | .cons _ _ _ _, .nil => by
    simp [SeamTable.isSame, SeamTable.identities]
  | .cons key _ value rest, .cons key' _ value' rest' => by
    simp only [SeamTable.isSame, SeamTable.identities, Bool.and_eq_true, decide_eq_true_eq,
      value.isSame_iff_identity value', rest.isSame_iff_identities rest', List.cons.injEq,
      Prod.mk.injEq]

end

namespace SeamTable

variable {bound bound' : Option String}

theorem mem_identities_isAbove {entry : String × Identity} : {bound : Option String} →
    (entries : SeamTable bound) → entry ∈ entries.identities → IsAbove bound entry.1
  | _, .nil, member => nomatch member
  | _, .cons key above _ rest, member => by
    rcases List.mem_cons.1 member with rfl | member
    · exact above
    · have higher : key < entry.1 := rest.mem_identities_isAbove member key rfl
      exact fun low isBound => String.lt_trans (above low isBound) higher

theorem identities_ordered : {bound : Option String} → (entries : SeamTable bound) →
    entries.identities.Pairwise fun a b => KeyOrder.before a.1 b.1 = true
  | _, .nil => List.Pairwise.nil
  | _, .cons key _ _ rest =>
    List.pairwise_cons.2
      ⟨fun _ member => decide_eq_true (rest.mem_identities_isAbove member key rfl),
        rest.identities_ordered⟩

def identityMap (entries : SeamTable bound) : KeyMap String Identity :=
  ⟨entries.identities, entries.identities_ordered⟩

theorem keys_identityMap : {bound : Option String} → (entries : SeamTable bound) →
    entries.identityMap.keys = entries.keys
  | _, .nil => rfl
  | _, .cons key _ _ rest => congrArg (key :: ·) rest.keys_identityMap

theorem find?_identityMap (key : String) : {bound : Option String} → (entries : SeamTable bound) →
    entries.identityMap.find? key = (entries.find? key).map SeamValue.identity
  | _, .nil => rfl
  | _, .cons first _ _ rest => by
    have below := rest.find?_identityMap key
    show KeyMap.lookupIn key ((first, _) :: rest.identities) = _
    rw [KeyMap.lookupIn, find?]
    split
    · rfl
    · exact below

theorem mem_keys_iff (entries : SeamTable bound) (key : String) :
    key ∈ entries.keys ↔ ∃ value, entries.find? key = some value := by
  rw [← keys_identityMap, KeyMap.mem_keys_iff, find?_identityMap, Option.isSome_map,
    Option.isSome_iff_exists]

/-- The order and the multitude of the entries need not be looked at: tables are the same when each
key finds the same in both. -/
theorem isSame_iff_find? (a : SeamTable bound) (b : SeamTable bound') :
    a.isSame b = true ↔
      ∀ key, (a.find? key).map SeamValue.identity = (b.find? key).map SeamValue.identity := by
  rw [isSame_iff_identities]
  constructor
  · intro same key
    have maps : a.identityMap = b.identityMap := by
      unfold identityMap
      simp only [same]
    rw [← find?_identityMap, ← find?_identityMap, maps]
  · intro same
    refine congrArg KeyMap.entries (KeyMap.ext_find? (a := a.identityMap) (b := b.identityMap) ?_)
    intro key
    rw [find?_identityMap, find?_identityMap, same]

theorem isSame_iff (a : SeamTable bound) (b : SeamTable bound') :
    a.isSame b = true ↔ (∀ key, key ∈ a.keys ↔ key ∈ b.keys) ∧
      ∀ key first second, a.find? key = some first → b.find? key = some second →
        first.isSame second = true := by
  rw [isSame_iff_find?]
  constructor
  · intro same
    refine ⟨fun key => ?_, fun key first second found found' => ?_⟩
    · have here := congrArg Option.isSome (same key)
      rw [Option.isSome_map, Option.isSome_map] at here
      rw [mem_keys_iff, mem_keys_iff, ← Option.isSome_iff_exists, ← Option.isSome_iff_exists, here]
    · have here := same key
      rw [found, found'] at here
      exact (first.isSame_iff_identity second).2 (Option.some.inj here)
  · rintro ⟨keys, entries⟩ key
    have listed := keys key
    rw [mem_keys_iff, mem_keys_iff] at listed
    cases found : a.find? key with
    | some first =>
      obtain ⟨second, found'⟩ := listed.1 ⟨first, found⟩
      rw [found', Option.map_some, Option.map_some,
        (first.isSame_iff_identity second).1 (entries key first second found found')]
    | none =>
      cases found' : b.find? key with
      | some second =>
        obtain ⟨first, present⟩ := listed.2 ⟨second, found'⟩
        rw [found] at present
        cases present
      | none => rfl

def modify (key : String) (change : SeamValue → SeamValue) {bound : Option String} :
    SeamTable bound → SeamTable bound
  | .nil => .nil
  | .cons first above value rest =>
    if first = key then .cons first above (change value) rest
    else .cons first above value (rest.modify key change)

theorem find?_modify (key other : String) (change : SeamValue → SeamValue) :
    {bound : Option String} → (entries : SeamTable bound) →
      (entries.modify key change).find? other =
        if key = other then (entries.find? other).map change else entries.find? other
  | _, .nil => (ite_self none).symm
  | _, .cons first above value rest => by
    have below := rest.find?_modify key other change
    rw [modify]
    by_cases here : first = key
    · subst here
      rw [if_pos rfl, find?, find?]
      by_cases same : first = other
      · rw [if_pos same, if_pos same, if_pos same, Option.map_some]
      · rw [if_neg same, if_neg same, if_neg same]
    · rw [if_neg here, find?, find?]
      by_cases same : first = other
      · subst same
        rw [if_pos rfl, if_pos rfl, if_neg (Ne.symm here)]
      · rw [if_neg same, if_neg same, below]

theorem isSame_modify {key : String} {value : SeamValue} (change : SeamValue → SeamValue) :
    {bound : Option String} → (entries : SeamTable bound) → entries.find? key = some value →
      entries.isSame (entries.modify key change) = value.isSame (change value)
  | _, .cons first above present rest, found => by
    rw [find?] at found
    rw [modify]
    by_cases here : first = key
    · rw [if_pos here] at found ⊢
      obtain rfl := Option.some.inj found
      rw [isSame, rest.isSame_refl]
      simp
    · rw [if_neg here] at found ⊢
      rw [isSame, present.isSame_refl, rest.isSame_modify change found]
      simp

end SeamTable

namespace SeamValue

theorem kind_identity (value : SeamValue) : value.identity.kind = value.kind := by
  cases value <;> rfl

theorem isSame_equivalence : Equivalence fun a b : SeamValue => a.isSame b = true where
  refl := isSame_refl
  symm {a b} same := (b.isSame_iff_identity a).2 ((a.isSame_iff_identity b).1 same).symm
  trans {a b c} first second :=
    (a.isSame_iff_identity c).2
      (((a.isSame_iff_identity b).1 first).trans ((b.isSame_iff_identity c).1 second))

theorem isSame_of_kind_ne {a b : SeamValue} (apart : a.kind ≠ b.kind) : a.isSame b = false := by
  rw [Bool.eq_false_iff]
  intro same
  have identities := (a.isSame_iff_identity b).1 same
  rw [← kind_identity, ← kind_identity, identities] at apart
  exact apart rfl

/-- The value with another one at the end of a path of keys, if the path leads somewhere. -/
def replaceAt : SeamValue → List String → SeamValue → SeamValue
  | _, [], new => new
  | .table entries, key :: path, new => .table (entries.modify key (replaceAt · path new))
  | value, _ :: _, _ => value

variable {path : List String} {value old : SeamValue}

theorem at?_replaceAt (here : value.at? path = some old) (new : SeamValue) :
    (value.replaceAt path new).at? path = some new := by
  induction path generalizing value with
  | nil => rfl
  | cons key path ih =>
    cases value with
    | table entries =>
      obtain ⟨entry, found, below⟩ := Option.bind_eq_some_iff.1 here
      rw [replaceAt, at?, entries.find?_modify, if_pos rfl, found]
      exact ih below
    | transport | acquire | create | probe | handler => cases here

theorem at?_replaceAt_of_apart {other : List String} (value : SeamValue) (new : SeamValue)
    (apart : ¬ path <+: other) (apart' : ¬ other <+: path) :
    (value.replaceAt path new).at? other = value.at? other := by
  induction path generalizing value other with
  | nil => exact absurd List.nil_prefix apart
  | cons key path ih =>
    cases other with
    | nil => exact absurd List.nil_prefix apart'
    | cons first other =>
      cases value with
      | table entries =>
        rw [replaceAt, at?, at?, entries.find?_modify]
        split
        · rename_i same
          subst same
          rw [List.prefix_cons_inj] at apart apart'
          cases entries.find? key with
          | none => rfl
          | some entry => exact ih entry apart apart'
        · rfl
      | transport | acquire | create | probe | handler => rfl

theorem isSame_replaceAt (here : value.at? path = some old) (new : SeamValue) :
    value.isSame (value.replaceAt path new) = old.isSame new := by
  induction path generalizing value with
  | nil => rw [replaceAt, Option.some.inj here]
  | cons key path ih =>
    cases value with
    | table entries =>
      obtain ⟨entry, found, below⟩ := Option.bind_eq_some_iff.1 here
      rw [replaceAt, isSame, entries.isSame_modify _ found, ih below]
    | transport | acquire | create | probe | handler => cases here

/-- Being the same is an equivalence and means having the same identity: values of different kinds
never are the same, tables are when they have the same keys and the same entries under each, and
replacing what lies at the end of a path leaves a value the same just when the replacement is the
same as what it replaces. -/
theorem isSame_structural :
    (Equivalence fun a b : SeamValue => a.isSame b = true) ∧
      (∀ a b : SeamValue, a.isSame b = true ↔ a.identity = b.identity) ∧
      (∀ a b : SeamValue, a.kind ≠ b.kind → a.isSame b = false) ∧
      (∀ first second : SeamTable none,
        (SeamValue.table first).isSame (.table second) = true ↔
          (∀ key, key ∈ first.keys ↔ key ∈ second.keys) ∧
            ∀ key a b, first.find? key = some a → second.find? key = some b →
              a.isSame b = true) ∧
      ∀ (value old new : SeamValue) (path : List String), value.at? path = some old →
        (value.replaceAt path new).at? path = some new ∧
          (∀ other, ¬ path <+: other → ¬ other <+: path →
            (value.replaceAt path new).at? other = value.at? other) ∧
          value.isSame (value.replaceAt path new) = old.isSame new := by
  refine ⟨isSame_equivalence, isSame_iff_identity, fun _ _ => isSame_of_kind_ne,
    fun first second => ?_, fun value old new path here =>
      ⟨at?_replaceAt here new, fun _ => at?_replaceAt_of_apart value new,
        isSame_replaceAt here new⟩⟩
  rw [isSame]
  exact first.isSame_iff second

def schemes (plain secure : TransportType) : SeamValue :=
  .table <| .cons "http" (isAbove_none _) (.transport plain) <|
    .cons "more" (isAbove_some (by decide +kernel))
      (.table (.cons "https" (isAbove_none _) (.transport secure) .nil)) .nil

/-- A table is the same as one with its entries and not as one with another type further down, even
one of the same name. -/
theorem isSame_structural_nested :
    let plain : TransportType := .root ⟨⟨1⟩, "HttpConnection", .unavailable⟩
    let secure : TransportType := .root ⟨⟨2⟩, "HttpsConnection", .unavailable⟩
    let other : TransportType := .root ⟨⟨3⟩, "HttpsConnection", .unavailable⟩
    (schemes plain secure).at? ["more", "https"] = some (.transport secure) ∧
      (schemes plain secure).isSame (schemes plain secure) = true ∧
      (schemes plain secure).isSame
        ((schemes plain secure).replaceAt ["more", "https"] (.transport other)) = false := by
  intro plain secure other
  have here : (schemes plain secure).at? ["more", "https"] = some (.transport secure) := by
    simp [schemes, at?, SeamTable.find?]
  obtain ⟨equivalence, -, -, -, replaced⟩ := isSame_structural
  refine ⟨here, equivalence.refl _, ?_⟩
  rw [(replaced _ _ (.transport other) _ here).2.2]
  rfl

end SeamValue

end TransportSeams

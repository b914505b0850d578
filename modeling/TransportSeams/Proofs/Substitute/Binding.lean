import TransportSeams.Proofs.World.Retention

/-!
Values with their types bound to a session. Whatever the cache held before, resolving a value puts
in the place of every type what the cache holds for it afterwards, at any depth; a cache that goes
on from there says the same.
-/

set_option autoImplicit false
set_option relaxedAutoImplicit false

namespace TransportSeams

open World

/-- What a session has in the place of a type: the substitute for the type's identity, where the
type has a session slot and is not the session's own. -/
def TransportType.boundBy (session : SessionId) (bind : TransportId → TransportType)
    (type : TransportType) : TransportType :=
  if type.hasSessionSlot && !type.isBoundTo session then bind type.id else type

theorem TransportType.boundBy_of_unbound {type : TransportType} (empty : type.slot = .unbound)
    (session : SessionId) (bind : TransportId → TransportType) :
    type.boundBy session bind = bind type.id := by
  simp [boundBy, hasSessionSlot, isBoundTo, owner?, empty]

mutual

def SeamValue.types : SeamValue → List TransportType
  | .table entries => entries.types
  | .transport type => [type]
  | .acquire .. | .create .. | .probe _ | .handler _ => []

def SeamTable.types {bound : Option String} : SeamTable bound → List TransportType
  | .nil => []
  | .cons _ _ value rest => value.types ++ rest.types

end

mutual

def SeamValue.mapTypes (change : TransportType → TransportType) : SeamValue → SeamValue
  | .table entries => .table (entries.mapTypes change)
  | .transport type => .transport (change type)
  | .acquire function primitive => .acquire function primitive
  | .create function primitive => .create function primitive
  | .probe probe => .probe probe
  | .handler handler => .handler handler

def SeamTable.mapTypes (change : TransportType → TransportType) {bound : Option String} :
    SeamTable bound → SeamTable bound
  | .nil => .nil
  | .cons key above value rest => .cons key above (value.mapTypes change) (rest.mapTypes change)

end

mutual

theorem SeamValue.types_mapTypes (change : TransportType → TransportType) :
    (value : SeamValue) → (value.mapTypes change).types = value.types.map change
  | .table entries => entries.types_mapTypes change
  | .transport _ | .acquire .. | .create .. | .probe _ | .handler _ => rfl

theorem SeamTable.types_mapTypes (change : TransportType → TransportType) {bound : Option String} :
    (entries : SeamTable bound) → (entries.mapTypes change).types = entries.types.map change
  | .nil => rfl
  | .cons key above value rest => by
    rw [SeamTable.mapTypes, SeamTable.types, SeamTable.types, value.types_mapTypes,
      rest.types_mapTypes, List.map_append]

end

namespace SeamTable

theorem find?_mapTypes (change : TransportType → TransportType) (key : String)
    {bound : Option String} : (entries : SeamTable bound) →
      (entries.mapTypes change).find? key = (entries.find? key).map (·.mapTypes change)
  | .nil => rfl
  | .cons first above value rest => by
    rw [mapTypes, find?, find?]
    split
    · rfl
    · exact rest.find?_mapTypes change key

theorem find?_insert_cases {key other : String} {value found : SeamValue} {bound : Option String}
    (above : IsAbove bound key) : (entries : SeamTable bound) →
      (entries.insert key value above).find? other = some found →
        (other = key ∧ found = value) ∨ entries.find? other = some found
  | .nil, held => by
    rw [insert, find?] at held
    split at held
    · rename_i same
      exact .inl ⟨same.symm, (Option.some.inj held).symm⟩
    · exact .inr held
  | .cons first higher present rest, held => by
    rw [insert] at held
    split at held
    · rw [find?] at held
      split at held
      · rename_i same
        exact .inl ⟨same.symm, (Option.some.inj held).symm⟩
      · exact .inr held
    · split at held
      · rename_i here
        rw [find?] at held ⊢
        split at held
        · rename_i same
          exact .inl ⟨(here.trans same).symm, (Option.some.inj held).symm⟩
        · rename_i different
          exact .inr (by rwa [if_neg different])
      · rw [find?] at held ⊢
        split at held
        · rename_i same
          exact .inr (by rwa [if_pos same])
        · rename_i different
          rw [if_neg different]
          exact find?_insert_cases _ rest held

theorem mem_of_find?_ofList {entries : List (String × SeamValue)} {key : String} {value : SeamValue}
    (held : (ofList entries).find? key = some value) : (key, value) ∈ entries := by
  suffices general : ∀ table : SeamTable none,
      (entries.foldl (fun table entry => table.insert entry.1 entry.2 (isAbove_none entry.1))
        table).find? key = some value → (key, value) ∈ entries ∨ table.find? key = some value from
    (general .nil held).resolve_right (by simp [find?])
  clear held
  induction entries with
  | nil => exact fun _ held => .inr held
  | cons entry rest ih =>
    intro table held
    rcases ih _ held with later | inserted
    · exact .inl (List.mem_cons_of_mem _ later)
    · rcases find?_insert_cases _ table inserted with ⟨rfl, rfl⟩ | present
      · exact .inl List.mem_cons_self
      · exact .inr present

end SeamTable

theorem SeamValue.owner?_of_mem_types {session : SessionId} {bind : TransportId → TransportType}
    (owned : ∀ id, (bind id).owner? = some session) {value : SeamValue} {type : TransportType}
    (member : type ∈ (value.mapTypes (·.boundBy session bind)).types)
    (slot : type.hasSessionSlot = true) : type.owner? = some session := by
  rw [types_mapTypes] at member
  obtain ⟨base, -, rfl⟩ := List.mem_map.1 member
  unfold TransportType.boundBy at slot ⊢
  split
  · exact owned base.id
  · rename_i kept
    rw [if_neg kept] at slot
    simpa [slot, TransportType.isBoundTo] using kept

def SubstituteCache.Follows (cache : SubstituteCache) (session : SessionId)
    (bind : TransportId → TransportType) : Prop :=
  ∀ base type, cache.find? ⟨base, session⟩ = some type → bind base = type

theorem SubstituteCache.exists_follows (cache : SubstituteCache) (session : SessionId) :
    ∃ bind, cache.Follows session bind := by
  refine ⟨fun base => (cache.find? ⟨base, session⟩).getD (.root ⟨base, "", .bound session⟩), ?_⟩
  intro base type held
  simp only [held, Option.getD_some]

section Bind

variable {id : CacheId} {session : SessionId} {bind : TransportId → TransportType}
  {world later : World}

theorem SubstituteCache.Follows.earlier (kept : world.Retains later)
    (follows : (later.caches.get id).Follows session bind) :
    (world.caches.get id).Follows session bind :=
  fun base type made => follows base type (kept.substitutes id _ type made)

theorem Action.substitute_eq {base : TransportType}
    (follows : (((substitute id base session).on world).2.caches.get id).Follows session bind) :
    ((substitute id base session).on world).1 =
      if base.isBoundTo session then base else bind base.id := by
  split
  · rename_i own
    rw [on_substitute_self own]
  · rename_i foreign
    exact (follows _ _ (find?_substitute (by simpa using foreign) id world)).symm

mutual

theorem SeamValue.resolve_eq {world : World} : (value : SeamValue) →
    (((value.resolve id session).on world).2.caches.get id).Follows session bind →
      ((value.resolve id session).on world).1 = value.mapTypes (·.boundBy session bind)
  | .table entries, follows => congrArg SeamValue.table (entries.resolve_eq follows)
  | .transport type, follows => by
    rw [SeamValue.resolve, Action.on_ite] at follows ⊢
    rw [SeamValue.mapTypes, TransportType.boundBy]
    split at follows
    · rename_i slot
      rw [if_pos slot, slot, Bool.true_and]
      show SeamValue.transport ((Action.substitute id type session).on world).1 = _
      rw [Action.substitute_eq follows]
      cases type.isBoundTo session <;> rfl
    · rename_i plain
      rw [if_neg plain, if_neg (by simp [plain])]
      rfl
  | .acquire _ _, _ | .create _ _, _ | .probe _, _ | .handler _, _ => rfl

theorem SeamTable.resolve_eq {world : World} {bound : Option String} :
    (entries : SeamTable bound) →
      (((entries.resolve id session).on world).2.caches.get id).Follows session bind →
        ((entries.resolve id session).on world).1 = entries.mapTypes (·.boundBy session bind)
  | .nil, _ => rfl
  | .cons key above value rest, follows => by
    have kept := rest.resolve_moves (fun type => Action.substitute_retains id type session)
      ((value.resolve id session).on world).2
    rw [SeamTable.mapTypes, ← value.resolve_eq (follows.earlier kept), ← rest.resolve_eq follows]
    rfl

end

end Bind

end TransportSeams

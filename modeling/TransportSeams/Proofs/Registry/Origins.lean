import Mathlib.Data.List.Count
import TransportSeams.Proofs.Registry.Bindings

/-!
What a registry never forgets: which seams there are, with the backend and the pristine value that
each was registered with, and which backends have been recorded. Installing and resetting keep all
of it. Registering a manifest adds the origins of the seams that were missing, and keeps the
accounts: every seam's backend has a record, and a record counts the seams of its backend.
-/

set_option autoImplicit false
set_option relaxedAutoImplicit false

namespace TransportSeams

structure Origin where
  backend : Backend
  pristine : SeamValue

def Slot.origin (slot : Slot) : Origin :=
  ⟨slot.backend, slot.pristine⟩

theorem Slot.origin_reset (slot : Slot) : slot.reset.origin = slot.origin := by
  unfold reset
  split <;> rfl

/-- What a manifest registers a seam as: of equal keys the first one counts. -/
def Manifest.origin? (key : SeamKey) (manifest : Manifest) : Option Origin :=
  (KeyMap.lookupIn key manifest.seams).map (Origin.mk manifest.backend)

namespace Registry

def origin? (registry : Registry) (key : SeamKey) : Option Origin :=
  (registry.slot? key).map Slot.origin

def origins (registry : Registry) : KeyMap SeamKey Origin :=
  registry.slots.mapValues Slot.origin

theorem find?_origins (registry : Registry) (key : SeamKey) :
    registry.origins.find? key = registry.origin? key :=
  KeyMap.find?_mapEntries registry.slots _ key

theorem pristine?_eq (registry : Registry) (key : SeamKey) :
    registry.pristine? key = (registry.origin? key).map Origin.pristine := by
  simp [pristine?, origin?, Function.comp_def, Slot.origin]

/-- The registries have the same seams with the same origins, and the same records. -/
structure SameOrigins (a b : Registry) : Prop where
  origins : a.origins = b.origins
  backends : a.backends = b.backends

theorem SameOrigins.origin?_eq {a b : Registry} (same : a.SameOrigins b) (key : SeamKey) :
    a.origin? key = b.origin? key := by
  rw [← find?_origins, ← find?_origins, same.origins]

theorem sameOrigins_withBinding (registry : Registry) (key : SeamKey) (binding : Binding) :
    (registry.withBinding key binding).SameOrigins registry where
  origins := KeyMap.mapValues_mapEntries registry.slots fun k slot => by
    by_cases here : k = key
    · rw [if_pos here]
      rfl
    · rw [if_neg here]
  backends := rfl

theorem sameOrigins_resetToPristine (registry : Registry) :
    registry.resetToPristine.SameOrigins registry where
  origins := KeyMap.mapValues_mapEntries registry.slots fun _ slot => slot.origin_reset
  backends := rfl

/-! ### Registering -/

theorem foreignSeam?_eq_none_iff (registry : Registry) (backend : Backend)
    (seams : List (SeamKey × SeamValue)) :
    registry.foreignSeam? backend seams = none ↔
      ∀ seam ∈ seams, ∀ origin, registry.origin? seam.1 = some origin →
        origin.backend = backend := by
  induction seams with
  | nil => simp [foreignSeam?]
  | cons seam rest ih =>
    obtain ⟨key, value⟩ := seam
    rw [List.forall_mem_cons, ← ih, foreignSeam?]
    cases held : registry.slot? key with
    | none => simp [origin?, held]
    | some slot =>
      by_cases own : slot.backend = backend <;> simp [origin?, held, own, Slot.origin]

theorem foreignSeam?_eq_some {registry : Registry} {backend holder : Backend} {key : SeamKey}
    {seams : List (SeamKey × SeamValue)}
    (found : registry.foreignSeam? backend seams = some (key, holder)) :
    key ∈ seams.map Prod.fst ∧ holder ≠ backend ∧
      ∃ origin, registry.origin? key = some origin ∧ origin.backend = holder := by
  induction seams with
  | nil => cases found
  | cons seam rest ih =>
    obtain ⟨other, value⟩ := seam
    rw [foreignSeam?] at found
    split at found
    · rename_i slot held
      split at found
      · obtain ⟨listed, foreign⟩ := ih found
        exact ⟨List.mem_cons_of_mem _ listed, foreign⟩
      · rename_i other'
        obtain ⟨rfl, rfl⟩ := Prod.mk.inj (Option.some.inj found)
        exact ⟨List.mem_cons_self, other', slot.origin, by rw [origin?, held]; rfl, rfl⟩
    · obtain ⟨listed, foreign⟩ := ih found
      exact ⟨List.mem_cons_of_mem _ listed, foreign⟩

def Admits (registry : Registry) (manifest : Manifest) : Prop :=
  manifest.incompatibility? = none ∧
    ∀ seam ∈ manifest.seams, ∀ origin, registry.origin? seam.1 = some origin →
      origin.backend = manifest.backend

/-- What a manifest can be refused for: that it is unsupported, or a seam of another backend
anywhere in it. -/
inductive Refuses (registry : Registry) (manifest : Manifest) : SeamError → Prop where
  | unsupported {fault : Incompatibility} (found : manifest.incompatibility? = some fault) :
    Refuses registry manifest (.incompatibleBackend fault)
  | foreign {key : SeamKey} {origin : Origin} (claimed : key ∈ manifest.seams.map Prod.fst)
    (held : registry.origin? key = some origin) (other : origin.backend ≠ manifest.backend) :
    Refuses registry manifest (.invalidConfig (.foreignSeam key origin.backend))

theorem register_ok_iff (registry : Registry) (manifest : Manifest) :
    (∃ grown added, registry.register manifest = .ok (grown, added)) ↔
      registry.Admits manifest := by
  unfold Admits
  rw [← foreignSeam?_eq_none_iff, register]
  cases manifest.incompatibility? with
  | some fault => simp
  | none =>
    cases registry.foreignSeam? manifest.backend manifest.seams with
    | some found => simp
    | none => simp

theorem refuses_of_register {registry : Registry} {manifest : Manifest} {error : SeamError}
    (refused : registry.register manifest = .error error) : registry.Refuses manifest error := by
  unfold register at refused
  split at refused
  · rename_i fault found
    obtain rfl := Except.error.inj refused
    exact .unsupported found
  · split at refused
    · rename_i key holder found
      obtain rfl := Except.error.inj refused
      obtain ⟨claimed, other, origin, held, rfl⟩ := foreignSeam?_eq_some found
      exact .foreign claimed held other
    · cases refused

variable {registry grown : Registry} {manifest : Manifest} {added : Registration}

theorem origin?_register (registered : registry.register manifest = .ok (grown, added))
    (key : SeamKey) : grown.origin? key = (registry.origin? key).or (manifest.origin? key) := by
  unfold origin? Manifest.origin?
  rw [slot?_register registered]
  cases registry.slot? key with
  | some slot => rfl
  | none => simp [Function.comp_def, Slot.origin, Slot.new]

def slotCount (registry : Registry) (backend : Backend) : Nat :=
  registry.slots.values.countP (·.backend = backend)

theorem seamCount_eq_slotCount (registry : Registry) (backend : Backend) :
    registry.seamCount backend = registry.slotCount backend := by
  unfold seamCount backendKeys keysWhere slotCount KeyMap.keys KeyMap.filter KeyMap.values
  rw [List.length_map, List.countP_map, List.countP_eq_length_filter]
  rfl

theorem slotCount_eq (registry : Registry) (backend : Backend) :
    registry.slotCount backend = registry.origins.values.countP (·.backend = backend) := by
  unfold slotCount origins KeyMap.values KeyMap.mapValues KeyMap.mapEntries
  rw [List.map_map, List.countP_map, List.countP_map]
  rfl

/-- Every seam's backend has a record, and a record counts the seams of its backend. -/
structure Accounted (registry : Registry) : Prop where
  recorded {key : SeamKey} {origin : Origin} :
    registry.origin? key = some origin → registry.hasBackend origin.backend = true
  counted {backend : Backend} {record : BackendRecord} :
    registry.backends.find? backend = some record →
      record.backend = backend ∧ record.seamCount = registry.slotCount backend

theorem Accounted.empty : Registry.empty.Accounted where
  recorded held := nomatch held
  counted held := nomatch held

theorem Accounted.congr {a b : Registry} (same : b.SameOrigins a) (accounted : a.Accounted) :
    b.Accounted where
  recorded held := by
    rw [same.origin?_eq] at held
    rw [hasBackend, same.backends]
    exact accounted.recorded held
  counted held := by
    rw [same.backends] at held
    rw [slotCount_eq, same.origins, ← slotCount_eq]
    exact accounted.counted held

private theorem values_addSeams (backend : Backend) (seams : List (SeamKey × SeamValue))
    (slots : KeyMap SeamKey Slot) :
    ∃ added, (addSeams slots backend seams).values.Perm (added ++ slots.values) ∧
      ∀ slot ∈ added, slot.backend = backend := by
  induction seams generalizing slots with
  | nil => exact ⟨[], .refl _, fun slot member => nomatch member⟩
  | cons seam rest ih =>
    obtain ⟨key, value⟩ := seam
    unfold addSeams
    split
    · exact ih slots
    · rename_i absent
      have missing : slots.find? key = none := by
        simpa [KeyMap.contains] using absent
      have inserted : (slots.insert key (.new backend value)).values.Perm
          (.new backend value :: slots.values) :=
        (KeyMap.insertEntry_perm _ missing).map Prod.snd
      obtain ⟨added, grown, own⟩ := ih (slots.insert key (.new backend value))
      refine ⟨added ++ [.new backend value], ?_, ?_⟩
      · rw [List.append_assoc]
        exact grown.trans (inserted.append_left added)
      · intro slot member
        rcases List.mem_append.1 member with member | member
        · exact own slot member
        · rw [List.mem_singleton.1 member]
          rfl

theorem slotCount_withSeams_other (registry : Registry) (manifest : Manifest) {backend : Backend}
    (other : backend ≠ manifest.backend) :
    (registry.withSeams manifest).slotCount backend = registry.slotCount backend := by
  obtain ⟨added, grown, own⟩ := values_addSeams manifest.backend manifest.seams registry.slots
  have none_added : added.countP (·.backend = backend) = 0 := by
    rw [List.countP_eq_zero]
    intro slot member
    simp [own slot member, Ne.symm other]
  unfold slotCount
  rw [withSeams, grown.countP_eq, List.countP_append, none_added, Nat.zero_add]

theorem Accounted.register (accounted : registry.Accounted)
    (registered : registry.register manifest = .ok (grown, added)) : grown.Accounted where
  recorded {key origin} held := by
    rw [origin?_register registered] at held
    cases known : registry.origin? key with
    | some first =>
      rw [known, Option.some_or] at held
      obtain rfl := Option.some.inj held
      exact hasBackend_register registered (accounted.recorded known)
    | none =>
      rw [known, Option.none_or] at held
      obtain ⟨value, -, rfl⟩ := Option.map_eq_some_iff.1 held
      exact hasBackend_registered registered
  counted {backend record} held := by
    have slots : grown.slotCount backend = (registry.withSeams manifest).slotCount backend := by
      rw [register_eq_ok registered]
      rfl
    rw [register_eq_ok registered, withRecord, KeyMap.find?_insert] at held
    split at held
    · rename_i own
      subst own
      obtain rfl := Option.some.inj held
      exact ⟨rfl, by rw [slots, seamCount_eq_slotCount]⟩
    · rename_i other
      rw [slots, slotCount_withSeams_other registry manifest (Ne.symm other)]
      exact accounted.counted held

end Registry

end TransportSeams

/-!
Maps whose entries are kept in the order of their keys, each key once. The view of a map is
`find?`: `insert` changes it at one key, `adjust` at one key that is present, and `mapValues`
everywhere.
-/

set_option autoImplicit false
set_option relaxedAutoImplicit false

namespace TransportSeams

/-- A strict total order that can be decided. -/
class KeyOrder (κ : Type) where
  before : κ → κ → Bool
  irrefl (a : κ) : before a a = false
  trans {a b c : κ} : before a b = true → before b c = true → before a c = true
  connected {a b : κ} : before a b = false → before b a = false → a = b

instance : KeyOrder String where
  before a b := decide (a < b)
  irrefl a := by simp
  trans := by
    intro a b c hab hbc
    simp only [decide_eq_true_eq] at hab hbc ⊢
    exact String.lt_trans hab hbc
  connected := by
    intro a b hab hba
    simp only [decide_eq_false_iff_not, String.not_lt] at hab hba
    exact String.le_antisymm hba hab

instance : KeyOrder Nat where
  before a b := decide (a < b)
  irrefl a := by simp
  trans := by
    intro a b c hab hbc
    simp only [decide_eq_true_eq] at hab hbc ⊢
    omega
  connected := by
    intro a b hab hba
    simp only [decide_eq_false_iff_not] at hab hba
    omega

/-- The order of the images under an injective key. -/
@[reducible] def KeyOrder.pullback {κ ι : Type} [KeyOrder ι] (key : κ → ι)
    (injective : ∀ {a b : κ}, key a = key b → a = b) : KeyOrder κ where
  before a b := before (key a) (key b)
  irrefl a := irrefl (key a)
  trans := trans
  connected hab hba := injective (connected hab hba)

structure KeyMap (κ α : Type) [KeyOrder κ] where
  entries : List (κ × α)
  ordered : entries.Pairwise fun a b => KeyOrder.before a.1 b.1 = true

namespace KeyMap

variable {κ α : Type} [KeyOrder κ]

def empty : KeyMap κ α :=
  ⟨[], List.Pairwise.nil⟩

instance : Inhabited (KeyMap κ α) :=
  ⟨empty⟩

def keys (map : KeyMap κ α) : List κ :=
  map.entries.map Prod.fst

def values (map : KeyMap κ α) : List α :=
  map.entries.map Prod.snd

def size (map : KeyMap κ α) : Nat :=
  map.entries.length

def lookupIn [DecidableEq κ] (key : κ) : List (κ × α) → Option α
  | [] => none
  | (k, value) :: rest => if k = key then some value else lookupIn key rest

def find? [DecidableEq κ] (map : KeyMap κ α) (key : κ) : Option α :=
  lookupIn key map.entries

def contains [DecidableEq κ] (map : KeyMap κ α) (key : κ) : Bool :=
  (map.find? key).isSome

def insertEntry (key : κ) (value : α) : List (κ × α) → List (κ × α)
  | [] => [(key, value)]
  | (k, v) :: rest =>
    if KeyOrder.before key k then (key, value) :: (k, v) :: rest
    else if KeyOrder.before k key then (k, v) :: insertEntry key value rest
    else (key, value) :: rest

theorem fst_mem_insertEntry {key k : κ} {value v : α} {entries : List (κ × α)}
    (h : (k, v) ∈ insertEntry key value entries) : k = key ∨ ∃ w, (k, w) ∈ entries := by
  induction entries with
  | nil =>
    simp only [insertEntry, List.mem_singleton, Prod.mk.injEq] at h
    exact .inl h.1
  | cons entry rest ih =>
    obtain ⟨k', v'⟩ := entry
    simp only [insertEntry] at h
    split at h
    · rcases List.mem_cons.1 h with h | h
      · exact .inl (Prod.mk.inj h).1
      · exact .inr ⟨v, h⟩
    · split at h
      · rcases List.mem_cons.1 h with h | h
        · exact .inr ⟨v', by simp [(Prod.mk.inj h).1]⟩
        · rcases ih h with h | ⟨w, h⟩
          · exact .inl h
          · exact .inr ⟨w, List.mem_cons_of_mem _ h⟩
      · rcases List.mem_cons.1 h with h | h
        · exact .inl (Prod.mk.inj h).1
        · exact .inr ⟨v, List.mem_cons_of_mem _ h⟩

theorem pairwise_insertEntry (key : κ) (value : α) {entries : List (κ × α)}
    (h : entries.Pairwise fun a b => KeyOrder.before a.1 b.1 = true) :
    (insertEntry key value entries).Pairwise fun a b => KeyOrder.before a.1 b.1 = true := by
  induction entries with
  | nil => simp [insertEntry]
  | cons entry rest ih =>
    obtain ⟨k, v⟩ := entry
    obtain ⟨hhead, hrest⟩ := List.pairwise_cons.1 h
    simp only [insertEntry]
    split
    · rename_i hlt
      refine List.pairwise_cons.2 ⟨?_, h⟩
      intro b hb
      rcases List.mem_cons.1 hb with rfl | hb
      · exact hlt
      · exact KeyOrder.trans hlt (hhead b hb)
    · rename_i hnot
      split
      · rename_i hgt
        refine List.pairwise_cons.2 ⟨?_, ih hrest⟩
        rintro ⟨k', v'⟩ hb
        rcases fst_mem_insertEntry hb with rfl | ⟨w, hw⟩
        · exact hgt
        · exact hhead (k', w) hw
      · rename_i hnot'
        have heq : key = k :=
          KeyOrder.connected (Bool.eq_false_iff.2 hnot) (Bool.eq_false_iff.2 hnot')
        subst heq
        exact List.pairwise_cons.2 ⟨hhead, hrest⟩

def insert (map : KeyMap κ α) (key : κ) (value : α) : KeyMap κ α :=
  ⟨insertEntry key value map.entries, pairwise_insertEntry key value map.ordered⟩

def ofList (entries : List (κ × α)) : KeyMap κ α :=
  entries.foldl (fun map entry => map.insert entry.1 entry.2) empty

/-- Changes each value by a function of its key and itself. -/
def mapEntries {β : Type} (map : KeyMap κ α) (change : κ → α → β) : KeyMap κ β where
  entries := map.entries.map fun entry => (entry.1, change entry.1 entry.2)
  ordered := by
    rw [List.pairwise_map]
    exact map.ordered

def mapValues {β : Type} (map : KeyMap κ α) (change : α → β) : KeyMap κ β :=
  map.mapEntries fun _ => change

/-- Changes the value at `key`, if there is one. -/
def adjust [DecidableEq κ] (map : KeyMap κ α) (key : κ) (change : α → α) : KeyMap κ α :=
  map.mapEntries fun k value => if k = key then change value else value

def filter (map : KeyMap κ α) (keep : κ → α → Bool) : KeyMap κ α where
  entries := map.entries.filter fun entry => keep entry.1 entry.2
  ordered := map.ordered.filter _

theorem lookupIn_insertEntry [DecidableEq κ] (key other : κ) (value : α)
    (entries : List (κ × α)) :
    lookupIn other (insertEntry key value entries) =
      if key = other then some value else lookupIn other entries := by
  induction entries with
  | nil => simp [insertEntry, lookupIn]
  | cons entry rest ih =>
    obtain ⟨k, v⟩ := entry
    simp only [insertEntry]
    split
    · simp [lookupIn]
    · rename_i hnot
      split
      · rename_i hgt
        have hne : k ≠ key := by
          rintro rfl
          simp [KeyOrder.irrefl] at hgt
        by_cases hk : k = other
        · subst hk
          simp [lookupIn, Ne.symm hne]
        · simp [lookupIn, hk, ih]
      · rename_i hnot'
        have heq : key = k :=
          KeyOrder.connected (Bool.eq_false_iff.2 hnot) (Bool.eq_false_iff.2 hnot')
        subst heq
        by_cases hk : key = other <;> simp [lookupIn, hk]

omit [KeyOrder κ] in
theorem mem_fst_iff_lookupIn [DecidableEq κ] (entries : List (κ × α)) (key : κ) :
    key ∈ entries.map Prod.fst ↔ (lookupIn key entries).isSome := by
  induction entries with
  | nil => simp [lookupIn]
  | cons entry rest ih =>
    by_cases h : entry.1 = key
    · simp [lookupIn, h]
    · simp only [List.map_cons, List.mem_cons, Ne.symm h, false_or, ih, lookupIn, h, if_false]

theorem mem_keys_iff [DecidableEq κ] (map : KeyMap κ α) (key : κ) :
    key ∈ map.keys ↔ (map.find? key).isSome :=
  mem_fst_iff_lookupIn map.entries key

theorem keys_nodup (map : KeyMap κ α) : map.keys.Nodup := by
  refine List.pairwise_map.2 (map.ordered.imp ?_)
  intro a b before same
  rw [same, KeyOrder.irrefl] at before
  cases before

theorem find?_insert [DecidableEq κ] (map : KeyMap κ α) (key other : κ) (value : α) :
    (map.insert key value).find? other = if key = other then some value else map.find? other :=
  lookupIn_insertEntry key other value map.entries

omit [KeyOrder κ] in
theorem lookupIn_append [DecidableEq κ] (key : κ) (first last : List (κ × α)) :
    lookupIn key (first ++ last) = (lookupIn key first).or (lookupIn key last) := by
  induction first with
  | nil => rfl
  | cons entry rest ih =>
    by_cases here : entry.1 = key
    · simp [lookupIn, here]
    · simpa [lookupIn, here] using ih

omit [KeyOrder κ] in
theorem mem_of_lookupIn [DecidableEq κ] {key : κ} {value : α} {entries : List (κ × α)}
    (found : lookupIn key entries = some value) : (key, value) ∈ entries := by
  induction entries with
  | nil => cases found
  | cons entry rest ih =>
    obtain ⟨k, v⟩ := entry
    by_cases same : k = key
    · subst same
      rw [lookupIn, if_pos rfl, Option.some.injEq] at found
      exact found ▸ List.mem_cons_self
    · rw [lookupIn, if_neg same] at found
      exact List.mem_cons_of_mem _ (ih found)

omit [KeyOrder κ] in
theorem lookupIn_of_mem [DecidableEq κ] {key : κ} {value : α} {entries : List (κ × α)}
    (distinct : (entries.map Prod.fst).Nodup) (member : (key, value) ∈ entries) :
    lookupIn key entries = some value := by
  induction entries with
  | nil => cases member
  | cons entry rest ih =>
    obtain ⟨first, others⟩ := List.nodup_cons.1 distinct
    rcases List.mem_cons.1 member with rfl | member
    · rw [lookupIn, if_pos rfl]
    · have different : entry.1 ≠ key :=
        fun same => first (same ▸ List.mem_map_of_mem member)
      rw [lookupIn, if_neg different, ih others member]

/-- The entries of a map are its keys with what they are looked up as. -/
theorem mem_entries_iff [DecidableEq κ] (map : KeyMap κ α) (key : κ) (value : α) :
    (key, value) ∈ map.entries ↔ map.find? key = some value :=
  ⟨lookupIn_of_mem map.keys_nodup, mem_of_lookupIn⟩

/-- Maps with the same values are equal, since their entries are in the order of the keys. -/
theorem ext_find? [DecidableEq κ] {a b : KeyMap κ α} (same : ∀ key, a.find? key = b.find? key) :
    a = b := by
  have nodup (map : KeyMap κ α) : map.entries.Nodup := map.ordered.imp fun earlier equal => by
    rw [equal, KeyOrder.irrefl] at earlier
    cases earlier
  have perm : a.entries.Perm b.entries :=
    (List.perm_ext_iff_of_nodup (nodup a) (nodup b)).2 fun entry => by
      rw [mem_entries_iff, mem_entries_iff, same]
  have equal : a.entries = b.entries :=
    perm.eq_of_pairwise
      (fun first last _ _ earlier later => by
        have both := KeyOrder.trans earlier later
        rw [KeyOrder.irrefl] at both
        cases both)
      a.ordered b.ordered
  cases a
  cases b
  cases equal
  rfl

theorem mem_values_iff [DecidableEq κ] (map : KeyMap κ α) (value : α) :
    value ∈ map.values ↔ ∃ key, map.find? key = some value := by
  constructor
  · intro member
    obtain ⟨entry, listed, rfl⟩ := List.mem_map.1 member
    exact ⟨entry.1, (map.mem_entries_iff entry.1 entry.2).1 listed⟩
  · rintro ⟨key, found⟩
    exact List.mem_map_of_mem ((map.mem_entries_iff key value).2 found)

/-- Inserting an entry at a new key adds it to the others. -/
theorem insertEntry_perm [DecidableEq κ] {key : κ} (value : α) {entries : List (κ × α)}
    (absent : lookupIn key entries = none) :
    (insertEntry key value entries).Perm ((key, value) :: entries) := by
  induction entries with
  | nil => exact .refl _
  | cons entry rest ih =>
    obtain ⟨k, v⟩ := entry
    have different : k ≠ key := by
      rintro rfl
      rw [lookupIn, if_pos rfl] at absent
      cases absent
    rw [lookupIn, if_neg different] at absent
    simp only [insertEntry]
    split
    · exact .refl _
    · split
      · exact ((ih absent).cons (k, v)).trans (.swap (key, value) (k, v) rest)
      · rename_i hnot hnot'
        exact absurd (KeyOrder.connected (Bool.eq_false_iff.2 hnot) (Bool.eq_false_iff.2 hnot'))
          (Ne.symm different)

theorem find?_mapEntries [DecidableEq κ] {β : Type} (map : KeyMap κ α) (change : κ → α → β)
    (key : κ) : (map.mapEntries change).find? key = (map.find? key).map (change key) := by
  unfold find? mapEntries
  simp only
  induction map.entries with
  | nil => rfl
  | cons entry rest ih =>
    by_cases h : entry.1 = key
    · subst h
      simp [lookupIn]
    · simpa [lookupIn, h] using ih

/-- What a view of the values does not see of a change. -/
theorem mapValues_mapEntries {β : Type} (map : KeyMap κ α) {change : κ → α → α} {view : α → β}
    (kept : ∀ key value, view (change key value) = view value) :
    (map.mapEntries change).mapValues view = map.mapValues view := by
  simp [mapValues, mapEntries, Function.comp_def, kept]

theorem find?_adjust [DecidableEq κ] (map : KeyMap κ α) (key other : κ) (change : α → α) :
    (map.adjust key change).find? other =
      if other = key then (map.find? other).map change else map.find? other := by
  rw [adjust, find?_mapEntries]
  split <;> simp

end KeyMap

end TransportSeams

/-!
Stores hold the current state of objects that are shared by reference. A store has a value at every
key, the default one where nothing has been put.
-/

set_option autoImplicit false
set_option relaxedAutoImplicit false

namespace TransportSeams

structure Store (κ α : Type) where
  entries : List (κ × α)

namespace Store

variable {κ α : Type} [DecidableEq κ] [Inhabited α]

def empty : Store κ α :=
  ⟨[]⟩

instance : Inhabited (Store κ α) :=
  ⟨empty⟩

def getEntry (key : κ) : List (κ × α) → α
  | [] => default
  | (k, value) :: rest => if k = key then value else getEntry key rest

def putEntry (key : κ) (value : α) : List (κ × α) → List (κ × α)
  | [] => [(key, value)]
  | (k, v) :: rest => if k = key then (key, value) :: rest else (k, v) :: putEntry key value rest

def get (store : Store κ α) (key : κ) : α :=
  getEntry key store.entries

def put (store : Store κ α) (key : κ) (value : α) : Store κ α :=
  ⟨putEntry key value store.entries⟩

@[simp]
theorem get_put (store : Store κ α) (key other : κ) (value : α) :
    (store.put key value).get other = if key = other then value else store.get other := by
  unfold get put
  simp only
  induction store.entries with
  | nil => simp [putEntry, getEntry]
  | cons entry rest ih =>
    obtain ⟨k, v⟩ := entry
    by_cases hk : k = key
    · subst hk
      by_cases ho : k = other <;> simp [putEntry, getEntry, ho]
    · by_cases ho : k = other
      · subst ho
        simp [putEntry, getEntry, hk, Ne.symm hk]
      · simpa [putEntry, getEntry, hk, ho] using ih

omit [Inhabited α] in
theorem put_put (store : Store κ α) (key : κ) (first last : α) :
    (store.put key first).put key last = store.put key last := by
  unfold put
  simp only [mk.injEq]
  induction store.entries with
  | nil => simp [putEntry]
  | cons entry rest ih =>
    obtain ⟨k, v⟩ := entry
    by_cases hk : k = key
    · simp [putEntry, hk]
    · simp [putEntry, hk, ih]

end Store

end TransportSeams

import Mathlib.Data.List.Pairwise
import TransportSeams.Files.Disk

/-!
What is where on a disk. As long as no place is listed twice, the entries are a map from places:
each change of the disk is known by what it does to one place, and a directory lists each of its
names once.
-/

set_option autoImplicit false
set_option relaxedAutoImplicit false

namespace TransportSeams

theorem FileFault.bind_eq_ok {α β : Type} {step : Except FileFault α}
    {next : α → Except FileFault β} {b : β} :
    step >>= next = .ok b ↔ ∃ a, step = .ok a ∧ next a = .ok b := by
  cases step with
  | error fault => exact ⟨nofun, fun ⟨_, failed, _⟩ => absurd failed nofun⟩
  | ok a => exact ⟨fun done => ⟨a, rfl, done⟩, fun ⟨_, found, done⟩ => Except.ok.inj found ▸ done⟩

namespace Disk

variable {disk : Disk} {location other : Location} {entry : DiskEntry} {name : String}

def PlacesApart (disk : Disk) : Prop :=
  disk.entries.Pairwise fun first second => first.1 ≠ second.1

theorem entry?_of_ne_nil (below : location ≠ []) :
    disk.entry? location = disk.entries.lookup location :=
  if_neg below

theorem mem_putEntry {held : Location × DiskEntry} {entries : List (Location × DiskEntry)}
    (member : held ∈ putEntry location entry entries) :
    held = (location, entry) ∨ held ∈ entries := by
  induction entries with
  | nil => exact .inl (List.mem_singleton.1 member)
  | cons first rest ih =>
    rw [putEntry] at member
    split at member
    · exact (List.mem_cons.1 member).imp_right (List.mem_cons_of_mem first)
    · rcases List.mem_cons.1 member with rfl | member
      · exact .inr List.mem_cons_self
      · exact (ih member).imp_right (List.mem_cons_of_mem first)

theorem lookup_entry_cons (other : Location) (first : Location × DiskEntry)
    (rest : List (Location × DiskEntry)) :
    (first :: rest).lookup other = if other = first.1 then some first.2 else rest.lookup other := by
  rw [List.lookup_cons]
  split
  · rename_i found
    exact (if_pos (eq_of_beq found)).symm
  · rename_i missed
    exact (if_neg (ne_of_beq_false missed)).symm

theorem lookup_putEntry (location other : Location) (entry : DiskEntry)
    (entries : List (Location × DiskEntry)) :
    (putEntry location entry entries).lookup other =
      if other = location then some entry else entries.lookup other := by
  induction entries with
  | nil => exact lookup_entry_cons other (location, entry) []
  | cons first rest ih =>
    rw [putEntry]
    split
    · rename_i same
      subst same
      rw [lookup_entry_cons, lookup_entry_cons]
      split <;> rfl
    · rename_i apart
      rw [lookup_entry_cons, lookup_entry_cons, ih]
      by_cases found : other = first.1
      · subst found
        rw [if_pos rfl, if_pos rfl, if_neg apart]
      · rw [if_neg found, if_neg found]

theorem lookup_filter_ne (location other : Location) (entries : List (Location × DiskEntry)) :
    (entries.filter fun held => held.1 ≠ location).lookup other =
      if other = location then none else entries.lookup other := by
  induction entries with
  | nil => exact (ite_self none).symm
  | cons first rest ih =>
    rw [List.filter_cons]
    split
    · rename_i apart
      rw [lookup_entry_cons, lookup_entry_cons, ih]
      by_cases found : other = first.1
      · subst found
        rw [if_pos rfl, if_pos rfl, if_neg (of_decide_eq_true apart)]
      · rw [if_neg found, if_neg found]
    · rename_i same
      rw [decide_eq_true_eq, not_not] at same
      rw [ih, lookup_entry_cons, same]
      split <;> rfl

theorem entry?_put (below : location ≠ []) (other : Location) :
    entry? (disk.put location entry) other =
      if other = location then some entry else disk.entry? other := by
  by_cases root : other = []
  · subst root
    rw [if_neg below.symm]
    rfl
  · rw [entry?_of_ne_nil root, entry?_of_ne_nil root]
    exact lookup_putEntry location other entry disk.entries

theorem entry?_remove (below : location ≠ []) (other : Location) :
    entry? (disk.remove location) other =
      if other = location then none else disk.entry? other := by
  by_cases root : other = []
  · subst root
    rw [if_neg below.symm]
    rfl
  · rw [entry?_of_ne_nil root, entry?_of_ne_nil root]
    exact lookup_filter_ne location other disk.entries

namespace PlacesApart

theorem put (apart : disk.PlacesApart) : (disk.put location entry).PlacesApart := by
  obtain ⟨entries, clock⟩ := disk
  show (putEntry location entry entries).Pairwise _
  change entries.Pairwise _ at apart
  induction entries with
  | nil => exact List.pairwise_singleton _ _
  | cons first rest ih =>
    obtain ⟨ahead, apart⟩ := List.pairwise_cons.1 apart
    rw [putEntry]
    split
    · rename_i same
      subst same
      exact List.pairwise_cons.2 ⟨ahead, apart⟩
    · rename_i elsewhere
      refine List.pairwise_cons.2 ⟨fun held member => ?_, ih apart⟩
      rcases mem_putEntry member with rfl | member
      · exact elsewhere
      · exact ahead held member

theorem remove (apart : disk.PlacesApart) : (disk.remove location).PlacesApart :=
  List.Pairwise.filter _ apart

theorem mem_entries_iff (apart : disk.PlacesApart) (below : location ≠ []) :
    (location, entry) ∈ disk.entries ↔ disk.entry? location = some entry := by
  rw [entry?_of_ne_nil below, List.lookup_eq_some_iff]
  constructor
  · intro member
    obtain ⟨front, rest, split⟩ := List.append_of_mem member
    refine ⟨front, rest, split, fun held ahead => ?_⟩
    rw [PlacesApart, split, List.pairwise_append] at apart
    exact bne_iff_ne.2 (apart.2.2 held ahead _ List.mem_cons_self).symm
  · rintro ⟨front, rest, split, -⟩
    rw [split]
    exact List.mem_append_right front List.mem_cons_self

end PlacesApart

theorem child_eq_some_iff {held : Location × DiskEntry} :
    (match held.1.getLast? with
      | some last => if held.1.dropLast = location then some (last, held.2) else none
      | none => none) = some (name, entry) ↔ held = (location ++ [name], entry) := by
  constructor
  · intro shown
    split at shown
    · rename_i last isLast
      split at shown
      · rename_i inside
        obtain ⟨front, whole⟩ := List.getLast?_eq_some_iff.1 isLast
        rw [whole, List.dropLast_concat] at inside
        obtain ⟨rfl, rfl⟩ := Prod.mk.inj (Option.some.inj shown)
        rw [← inside, ← whole]
      · exact absurd shown nofun
    · exact absurd shown nofun
  · rintro rfl
    simp only [List.getLast?_concat, List.dropLast_concat, if_true]

theorem mem_children :
    (name, entry) ∈ disk.children location ↔ (location ++ [name], entry) ∈ disk.entries := by
  rw [children, List.mem_filterMap]
  exact ⟨fun ⟨_, member, shown⟩ => child_eq_some_iff.1 shown ▸ member,
    fun member => ⟨_, member, child_eq_some_iff.2 rfl⟩⟩

theorem PlacesApart.mem_children_iff (apart : disk.PlacesApart) :
    (name, entry) ∈ disk.children location ↔ disk.entry? (location ++ [name]) = some entry :=
  mem_children.trans (apart.mem_entries_iff (List.append_ne_nil_of_right_ne_nil _ (by simp)))

theorem PlacesApart.children (apart : disk.PlacesApart) (location : Location) :
    (disk.children location).Pairwise fun first second => first.1 ≠ second.1 := by
  rw [Disk.children, List.pairwise_filterMap]
  refine apart.imp fun elsewhere first firstShown second secondShown same => elsewhere ?_
  rw [child_eq_some_iff.1 firstShown, child_eq_some_iff.1 secondShown, same]

end Disk

end TransportSeams

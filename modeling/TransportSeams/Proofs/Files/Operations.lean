import TransportSeams.Proofs.Files.Disk

/-!
What operations do to a disk. Making directories adds directories and takes nothing away, and as
long as the directories on its way stay, a path leads to the same place. A file is written at the
place that its path leads to, which has the path's last name.
-/

set_option autoImplicit false
set_option relaxedAutoImplicit false

namespace TransportSeams

namespace DiskAttempt

variable {α β : Type}

def on (attempt : DiskAttempt α) (disk : Disk) : Except FileFault α × Disk :=
  attempt.run disk

theorem on_bind (step : DiskAttempt α) (next : α → DiskAttempt β) (disk : Disk) :
    (step >>= next).on disk =
      match step.on disk with
      | (.ok a, left) => (next a).on left
      | (.error fault, left) => (.error fault, left) := by
  show (ExceptT.bindCont next (step.on disk).1 : StateM Disk (Except FileFault β))
    (step.on disk).2 = _
  rcases step.on disk with ⟨outcome, left⟩
  cases outcome <;> rfl

/-- How an operation goes on from an outcome when faults are caught. -/
def resume (other : FileFault → DiskAttempt α) :
    Except FileFault α → StateM Disk (Except FileFault α)
  | .ok a => pure (.ok a)
  | .error fault => (other fault).run

theorem run_tryCatch (step : DiskAttempt α) (other : FileFault → DiskAttempt α) :
    (tryCatch step other).run = step.run >>= resume other := by
  rw [ExceptT.run_tryCatch]
  congr 1
  funext outcome
  cases outcome <;> rfl

theorem on_tryCatch (step : DiskAttempt α) (other : FileFault → DiskAttempt α) (disk : Disk) :
    (tryCatch step other).on disk =
      match step.on disk with
      | (.ok a, left) => (.ok a, left)
      | (.error fault, left) => (other fault).on left := by
  have resumed : (tryCatch step other).on disk = resume other (step.on disk).1 (step.on disk).2 :=
    congrFun (run_tryCatch step other) disk
  rw [resumed]
  rcases step.on disk with ⟨outcome, left⟩
  cases outcome <;> rfl

@[simp]
theorem on_get (disk : Disk) : (get : DiskAttempt Disk).on disk = (.ok disk, disk) :=
  rfl

@[simp]
theorem on_ofExcept (result : Except FileFault α) (disk : Disk) :
    on (Disk.ofExcept result) disk = (result, disk) :=
  rfl

theorem on_bind_eq_ok {step : DiskAttempt α} {next : α → DiskAttempt β} {disk after : Disk} {b : β}
    (done : (step >>= next).on disk = (.ok b, after)) :
    ∃ a left, step.on disk = (.ok a, left) ∧ (next a).on left = (.ok b, after) := by
  rw [on_bind] at done
  rcases ran : step.on disk with ⟨fault | a, left⟩
  · rw [ran] at done
    exact absurd (congrArg Prod.fst done) nofun
  · rw [ran] at done
    exact ⟨a, left, rfl, done⟩

theorem on_ofExcept_bind_eq_ok {result : Except FileFault α} {next : α → DiskAttempt β}
    {disk after : Disk} {b : β} (done : (Disk.ofExcept result >>= next).on disk = (.ok b, after)) :
    ∃ a, result = .ok a ∧ (next a).on disk = (.ok b, after) := by
  obtain ⟨a, left, found, done⟩ := on_bind_eq_ok done
  obtain ⟨rfl, rfl⟩ := Prod.mk.inj found
  exact ⟨a, rfl, done⟩

end DiskAttempt

namespace Disk

open DiskAttempt

variable {before between after disk : Disk} {location place : Location} {path : Path}

/-- Nothing is taken away, and what is new is a directory. -/
structure Furnishes (before after : Disk) : Prop where
  apart : before.PlacesApart → after.PlacesApart
  entries : ∀ location, after.entry? location = before.entry? location ∨
    before.entry? location = none ∧ after.entry? location = some .directory

theorem Furnishes.refl (disk : Disk) : disk.Furnishes disk :=
  ⟨id, fun _ => .inl rfl⟩

theorem Furnishes.trans (first : before.Furnishes between) (second : between.Furnishes after) :
    before.Furnishes after := by
  refine ⟨second.apart ∘ first.apart, fun location => ?_⟩
  rcases second.entries location with same | ⟨free, made⟩
  · rw [same]
    exact first.entries location
  · rcases first.entries location with same | ⟨-, held⟩
    · exact .inr ⟨same ▸ free, made⟩
    · exact absurd (free.symm.trans held) nofun

theorem furnishes_put (free : disk.entry? location = none) :
    disk.Furnishes (disk.put location .directory) := by
  have below : location ≠ [] := by
    rintro rfl
    exact absurd free nofun
  refine ⟨PlacesApart.put, fun other => ?_⟩
  rw [entry?_put below]
  by_cases same : other = location
  · subst same
    exact .inr ⟨free, if_pos rfl⟩
  · exact .inl (if_neg same)

theorem furnishes_makeDirectory (path : Path) (disk : Disk) :
    disk.Furnishes ((makeDirectory path).on disk).2 := by
  unfold makeDirectory
  simp only [on_bind, on_get, on_ofExcept]
  cases checkPath path with
  | error fault => exact .refl disk
  | ok _ =>
    cases disk.walk [] (unslashed path) with
    | error fault => exact .refl disk
    | ok location =>
      dsimp only
      split
      · exact .refl disk
      · rename_i free _
        exact furnishes_put free
      · exact .refl disk
      · exact .refl disk

theorem furnishes_tryCatch {α : Type} {step : DiskAttempt α} {other : FileFault → DiskAttempt α}
    (first : ∀ disk : Disk, disk.Furnishes (step.on disk).2)
    (second : ∀ fault (disk : Disk), disk.Furnishes ((other fault).on disk).2) (disk : Disk) :
    disk.Furnishes ((tryCatch step other).on disk).2 := by
  have left := first disk
  rw [on_tryCatch]
  rcases ran : step.on disk with ⟨fault | a, middle⟩ <;> rw [ran] at left
  · exact left.trans (second fault middle)
  · exact left

theorem furnishes_ensureDirectory (path : Path) (disk : Disk) :
    disk.Furnishes ((ensureDirectory path).on disk).2 := by
  refine furnishes_tryCatch (furnishes_makeDirectory path) (fun fault disk => ?_) disk
  simp only [on_bind, on_get]
  split <;> exact .refl disk

theorem furnishes_makeDirectoriesAlong (paths : List Path) (disk : Disk) :
    disk.Furnishes ((makeDirectoriesAlong paths).on disk).2 := by
  induction paths generalizing disk with
  | nil => exact .refl disk
  | cons path parents ih =>
    unfold makeDirectoriesAlong
    split
    · exact .refl disk
    · refine furnishes_tryCatch (furnishes_ensureDirectory path) (fun fault disk => ?_) disk
      split
      · rw [on_bind]
        have above := ih disk
        rcases ran : (makeDirectoriesAlong parents).on disk with ⟨fault | _, left⟩ <;>
          rw [ran] at above
        · exact above
        · exact above.trans (furnishes_ensureDirectory path left)
      · exact .refl disk

theorem furnishes_makeDirectories (path : Path) (disk : Disk) :
    disk.Furnishes ((makeDirectories path).on disk).2 :=
  furnishes_makeDirectoriesAlong _ disk

/-- All that is a directory stays one. -/
def KeepsDirectories (before after : Disk) : Prop :=
  ∀ location, before.entry? location = some .directory → after.entry? location = some .directory

theorem KeepsDirectories.refl (disk : Disk) : disk.KeepsDirectories disk :=
  fun _ => id

theorem KeepsDirectories.trans (first : before.KeepsDirectories between)
    (second : between.KeepsDirectories after) : before.KeepsDirectories after :=
  fun location => second location ∘ first location

theorem Furnishes.keepsDirectories (furnishes : before.Furnishes after) :
    before.KeepsDirectories after := by
  intro location isDirectory
  rcases furnishes.entries location with same | ⟨-, made⟩
  · exact same.trans isDirectory
  · exact made

theorem enter_eq_ok : disk.enter location = .ok () ↔ disk.entry? location = some .directory := by
  unfold enter
  split
  · rename_i held
    rw [held]
    exact ⟨nofun, nofun⟩
  · rename_i held
    rw [held]
    exact ⟨nofun, nofun⟩
  · rename_i held
    exact ⟨fun _ => held, fun _ => rfl⟩

section Walking

variable {segment : List Char} {segments : List (List Char)}

theorem KeepsDirectories.step (keeps : before.KeepsDirectories after)
    (found : before.step location segment = .ok place) :
    after.step location segment = .ok place := by
  obtain ⟨⟨⟩, entered, next⟩ := FileFault.bind_eq_ok.1 found
  exact FileFault.bind_eq_ok.2 ⟨(), enter_eq_ok.2 (keeps _ (enter_eq_ok.1 entered)), next⟩

theorem KeepsDirectories.walk (keeps : before.KeepsDirectories after)
    (found : before.walk location segments = .ok place) :
    after.walk location segments = .ok place := by
  induction segments generalizing location with
  | nil => exact found
  | cons segment rest ih =>
    obtain ⟨next, stepped, walked⟩ := FileFault.bind_eq_ok.1 found
    exact FileFault.bind_eq_ok.2 ⟨next, keeps.step stepped, ih walked⟩

theorem KeepsDirectories.locate (keeps : before.KeepsDirectories after)
    (found : before.locate path = .ok place) : after.locate path = .ok place := by
  obtain ⟨⟨⟩, checked, walked⟩ := FileFault.bind_eq_ok.1 found
  exact FileFault.bind_eq_ok.2 ⟨(), checked, keeps.walk walked⟩

theorem walk_append_singleton {parent : Location}
    (front : disk.walk location segments = .ok parent) :
    disk.walk location (segments ++ [segment]) = disk.step parent segment := by
  induction segments generalizing location with
  | nil =>
    obtain rfl := Except.ok.inj front
    show (disk.step location segment >>= fun next => .ok next) = _
    cases disk.step location segment <;> rfl
  | cons first rest ih =>
    obtain ⟨next, stepped, walked⟩ := FileFault.bind_eq_ok.1 front
    show (disk.step location first >>= fun next => disk.walk next (rest ++ [segment])) = _
    rw [stepped]
    exact ih walked

end Walking

end Disk

namespace Path

variable {path : Path} {segment : List Char}

theorem join_concat {sep : List Char} (front : List (List Char)) (last : List Char)
    (nonempty : front ≠ []) :
    Text.join sep (front ++ [last]) = Text.join sep front ++ sep ++ last := by
  induction front with
  | nil => exact absurd rfl nonempty
  | cons first rest ih =>
    cases rest with
    | nil => rfl
    | cons next others =>
      have more : next :: others ++ [last] ≠ [] :=
        List.append_ne_nil_of_left_ne_nil (List.cons_ne_nil _ _) _
      rw [List.cons_append, Text.join_cons more, ih (List.cons_ne_nil _ _),
        Text.join_cons (List.cons_ne_nil _ _)]
      simp only [List.append_assoc]

/-- Only an empty path and one that ends in a slash have an empty segment at the end. -/
theorem getLast?_segments (written : path.text ≠ "") (named : path.endsWithSlash = false)
    (last : path.segments.getLast? = some segment) : segment ≠ [] := by
  rintro rfl
  obtain ⟨front, split⟩ := List.getLast?_eq_some_iff.1 last
  have whole : path.text.toList = Text.join ['/'] (front ++ [[]]) := by
    rw [← split]
    exact (Text.join_pieces '/' path.text.toList).symm
  rcases eq_or_ne front [] with rfl | nonempty
  · exact written (String.toList_eq_nil_iff.1 whole)
  · rw [join_concat front [] nonempty, List.append_nil] at whole
    have ends : path.text.toList.getLast? = some '/' := by
      rw [whole]
      exact List.getLast?_concat
    exact of_decide_eq_false named ends

theorem unslashed_eq (last : path.segments.getLast? = some segment) (named : segment ≠ []) :
    Disk.unslashed path = path.segments := by
  obtain ⟨front, split⟩ := List.getLast?_eq_some_iff.1 last
  rw [Disk.unslashed, split, List.reverse_concat, List.dropWhile_cons_of_neg (by simp [named]),
    List.reverse_cons, List.reverse_reverse]

theorem getLast?_anchored (last : path.segments.getLast? = some segment)
    (shown : isSilent segment = false) : path.anchored.2.getLast? = some segment := by
  have apart : segment ≠ [] ∧ segment ≠ ['.'] := by simpa [isSilent] using shown
  unfold anchored
  split
  · rename_i none
    rw [none] at last
    exact absurd last nofun
  · rename_i first rest split
    rw [split] at last
    -- A first segment that is no part of what follows is empty or a dot, so it is not the last.
    have below (other : first ≠ segment) : rest.getLast? = some segment := by
      cases rest with
      | nil => exact absurd (Option.some.inj last) other
      | cons next others => rwa [List.getLast?_cons_cons] at last
    split
    · rename_i absolute
      have slash : path.text.toList.head? = some '/' := of_decide_eq_true absolute
      obtain ⟨tail, whole⟩ := List.head?_eq_some_iff.1 slash
      rw [segments, whole, Text.pieces, if_pos rfl] at split
      exact below ((List.cons.inj split).1 ▸ apart.1.symm)
    · split
      · rename_i dot
        exact below (dot ▸ apart.2.symm)
      · exact last

theorem fileName?_of_getLast? (last : path.segments.getLast? = some segment)
    (shown : isSilent segment = false) (notUp : segment ≠ ['.', '.']) :
    path.fileName? = some (String.ofList segment) := by
  obtain ⟨front, split⟩ := List.getLast?_eq_some_iff.1 (getLast?_anchored last shown)
  have component : path.components.getLast? = some (.name (String.ofList segment)) := by
    rw [components, split, List.filter_append, List.map_append, ← List.append_assoc]
    simp [shown, notUp]
  rw [fileName?, component]

end Path

namespace Disk

open DiskAttempt

variable {before after disk : Disk} {location place : Location} {path : Path} {text : String}

def textAt (disk : Disk) (place : Location) : String :=
  match disk.entry? place with
  | some (.file text _) => text
  | _ => ""

theorem textAt_of_file {modified : Nat} (held : disk.entry? place = some (.file text modified)) :
    disk.textAt place = text := by
  rw [textAt, held]

theorem lookup_eq_ok {entry : DiskEntry} :
    disk.lookup path = .ok (place, entry) ↔
      disk.locate path = .ok place ∧ disk.entry? place = some entry := by
  constructor
  · intro found
    obtain ⟨location, located, found⟩ := FileFault.bind_eq_ok.1 found
    split at found
    · rename_i held
      obtain ⟨rfl, rfl⟩ := Prod.mk.inj (Except.ok.inj found)
      exact ⟨located, held⟩
    · exact absurd found nofun
  · rintro ⟨located, held⟩
    refine FileFault.bind_eq_ok.2 ⟨place, located, ?_⟩
    rw [held]
    rfl

theorem read_eq_ok :
    disk.read path = .ok text ↔
      ∃ place modified, disk.locate path = .ok place ∧
        disk.entry? place = some (.file text modified) := by
  constructor
  · intro read
    obtain ⟨⟨place, entry⟩, found, shown⟩ := FileFault.bind_eq_ok.1 read
    obtain ⟨located, held⟩ := lookup_eq_ok.1 found
    cases entry with
    | directory => exact absurd shown nofun
    | file other modified =>
      obtain rfl : other = text := Except.ok.inj shown
      exact ⟨place, modified, located, held⟩
  · rintro ⟨place, modified, located, held⟩
    exact FileFault.bind_eq_ok.2 ⟨_, lookup_eq_ok.2 ⟨located, held⟩, rfl⟩

theorem text_ne_of_checkPath (checked : checkPath path = .ok ()) : path.text ≠ "" := by
  intro empty
  unfold checkPath at checked
  split at checked <;> exact absurd checked nofun

theorem step_of_name {segment : List Char} (shown : Path.isSilent segment = false)
    (notUp : segment ≠ ['.', '.']) (stepped : disk.step location segment = .ok place) :
    place = location ++ [String.ofList segment] := by
  obtain ⟨⟨⟩, -, next⟩ := FileFault.bind_eq_ok.1 stepped
  rw [if_neg (Bool.eq_false_iff.1 shown), if_neg notUp] at next
  dsimp only at next
  split at next
  · exact absurd next nofun
  · exact (Except.ok.inj next).symm

theorem writable_eq_ok {old : String} (found : disk.writable path = .ok (place, old)) :
    disk.locate path = .ok place ∧
      (∃ parent name, place = parent ++ [name] ∧ path.fileName? = some name) ∧
      disk.entry? place ≠ some .directory ∧ old = disk.textAt place := by
  obtain ⟨⟨⟩, checked, found⟩ := FileFault.bind_eq_ok.1 found
  obtain ⟨parent, walked, found⟩ := FileFault.bind_eq_ok.1 found
  obtain ⟨⟨⟩, -, found⟩ := FileFault.bind_eq_ok.1 found
  split at found
  · exact absurd found nofun
  · rename_i segment last
    split at found
    · exact absurd found nofun
    · rename_i accepted
      simp only [Bool.or_eq_true, decide_eq_true_eq, not_or, Bool.not_eq_true] at accepted
      obtain ⟨⟨named, shown⟩, notUp⟩ := accepted
      obtain ⟨ending, isLast⟩ := Option.ne_none_iff_exists'.1
        (mt List.getLast?_eq_none_iff.1 (Text.pieces_ne_nil '/' path.text.toList))
      have whole : unslashed path = path.segments := Path.unslashed_eq isLast
        (Path.getLast?_segments (text_ne_of_checkPath checked) named isLast)
      rw [whole] at walked last
      obtain ⟨location, stepped, found⟩ := FileFault.bind_eq_ok.1 found
      have located : disk.locate path = .ok location := by
        refine FileFault.bind_eq_ok.2 ⟨(), checked, ?_⟩
        obtain ⟨front, split⟩ := List.getLast?_eq_some_iff.1 last
        rw [split, List.dropLast_concat] at walked
        rw [split, walk_append_singleton walked]
        exact stepped
      have entry : place = location ∧ disk.entry? location ≠ some .directory ∧
          old = disk.textAt location := by
        unfold textAt
        split at found
        · exact absurd found nofun
        · rename_i held
          rw [held]
          obtain ⟨rfl, rfl⟩ := Prod.mk.inj (Except.ok.inj found)
          exact ⟨rfl, nofun, rfl⟩
        · rename_i held
          rw [held]
          obtain ⟨rfl, rfl⟩ := Prod.mk.inj (Except.ok.inj found)
          exact ⟨rfl, nofun, rfl⟩
      rw [entry.1]
      exact ⟨located, ⟨parent, _, step_of_name shown notUp stepped,
        Path.fileName?_of_getLast? last shown notUp⟩, entry.2⟩

/-- Adding a text to a file puts it behind what the file has, and leaves all directories. -/
theorem append_on_eq_ok (done : (Disk.append path text).on disk = (.ok (), after)) :
    ∃ parent name, path.fileName? = some name ∧ disk.locate path = .ok (parent ++ [name]) ∧
      after.entry? (parent ++ [name]) =
        some (.file (disk.textAt (parent ++ [name]) ++ text) disk.clock) ∧
      disk.KeepsDirectories after ∧ (disk.PlacesApart → after.PlacesApart) := by
  rw [Disk.append, on_bind, on_get] at done
  obtain ⟨⟨place, old⟩, found, done⟩ := on_ofExcept_bind_eq_ok done
  obtain ⟨located, ⟨parent, name, rfl, named⟩, notDirectory, rfl⟩ := writable_eq_ok found
  obtain rfl : _ = after := congrArg Prod.snd done
  have below : parent ++ [name] ≠ [] := List.append_ne_nil_of_right_ne_nil _ (List.cons_ne_nil _ _)
  refine ⟨parent, name, named, located, (entry?_put below _).trans (if_pos rfl),
    fun other isDirectory => ?_, PlacesApart.put⟩
  have elsewhere : other ≠ parent ++ [name] := by
    rintro rfl
    exact notDirectory isDirectory
  exact ((entry?_put below _).trans (if_neg elsewhere)).trans isDirectory

end Disk

end TransportSeams

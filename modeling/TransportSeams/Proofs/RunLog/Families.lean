import TransportSeams.Proofs.RunLog.Reading

/-!
Which files an append can delete. They lie beside the log, have its extension and a stem that starts
with the log's stem. Besides the rotated logs, whose stems go on with a dot, these are strays: logs
of other runs whose stems merely begin alike.
-/

set_option autoImplicit false
set_option relaxedAutoImplicit false

namespace TransportSeams

namespace LogFile

variable {active name : String} {file : LogFile}

/-- A name of the same run as the active log: its own stem, or that with a dot and the suffix of a
rotation, and its extension. -/
def IsOfFamily (active name : String) : Prop :=
  (Path.splitName name).2 = (Path.splitName active).2 ∧
    ((Path.splitName name).1 = (Path.splitName active).1 ∨
      ∃ suffix, (Path.splitName name).1 = (Path.splitName active).1 ++ "." ++ suffix)

/-- A name with the extension of the active log and a stem that goes on from its stem with some
other character than a dot. -/
def IsStray (active name : String) : Prop :=
  (Path.splitName name).2 = (Path.splitName active).2 ∧
    ∃ c rest, c ≠ '.' ∧
      (Path.splitName name).1 = (Path.splitName active).1 ++ String.ofList (c :: rest)

theorem ofList_dot_cons (rest : List Char) :
    String.ofList ('.' :: rest) = "." ++ String.ofList rest := by
  rw [← String.toList_inj, String.toList_append]
  simp

theorem isRunLog_iff_exists : isRunLog active file = true ↔
    (Path.splitName file.name).2 = (Path.splitName active).2 ∧
      ∃ tail, (Path.splitName file.name).1 = (Path.splitName active).1 ++ String.ofList tail := by
  rw [isRunLog, Bool.and_eq_true, decide_eq_true_eq, List.isPrefixOf_iff_prefix]
  refine and_congr_right fun _ => exists_congr fun tail => ?_
  rw [← String.toList_inj, String.toList_append, String.toList_ofList, eq_comm]

/-- The run logs are those of the family and the strays. -/
theorem isRunLog_iff :
    isRunLog active file = true ↔ IsOfFamily active file.name ∨ IsStray active file.name := by
  rw [isRunLog_iff_exists, IsOfFamily, IsStray, ← and_or_left]
  refine and_congr_right fun _ => ⟨?_, ?_⟩
  · rintro ⟨tail, stem⟩
    cases tail with
    | nil => exact .inl (.inl (stem.trans String.append_empty))
    | cons c rest =>
      by_cases dot : c = '.'
      · subst dot
        refine .inl (.inr ⟨String.ofList rest, stem.trans ?_⟩)
        rw [String.append_assoc, ofList_dot_cons]
      · exact .inr ⟨c, rest, dot, stem⟩
  · rintro ((stem | ⟨suffix, stem⟩) | ⟨c, rest, -, stem⟩)
    · exact ⟨[], stem.trans String.append_empty.symm⟩
    · refine ⟨'.' :: suffix.toList, stem.trans ?_⟩
      rw [String.append_assoc, ofList_dot_cons, String.ofList_toList]
    · exact ⟨c :: rest, stem⟩

theorem IsStray.not_isOfFamily (stray : IsStray active name) : ¬ IsOfFamily active name := by
  obtain ⟨-, c, rest, other, stem⟩ := stray
  rintro ⟨-, same | ⟨suffix, dotted⟩⟩
  · rw [stem] at same
    simpa using congrArg String.length same
  · rw [stem, String.append_assoc, String.append_right_inj] at dotted
    have heads := congrArg (fun text : String => text.toList.head?) dotted
    exact other (by simpa using heads)

end LogFile

namespace Disk

open DiskAttempt

variable {before between after disk : Disk} {location : Location}

def HasFile (disk : Disk) (location : Location) : Prop :=
  ∃ text modified, disk.entry? location = some (.file text modified)

def KeepsFiles (before after : Disk) : Prop :=
  ∀ location, before.HasFile location → after.HasFile location

theorem KeepsFiles.refl (disk : Disk) : disk.KeepsFiles disk :=
  fun _ => id

theorem KeepsFiles.trans (first : before.KeepsFiles between) (second : between.KeepsFiles after) :
    before.KeepsFiles after :=
  fun location => second location ∘ first location

theorem Furnishes.keepsFiles (furnishes : before.Furnishes after) : before.KeepsFiles after := by
  rintro location ⟨text, modified, held⟩
  rcases furnishes.entries location with same | ⟨free, -⟩
  · exact ⟨text, modified, same.trans held⟩
  · exact absurd (free.symm.trans held) nofun

theorem append_keepsFiles (path : Path) (text : String) (disk : Disk) :
    disk.KeepsFiles ((Disk.append path text).on disk).2 ∧
      (disk.PlacesApart → ((Disk.append path text).on disk).2.PlacesApart) := by
  rw [Disk.append, on_bind, on_get]
  dsimp only
  rw [on_bind, on_ofExcept]
  cases found : disk.writable path with
  | error fault => exact ⟨.refl disk, id⟩
  | ok target =>
    obtain ⟨-, ⟨parent, name, isPlace, -⟩, -⟩ := writable_eq_ok found
    have below : target.1 ≠ [] := isPlace ▸ List.append_ne_nil_of_right_ne_nil _ (by simp)
    refine ⟨fun location held => ?_, PlacesApart.put⟩
    by_cases same : location = target.1
    · exact ⟨_, _, (entry?_put below location).trans (if_pos same)⟩
    · obtain ⟨text, modified, held⟩ := held
      exact ⟨text, modified, ((entry?_put below location).trans (if_neg same)).trans held⟩

theorem locate_of_list {directory : Path} {place : Location}
    {children : List (String × DiskEntry)} (listed : disk.list directory = .ok (place, children)) :
    disk.locate directory = .ok place := by
  obtain ⟨⟨found, entry⟩, looked, entered⟩ := FileFault.bind_eq_ok.1 listed
  cases entry with
  | directory =>
    obtain ⟨rfl, -⟩ := Prod.mk.inj (Except.ok.inj entered)
    exact (lookup_eq_ok.1 looked).1
  | file text modified => exact absurd entered nofun

end Disk

namespace Logger

open Disk DiskAttempt

variable {logger : Logger} {record : LogRecord} {disk : Disk} {location : Location}

/-- Before an append prunes the directory of the log it deletes nothing, and it may end there. -/
theorem append_keepsFiles_or_prunes (logger : Logger) (record : LogRecord) (disk : Disk) :
    ∃ written, disk.KeepsFiles written ∧ (disk.PlacesApart → written.PlacesApart) ∧
      (((logger.append record).on disk).2 = written ∨
        ∃ directory, logger.path.parent? = some directory ∧
          ((logger.append record).on disk).2 = ((logger.prune directory).on written).2) := by
  rw [append]
  cases logger.path.parent? with
  | none =>
    have kept := Disk.append_keepsFiles logger.path (logger.line record) disk
    refine ⟨_, kept.1, kept.2, .inl ?_⟩
    dsimp only
    rw [on_bind]
    split
    · rename_i ran
      rw [ran]
      rfl
    · rename_i ran
      rw [ran]
  | some directory =>
    have furnishes := furnishes_makeDirectories directory disk
    dsimp only
    rw [on_bind]
    rcases made : (makeDirectories directory).on disk with ⟨fault | _, furnished⟩ <;>
      rw [made] at furnishes
    · exact ⟨furnished, furnishes.keepsFiles, furnishes.apart, .inl rfl⟩
    · have kept := Disk.append_keepsFiles logger.path (logger.line record) furnished
      dsimp only
      rw [on_bind]
      rcases wrote : (Disk.append logger.path (logger.line record)).on furnished with
        ⟨fault | _, written⟩ <;> rw [wrote] at kept
      · exact ⟨written, furnishes.keepsFiles.trans kept.1, kept.2 ∘ furnishes.apart, .inl rfl⟩
      · exact ⟨written, furnishes.keepsFiles.trans kept.1, kept.2 ∘ furnishes.apart,
          .inr ⟨directory, rfl, rfl⟩⟩

theorem prune_cases (logger : Logger) (directory : Path) (disk : Disk) :
    ((logger.prune directory).on disk).2 = disk ∨
      ∃ place, disk.locate directory = .ok place ∧
        ((logger.prune directory).on disk).2 = (logger.toPrune (disk.files place)).foldl
          (fun disk file => disk.remove (place ++ [file.name])) disk := by
  cases listed : disk.list directory with
  | error fault =>
    refine .inl ?_
    rw [prune, on_bind, on_get]
    dsimp only
    rw [on_bind, on_ofExcept, listed]
  | ok found =>
    obtain ⟨place, children⟩ := found
    exact .inr ⟨place, locate_of_list listed, congrArg Prod.snd (run_prune listed)⟩

theorem prune_deletes {directory : Path} {after : Disk} (apart : disk.PlacesApart)
    (pruned : after = ((logger.prune directory).on disk).2) (held : disk.HasFile location)
    (gone : ¬ after.HasFile location) :
    ∃ active place file, logger.path.fileName? = some active ∧
      after.locate directory = .ok place ∧ location = place ++ [file.name] ∧
      file.name ≠ active ∧ LogFile.isRunLog active file = true := by
  rcases logger.prune_cases directory disk with same | ⟨place, located, removed⟩
  · exact absurd (pruned.trans same ▸ held) gone
  · rw [toPrune] at removed
    cases named : logger.path.fileName? with
    | none =>
      rw [named] at removed
      exact absurd (pruned.trans removed ▸ held) gone
    | some active =>
      rw [named, ← pruned] at removed
      have isPruned := removed ▸ @LogFile.isPruned active disk apart logger.budgetBytes place
      have deleted : ∃ file ∈ LogFile.toPrune active logger.budgetBytes (disk.files place),
          location = place ++ [file.name] := by
        by_contra none
        obtain ⟨text, modified, held⟩ := held
        have kept := isPruned.kept location fun file member isPlace => none ⟨file, member, isPlace⟩
        exact gone ⟨text, modified, kept.trans held⟩
      obtain ⟨file, member, isPlace⟩ := deleted
      obtain ⟨log, other⟩ := isPruned.mem member
      have stays := KeepsDirectories.locate isPruned.keepsDirectories located
      refine ⟨active, place, file, rfl, stays, isPlace, other, ?_⟩
      exact (List.mem_filter.1 (isPruned.byAge.perm.mem_iff.1 log)).2

/-- A file that an append deletes, whether or not the append succeeds, is right inside the directory
of the log and is not the log itself. It is of the family of the log, or it is a stray: then it is
not of the family, and has the extension of the log and a stem that goes on from the log's stem with
another character than a dot. -/
theorem append_deletes_family_or_stray (logger : Logger) {record : LogRecord}
    {disk after : Disk} {outcome : Except FileFault Unit} {location : Location}
    (apart : disk.PlacesApart) (ran : (logger.append record).run disk = (outcome, after))
    (held : disk.HasFile location) (gone : ¬ after.HasFile location) :
    ∃ directory active place name, logger.path.parent? = some directory ∧
      logger.path.fileName? = some active ∧ after.locate directory = .ok place ∧
      location = place ++ [name] ∧ name ≠ active ∧
      (LogFile.IsOfFamily active name ∨
        LogFile.IsStray active name ∧ ¬ LogFile.IsOfFamily active name) := by
  obtain ⟨written, kept, writtenApart, ended⟩ := logger.append_keepsFiles_or_prunes record disk
  have left : ((logger.append record).on disk).2 = after := congrArg Prod.snd ran
  rw [left] at ended
  rcases ended with rfl | ⟨directory, parent, pruned⟩
  · exact absurd (kept location held) gone
  · obtain ⟨active, place, file, named, located, isPlace, other, log⟩ :=
      prune_deletes (writtenApart apart) pruned (kept location held) gone
    refine ⟨directory, active, place, file.name, parent, named, located, isPlace, other, ?_⟩
    exact (LogFile.isRunLog_iff.1 log).imp_right fun stray => ⟨stray, stray.not_isOfFamily⟩

theorem placesApart_shared {name : String} (other : name ≠ "run.jsonl") :
    (shared "old\n" 0 (before name)).PlacesApart := by
  simp [PlacesApart, shared, before, other.symm]

theorem hasFile_shared {name : String} (other : name ≠ "run.jsonl") :
    (shared "old\n" 0 (before name)).HasFile ["logs", name] :=
  ⟨"older", 0, by simp [shared, before, entry?, lookup_entry_cons, other]⟩

theorem not_hasFile_shared {name : String} (other : name ≠ "run.jsonl") (text : String) :
    ¬ (shared text 1 []).HasFile ["logs", name] := by
  rintro ⟨text, modified, held⟩
  simp [shared, entry?, lookup_entry_cons, other] at held

theorem append_deletes_family_or_stray_rotated :
    ∃ after, (shared "old\n" 0 (before "run.1.jsonl")).PlacesApart ∧
      (frugal.append ⟨"info", "e", .null⟩).run (shared "old\n" 0 (before "run.1.jsonl")) =
        (.ok (), after) ∧
      (shared "old\n" 0 (before "run.1.jsonl")).HasFile ["logs", "run.1.jsonl"] ∧
      ¬ after.HasFile ["logs", "run.1.jsonl"] ∧
      (LogFile.IsOfFamily "run.jsonl" "run.1.jsonl" ∨
        LogFile.IsStray "run.jsonl" "run.1.jsonl" ∧
          ¬ LogFile.IsOfFamily "run.jsonl" "run.1.jsonl") := by
  have other : "run.1.jsonl" ≠ "run.jsonl" := by decide
  have log : LogFile.isRunLog "run.jsonl" ⟨"run.1.jsonl", 5, 0⟩ = true := by decide +kernel
  have ran := append_frugal log other ⟨"info", "e", .null⟩ (by decide +kernel)
  have gone := not_hasFile_shared other ("old\n" ++ frugal.line ⟨"info", "e", .null⟩)
  obtain ⟨-, active, place, name, -, named, -, isPlace, -, kind⟩ :=
    append_deletes_family_or_stray frugal (placesApart_shared other) ran (hasFile_shared other) gone
  have own : frugal.path.fileName? = some "run.jsonl" := by decide +kernel
  obtain rfl : "run.jsonl" = active := Option.some.inj (own.symm.trans named)
  have split : ["logs"] ++ ["run.1.jsonl"] = place ++ [name] := isPlace
  obtain rfl : "run.1.jsonl" = name := List.singleton_inj.1 (List.append_inj' split rfl).2
  exact ⟨_, placesApart_shared other, ran, hasFile_shared other, gone, kind⟩

/-- The log of a runner beside the log of a run is deleted, though it is not of that family. -/
theorem append_deletes_stray :
    frugal.path.fileName? = some "run.jsonl" ∧ ¬ LogFile.IsOfFamily "run.jsonl" "runner.jsonl" ∧
      ∃ disk after, disk.PlacesApart ∧
        (frugal.append ⟨"info", "e", .null⟩).run disk = (.ok (), after) ∧
        disk.HasFile ["logs", "runner.jsonl"] ∧ ¬ after.HasFile ["logs", "runner.jsonl"] := by
  have other : "runner.jsonl" ≠ "run.jsonl" := by decide
  have log : LogFile.isRunLog "run.jsonl" ⟨"runner.jsonl", 5, 0⟩ = true := by decide +kernel
  have stray : LogFile.IsStray "run.jsonl" "runner.jsonl" :=
    ⟨by decide +kernel, 'n', ['e', 'r'], by decide, by decide +kernel⟩
  exact ⟨by decide +kernel, stray.not_isOfFamily, _, _, placesApart_shared other,
    append_frugal log other _ (by decide +kernel), hasFile_shared other, not_hasFile_shared other _⟩

end Logger

end TransportSeams

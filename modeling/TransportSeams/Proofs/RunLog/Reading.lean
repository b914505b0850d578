import TransportSeams.Proofs.Files.Operations
import TransportSeams.Proofs.Json.Reading
import TransportSeams.Proofs.RunLog.Pruning

/-!
Reading a run log back. Each append puts one line at the end of the log, whatever else it deletes,
and what a line holds can be read from it again: the level, the name and the payload as it was cut.
-/

set_option autoImplicit false
set_option relaxedAutoImplicit false

namespace TransportSeams

namespace Logger

open Disk DiskAttempt

variable {logger : Logger} {directory : Path} {disk after : Disk} {place : Location}
  {record : LogRecord} {text : String}

theorem prune_on_eq_ok {name : String} (named : logger.path.fileName? = some name)
    (apart : disk.PlacesApart) (done : (logger.prune directory).on disk = (.ok (), after)) :
    after.PlacesApart ∧ disk.KeepsDirectories after ∧
      ∀ parent, after.entry? (parent ++ [name]) = disk.entry? (parent ++ [name]) := by
  have ran := done
  rw [prune, on_bind, on_get] at done
  obtain ⟨⟨place, children⟩, listed, -⟩ := on_ofExcept_bind_eq_ok done
  have pruned := @LogFile.isPruned name disk apart logger.budgetBytes place
  obtain rfl : _ = after := congrArg Prod.snd ((run_prune listed).symm.trans ran)
  have doomed : logger.toPrune (disk.files place) =
      LogFile.toPrune name logger.budgetBytes (disk.files place) := by
    rw [toPrune, named]
  rw [doomed]
  refine ⟨pruned.apart, pruned.keepsDirectories, fun parent => ?_⟩
  refine pruned.kept _ fun file member same => (pruned.mem member).2 ?_
  exact (List.singleton_inj.1 (List.append_inj' same rfl).2).symm

theorem append_steps (done : (logger.append record).on disk = (.ok (), after)) :
    ∃ furnished written, disk.Furnishes furnished ∧
      (Disk.append logger.path (logger.line record)).on furnished = (.ok (), written) ∧
      (after = written ∨ ∃ directory, (logger.prune directory).on written = (.ok (), after)) := by
  rw [append] at done
  cases parent : logger.path.parent? with
  | none =>
    rw [parent] at done
    obtain ⟨_, written, wrote, done⟩ := on_bind_eq_ok done
    exact ⟨disk, written, .refl disk, wrote, .inl (congrArg Prod.snd done).symm⟩
  | some directory =>
    rw [parent] at done
    obtain ⟨_, furnished, made, done⟩ := on_bind_eq_ok done
    obtain ⟨_, written, wrote, pruned⟩ := on_bind_eq_ok done
    have furnishes := furnishes_makeDirectories directory disk
    rw [made] at furnishes
    exact ⟨furnished, written, furnishes, wrote, .inr ⟨directory, pruned⟩⟩

theorem append_of_steps {furnished written : Disk} (parent : logger.path.parent? = some directory)
    (made : (makeDirectories directory).on disk = (.ok (), furnished))
    (wrote : (Disk.append logger.path (logger.line record)).on furnished = (.ok (), written))
    (pruned : (logger.prune directory).on written = (.ok (), after)) :
    (logger.append record).on disk = (.ok (), after) := by
  rw [append, parent]
  simp only [on_bind, made, wrote, pruned]

theorem textAt_of_furnishes {furnished : Disk} (furnishes : disk.Furnishes furnished)
    (place : Location) : furnished.textAt place = disk.textAt place := by
  unfold textAt
  rcases furnishes.entries place with same | ⟨free, made⟩
  · rw [same]
  · rw [free, made]

structure HasText (logger : Logger) (disk : Disk) (place : Location) (text : String) : Prop where
  located : disk.locate logger.path = .ok place
  held : ∃ modified, disk.entry? place = some (.file text modified)

theorem append_hasText (apart : disk.PlacesApart)
    (done : (logger.append record).on disk = (.ok (), after)) :
    ∃ place, logger.HasText after place (disk.textAt place ++ logger.line record) ∧
      disk.KeepsDirectories after ∧ after.PlacesApart := by
  obtain ⟨furnished, written, furnishes, wrote, pruned⟩ := append_steps done
  obtain ⟨parent, name, named, located, held, keeps, writtenApart⟩ := Disk.append_on_eq_ok wrote
  rw [textAt_of_furnishes furnishes] at held
  have kept := furnishes.keepsDirectories.trans keeps
  have apart := writtenApart (furnishes.apart apart)
  refine ⟨parent ++ [name], ?_⟩
  rcases pruned with rfl | ⟨directory, pruned⟩
  · exact ⟨⟨keeps.locate located, _, held⟩, kept, apart⟩
  · obtain ⟨afterApart, stay, same⟩ := prune_on_eq_ok named apart pruned
    exact ⟨⟨stay.locate (keeps.locate located), _, (same parent).trans held⟩, kept.trans stay,
      afterApart⟩

theorem HasText.appends {records : List LogRecord} (log : logger.HasText disk place text)
    (apart : disk.PlacesApart) (done : (forM records logger.append).on disk = (.ok (), after)) :
    logger.HasText after place (text ++ String.join (records.map logger.line)) ∧
      disk.KeepsDirectories after ∧ after.PlacesApart := by
  induction records generalizing disk text with
  | nil =>
    obtain rfl : disk = after := congrArg Prod.snd done
    exact ⟨by simpa using log, .refl disk, apart⟩
  | cons record rest ih =>
    rw [List.forM_cons] at done
    obtain ⟨_, middle, appended, done⟩ := on_bind_eq_ok done
    obtain ⟨other, next, keeps, middleApart⟩ := append_hasText apart appended
    obtain ⟨modified, held⟩ := log.held
    obtain rfl : place = other :=
      Except.ok.inj ((keeps.locate log.located).symm.trans next.located)
    rw [textAt_of_file held] at next
    obtain ⟨last, kept, afterApart⟩ := ih next middleApart done
    rw [List.map_cons, String.join_cons, ← String.append_assoc]
    exact ⟨last, keeps.trans kept, afterApart⟩

theorem appends_hasText {records : List LogRecord} (apart : disk.PlacesApart)
    (nonempty : records ≠ []) (done : (forM records logger.append).on disk = (.ok (), after)) :
    ∃ place, logger.HasText after place
        (disk.textAt place ++ String.join (records.map logger.line)) ∧
      disk.KeepsDirectories after ∧ after.PlacesApart := by
  cases records with
  | nil => exact absurd rfl nonempty
  | cons record rest =>
    rw [List.forM_cons] at done
    obtain ⟨_, middle, appended, done⟩ := on_bind_eq_ok done
    obtain ⟨place, first, keeps, middleApart⟩ := append_hasText apart appended
    obtain ⟨last, kept, afterApart⟩ := first.appends middleApart done
    rw [String.append_assoc, ← String.join_cons, ← List.map_cons] at last
    exact ⟨place, last, keeps.trans kept, afterApart⟩

/-- What is read from a line is what was recorded, with the payload cut to the limit. -/
theorem read?_line (limit : Nat) (record : LogRecord) :
    Json.read? (record.line limit) =
      some (.object [("level", .string record.level), ("event_type", .string record.name),
        ("payload", record.payload.truncate limit)]) :=
  Json.read?_render _

/-- What was appended to a log can be read from it. The log has the text that it had before, and
then a line for each record in order; no line has a line break before its end; and from a line the
level, the name and the payload after truncation are read, so lines are equal only if these are. -/
theorem appends_readable (logger : Logger) {records : List LogRecord} {disk after : Disk}
    (apart : disk.PlacesApart)
    (done : (forM records logger.append : DiskAttempt PUnit).run disk = (.ok (), after)) :
    (records = [] → after = disk) ∧
      (records ≠ [] → ∃ place, after.locate logger.path = .ok place ∧
        (∀ earlier, disk.locate logger.path = .ok earlier → earlier = place) ∧
        (∀ old, disk.read logger.path = .ok old → disk.textAt place = old) ∧
        after.read logger.path =
          .ok (disk.textAt place ++ String.join (records.map logger.line)) ∧
        after.PlacesApart) ∧
      (∀ record, logger.line record = record.line logger.maxPayloadBytes ++ "\n" ∧
        Text.IsLine (record.line logger.maxPayloadBytes).toList ∧
        Json.read? (record.line logger.maxPayloadBytes) =
          some (.object [("level", .string record.level), ("event_type", .string record.name),
            ("payload", record.payload.truncate logger.maxPayloadBytes)])) ∧
      ∀ first second, logger.line first = logger.line second →
        first.level = second.level ∧ first.name = second.name ∧
          first.payload.truncate logger.maxPayloadBytes =
            second.payload.truncate logger.maxPayloadBytes := by
  refine ⟨?_, fun nonempty => ?_, fun record => ⟨rfl, ?_, read?_line _ record⟩,
    fun first second same => ?_⟩
  · rintro rfl
    exact (congrArg Prod.snd done).symm
  · obtain ⟨place, ⟨located, modified, held⟩, keeps, afterApart⟩ :=
      appends_hasText apart nonempty done
    have same {earlier : Location} (found : disk.locate logger.path = .ok earlier) :
        earlier = place :=
      Except.ok.inj ((keeps.locate found).symm.trans located)
    refine ⟨place, located, fun _ => same, fun old read => ?_,
      Disk.read_eq_ok.2 ⟨place, modified, located, held⟩, afterApart⟩
    obtain ⟨earlier, _, found, old⟩ := Disk.read_eq_ok.1 read
    obtain rfl := same found
    exact textAt_of_file old
  · rw [LogRecord.line, Json.render, String.toList_ofList]
    exact Json.isLine_write _
  · have lines : first.line logger.maxPayloadBytes = second.line logger.maxPayloadBytes :=
      (String.append_left_inj "\n").1 same
    simpa [LogRecord.json, LogRecord.truncate] using Json.render_injective lines

def frugal : Logger :=
  ⟨⟨"logs/run.jsonl"⟩, 4, 0⟩

def shared (text : String) (clock : Nat) (others : List (Location × DiskEntry)) : Disk :=
  ⟨(["logs"], .directory) :: (["logs", "run.jsonl"], .file text clock) :: others, clock + 1⟩

def before (name : String) : List (Location × DiskEntry) :=
  [(["logs", name], .file "older" 0)]

theorem isRunLog_self (active : String) (size modified : Nat) :
    LogFile.isRunLog active ⟨active, size, modified⟩ = true := by
  rw [LogFile.isRunLog, Bool.and_eq_true, List.isPrefixOf_iff_prefix]
  exact ⟨decide_eq_true rfl, List.prefix_rfl⟩

section Frugal

variable {name : String}

theorem toPrune_frugal (log : LogFile.isRunLog "run.jsonl" ⟨name, 5, 0⟩ = true)
    (other : name ≠ "run.jsonl") {size : Nat} (small : size + 5 < UInt64.size) :
    frugal.toPrune [⟨"run.jsonl", size, 1⟩, ⟨name, 5, 0⟩] = [⟨name, 5, 0⟩] := by
  have named : frugal.path.fileName? = some "run.jsonl" := by decide +kernel
  have own := isRunLog_self "run.jsonl" size 1
  have sorted : LogFile.runLogs "run.jsonl" [⟨"run.jsonl", size, 1⟩, ⟨name, 5, 0⟩] =
      [⟨name, 5, 0⟩, ⟨"run.jsonl", size, 1⟩] := by
    simp [LogFile.runLogs, own, log, List.mergeSort]
  have total : LogFile.totalSize [⟨name, 5, 0⟩, ⟨"run.jsonl", size, 1⟩] = size + 5 :=
    Nat.add_comm 5 size
  have counted : LogFile.countedSize [⟨name, 5, 0⟩, ⟨"run.jsonl", size, 1⟩] = size + 5 := by
    rw [LogFile.countedSize, total, Nat.mod_eq_of_lt small]
  rw [toPrune, named]
  show LogFile.toPrune "run.jsonl" 0 _ = _
  rw [LogFile.toPrune, sorted, counted]
  simp [LogFile.surplus, other]

theorem prune_frugal (log : LogFile.isRunLog "run.jsonl" ⟨name, 5, 0⟩ = true)
    (other : name ≠ "run.jsonl") {text : String} (small : text.utf8ByteSize + 5 < UInt64.size) :
    (frugal.prune ⟨"logs"⟩).on (shared text 1 (before name)) = (.ok (), shared text 1 []) := by
  have listed : (shared text 1 (before name)).list ⟨"logs"⟩ = .ok (["logs"], _) := rfl
  have removed : (shared text 1 (before name)).remove ["logs", name] = shared text 1 [] := by
    simp [Disk.remove, shared, before, other.symm]
  have doomed : frugal.toPrune ((shared text 1 (before name)).files ["logs"]) = [⟨name, 5, 0⟩] :=
    toPrune_frugal log other small
  refine (run_prune listed).trans ?_
  rw [← removed]
  exact congrArg (fun doomed : List LogFile => (_, doomed.foldl _ _)) doomed

theorem append_frugal (log : LogFile.isRunLog "run.jsonl" ⟨name, 5, 0⟩ = true)
    (other : name ≠ "run.jsonl") (record : LogRecord)
    (small : ("old\n" ++ frugal.line record).utf8ByteSize + 5 < UInt64.size) :
    (frugal.append record).run (shared "old\n" 0 (before name)) =
      (.ok (), shared ("old\n" ++ frugal.line record) 1 []) := by
  have parent : frugal.path.parent? = some ⟨"logs"⟩ := by decide +kernel
  exact append_of_steps parent rfl rfl (prune_frugal log other small)

end Frugal

theorem appends_frugal (first second : LogRecord)
    (small : ("old\n" ++ frugal.line first).utf8ByteSize + 5 < UInt64.size) :
    ∃ after, (forM [first, second] frugal.append : DiskAttempt PUnit).on
      (shared "old\n" 0 (before "run.1.jsonl")) = (.ok (), after) := by
  have parent : frugal.path.parent? = some ⟨"logs"⟩ := by decide +kernel
  have log : LogFile.isRunLog "run.jsonl" ⟨"run.1.jsonl", 5, 0⟩ = true := by decide +kernel
  have firstDone : (frugal.append first).on (shared "old\n" 0 (before "run.1.jsonl")) =
      (.ok (), shared ("old\n" ++ frugal.line first) 1 []) :=
    append_frugal log (by decide) first small
  have made : (makeDirectories ⟨"logs"⟩).on (shared ("old\n" ++ frugal.line first) 1 []) =
      (.ok (), shared ("old\n" ++ frugal.line first) 1 []) := rfl
  have wrote : (Disk.append frugal.path (frugal.line second)).on
      (shared ("old\n" ++ frugal.line first) 1 []) =
        (.ok (), shared ("old\n" ++ frugal.line first ++ frugal.line second) 2 []) := rfl
  have listed : (shared ("old\n" ++ frugal.line first ++ frugal.line second) 2 []).list ⟨"logs"⟩ =
      .ok (["logs"], _) := rfl
  have secondDone := append_of_steps parent made wrote (run_prune listed)
  rw [List.forM_cons, on_bind, firstDone]
  dsimp only
  rw [List.forM_cons, on_bind, secondDone]
  exact ⟨_, rfl⟩

theorem appends_readable_frugal :
    (shared "old\n" 0 (before "run.1.jsonl")).PlacesApart ∧
      ∃ first second after, first = (⟨"info", "a\nb", .string "\"\n"⟩ : LogRecord) ∧
        second = (⟨"é", "\\", .number (-1)⟩ : LogRecord) ∧
        (forM [first, second] frugal.append : DiskAttempt PUnit).run
          (shared "old\n" 0 (before "run.1.jsonl")) = (.ok (), after) ∧
        after.read ⟨"logs/run.jsonl"⟩ =
          .ok ("old\n" ++ String.join [frugal.line first, frugal.line second]) := by
  have apart : (shared "old\n" 0 (before "run.1.jsonl")).PlacesApart := by
    unfold PlacesApart
    decide
  have begun : (shared "old\n" 0 (before "run.1.jsonl")).read frugal.path = .ok "old\n" := rfl
  obtain ⟨after, done⟩ := appends_frugal ⟨"info", "a\nb", .string "\"\n"⟩ ⟨"é", "\\", .number (-1)⟩
    (by decide +kernel)
  obtain ⟨-, appended, -⟩ := appends_readable frugal apart done
  obtain ⟨place, -, -, held, read, -⟩ := appended (List.cons_ne_nil _ _)
  rw [held _ begun] at read
  exact ⟨apart, _, _, after, rfl, rfl, done, read⟩

end Logger

end TransportSeams

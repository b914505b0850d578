import TransportSeams.Proofs.Files.Disk
import TransportSeams.RunLog.Logger

/-!
Pruning deletes as little as it can. Of the run logs in the order of their age, leaving the active
one aside, the shortest start is deleted after which the rest fits the budget, and all of them when
no start is enough. Run logs that are too large for the counter of their sizes count for less than
they are, so less of them is deleted. Everything else on the disk stays as it was.
-/

set_option autoImplicit false
set_option relaxedAutoImplicit false

namespace TransportSeams

namespace LogFile

variable {active : String} {budget total : Nat} {files logs doomed other : List LogFile}

/-- The run logs of a directory from the oldest to the newest; those of one time stand in the order
of the directory. -/
structure IsByAge (active : String) (files logs : List LogFile) : Prop where
  perm : logs.Perm (files.filter (isRunLog active))
  oldestFirst : logs.Pairwise fun older newer => older.modified ≤ newer.modified
  stable : ∀ time, logs.filter (·.modified = time) =
    (files.filter (isRunLog active)).filter (·.modified = time)

theorem isByAge_runLogs (active : String) (files : List LogFile) :
    IsByAge active files (runLogs active files) := by
  have transitive : ∀ first second third : LogFile,
      decide (first.modified ≤ second.modified) = true →
        decide (second.modified ≤ third.modified) = true →
          decide (first.modified ≤ third.modified) = true :=
    fun _ _ _ before after =>
      decide_eq_true (Nat.le_trans (of_decide_eq_true before) (of_decide_eq_true after))
  have linear : ∀ first second : LogFile,
      (decide (first.modified ≤ second.modified) || decide (second.modified ≤ first.modified)) =
        true := by
    intro first second
    rw [Bool.or_eq_true, decide_eq_true_eq, decide_eq_true_eq]
    exact Nat.le_total _ _
  have perm : (runLogs active files).Perm (files.filter (isRunLog active)) :=
    List.mergeSort_perm _ _
  refine ⟨perm, ?_, fun time => ?_⟩
  · exact (List.pairwise_mergeSort transitive linear _).imp of_decide_eq_true
  · -- Files of one time are in order wherever they stand, so sorting keeps them as a sublist.
    have level : ((files.filter (isRunLog active)).filter (·.modified = time)).Pairwise
        fun older newer => decide (older.modified ≤ newer.modified) = true := by
      refine List.pairwise_of_forall_mem_list fun older oldMember newer newMember => ?_
      have old := of_decide_eq_true (List.mem_filter.1 oldMember).2
      have new := of_decide_eq_true (List.mem_filter.1 newMember).2
      exact decide_eq_true (Nat.le_of_eq (old.trans new.symm))
    have kept := (List.sublist_mergeSort transitive linear level List.filter_sublist).filter
      (·.modified = time)
    rw [List.filter_eq_self.2 fun _ member => (List.mem_filter.1 member).2] at kept
    exact (kept.eq_of_length (perm.filter _).length_eq.symm).symm

theorem totalSize_perm {first second : List LogFile} (same : first.Perm second) :
    totalSize first = totalSize second := by
  induction same with
  | nil => rfl
  | cons file _ ih => exact congrArg (file.size + ·) ih
  | swap => exact Nat.add_left_comm _ _ _
  | trans _ _ first second => exact first.trans second

theorem totalSize_filter_add (keeps : LogFile → Bool) (files : List LogFile) :
    totalSize (files.filter keeps) + totalSize (files.filter (!keeps ·)) = totalSize files := by
  induction files with
  | nil => rfl
  | cons file rest ih =>
    have whole : totalSize (file :: rest) = file.size + totalSize rest := rfl
    rw [List.filter_cons, List.filter_cons, whole, ← ih]
    cases keeps file
    · exact Nat.add_left_comm _ _ _
    · exact Nat.add_assoc _ _ _

theorem totalSize_filter_not_mem (apart : files.Nodup) (among : other.Sublist files) :
    totalSize (files.filter (· ∉ other)) = totalSize files - totalSize other := by
  have same : (files.filter (· ∈ other)).Perm other := by
    refine (List.perm_ext_iff_of_nodup (apart.filter _) (among.nodup apart)).2 fun file => ?_
    rw [List.mem_filter, decide_eq_true_eq]
    exact ⟨And.right, fun member => ⟨among.subset member, member⟩⟩
  have split := totalSize_filter_add (· ∈ other) files
  rw [totalSize_perm same] at split
  simp only [← decide_not] at split
  exact (Nat.sub_eq_of_eq_add (split.symm.trans (Nat.add_comm _ _))).symm

/-- A start of the files whose deletion leaves no more than the budget of a total, or all of them
when there is none; no shorter start does. -/
structure IsLeastFor (budget total : Nat) (files doomed : List LogFile) : Prop where
  isPrefix : doomed <+: files
  enough : total - totalSize doomed ≤ budget ∨ doomed = files
  least : ∀ other, other <+: files → total - totalSize other ≤ budget → doomed <+: other

theorem surplus_isLeastFor (active : String) (budget total : Nat) (files : List LogFile) :
    IsLeastFor budget total (files.filter (·.name ≠ active))
      (surplus active budget total files) := by
  fun_induction surplus active budget total files with
  | case1 total => exact ⟨List.prefix_rfl, .inr rfl, fun _ _ _ => List.nil_prefix⟩
  | case2 total file rest fits => exact ⟨List.nil_prefix, .inl fits, fun _ _ _ => List.nil_prefix⟩
  | case3 total file rest exceeds isActive ih =>
    rwa [List.filter_cons_of_neg (by simpa using isActive)]
  | case4 total file rest exceeds notActive ih =>
    obtain ⟨isPrefix, enough, least⟩ := ih
    rw [List.filter_cons_of_pos (by simpa using notActive)]
    have deleted (others : List LogFile) :
        total - totalSize (file :: others) = total - file.size - totalSize others :=
      Nat.sub_add_eq _ _ _
    refine ⟨(List.prefix_cons_inj file).2 isPrefix, ?_, fun other otherPrefix otherEnough => ?_⟩
    · rw [deleted]
      exact enough.imp_right (congrArg (file :: ·))
    · -- No start without the first file is enough, since the total exceeds the budget.
      rcases List.prefix_cons_iff.1 otherPrefix with rfl | ⟨others, rfl, othersPrefix⟩
      · exact absurd otherEnough exceeds
      · rw [deleted] at otherEnough
        exact (List.prefix_cons_inj file).2 (least others othersPrefix otherEnough)

/-- The least start of the run logs, without the active one, whose deletion makes the others fit
the budget, or all of them. -/
structure IsLeastSurplus (active : String) (budget : Nat) (logs doomed : List LogFile) : Prop where
  isPrefix : doomed <+: logs.filter (·.name ≠ active)
  enough : totalSize (logs.filter (· ∉ doomed)) ≤ budget ∨ doomed = logs.filter (·.name ≠ active)
  least : ∀ other, other <+: logs.filter (·.name ≠ active) →
    totalSize (logs.filter (· ∉ other)) ≤ budget → doomed <+: other

theorem isLeastSurplus_surplus (active : String) (budget : Nat) (apart : files.Nodup) :
    IsLeastSurplus active budget files (surplus active budget (totalSize files) files) := by
  have rest {other : List LogFile} (isPrefix : other <+: files.filter (·.name ≠ active)) :
      totalSize (files.filter (· ∉ other)) = totalSize files - totalSize other :=
    totalSize_filter_not_mem apart (isPrefix.sublist.trans List.filter_sublist)
  obtain ⟨isPrefix, enough, least⟩ := surplus_isLeastFor active budget (totalSize files) files
  refine ⟨isPrefix, ?_, fun other otherPrefix otherEnough => least other otherPrefix ?_⟩
  · rwa [rest isPrefix]
  · rwa [rest otherPrefix] at otherEnough

theorem filter_not_mem_nil (logs : List LogFile) :
    logs.filter (· ∉ ([] : List LogFile)) = logs :=
  List.filter_eq_self.2 fun _ _ => decide_eq_true List.not_mem_nil

theorem IsLeastSurplus.eq_nil (surplus : IsLeastSurplus active budget logs doomed)
    (fits : totalSize logs ≤ budget) : doomed = [] := by
  refine List.prefix_nil.1 (surplus.least [] List.nil_prefix ?_)
  rwa [filter_not_mem_nil]

variable {file kept : LogFile}

theorem mem_of_isPrefix (isPrefix : doomed <+: logs.filter (·.name ≠ active))
    (member : file ∈ doomed) : file ∈ logs ∧ file.name ≠ active := by
  simpa using isPrefix.subset member

/-- What is deleted is not newer than what is left, apart from the active log. -/
theorem modified_le_of_isPrefix
    (isPrefix : doomed <+: logs.filter (·.name ≠ active))
    (sorted : logs.Pairwise fun older newer => older.modified ≤ newer.modified)
    (member : file ∈ doomed) (listed : kept ∈ logs) (notActive : kept.name ≠ active)
    (left : kept ∉ doomed) : file.modified ≤ kept.modified := by
  obtain ⟨rest, whole⟩ := isPrefix
  have later : kept ∈ rest := by
    have candidate : kept ∈ doomed ++ rest := by
      rw [whole]
      exact List.mem_filter.2 ⟨listed, by simpa using notActive⟩
    exact (List.mem_append.1 candidate).resolve_left left
  have ordered : (doomed ++ rest).Pairwise fun older newer => older.modified ≤ newer.modified := by
    rw [whole]
    exact sorted.filter _
  exact (List.pairwise_append.1 ordered).2.2 file member kept later

/-- Files that count for less are deleted to a shorter start. -/
theorem surplus_isPrefix_of_le (active : String) (budget : Nat) {more : Nat}
    (less : total ≤ more) :
    surplus active budget total files <+: surplus active budget more files := by
  induction files generalizing total more with
  | nil => exact List.prefix_rfl
  | cons file rest ih =>
    rw [surplus, surplus]
    rcases Nat.lt_or_ge budget total with exceeds | fits
    · have beyond : budget < more := Nat.lt_of_lt_of_le exceeds less
      rw [if_neg (Nat.not_le_of_lt exceeds), if_neg (Nat.not_le_of_lt beyond)]
      split
      · exact ih less
      · exact (List.prefix_cons_inj file).2 (ih (Nat.sub_le_sub_right less file.size))
    · rw [if_pos fits]
      exact List.nil_prefix

theorem toPrune_isPrefix (active : String) (budget : Nat) (files : List LogFile) :
    toPrune active budget files <+:
      surplus active budget (totalSize (runLogs active files)) (runLogs active files) :=
  surplus_isPrefix_of_le active budget (Nat.mod_le _ _)

theorem toPrune_of_totalSize_lt (countable : totalSize (runLogs active files) < UInt64.size) :
    toPrune active budget files =
      surplus active budget (totalSize (runLogs active files)) (runLogs active files) := by
  rw [toPrune, countedSize, Nat.mod_eq_of_lt countable]

end LogFile

namespace Disk

variable {disk : Disk} {place location : Location} {file : LogFile}

def files (disk : Disk) (place : Location) : List LogFile :=
  (disk.children place).filterMap LogFile.ofEntry?

theorem ofEntry?_eq_some_iff {child : String × DiskEntry} :
    LogFile.ofEntry? child = some file ↔
      ∃ text, child = (file.name, .file text file.modified) ∧ file.size = text.utf8ByteSize := by
  constructor
  · intro shown
    obtain ⟨name, held⟩ := child
    cases held with
    | directory => exact absurd shown nofun
    | file text modified =>
      obtain rfl := Option.some.inj shown
      exact ⟨text, rfl, rfl⟩
  · rintro ⟨text, rfl, size⟩
    rw [LogFile.ofEntry?, ← size]

theorem mem_files_iff (apart : disk.PlacesApart) : file ∈ disk.files place ↔
    ∃ text, disk.entry? (place ++ [file.name]) = some (.file text file.modified) ∧
      file.size = text.utf8ByteSize := by
  rw [files, List.mem_filterMap]
  constructor
  · rintro ⟨child, member, isFile⟩
    obtain ⟨text, rfl, size⟩ := ofEntry?_eq_some_iff.1 isFile
    exact ⟨text, apart.mem_children_iff.1 member, size⟩
  · rintro ⟨text, found, size⟩
    exact ⟨_, apart.mem_children_iff.2 found, ofEntry?_eq_some_iff.2 ⟨text, rfl, size⟩⟩

theorem nodup_files (apart : disk.PlacesApart) (place : Location) : (disk.files place).Nodup := by
  rw [files, List.Nodup, List.pairwise_filterMap]
  refine (apart.children place).imp fun elsewhere first firstFile second secondFile same => ?_
  obtain ⟨_, rfl, -⟩ := ofEntry?_eq_some_iff.1 firstFile
  obtain ⟨_, rfl, -⟩ := ofEntry?_eq_some_iff.1 secondFile
  exact elsewhere (congrArg LogFile.name same)

theorem entry?_foldl_remove (doomed : List LogFile) (disk : Disk) (place location : Location) :
    entry? (doomed.foldl (fun disk file => disk.remove (place ++ [file.name])) disk) location =
      if ∃ file ∈ doomed, location = place ++ [file.name] then none else disk.entry? location := by
  induction doomed generalizing disk with
  | nil => exact (if_neg (by simp)).symm
  | cons first rest ih =>
    have below : place ++ [first.name] ≠ [] := List.append_ne_nil_of_right_ne_nil _ (by simp)
    rw [List.foldl_cons, ih, entry?_remove below]
    by_cases deleted : ∃ file ∈ rest, location = place ++ [file.name]
    · obtain ⟨file, member, found⟩ := deleted
      rw [if_pos ⟨file, member, found⟩, if_pos ⟨file, List.mem_cons_of_mem first member, found⟩]
    · rw [if_neg deleted]
      congr 1
      simp [deleted]

theorem PlacesApart.foldl_remove (apart : disk.PlacesApart) (doomed : List LogFile)
    (place : Location) :
    (doomed.foldl (fun disk file => disk.remove (place ++ [file.name])) disk).PlacesApart := by
  induction doomed generalizing disk with
  | nil => exact apart
  | cons file rest ih => exact ih apart.remove

/-- What pruning a directory to a budget makes of a disk: `doomed` are the files that are gone. -/
structure IsPruned (active : String) (budget : Nat) (place : Location) (disk after : Disk)
    (logs doomed : List LogFile) : Prop where
  byAge : LogFile.IsByAge active (disk.files place) logs
  surplus : LogFile.totalSize logs < UInt64.size → LogFile.IsLeastSurplus active budget logs doomed
  frugal : ∃ needed, LogFile.IsLeastSurplus active budget logs needed ∧ doomed <+: needed
  deleted : ∀ file ∈ doomed, after.entry? (place ++ [file.name]) = none
  kept : ∀ location, (∀ file ∈ doomed, location ≠ place ++ [file.name]) →
    after.entry? location = disk.entry? location
  keepsActive : after.entry? (place ++ [active]) = disk.entry? (place ++ [active])
  keepsDirectories : ∀ location, disk.entry? location = some .directory →
    after.entry? location = some .directory
  keepsOthers : ∀ location, (∀ file ∈ logs, location ≠ place ++ [file.name]) →
    after.entry? location = disk.entry? location
  oldest : ∀ file ∈ doomed, ∀ survivor ∈ logs, survivor.name ≠ active → survivor ∉ doomed →
    file.modified ≤ survivor.modified
  fitting : LogFile.totalSize logs ≤ budget → after = disk
  apart : after.PlacesApart

theorem IsPruned.mem {active : String} {budget : Nat} {after : Disk} {logs doomed : List LogFile}
    (pruned : disk.IsPruned active budget place after logs doomed) (member : file ∈ doomed) :
    file ∈ logs ∧ file.name ≠ active := by
  obtain ⟨needed, surplus, isPrefix⟩ := pruned.frugal
  exact LogFile.mem_of_isPrefix (isPrefix.trans surplus.isPrefix) member

end Disk

namespace LogFile

theorem isPruned {active : String} {disk : Disk} (apart : disk.PlacesApart) (budget : Nat)
    (place : Location) :
    disk.IsPruned active budget place
      ((toPrune active budget (disk.files place)).foldl
        (fun disk file => disk.remove (place ++ [file.name])) disk)
      (runLogs active (disk.files place)) (toPrune active budget (disk.files place)) := by
  have byAge := isByAge_runLogs active (disk.files place)
  have logsApart : (runLogs active (disk.files place)).Nodup :=
    byAge.perm.nodup_iff.2 ((Disk.nodup_files apart place).filter _)
  have least := isLeastSurplus_surplus active budget logsApart
  have frugal := toPrune_isPrefix active budget (disk.files place)
  have isPrefix := frugal.trans least.isPrefix
  have left := Disk.entry?_foldl_remove (toPrune active budget (disk.files place)) disk place
  have kept : ∀ location, (∀ file ∈ toPrune active budget (disk.files place),
      location ≠ place ++ [file.name]) → _ = disk.entry? location := fun location elsewhere =>
    (left location).trans (if_neg fun ⟨file, member, found⟩ => elsewhere file member found)
  refine ⟨byAge, fun countable => ?_, ⟨_, least, frugal⟩, fun file member => ?_, kept,
    kept _ fun file member found => ?_, fun location found => ?_,
    fun location elsewhere => kept location fun file member => ?_,
    fun file member survivor listed notActive alive =>
      modified_le_of_isPrefix isPrefix byAge.oldestFirst member listed notActive alive,
    fun fits => ?_, apart.foldl_remove _ place⟩
  · rw [toPrune_of_totalSize_lt countable]
    exact least
  · exact (left _).trans (if_pos ⟨file, member, rfl⟩)
  · have same : active = file.name := List.singleton_inj.1 (List.append_cancel_left found)
    exact (mem_of_isPrefix isPrefix member).2 same.symm
  · refine (kept location fun file member isPlace => ?_).trans found
    have listed := (List.mem_filter.1 (byAge.perm.mem_iff.1 (mem_of_isPrefix isPrefix member).1)).1
    obtain ⟨text, isFile, -⟩ := (Disk.mem_files_iff apart).1 listed
    rw [← isPlace, found] at isFile
    exact absurd isFile nofun
  · exact elsewhere file (mem_of_isPrefix isPrefix member).1
  · rw [least.eq_nil fits, List.prefix_nil] at frugal
    rw [frugal]
    rfl

end LogFile

theorem Disk.list_eq_ok {disk : Disk} {directory : Path} {place : Location}
    {children : List (String × DiskEntry)} (listed : disk.list directory = .ok (place, children)) :
    children = disk.children place := by
  obtain ⟨⟨found, entry⟩, -, entered⟩ := FileFault.bind_eq_ok.1 listed
  cases entry with
  | directory =>
    obtain ⟨rfl, rfl⟩ := Prod.mk.inj (Except.ok.inj entered)
    rfl
  | file text modified => exact absurd entered nofun

namespace Logger

theorem run_prune {logger : Logger} {directory : Path} {disk : Disk} {place : Location}
    {children : List (String × DiskEntry)} (listed : disk.list directory = .ok (place, children)) :
    (logger.prune directory).run disk = (.ok (), (logger.toPrune (disk.files place)).foldl
      (fun disk file => disk.remove (place ++ [file.name])) disk) := by
  have shown : disk.files place = children.filterMap LogFile.ofEntry? := by
    rw [Disk.list_eq_ok listed, Disk.files]
  rw [shown]
  show (ExceptT.run (Disk.ofExcept (disk.list directory) >>= _) : StateM Disk _) disk = _
  rw [listed]
  rfl

/-- Pruning the directory of a log deletes the oldest run logs, no more of them than it takes to
bring the others within the budget, and nothing else. It deletes that many if the sizes of the run
logs add up to what 64 bits can count. A path without a file name has no run logs. -/
theorem prune_isPruned (logger : Logger) {directory : Path} {disk : Disk} {place : Location}
    {children : List (String × DiskEntry)} (apart : disk.PlacesApart)
    (listed : disk.list directory = .ok (place, children)) :
    ∃ after, (logger.prune directory).run disk = (.ok (), after) ∧
      match logger.path.fileName? with
      | some active => disk.IsPruned active logger.budgetBytes place after
          (LogFile.runLogs active (disk.files place)) (logger.toPrune (disk.files place))
      | none => after = disk := by
  refine ⟨_, run_prune listed, ?_⟩
  unfold toPrune
  cases logger.path.fileName? with
  | some active => exact LogFile.isPruned apart logger.budgetBytes place
  | none => rfl

def rotated : Disk :=
  ⟨[(["logs"], .directory), (["logs", "run.jsonl"], .file "newer" 1),
    (["logs", "run.1.jsonl"], .file "older" 0), (["logs", "notes.txt"], .file "other" 0)], 2⟩

theorem prune_isPruned_rotated :
    rotated.PlacesApart ∧ rotated.list ⟨"logs"⟩ = .ok (["logs"], rotated.children ["logs"]) ∧
      ∃ after, ((⟨⟨"logs/run.jsonl"⟩, 4096, 6⟩ : Logger).prune ⟨"logs"⟩).run rotated =
          (.ok (), after) ∧
        after.entry? ["logs", "run.1.jsonl"] = none ∧
        after.entry? ["logs", "run.jsonl"] = some (.file "newer" 1) ∧
        after.entry? ["logs", "notes.txt"] = some (.file "other" 0) := by
  have apart : rotated.PlacesApart := by
    unfold Disk.PlacesApart
    decide
  have listed : rotated.list ⟨"logs"⟩ = .ok (["logs"], rotated.children ["logs"]) := rfl
  have named : Path.fileName? ⟨"logs/run.jsonl"⟩ = some "run.jsonl" := by decide +kernel
  have logs : (rotated.files ["logs"]).filter (LogFile.isRunLog "run.jsonl") =
      [⟨"run.jsonl", 5, 1⟩, ⟨"run.1.jsonl", 5, 0⟩] := by decide +kernel
  have doomed : (⟨⟨"logs/run.jsonl"⟩, 4096, 6⟩ : Logger).toPrune (rotated.files ["logs"]) =
      [⟨"run.1.jsonl", 5, 0⟩] := by
    simp only [toPrune, named, LogFile.toPrune, LogFile.runLogs, logs]
    simp [List.mergeSort, LogFile.surplus, LogFile.countedSize, LogFile.totalSize, UInt64.size]
  obtain ⟨after, ran, pruned⟩ := prune_isPruned ⟨⟨"logs/run.jsonl"⟩, 4096, 6⟩ apart listed
  rw [doomed] at pruned
  simp only [named] at pruned
  refine ⟨apart, listed, after, ran, pruned.deleted _ List.mem_cons_self, ?_, ?_⟩
  · exact pruned.keepsActive.trans rfl
  · exact (pruned.kept _ (by decide)).trans rfl

def zeros (size : Nat) : String :=
  String.ofList (List.replicate size '0')

/-- Three run logs beside the active one; the older two have `size` bytes. -/
def swollen (size : Nat) : Disk :=
  ⟨[(["logs"], .directory), (["logs", "run.1.jsonl"], .file (zeros size) 0),
    (["logs", "run.2.jsonl"], .file (zeros size) 1), (["logs", "run.3.jsonl"], .file "xx" 2),
    (["logs", "run.jsonl"], .file "newest log" 3)], 4⟩

def swollenLogs (size : Nat) : List LogFile :=
  [⟨"run.1.jsonl", size, 0⟩, ⟨"run.2.jsonl", size, 1⟩, ⟨"run.3.jsonl", 2, 2⟩,
    ⟨"run.jsonl", 10, 3⟩]

theorem utf8ByteSize_zeros (size : Nat) : (zeros size).utf8ByteSize = size := by
  induction size with
  | zero => rfl
  | succ size ih =>
    rw [zeros, List.replicate_succ, String.ofList_cons, String.utf8ByteSize_append]
    exact (congrArg (1 + ·) ih).trans (Nat.add_comm 1 size)

theorem files_swollen (size : Nat) : (swollen size).files ["logs"] = swollenLogs size := by
  have shown : (swollen size).files ["logs"] =
      [⟨"run.1.jsonl", (zeros size).utf8ByteSize, 0⟩, ⟨"run.2.jsonl", (zeros size).utf8ByteSize, 1⟩,
        ⟨"run.3.jsonl", 2, 2⟩, ⟨"run.jsonl", 10, 3⟩] := rfl
  rw [shown, utf8ByteSize_zeros]
  rfl

theorem runLogs_swollen (size : Nat) :
    LogFile.runLogs "run.jsonl" (swollenLogs size) = swollenLogs size := by
  have names : Path.splitName "run.jsonl" = ("run", some "jsonl") ∧
      Path.splitName "run.1.jsonl" = ("run.1", some "jsonl") ∧
      Path.splitName "run.2.jsonl" = ("run.2", some "jsonl") ∧
      Path.splitName "run.3.jsonl" = ("run.3", some "jsonl") := by decide +kernel
  simp [LogFile.runLogs, swollenLogs, LogFile.isRunLog, names, List.mergeSort]

theorem totalSize_swollenLogs (size : Nat) :
    LogFile.totalSize (swollenLogs size) = 2 * size + 12 := by
  simp only [swollenLogs, LogFile.totalSize, List.foldr]
  omega

theorem toPrune_swollen {size : Nat} (wraps : (2 * size + 12) % UInt64.size = 10) :
    (⟨⟨"logs/run.jsonl"⟩, 4096, 10⟩ : Logger).toPrune (swollenLogs size) = [] := by
  have named : Path.fileName? ⟨"logs/run.jsonl"⟩ = some "run.jsonl" := by decide +kernel
  simp only [toPrune, named]
  rw [LogFile.toPrune, runLogs_swollen, LogFile.countedSize, totalSize_swollenLogs, wraps]
  rfl

/-- Two logs of nearly as many bytes as 63 bits can count bring the counter round to the bytes of
the active log. These fit, so nothing is deleted, though the other three should be. -/
theorem prune_swollen :
    ∃ disk : Disk, disk.PlacesApart ∧
      disk.files ["logs"] = swollenLogs 0x7FFFFFFFFFFFFFFF ∧
      ((⟨⟨"logs/run.jsonl"⟩, 4096, 10⟩ : Logger).prune ⟨"logs"⟩).run disk = (.ok (), disk) ∧
      ¬ LogFile.IsLeastSurplus "run.jsonl" 10
        (LogFile.runLogs "run.jsonl" (disk.files ["logs"])) [] := by
  have wraps : (2 * 0x7FFFFFFFFFFFFFFF + 12) % UInt64.size = 10 := rfl
  have exceeds : 10 < 2 * 0x7FFFFFFFFFFFFFFF + 12 := by decide
  -- From here on the size is a variable, so that no text of that size is made.
  generalize 0x7FFFFFFFFFFFFFFF = size at wraps exceeds ⊢
  have files := files_swollen size
  have listed : (swollen size).list ⟨"logs"⟩ = .ok (["logs"], (swollen size).children ["logs"]) :=
    rfl
  have apart : (swollen size).PlacesApart := by
    simp [Disk.PlacesApart, swollen]
  refine ⟨swollen size, apart, files, ?_, fun surplus => ?_⟩
  · rw [run_prune listed, files, toPrune_swollen wraps]
    rfl
  · rw [files, runLogs_swollen] at surplus
    rcases surplus.enough with fits | all
    · rw [LogFile.filter_not_mem_nil, totalSize_swollenLogs] at fits
      exact absurd exceeds (Nat.not_lt_of_le fits)
    · simp [swollenLogs] at all

end Logger

end TransportSeams

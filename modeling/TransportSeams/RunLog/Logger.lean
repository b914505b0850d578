import TransportSeams.Config.Basic
import TransportSeams.Files.Disk
import TransportSeams.RunLog.Pruning
import TransportSeams.RunLog.Record

/-!
Appending to a run log on a disk. Each append makes the log's directory, writes one line, and prunes
the run logs beside it. Without an active logger the run log takes no records.
-/

set_option autoImplicit false
set_option relaxedAutoImplicit false

namespace TransportSeams

structure Logger where
  path : Path
  maxPayloadBytes : Nat
  budgetBytes : Nat
deriving DecidableEq, Repr

/-- A regular file among the entries of a directory. -/
def LogFile.ofEntry? : String × DiskEntry → Option LogFile
  | (name, .file text modified) => some ⟨name, text.utf8ByteSize, modified⟩
  | (_, .directory) => none

def Config.logger? (config : Config) : Option Logger :=
  config.logging.path?.map fun path =>
    ⟨path, config.logging.maxPayloadBytes, config.logging.budgetBytes⟩

namespace Logger

def line (logger : Logger) (record : LogRecord) : String :=
  record.line logger.maxPayloadBytes ++ "\n"

/-- The run logs to delete among the files beside the active one. A path without a file name has no
run logs. -/
def toPrune (logger : Logger) (files : List LogFile) : List LogFile :=
  match logger.path.fileName? with
  | some active => LogFile.toPrune active logger.budgetBytes files
  | none => []

/-- Deletes the surplus run logs of a directory, beside the active one. -/
def prune (logger : Logger) (directory : Path) : DiskAttempt Unit := do
  let disk ← get
  let (location, children) ← Disk.ofExcept (disk.list directory)
  let doomed := logger.toPrune (children.filterMap LogFile.ofEntry?)
  set (doomed.foldl (fun disk file => disk.remove (location ++ [file.name])) disk)

def append (logger : Logger) (record : LogRecord) : DiskAttempt Unit := do
  if let some directory := logger.path.parent? then
    Disk.makeDirectories directory
  Disk.append logger.path (logger.line record)
  if let some directory := logger.path.parent? then
    logger.prune directory

end Logger

/-- The run log of a process: the disk, and the logger that is active, if there is one. -/
structure RunLog where
  disk : Disk
  logger? : Option Logger

namespace RunLog

def activate (log : RunLog) (logger : Logger) : RunLog :=
  { log with logger? := some logger }

def silence (log : RunLog) : RunLog :=
  { log with logger? := none }

/-- Adds a record, if a logger is active, and takes no notice of failures. -/
def record (log : RunLog) (entry : LogRecord) : RunLog :=
  match log.logger? with
  | none => log
  | some logger => { log with disk := ((logger.append entry).run log.disk).2 }

end RunLog

/-- The line that stands in for a log record on a terminal; it ends in a blank. -/
def fallbackLine (scope state message : String) : String :=
  "scope=" ++ scope ++ " state=" ++ state ++ " message=" ++
    String.ofList (message.toList.flatMap fun c => if c = '\n' then ['\\', 'n'] else [c]) ++ " "

end TransportSeams

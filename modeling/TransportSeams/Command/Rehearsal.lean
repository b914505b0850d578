import TransportSeams.Command.Run
import TransportSeams.Files.Memory
import TransportSeams.Terminal

/-!
Hosts without a machine behind them. In a rehearsal the files and the terminal are in memory, and
only the run log is on the disk; a direct run takes the files from the disk too and writes its lines
as text.
-/

set_option autoImplicit false
set_option relaxedAutoImplicit false

namespace TransportSeams

structure Rehearsal where
  files : MemoryFiles
  terminal : Terminal
  /-- The text that was printed past the terminal. -/
  printed : String
  log : RunLog

abbrev Rehearsing : Type → Type :=
  ExceptT SeamError (StateM Rehearsal)

namespace Rehearsal

def start (files : MemoryFiles) (disk : Disk) : Rehearsal :=
  ⟨files, .empty, "", ⟨disk, none⟩⟩

def print (rehearsal : Rehearsal) (text : String) : Rehearsal :=
  { rehearsal with printed := rehearsal.printed ++ text }

/-- The host whose files and terminal are in memory. -/
def host : Host Rehearsing where
  readText path := do
    match (← get).files.read path with
    | .ok text => return text
    | .error error => throw error
  makeDirectories path :=
    modify fun rehearsal => { rehearsal with files := rehearsal.files.makeDirectory path }
  writeLine line :=
    modify fun rehearsal => { rehearsal with terminal := rehearsal.terminal.writeLine line }
  writeErrorLine line :=
    modify fun rehearsal => { rehearsal with terminal := rehearsal.terminal.writeErrorLine line }
  print text := modify (·.print text)
  activateLog logger :=
    modify fun rehearsal => { rehearsal with log := rehearsal.log.activate logger }
  record entry := modify fun rehearsal => { rehearsal with log := rehearsal.log.record entry }

/-- The host that takes files from the disk and writes lines as text. -/
def directHost : Host Rehearsing where
  readText path := do
    match (← get).log.disk.read path with
    | .ok text => return text
    | .error fault => throw (.io (.unreadable path fault))
  makeDirectories path := do
    let rehearsal ← get
    let (result, disk) := (Disk.makeDirectories path).run rehearsal.log.disk
    set { rehearsal with log := { rehearsal.log with disk := disk } }
    match result with
    | .ok _ => return ()
    | .error fault => throw (.io (.failed fault))
  writeLine line := modify (·.print (line ++ "\n"))
  writeErrorLine line :=
    modify fun rehearsal => { rehearsal with terminal := rehearsal.terminal.writeErrorLine line }
  print text := modify (·.print text)
  activateLog logger :=
    modify fun rehearsal => { rehearsal with log := rehearsal.log.activate logger }
  record entry := modify fun rehearsal => { rehearsal with log := rehearsal.log.record entry }

end Rehearsal

end TransportSeams

import TransportSeams.Command.Run

/-!
The program: the command on the machine that it is started on.
-/

set_option autoImplicit false
set_option relaxedAutoImplicit false

namespace TransportSeams

/-- What happens on the machine, with the active logger as the only state. -/
abbrev Process : Type → Type :=
  ExceptT SeamError (StateT (Option Logger) IO)

namespace Process

/-- Makes a failure of the machine an error. -/
def attempt {α : Type} (fault : FileFault → IoFault) (action : IO α) : Process α := do
  match ← (action.toBaseIO : BaseIO _) with
  | .ok value => return value
  | .error error => throw (.io (fault (.other (toString error))))

/-- The regular files of a directory. -/
def logFiles (directory : Path) : IO (List LogFile) := do
  let place ← IO.FS.realPath directory.text
  let mut files := #[]
  for entry in ← place.readDir do
    let status ← entry.path.metadata
    if status.type == .file then
      let modified := status.modified.sec.toNat * 1000000000 + status.modified.nsec.toNat
      files := files.push ⟨entry.fileName, status.byteSize.toNat, modified⟩
  return files.toList

def append (logger : Logger) (entry : LogRecord) : IO Unit := do
  let directory? := logger.path.parent?
  if let some directory := directory? then
    IO.FS.createDirAll directory.text
  IO.FS.withFile logger.path.text .append fun handle => handle.putStr (logger.line entry)
  if let some directory := directory? then
    for file in logger.toPrune (← logFiles directory) do
      IO.FS.removeFile (directory.join ⟨file.name⟩).text

def host : Host Process where
  readText path := attempt (.unreadable path) (IO.FS.readFile path.text)
  makeDirectories path := attempt .failed (IO.FS.createDirAll path.text)
  writeLine line := attempt .failed (IO.println line)
  writeErrorLine line := attempt .failed (IO.eprintln line)
  print text := attempt .failed (IO.print text)
  activateLog logger := set (some logger)
  record entry := do
    if let some logger ← get then
      let _ ← ((append logger entry).toBaseIO : BaseIO _)

end Process

end TransportSeams

open TransportSeams in
def main (arguments : List String) : IO UInt32 := do
  let directory ← IO.currentDir
  let program ← IO.appPath
  let command := Command.run Process.host ⟨directory.toString⟩ ⟨program.toString⟩ arguments
  match ← command.run.run' none with
  | .ok code => return code
  | .error error =>
    IO.eprintln error.message
    return 1

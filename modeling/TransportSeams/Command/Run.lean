import TransportSeams.Command.Arguments
import TransportSeams.Listing
import TransportSeams.RunLog.Logger
import TransportSeams.SelfCheck

/-!
The command: it loads the configuration, opens the run log, and lists the seams or runs the
self-check or both. A host is where it runs; how command lines and configuration files are read is
left to readers. Until the configuration has been loaded nothing is written anywhere.
-/

set_option autoImplicit false
set_option relaxedAutoImplicit false

namespace TransportSeams

structure Host (m : Type → Type) where
  readText : Path → m String
  makeDirectories : Path → m Unit
  writeLine : String → m Unit
  writeErrorLine : String → m Unit
  /-- Prints a text as it is. -/
  print : String → m Unit
  activateLog : Logger → m Unit
  record : LogRecord → m Unit

/-- The readers of a command line, whose words are `ω`s, and of the text of a configuration file;
they give a text for an error. -/
structure Readers (ω : Type) where
  commandLine : List ω → Except String Invocation
  configFile : String → Except String ConfigFile

/-- The readers of the program. -/
def Readers.standard : Readers String :=
  ⟨Arguments.parse, ConfigFile.parse⟩

namespace Command

variable {m : Type → Type} [Monad m] [MonadExceptOf SeamError m]

/-- Makes the directory of the run log and sends the records to it, if the configuration has one. -/
def openLog (host : Host m) (config : Config) : m Unit := do
  if let some logger := config.logger? then
    if let some directory := logger.path.parent? then
      host.makeDirectories directory
    host.activateLog logger

/-- Runs the self-check and answers whether it passed. -/
def selfCheck (host : Host m) (config : Config) : m Bool := do
  let (outcome, world) := (SelfCheck.run config).outcome.run World.initial
  world.events.forM fun event => host.record event.record
  match outcome with
  | .ok summary =>
    host.writeLine summary.text
    return true
  | .error error =>
    host.writeErrorLine (fallbackLine "self_check" "failed" error.message)
    return false

/-- Does what the arguments ask for; the exit code is 1 when the self-check fails. -/
def work (parse : String → Except String ConfigFile) (host : Host m) (directory : Path)
    (arguments : Arguments) : m UInt32 := do
  unless arguments.hasWork do
    throw (.cli .nothingToDo)
  let config ← Config.load host.readText arguments.overrides directory parse
  openLog host config
  host.record
    (Event.runStarted arguments.listSeams arguments.selfCheck config.disabled).record
  if arguments.listSeams then
    config.seamListing.forM host.writeLine
  if arguments.selfCheck then
    return if ← selfCheck host config then 0 else 1
  return 0

/-- Does in a working directory what the words of a command line ask for. -/
def runWith {ω : Type} (readers : Readers ω) (host : Host m) (directory : Path) (words : List ω) :
    m UInt32 := do
  match readers.commandLine words with
  | .error detail => throw (.cli (.usage detail))
  | .ok (.shown text) =>
    host.print text
    return 0
  | .ok (.work arguments) => work readers.configFile host directory arguments

/-- Runs the program that was started under the path `program` in a working directory. -/
def run (host : Host m) (directory program : Path) (texts : List String) : m UInt32 :=
  runWith .standard host directory (program.text :: texts)

end Command

end TransportSeams

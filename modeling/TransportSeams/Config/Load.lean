import TransportSeams.Config.File
import TransportSeams.Error

/-!
Loading a configuration. Each setting is the one of the command line where it has one, else the
file's, else the standard one. Relative paths are seen from the working directory. Both limits must
be positive and every disabled name must be a backend's. The text of a file is read by a
parser that may be any.
-/

set_option autoImplicit false
set_option relaxedAutoImplicit false

namespace TransportSeams

/-- What the command line says about the configuration. -/
structure Overrides where
  configPath? : Option Path
  logPath? : Option Path
deriving DecidableEq, Repr

namespace Config

/-- The configuration with the settings of a file in place of its own. -/
def merge (config : Config) (file : ConfigFile) : Config where
  disabled := file.disabled?.getD config.disabled
  acquireLimit := file.acquireLimit?.getD config.acquireLimit
  logging :=
    ⟨file.logPath?.or config.logging.path?,
      file.maxPayloadBytes?.getD config.logging.maxPayloadBytes,
      file.budgetBytes?.getD config.logging.budgetBytes⟩

def withLogPath (config : Config) (path? : Option Path) : Config :=
  { config with logging := { config.logging with path? := path? } }

/-- The configuration with the command line's log path, if there is one, seen from a directory. -/
def override (config : Config) (overrides : Overrides) (directory : Path) : Config :=
  config.withLogPath ((overrides.logPath?.or config.logging.path?).map directory.absolutize)

/-- The first thing that is wrong with a configuration. -/
def fault? (config : Config) : Option ConfigFault :=
  if config.acquireLimit = 0 then some .zeroAcquireLimit
  else if config.logging.maxPayloadBytes = 0 then some .zeroPayloadLimit
  else
    (config.disabled.find? fun name => (Backend.ofName? name).isNone).map
      ConfigFault.unknownBackend

variable {m : Type → Type} [Monad m] [MonadExceptOf SeamError m]

/-- What the configuration file sets, which is nothing when none is named. -/
def loadFile (readText : Path → m String) (overrides : Overrides) (directory : Path)
    (parse : String → Except String ConfigFile) : m ConfigFile := do
  match overrides.configPath? with
  | none => return .empty
  | some path =>
    let text ← readText (directory.absolutize path)
    match parse text with
    | .ok file => return file
    | .error detail => throw (.configParse detail)

/-- Loads the configuration, reading the file that is named, if there is one. -/
def load (readText : Path → m String) (overrides : Overrides) (directory : Path)
    (parse : String → Except String ConfigFile := ConfigFile.parse) : m Config := do
  let file ← loadFile readText overrides directory parse
  let config := (standard.merge file).override overrides directory
  match config.fault? with
  | some fault => throw (.invalidConfig fault)
  | none => return config

end Config

end TransportSeams

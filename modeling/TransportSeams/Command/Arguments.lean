import TransportSeams.Config.Load
import TransportSeams.Text.Plain
import TransportSeams.Text.Quoted

/-!
Command-line arguments. They are read from left to right, and the first that asks for help or is
wrong decides. An option has its value after an equals sign or as the next argument, which then must
not look like an option; nothing may be given twice, and there are no arguments but options.
-/

set_option autoImplicit false
set_option relaxedAutoImplicit false

namespace TransportSeams

structure Arguments where
  configPath? : Option Path
  logPath? : Option Path
  listSeams : Bool
  selfCheck : Bool
deriving DecidableEq, Repr

/-- What a command line asks for: a text to be shown, or work. -/
inductive Invocation where
  | shown (text : String)
  | work (arguments : Arguments)
deriving DecidableEq, Repr

/-- How an argument reads. -/
inductive Word where
  | endOfOptions
  | long (name : String) (attached? : Option String)
  | short (letter : Char)
  | plain
deriving DecidableEq, Repr

def Word.ofText (text : String) : Word :=
  match text.toList with
  | ['-', '-'] => .endOfOptions
  | '-' :: '-' :: rest =>
    let name := String.ofList (rest.takeWhile (· ≠ '='))
    match rest.dropWhile (· ≠ '=') with
    | [] => .long name none
    | _ :: value => .long name (some (String.ofList value))
  | '-' :: letter :: _ => .short letter
  | _ => .plain

namespace Arguments

def none : Arguments :=
  ⟨.none, .none, false, false⟩

/-- Whether there is anything to do. -/
def hasWork (arguments : Arguments) : Bool :=
  arguments.listSeams || arguments.selfCheck

def overrides (arguments : Arguments) : Overrides :=
  ⟨arguments.configPath?, arguments.logPath?⟩

inductive Setting where
  | config
  | logPath
deriving DecidableEq, Repr

inductive Switch where
  | listSeams
  | selfCheck
deriving DecidableEq, Repr

def refuse {α : Type} (reason text : String) : Except String α :=
  .error (reason ++ " " ++ Text.quoted text)

def given (arguments : Arguments) : Setting → Bool
  | .config => arguments.configPath?.isSome
  | .logPath => arguments.logPath?.isSome

def set (arguments : Arguments) (setting : Setting) (value : String) :
    Except String Arguments :=
  if value = "" then refuse "empty value" value
  else if arguments.given setting then refuse "repeated option with value" value
  else
    match setting with
    | .config => .ok { arguments with configPath? := some ⟨value⟩ }
    | .logPath => .ok { arguments with logPath? := some ⟨value⟩ }

def switchOn (arguments : Arguments) : Switch → Except String Arguments
  | .listSeams =>
    if arguments.listSeams then refuse "repeated option" "--list-seams"
    else .ok { arguments with listSeams := true }
  | .selfCheck =>
    if arguments.selfCheck then refuse "repeated option" "--self-check"
    else .ok { arguments with selfCheck := true }

def setting? : String → Option Setting
  | "config" => some .config
  | "log-path" => some .logPath
  | _ => .none

def switch? : String → Option Switch
  | "list-seams" => some .listSeams
  | "self-check" => some .selfCheck
  | _ => .none

/-- Reads the arguments on top of those that have been read. -/
def read (help : String) : List String → Arguments → Except String Invocation
  | [], arguments => .ok (.work arguments)
  | text :: rest, arguments =>
    match Word.ofText text with
    | .plain => refuse "unexpected argument" text
    | .short letter => if letter = 'h' then .ok (.shown help) else refuse "unexpected argument" text
    | .endOfOptions =>
      match rest with
      | [] => .ok (.work arguments)
      | next :: _ => refuse "unexpected argument" next
    | .long name attached? =>
      match setting? name, switch? name, attached? with
      | some setting, _, some value => do read help rest (← arguments.set setting value)
      | some setting, _, .none =>
        match rest with
        | [] => refuse "missing value of" text
        | value :: others =>
          if Word.ofText value = .plain then do read help others (← arguments.set setting value)
          else refuse "missing value of" text
      | .none, some switch, .none => do read help rest (← arguments.switchOn switch)
      | .none, .none, .none =>
        if name = "help" then .ok (.shown help) else refuse "unexpected argument" text
      | .none, _, some _ => refuse "unexpected argument" text

end Arguments

/-- The text that `--help` prints, under the name of the program without terminal controls. -/
def helpText (program : String) : String :=
  "Inspect and self-check the transport interception seams\n\n" ++
    "Usage: " ++ Text.plain program ++ " [OPTIONS]\n\n" ++
    "Options:\n" ++
    "      --config <CONFIG>      \n" ++
    "      --log-path <LOG_PATH>  \n" ++
    "      --list-seams           \n" ++
    "      --self-check           \n" ++
    "  -h, --help                 Print help\n"

/-- The name of a program that was started under a path. -/
def programName (path : Path) : String :=
  path.fileName?.getD "seamswap"

/-- Reads a command line; its first word is the path of the program. -/
def Arguments.parse : List String → Except String Invocation
  | [] => .ok (.work none)
  | program :: texts => read (helpText (programName ⟨program⟩)) texts none

end TransportSeams

import TransportSeams.Config.Basic
import TransportSeams.Toml.Document

/-!
Configuration files. A file sets any of the settings, in the sections `backends`, `pool` and
`logging`; keys that are not known are ignored. A section may also be written as an array that holds
its settings in a fixed order; none of them may be left out, and surplus items are ignored.
-/

set_option autoImplicit false
set_option relaxedAutoImplicit false

namespace TransportSeams

/-- The settings that a configuration file gives. -/
structure ConfigFile where
  disabled? : Option (List String)
  acquireLimit? : Option Nat
  logPath? : Option Path
  maxPayloadBytes? : Option Nat
  budgetBytes? : Option Nat
deriving DecidableEq, Repr

namespace ConfigFile

def empty : ConfigFile :=
  ⟨none, none, none, none, none⟩

def count? : Toml.Value → Option Nat
  | .integer value => if 0 ≤ value then some value.toNat else none
  | _ => none

def text? : Toml.Value → Option String
  | .string text => some text
  | _ => none

def texts? : Toml.Value → Option (List String)
  | .array items => items.mapM text?
  | _ => none

/-- The values of a section's settings, each of which may be missing where the section has names. -/
def settings? (names : List String) : Toml.Value → Option (List (Option Toml.Value))
  | .table _ entries | .inline entries => some (names.map (Toml.Entries.value? entries))
  | .array items =>
    if names.length ≤ items.length then some ((items.take names.length).map some) else none
  | .tables earlier last =>
    let items := (earlier ++ [last]).map (Toml.Value.table .explicit)
    if names.length ≤ items.length then some ((items.take names.length).map some) else none
  | .moment _ => some (names.map fun _ => none)
  | _ => none

/-- The settings of a section of a document; none of them is there when the section is missing. -/
def section? (entries : Toml.Entries) (name : String) (names : List String) :
    Option (List (Option Toml.Value)) :=
  match entries.value? name with
  | none => some (names.map fun _ => none)
  | some value => settings? names value

/-- Reads a setting that may be missing. -/
def setting? {α : Type} (read : Toml.Value → Option α) : Option Toml.Value → Option (Option α)
  | none => some none
  | some value => (read value).map some

def ofEntries? (entries : Toml.Entries) : Option ConfigFile := do
  let backends ← section? entries "backends" ["disabled"]
  let disabled? ← setting? texts? (backends.getD 0 none)
  let pool ← section? entries "pool" ["acquire_limit"]
  let acquireLimit? ← setting? count? (pool.getD 0 none)
  let logging ← section? entries "logging" ["path", "max_payload_bytes", "budget_bytes"]
  let path? ← setting? text? (logging.getD 0 none)
  let maxPayloadBytes? ← setting? count? (logging.getD 1 none)
  let budgetBytes? ← setting? count? (logging.getD 2 none)
  return ⟨disabled?, acquireLimit?, path?.map Path.mk, maxPayloadBytes?, budgetBytes?⟩

def parse? (text : String) : Option ConfigFile :=
  (Toml.Entries.ofText? text).bind ofEntries?

/-- The settings of a text, or the text of an error. -/
def parse (text : String) : Except String ConfigFile :=
  (parse? text).elim (.error "the configuration file is malformed") .ok

end ConfigFile

end TransportSeams

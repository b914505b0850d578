import TransportSeams.Backend
import TransportSeams.Files.Path

/-!
The configuration: which backends are disabled, how many stale connections one acquisition may
skip, and where and how much to log. Names of unknown backends disable nothing here; loading a
configuration refuses them.
-/

set_option autoImplicit false
set_option relaxedAutoImplicit false

namespace TransportSeams

structure LogSettings where
  path? : Option Path
  maxPayloadBytes : Nat
  budgetBytes : Nat
deriving DecidableEq, Repr

structure Config where
  disabled : List String
  acquireLimit : Nat
  logging : LogSettings
deriving DecidableEq, Repr

namespace Config

def defaultAcquireLimit : Nat :=
  1024

def defaultMaxPayloadBytes : Nat :=
  4096

def defaultBudgetBytes : Nat :=
  50 * 1024 * 1024

def standard : Config :=
  ⟨[], defaultAcquireLimit, ⟨none, defaultMaxPayloadBytes, defaultBudgetBytes⟩⟩

def disabledBackends (config : Config) : List Backend :=
  config.disabled.filterMap Backend.ofName?

def enabledBackends (config : Config) : List Backend :=
  Backend.all.filter fun backend => !config.disabledBackends.contains backend

end Config

end TransportSeams

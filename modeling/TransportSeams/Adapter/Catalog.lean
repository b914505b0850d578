import TransportSeams.Adapter.Direct
import TransportSeams.Adapter.Handlers
import TransportSeams.Adapter.Pooling

/-!
Catalogs of adapters, one for each backend at most, in build order.
-/

set_option autoImplicit false
set_option relaxedAutoImplicit false

namespace TransportSeams

def Adapter.standard : Backend → Adapter
  | .stdHttp => .stdHttp
  | .sessions => .sessions
  | .aws => .aws
  | .pooled => .pooled
  | .timeoutHttp => .timeoutHttp
  | .certHttp => .certHttp
  | .asyncFetch => .asyncFetch
  | .clientSession => .clientSession
  | .dualClient => .dualClient

abbrev Catalog : Type :=
  KeyMap Backend Adapter

namespace Catalog

/-- Puts an adapter in the place of the one for its backend. -/
def register (catalog : Catalog) (adapter : Adapter) : Catalog :=
  catalog.insert adapter.backend adapter

def ofBackends (backends : List Backend) : Catalog :=
  backends.foldl (fun catalog backend => register catalog (.standard backend)) KeyMap.empty

def standard : Catalog :=
  ofBackends Backend.all

def without (catalog : Catalog) (disabled : List Backend) : Catalog :=
  KeyMap.filter catalog fun backend _ => !disabled.contains backend

end Catalog

end TransportSeams

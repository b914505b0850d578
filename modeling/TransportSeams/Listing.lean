import TransportSeams.Adapter.Catalog
import TransportSeams.Config.Basic

/-!
The list of seams: a line with the backend, a tab and the seam for every seam that an enabled
adapter declares.
-/

set_option autoImplicit false
set_option relaxedAutoImplicit false

namespace TransportSeams

def Adapter.listing (adapter : Adapter) : List String :=
  adapter.declaredSeams.map fun key => adapter.backend.name ++ "\t" ++ key.text

def Config.seamListing (config : Config) : List String :=
  (Catalog.standard.without config.disabledBackends).values.flatMap Adapter.listing

end TransportSeams

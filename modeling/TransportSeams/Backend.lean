import TransportSeams.KeyMap

/-!
The supported client stacks. `Backend.all` lists them in build order, which is also their order
everywhere else, and each has one name.
-/

set_option autoImplicit false
set_option relaxedAutoImplicit false

namespace TransportSeams

inductive Backend where
  | stdHttp
  | sessions
  | aws
  | pooled
  | timeoutHttp
  | certHttp
  | asyncFetch
  | clientSession
  | dualClient
deriving DecidableEq, Repr

namespace Backend

def all : List Backend :=
  [stdHttp, sessions, aws, pooled, timeoutHttp, certHttp, asyncFetch, clientSession, dualClient]

def name : Backend → String
  | stdHttp => "std_http"
  | sessions => "sessions"
  | aws => "aws"
  | pooled => "pooled"
  | timeoutHttp => "timeout_http"
  | certHttp => "cert_http"
  | asyncFetch => "async_fetch"
  | clientSession => "client_session"
  | dualClient => "dual_client"

def ofName? (name : String) : Option Backend :=
  all.find? fun backend => backend.name = name

/-- The position in build order. -/
def rank : Backend → Nat
  | stdHttp => 0
  | sessions => 1
  | aws => 2
  | pooled => 3
  | timeoutHttp => 4
  | certHttp => 5
  | asyncFetch => 6
  | clientSession => 7
  | dualClient => 8

theorem mem_all (backend : Backend) : backend ∈ all := by
  cases backend <;> simp [all]

theorem rank_injective {a b : Backend} (h : a.rank = b.rank) : a = b := by
  cases a <;> cases b <;> simp_all [rank]

instance : KeyOrder Backend :=
  KeyOrder.pullback rank rank_injective

theorem ofName?_name (backend : Backend) : ofName? backend.name = some backend := by
  cases backend <;> decide

end Backend

end TransportSeams

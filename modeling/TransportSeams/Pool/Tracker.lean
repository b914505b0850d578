import TransportSeams.Pool.Basic

/-!
Trackers remember, pool by pool, the connections of one type that were opened during a session.
Draining a pool takes idle connections while some tracked one has not been met, drops the instances
of the type and leaves all others where they were.
-/

set_option autoImplicit false
set_option relaxedAutoImplicit false

namespace TransportSeams

structure TrackerId where
  index : Nat
deriving DecidableEq, Repr

structure Tracker where
  connectionType : TransportType
  pools : KeyMap PoolId (List ConnectionId)

instance : Inhabited Tracker :=
  ⟨⟨.root ⟨⟨0⟩, "", .unavailable⟩, KeyMap.empty⟩⟩

namespace Tracker

def new (connectionType : TransportType) : Tracker :=
  ⟨connectionType, KeyMap.empty⟩

def tracked (tracker : Tracker) (pool : PoolId) : List ConnectionId :=
  (tracker.pools.find? pool).getD []

def count (tracker : Tracker) (pool : PoolId) : Nat :=
  (tracker.tracked pool).length

/-- Tracks an instance of the tracker's type; other connections are ignored. -/
def add (tracker : Tracker) (pool : PoolId) (connection : Connection) : Tracker :=
  if connection.isInstanceOf tracker.connectionType then
    let ids := tracker.tracked pool
    let grown := if connection.id ∈ ids then ids else connection.id :: ids
    { tracker with pools := tracker.pools.insert pool grown }
  else tracker

/-- Forgets a connection; a pool that was tracked stays tracked. -/
def remove (tracker : Tracker) (pool : PoolId) (connection : Connection) : Tracker :=
  { tracker with pools := tracker.pools.adjust pool (·.erase connection.id) }

def cleared (tracker : Tracker) : Tracker :=
  new tracker.connectionType

end Tracker

/-- What draining one pool leaves and removes. -/
structure Sift where
  idle : List Connection
  discarded : List Connection
  preserved : Nat

/-- Walks down the stack until every tracked connection has been met. -/
def sift (type : TransportType) : List ConnectionId → List Connection → Sift
  | [], idle => ⟨idle, [], 0⟩
  | _ :: _, [] => ⟨[], [], 0⟩
  | id :: ids, connection :: rest =>
    if connection.isInstanceOf type then
      let below := sift type ((id :: ids).erase connection.id) rest
      { below with discarded := connection :: below.discarded }
    else
      let below := sift type (id :: ids) rest
      { below with idle := connection :: below.idle, preserved := below.preserved + 1 }
termination_by structural _ idle => idle

structure DrainReport where
  pools : Nat
  discarded : Nat
  preserved : Nat
deriving DecidableEq, Repr

namespace DrainReport

def zero : DrainReport :=
  ⟨0, 0, 0⟩

/-- Counts one more pool. -/
def add (report : DrainReport) (sifted : Sift) : DrainReport :=
  ⟨report.pools + 1, report.discarded + sifted.discarded.length,
    report.preserved + sifted.preserved⟩

end DrainReport

end TransportSeams

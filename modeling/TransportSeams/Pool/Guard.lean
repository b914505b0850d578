import TransportSeams.World.Basic

/-!
Draining every pool of a tracker. A guard does it when its session ends, so that no pool keeps an
idle connection that the session opened.
-/

set_option autoImplicit false
set_option relaxedAutoImplicit false

namespace TransportSeams

namespace Action

/-- Drains the pools one after the other and adds them to the report. -/
def drainPools (type : TransportType) :
    List (PoolId × List ConnectionId) → DrainReport → Action DrainReport
  | [], report => return report
  | (id, tracked) :: rest, report => do
    let pool ← Action.pool id
    let sifted := sift type tracked pool.idle
    putPool id { pool with idle := sifted.idle }
    drainPools type rest (report.add sifted)

/-- Drains every pool of a tracker and leaves the tracker empty. -/
def drain (id : TrackerId) : Action DrainReport := do
  let tracker ← Action.tracker id
  putTracker id tracker.cleared
  drainPools tracker.connectionType tracker.pools.entries .zero

/-- Drains, and tells the run log when there was a pool to drain. -/
def drainForGuard (id : TrackerId) : Action Unit := do
  let typeName := (← Action.tracker id).connectionType.name
  let report ← drain id
  if report.pools > 0 then
    emit (.poolsDrained typeName report)

end Action

end TransportSeams

import TransportSeams.Proofs.Run.Calls

/-!
Runs. A stage is a world together with what its users hold: builders, what has been built and not
entered, the frames that are open, and the connections that are checked out. An operation is one
call of a user. Scopes and scoped restores are left in the opposite order of entering, so only the
newest frame can be closed; dropping it does the same and loses the report.
-/

set_option autoImplicit false
set_option relaxedAutoImplicit false

namespace TransportSeams

/-- What stays open until it is left: the scope of a builder's session, or a scoped restore. -/
inductive Opened where
  | session (builder : Builder) (scope : Scope)
  | bracket (restore : ForceRestore)

def Opened.entered : Opened → List Resource
  | session _ scope => scope.entered
  | bracket restore => [.forceRestore restore]

structure Frame where
  /-- The registry just before the frame was entered. -/
  before : Registry
  opened : Opened

structure Stage where
  registry : RegistryId
  world : World
  builders : List Builder
  /-- What has been built and not been entered so far. -/
  built : List (Builder × List Resource)
  /-- The open frames, the newest first. -/
  frames : List Frame
  /-- The connections that are checked out, with their pools. -/
  held : List (PoolId × Connection)
  /-- The sessions of the scopes so far, those that were closed included. -/
  started : List SessionId

inductive Operation where
  | register (manifest : Manifest)
  | newBuilder (session : Session) (catalog : Catalog) (acquireLimit : Nat)
  | build (builder : Nat)
  | enter (built : Nat)
  | start (builder : Nat)
  | restore
  | close
  | newPool (pool : Pool)
  | getConnection (pool : PoolId)
  | newConnection (pool : PoolId)
  | putConnection (held : Nat)
  | markDropped (held : Nat)
  | call (seam : SeamKey) (request : Request)

namespace Stage

def initial (registry : RegistryId) (world : World) : Stage :=
  ⟨registry, world, [], [], [], [], []⟩

def seams (stage : Stage) : Registry :=
  stage.world.registries.get stage.registry

def withWorld (stage : Stage) (world : World) : Stage :=
  { stage with world := world }

def push (stage : Stage) (opened : Opened) : Stage :=
  { stage with frames := ⟨stage.seams, opened⟩ :: stage.frames }

def make {α : Type} (stage : Stage) (call : Call α) : Stage :=
  stage.withWorld (call.on stage.world).2

def openScope (stage : Stage) (builder : Builder) (call : Call (Except SeamError Scope)) : Stage :=
  match call.on stage.world with
  | (.ok scope, left) =>
    { (stage.push (.session builder scope)).withWorld left with
      started := builder.session.id :: stage.started }
  | (.error _, left) => stage.withWorld left

def openRestore (stage : Stage) : Stage :=
  match (Call.enterRestore (.new stage.registry)).on stage.world with
  | (.ok restore, left) => (stage.push (.bracket restore)).withWorld left
  | (.error _, left) => stage.withWorld left

def closeNewest (stage : Stage) : Stage :=
  match stage.frames with
  | [] => stage
  | ⟨_, .session _ scope⟩ :: rest =>
    { stage with world := ((Call.close scope).on stage.world).2, frames := rest }
  | ⟨_, .bracket restore⟩ :: rest =>
    { stage with world := ((Call.exitRestore restore).on stage.world).2, frames := rest }

def checkOut (stage : Stage) (pool : PoolId) (call : Call (Except SeamError Connection)) : Stage :=
  match call.on stage.world with
  | (.ok connection, left) =>
    { stage.withWorld left with held := (pool, connection) :: stage.held }
  | (.error _, left) => stage.withWorld left

def putBack (stage : Stage) (index : Nat) : Stage :=
  match stage.held[index]? with
  | none => stage
  | some (pool, connection) =>
    { stage with
      world := ((Call.putConnection pool connection).on stage.world).2
      held := stage.held.eraseIdx index }

/-- Calling a handler reads the registry and computes the answer; it changes nothing. -/
def step (stage : Stage) : Operation → Stage
  | .register manifest => stage.make (.register stage.registry manifest)
  | .newBuilder session catalog acquireLimit =>
    let (builder, left) := (Call.newBuilder stage.registry session).on stage.world
    { stage.withWorld left with
      builders := stage.builders ++
        [{ builder with catalog := catalog, acquireLimit := acquireLimit }] }
  | .build index =>
    match stage.builders[index]? with
    | none => stage
    | some builder =>
      let (resources, left) := (Call.build builder).on stage.world
      { stage.withWorld left with built := stage.built ++ [(builder, resources)] }
  | .enter index =>
    match stage.built[index]? with
    | none => stage
    | some (builder, resources) =>
      { stage with built := stage.built.eraseIdx index }.openScope builder
        (.openScope builder.session.id resources)
  | .start index =>
    match stage.builders[index]? with
    | none => stage
    | some builder => stage.openScope builder (.start builder)
  | .restore => stage.openRestore
  | .close => stage.closeNewest
  | .newPool pool => stage.make (.newPool pool)
  | .getConnection pool => stage.checkOut pool (.getConnection stage.registry pool)
  | .newConnection pool => stage.checkOut pool (.newConnection stage.registry pool)
  | .putConnection index => stage.putBack index
  | .markDropped index =>
    { stage with held := stage.held.modify index fun entry => (entry.1, entry.2.markDropped) }
  | .call _ _ => stage

section Closing

variable {stage : Stage} {before : Registry} {rest : List Frame}

theorem closeNewest_nil (frames : stage.frames = []) : stage.closeNewest = stage := by
  rw [closeNewest, frames]

theorem closeNewest_session {builder : Builder} {scope : Scope}
    (frames : stage.frames = ⟨before, .session builder scope⟩ :: rest) :
    stage.closeNewest =
      { stage with world := (scope.close.on stage.world).2, frames := rest } := by
  rw [closeNewest, frames]
  rfl

theorem closeNewest_bracket {restore : ForceRestore}
    (frames : stage.frames = ⟨before, .bracket restore⟩ :: rest) :
    stage.closeNewest =
      { stage with world := (restore.exit.on stage.world).2, frames := rest } := by
  rw [closeNewest, frames]
  rfl

end Closing

/-- The stages of the runs in which every operation is allowed where it is made. -/
inductive Reachable (allowed : Stage → Operation → Prop) (start : Stage) : Stage → Prop where
  | start : Reachable allowed start start
  | step {stage : Stage} (reached : Reachable allowed start stage) (operation : Operation)
      (fits : allowed stage operation) : Reachable allowed start (stage.step operation)

/-- What holds at the start and is kept by every allowed operation holds throughout the run. -/
theorem Reachable.invariant {allowed : Stage → Operation → Prop} {start stage : Stage}
    {holds : Stage → Prop} (atStart : holds start)
    (kept : ∀ {stage operation}, Reachable allowed start stage → holds stage →
      allowed stage operation → holds (stage.step operation))
    (reached : Reachable allowed start stage) : holds stage := by
  induction reached with
  | start => exact atStart
  | step reached _ fits ih => exact kept reached ih fits

end Stage

end TransportSeams

import TransportSeams.Proofs.Run.Living
import TransportSeams.Proofs.Run.Overlay
import TransportSeams.Proofs.Run.Supplies
import TransportSeams.Proofs.Scope.Telling
import TransportSeams.RunLog.Logger

/-!
The run log of a run as a balanced history. What it says of patches nests like brackets: each record
of leaving belongs to the newest record of entering that has none so far, and gives back what the
registry had at the seam just before that. At every point of the run the records that are left over
are those of the patches in the open frames.
-/

set_option autoImplicit false
set_option relaxedAutoImplicit false

namespace TransportSeams

open World

def Json.member? (name : String) : Json → Option Json
  | object members => members.lookup name
  | _ => none

namespace LogRecord

def isOfPatch (record : LogRecord) : Bool :=
  record.name = "seam.patch.enter" || record.name = "seam.patch.exit"

def Names (record : LogRecord) (patch : Unclosed) : Prop :=
  record.payload.member? "seam" = some (.string patch.seam.text) ∧
    record.payload.member? "session" = some (.string patch.session.text)

def Enters (record : LogRecord) (patch : Unclosed) : Prop :=
  record.name = "seam.patch.enter" ∧ record.Names patch ∧
    record.payload.member? "previous_owner" =
      some (patch.replaced.owner?.elim .null fun session => .string session.text)

def Exits (record : LogRecord) (patch : Unclosed) : Prop :=
  record.name = "seam.patch.exit" ∧ record.Names patch ∧
    record.payload.member? "restored" = some (.string patch.replaced.value.describe)

end LogRecord

/-- The records nest like brackets, with the registry just before each of the enters, and leave
these enters unclosed, the newest first. -/
inductive Bracketed : List Registry → List LogRecord → List Unclosed → Prop where
  | nil : Bracketed [] [] []
  | enter {befores : List Registry} {records : List LogRecord} {unclosed : List Unclosed}
    {before : Registry} {record : LogRecord} {patch : Unclosed} :
    Bracketed befores records unclosed → before.binding? patch.seam = some patch.replaced →
      record.Enters patch →
        Bracketed (befores ++ [before]) (records ++ [record]) (patch :: unclosed)
  | exit {befores : List Registry} {records : List LogRecord} {unclosed : List Unclosed}
    {record : LogRecord} {patch : Unclosed} :
    Bracketed befores records (patch :: unclosed) → record.Exits patch →
      Bracketed befores (records ++ [record]) unclosed

theorem Event.enters_record (seam : SeamKey) (session : SessionId) (replacement : String)
    (replaced : Binding) :
    (Event.patchEntered seam session replacement replaced.owner?).record.Enters
      ⟨seam, session, replaced⟩ := by
  refine ⟨rfl, ⟨rfl, rfl⟩, ?_⟩
  cases replaced.owner? <;> rfl

theorem Unclosed.exits_exited (patch : Unclosed) : patch.exited.record.Exits patch :=
  ⟨rfl, ⟨rfl, rfl⟩, rfl⟩

/-- Leaving closes the newest enters, whatever is below them. -/
theorem Bracketed.leave {befores : List Registry} {records : List LogRecord}
    {closed older : List Unclosed} (bracketed : Bracketed befores records (closed ++ older)) :
    Bracketed befores (records ++ (closed.map Unclosed.exited).map Event.record) older := by
  induction closed generalizing records with
  | nil => rwa [List.map_nil, List.map_nil, List.append_nil]
  | cons patch rest ih =>
    have closes := ih (bracketed.exit patch.exits_exited)
    rwa [List.append_assoc] at closes

/-- The registry just before each of the patches is entered, when the resources are entered one
after the other. -/
def Scope.befores (id : RegistryId) : List Resource → World → List Registry
  | [], _ => []
  | resource :: rest, world =>
    (resource.key?.map fun _ => world.registries.get id).toList ++
      befores id rest (resource.enter.on world).2

section Entering

variable {id : RegistryId} {session : SessionId} {befores : List Registry}
  {records : List LogRecord} {older : List Unclosed}

theorem Resource.enter_bracketed {resource : Resource} {world : World}
    (fresh : resource.IsFresh id session (world.registries.get id))
    (bracketed : Bracketed befores records older) :
    ∃ opened left events, resource.enter.on world = (.ok opened, left) ∧
      world.Tells events left ∧
      Bracketed (befores ++ (resource.key?.map fun _ => world.registries.get id).toList)
        (records ++ events.map Event.record) (opened.unclosed?.toList ++ older) := by
  cases resource with
  | patch handle =>
    obtain ⟨rfl, -, idle, known⟩ := fresh
    obtain ⟨slot, held⟩ := (Registry.contains_iff_slot? _ _).1 known
    have run := PatchHandle.on_enter idle held
    refine ⟨.patch { handle with saved? := some slot.current }, (handle.enter.on world).2,
      [.patchEntered handle.key handle.owner handle.replacement.describe slot.current.owner?],
      ?_, ?_, ?_⟩
    · simp only [enter, Attempt.on_bind, run]
      rfl
    · rw [run]
      exact KeepsSilent.tells (.of_trace rfl) (tells_telling _ rfl)
    · refine bracketed.enter ?_ (Event.enters_record _ _ _ _)
      exact Option.map_eq_some_iff.2 ⟨slot, held, rfl⟩
  | poolGuard guard =>
    refine ⟨.poolGuard guard, world, [], rfl, refl_of KeepsSilent world, ?_⟩
    simpa [key?, unclosed?] using bracketed
  | forceRestore restore =>
    obtain ⟨-, idle⟩ := fresh
    obtain ⟨saved, left, run, -⟩ := ForceRestore.on_enter idle world
    have silent := restore.enter_keepsSilent world
    rw [run] at silent
    refine ⟨.forceRestore { restore with saved? := some saved }, left, [], ?_, silent, ?_⟩
    · simp only [enter, Attempt.on_bind, run]
      rfl
    · simpa [key?, unclosed?] using bracketed

theorem Scope.enterAll_bracketed {resources entered : List Resource} {world : World}
    (fresh : ∀ resource ∈ resources, resource.IsFresh id session (world.registries.get id))
    (bracketed : Bracketed befores records (unclosedOf entered ++ older)) :
    ∃ all left events, (enterAll session resources entered).on world =
        (.ok ⟨session, all, false⟩, left) ∧
      world.Tells events left ∧
      Bracketed (befores ++ Scope.befores id resources world) (records ++ events.map Event.record)
        (unclosedOf all ++ older) := by
  induction resources generalizing entered world befores records with
  | nil =>
    refine ⟨entered, world, [], rfl, refl_of KeepsSilent world, ?_⟩
    rwa [Scope.befores, List.map_nil, List.append_nil, List.append_nil]
  | cons resource rest ih =>
    obtain ⟨first, others⟩ := List.forall_mem_cons.1 fresh
    have keeps := (resource.enter_keepsOrigins world).keepsSeams id
    obtain ⟨opened, middle, told, run, tells, begun⟩ := Resource.enter_bracketed first bracketed
    rw [run] at keeps
    rw [← List.append_assoc, ← unclosedOf_cons] at begun
    obtain ⟨all, left, told', run', tells', ended⟩ :=
      ih (fun other member => (others other member).kept keeps) begun
    refine ⟨all, left, told ++ told', ?_, tells.trans tells', ?_⟩
    · simp only [enterAll, Attempt.on_bind, Attempt.on_observe, run, run']
    · rw [Scope.befores, run, List.map_append, ← List.append_assoc, ← List.append_assoc]
      exact ended

end Entering

def Frame.unclosed (frame : Frame) : List Unclosed :=
  unclosedOf frame.opened.entered

def Operation.BuildsSilently : Operation → Prop
  | newBuilder session catalog _ =>
    session.stubs.Moves KeepsSilent ∧ ∀ adapter ∈ catalog.values, adapter.Moves KeepsSilent
  | _ => True

namespace Stage

def befores (stage : Stage) : Operation → List Registry
  | .enter index =>
    match stage.built[index]? with
    | none => []
    | some (_, resources) => Scope.befores stage.registry resources stage.world
  | .start index =>
    match stage.builders[index]? with
    | none => []
    | some builder =>
      let (resources, left) := builder.build.on stage.world
      Scope.befores stage.registry resources left
  | _ => []

/-- Runs of nested frames, with the registry just before each patch was entered. -/
inductive Chronicle (id : RegistryId) (world : World) : List Registry → Stage → Prop where
  | start : Chronicle id world [] (.initial id world)
  | step {befores : List Registry} {stage : Stage} (run : Chronicle id world befores stage)
    (operation : Operation) (pure : operation.BuildsPurely) (silent : operation.BuildsSilently) :
    Chronicle id world (befores ++ stage.befores operation) (stage.step operation)

/-- What has been told of patches since the start of a run brackets, up to the patches of the open
frames. -/
def IsTold (start : World) (befores : List Registry) (stage : Stage) : Prop :=
  ∃ events, start.Tells events stage.world ∧
    Bracketed befores (events.map Event.record) (stage.frames.flatMap Frame.unclosed)

variable {id : RegistryId} {start world : World} {stage new : Stage} {befores : List Registry}

namespace IsTold

theorem silent (told : stage.IsTold start befores) (silent : stage.world.KeepsSilent new.world)
    (frames : new.frames = stage.frames) : new.IsTold start (befores ++ []) := by
  obtain ⟨events, tells, bracketed⟩ := told
  have tells' := tells.trans silent
  rw [List.append_nil] at tells' ⊢
  exact ⟨events, tells', frames ▸ bracketed⟩

theorem openScope (told : stage.IsTold start befores) (registry : stage.registry = id)
    {builder : Builder} {resources : List Resource} {call : Call (Except SeamError Scope)}
    (silent : stage.world.KeepsSilent world)
    (run : call.on stage.world = (Scope.enter builder.session.id resources).on world)
    (fresh : ∀ resource ∈ resources,
      resource.IsFresh id builder.session.id (world.registries.get id)) :
    (stage.openScope builder call).IsTold start
      (befores ++ Scope.befores stage.registry resources world) := by
  obtain rfl := registry
  obtain ⟨events, tells, bracketed⟩ := told
  have none : Bracketed befores (events.map Event.record)
      (unclosedOf [] ++ stage.frames.flatMap Frame.unclosed) := bracketed
  obtain ⟨all, left, events', entered, tells', bracketed'⟩ := Scope.enterAll_bracketed fresh none
  unfold Stage.openScope
  rw [run, Scope.enter, entered]
  refine ⟨events ++ events', tells.trans (silent.tells tells'), ?_⟩
  rw [List.map_append]
  exact bracketed'

theorem closeNewest (told : stage.IsTold start befores)
    (isOpen : ∀ frame ∈ stage.frames, frame.opened.IsOpen) :
    stage.closeNewest.IsTold start (befores ++ []) := by
  unfold Stage.closeNewest
  split
  · exact told.silent (refl_of KeepsSilent _) rfl
  -- The patches of the newest scope are the newest unclosed ones, and all of them are left.
  · rename_i before builder scope rest frames
    obtain ⟨events, tells, bracketed⟩ := told
    rw [frames] at isOpen bracketed
    have opened := (isOpen _ List.mem_cons_self).2.1
    have left := Scope.exitAll_tells scope.session scope.entered .empty stage.world
    rw [← Scope.on_close opened] at left
    refine ⟨_, tells.trans left, ?_⟩
    rw [List.append_nil, List.map_append]
    exact Bracketed.leave bracketed
  -- A forced restore has entered no patches, and the frames below it are as they were.
  · rename_i before restore rest frames
    have left : (stage.withWorld (restore.exit.on stage.world).2).IsTold start (befores ++ []) :=
      told.silent (restore.exit_moves Attempt.install_keepsSilent stage.world) rfl
    obtain ⟨events, tells, bracketed⟩ := left
    rw [withWorld, frames] at bracketed
    exact ⟨events, tells, bracketed⟩

theorem openRestore (told : stage.IsTold start befores) :
    stage.openRestore.IsTold start (befores ++ []) := by
  have silent := (ForceRestore.new stage.registry).enter_keepsSilent stage.world
  simp only [Stage.openRestore, Call.on_enterRestore]
  generalize (ForceRestore.new stage.registry).enter.on stage.world = turn at silent ⊢
  obtain ⟨outcome, left⟩ := turn
  have entered : (stage.withWorld left).IsTold start (befores ++ []) := told.silent silent rfl
  cases outcome with
  | ok restore => exact entered
  | error error => exact entered

theorem checkOut (told : stage.IsTold start befores) (pool : PoolId)
    {call : Call (Except SeamError Connection)}
    (silent : ∀ world : World, world.KeepsSilent (call.on world).2) :
    (stage.checkOut pool call).IsTold start (befores ++ []) := by
  refine told.silent ?_ ?_
  · rw [world_checkOut]
    exact silent stage.world
  · unfold Stage.checkOut
    split <;> rfl

theorem step (told : stage.IsTold start befores) (prepared : stage.Prepared id)
    (isOpen : ∀ frame ∈ stage.frames, frame.opened.IsOpen)
    (builders : ∀ builder ∈ stage.builders, builder.KeepsSilent) (operation : Operation) :
    (stage.step operation).IsTold start (befores ++ stage.befores operation) := by
  cases operation with
  | register manifest =>
    exact told.silent (Attempt.registerBackend_keepsSilent stage.registry manifest stage.world) rfl
  | newBuilder session catalog limit => exact told.silent (.of_trace rfl) rfl
  | build index =>
    simp only [Stage.step]
    split
    · exact told.silent (refl_of KeepsSilent _) rfl
    · rename_i builder found
      have silent := builders builder (List.mem_of_getElem? found)
      exact told.silent (Builder.build_keepsSilent silent stage.world) rfl
  | enter index =>
    simp only [Stage.step, Stage.befores]
    cases found : stage.built[index]? with
    | none => exact told.silent (refl_of KeepsSilent _) rfl
    | some entry =>
      have fresh := prepared.fresh _ (List.mem_of_getElem? found)
      rw [prepared.seams_eq] at fresh
      have taken : IsTold start befores { stage with built := stage.built.eraseIdx index } := told
      exact taken.openScope prepared.registry (refl_of KeepsSilent _) rfl fresh
  | start index =>
    simp only [Stage.step, Stage.befores]
    cases found : stage.builders[index]? with
    | none => exact told.silent (refl_of KeepsSilent _) rfl
    | some builder =>
      have member := List.mem_of_getElem? found
      obtain ⟨keeps, fresh⟩ := prepared.building member
      rw [prepared.seams_eq, ← keeps.get_eq id] at fresh
      exact told.openScope prepared.registry
        (Builder.build_keepsSilent (builders builder member) stage.world) rfl fresh
  | restore => exact told.openRestore
  | close => exact told.closeNewest isOpen
  | newPool pool => exact told.silent (.of_trace rfl) rfl
  | getConnection pool =>
    exact told.checkOut pool (Attempt.getConnection_keepsSilent stage.registry pool)
  | newConnection pool =>
    exact told.checkOut pool (Attempt.newConnection_keepsSilent stage.registry pool)
  | putConnection index =>
    show IsTold start (befores ++ []) (stage.putBack index)
    unfold Stage.putBack
    split
    · exact told.silent (refl_of KeepsSilent _) rfl
    · exact told.silent (.of_trace rfl) rfl
  | markDropped index => exact told.silent (refl_of KeepsSilent _) rfl
  | call seam request => exact told.silent (refl_of KeepsSilent _) rfl

end IsTold

namespace Chronicle

variable {id : RegistryId} {world : World} {stage : Stage} {befores : List Registry}

theorem reached (run : Chronicle id world befores stage) :
    Reachable (fun _ operation => operation.BuildsPurely) (.initial id world) stage := by
  induction run with
  | start => exact .start
  | step _ operation pure _ ih => exact ih.step operation pure

theorem layered (run : Chronicle id world befores stage) :
    Layered id (world.registries.get id) stage :=
  run.reached.invariant (.initial id world) fun _ layered pure => layered.step pure

theorem builders (run : Chronicle id world befores stage) :
    ∀ builder ∈ stage.builders, builder.KeepsSilent := by
  induction run with
  | start => exact fun _ member => nomatch member
  | step _ operation _ silent ih =>
    intro builder member
    rcases mem_builders_step member with member | ⟨session, catalog, limit, rfl, rfl⟩
    · exact ih builder member
    · exact fun adapter listed => silent.2 adapter listed _ silent.1

end Chronicle

end Stage

namespace Logger

def written (logger : Logger) (told : List Event) : List LogRecord :=
  told.map fun event => event.record.truncate logger.maxPayloadBytes

/-- The logger does not cut the payload of the event. -/
def Fits (logger : Logger) (event : Event) : Prop :=
  Text.byteSize event.payload.write ≤ logger.maxPayloadBytes

variable {logger : Logger} {told : List Event}

end Logger

namespace Stage

end Stage

end TransportSeams

import TransportSeams.Proofs.Run.Calls
import TransportSeams.Proofs.SelfCheck.Blindness
import TransportSeams.RunLog.Logger

/-!
The run log does not interfere. A client makes calls one after the other and may go by all answers
so far, while the run log is activated, silenced and disturbed at any point. What is told is lost
unless a logger is active then that records it without a failure. Two worlds with different run logs
give the same answers to a client and end with the same objects.
-/

set_option autoImplicit false
set_option relaxedAutoImplicit false

namespace TransportSeams

variable {α : Type}

namespace Call

/-- The stubs and the adapters that are passed do not look at what was told. -/
def BringsBlind : Call α → Prop
  | stub stubs _ _ => stubs.IsBlind
  | intercept stubs .. => stubs.IsBlind
  | adapt adapter context => adapter.IsBlind ∧ context.session.stubs.IsBlind
  | build builder => builder.IsBlind
  | start builder => builder.IsBlind
  | _ => True

theorem BringsBlind.perform {call : Call α} (blind : call.BringsBlind) : call.perform.IsBlind := by
  cases call with
  | newRegistry => exact Action.newRegistry_isBlind
  | register registry manifest => exact Attempt.registerBackend_isBlind registry manifest
  | registerReference registry backends => exact Reference.register_isBlind registry backends
  | readRegistry registry => exact Action.registry_isBlind registry
  | install registry key binding => exact Attempt.install_isBlind registry key binding
  | reset registry => exact Action.resetToPristine_isBlind registry
  | plainType name => exact Reference.plainType_isBlind name
  | instrumentedType name base? =>
    exact Action.isBlind_bind Action.freshTransport_isBlind fun _ => Action.isBlind_pure _
  | newFunction => exact Action.freshFunction_isBlind
  | newShelf => exact Action.newShelf_isBlind
  | addBase shelf key base =>
    exact Action.isBlind_bind (Action.shelf_isBlind shelf) fun _ => Action.putShelf_isBlind _ _
  | newCache => exact Action.newCache_isBlind
  | readCache cache => exact Action.cache_isBlind cache
  | substitute cache base session => exact Action.substitute_isBlind cache base session
  | resolve cache session value => exact value.resolve_isBlind cache session
  | stub stubs backend name => exact blind.transport backend name
  | intercept stubs backend name session original =>
    exact blind.intercept backend name session original
  | adapt adapter context => exact blind.1 context blind.2
  | newBuilder registry session => exact Builder.new_isBlind registry session
  | build builder => exact blind.build
  | buildPatch registry cache session spec =>
    exact Action.buildPatch?_isBlind registry cache session spec
  | enter resource => exact resource.enter_isBlind
  | exit resource => exact resource.exit_isBlind
  | enterRestore restore => exact restore.enter_isBlind
  | exitRestore restore => exact restore.exit_isBlind
  | openScope session resources => exact Scope.enter_isBlind session resources
  | start builder => exact blind.start
  | unwind scope => exact scope.unwind_isBlind
  | close scope => exact scope.close_isBlind
  | newPool pool => exact Action.newPool_isBlind pool
  | readPool pool => exact Action.pool_isBlind pool
  | openConnection type host =>
    exact Action.isBlind_bind Action.freshConnection_isBlind fun _ => Action.isBlind_pure _
  | getConnection registry pool => exact Attempt.getConnection_isBlind registry pool
  | newConnection registry pool => exact Attempt.newConnection_isBlind registry pool
  | acquire primitive registry pool => exact primitive.run_isBlind registry pool
  | create primitive registry pool => exact primitive.run_isBlind registry pool
  | putConnection pool connection => exact Action.putIdle_isBlind pool connection
  | takeIdle pool => exact Action.takeIdle?_isBlind pool
  | newTracker type => exact Action.newTracker_isBlind type
  | readTracker tracker => exact Action.tracker_isBlind tracker
  | track tracker pool connection => exact Action.track_isBlind tracker pool connection
  | untrack tracker pool connection => exact Action.untrack_isBlind tracker pool connection
  | drain tracker => exact Action.drain_isBlind tracker
  | callHandler registry key request =>
    refine Action.isBlind_bind (Action.registry_isBlind registry) fun seams => ?_
    split <;> exact Action.isBlind_pure _
  | selfCheck config => exact SelfCheck.run_isBlind config

end Call

inductive LogChange where
  | activate (logger : Logger)
  | silence
  | disturb (change : Disk → Disk)

def LogChange.apply (log : RunLog) : LogChange → RunLog
  | activate logger => log.activate logger
  | silence => log.silence
  | disturb change => { log with disk := change log.disk }

/-- What happens to the run log, by the number of events that have been told by then. -/
abbrev LogHistory : Type :=
  Nat → List LogChange

def RunLog.takes (log : RunLog) (record : LogRecord) : Bool :=
  match log.logger? with
  | none => false
  | some logger => ((logger.append record).run log.disk).1.isOk

/-- A world with the run log that is told what happens in it. -/
structure LoggedWorld where
  /-- The world; its trace has the events that were recorded without a failure. -/
  world : World
  log : RunLog
  /-- All events that were told, the newest first. -/
  told : List Event

namespace LoggedWorld

def start (world : World) (log : RunLog) : LoggedWorld :=
  ⟨world, log, []⟩

def tell (history : LogHistory) (logged : LoggedWorld) (event : Event) : LoggedWorld :=
  let log := (history logged.told.length).foldl LogChange.apply logged.log
  { world := if log.takes event.record then logged.world.telling event else logged.world
    log := log.record event.record
    told := event :: logged.told }

end LoggedWorld

def World.toldSince (old new : World) : List Event :=
  (new.trace.take (new.trace.length - old.trace.length)).reverse

theorem World.toldSince_of_grown {old new : World} {told : List Event}
    (grown : new.trace = told ++ old.trace) : old.toldSince new = told.reverse := by
  simp [toldSince, grown]

namespace LoggedWorld

/-- The same run log and the same trace with the objects of another world. -/
def onto (logged : LoggedWorld) (left : World) : LoggedWorld :=
  { logged with world := { left with trace := logged.world.trace } }

def advance (history : LogHistory) (logged : LoggedWorld) (left : World) : LoggedWorld :=
  (logged.world.toldSince left).foldl (tell history) (logged.onto left)

def perform (history : LogHistory) (logged : LoggedWorld) (action : Action α) : α × LoggedWorld :=
  ((action.on logged.world).1, logged.advance history (action.on logged.world).2)

section InPlace

variable {β : Type} {history : LogHistory} {logged : LoggedWorld} {left other : World}

theorem onto_congr (same : left.SameButTrace other) : logged.onto left = logged.onto other := by
  rw [onto, onto, same]

theorem tell_onto (history : LogHistory) (logged : LoggedWorld) (left : World) (event : Event) :
    (logged.onto left).tell history event = (logged.tell history event).onto left := by
  unfold tell
  dsimp only [onto]
  split <;> rfl

theorem foldl_tell_onto (history : LogHistory) (logged : LoggedWorld) (left : World)
    (events : List Event) :
    events.foldl (tell history) (logged.onto left) =
      (events.foldl (tell history) logged).onto left := by
  induction events generalizing logged with
  | nil => rfl
  | cons event rest ih => rw [List.foldl_cons, List.foldl_cons, tell_onto, ih]

theorem advance_eq (history : LogHistory) {told : List Event}
    (grown : left.trace = told ++ logged.world.trace) :
    logged.advance history left = (told.reverse.foldl (tell history) logged).onto left := by
  rw [advance, World.toldSince_of_grown grown, foldl_tell_onto]

theorem perform_bind {action : Action α} {next : α → Action β} (first : action.IsBlind)
    (rest : ∀ a, (next a).IsBlind) :
    logged.perform history (action >>= next) =
      (logged.perform history action).2.perform history
        (next (logged.perform history action).1) := by
  obtain ⟨-, -, told, grown, -⟩ := first _ _ (.refl logged.world)
  have middle : logged.perform history action = ((action.on logged.world).1,
      (told.reverse.foldl (tell history) logged).onto (action.on logged.world).2) :=
    Prod.ext rfl (advance_eq history grown)
  obtain ⟨answers, after, later, grownAlone, grownTold⟩ := rest (action.on logged.world).1
    (action.on logged.world).2 ((logged.perform history action).2.world) (middle ▸ rfl)
  rw [middle] at answers after grownTold ⊢
  have whole : ((action >>= next).on logged.world).2.trace =
      (later ++ told) ++ logged.world.trace := by
    rw [Action.on_bind, grownAlone, grown, List.append_assoc]
  refine Prod.ext answers ((advance_eq history whole).trans ?_)
  refine Eq.trans ?_ (advance_eq history grownTold).symm
  rw [List.reverse_append, List.foldl_append, foldl_tell_onto]
  exact onto_congr after

theorem perform_emit (history : LogHistory) (logged : LoggedWorld) (event : Event) :
    logged.perform history (Action.emit event) = ((), logged.tell history event) := by
  have grown : (logged.world.telling event).trace = [event] ++ logged.world.trace := rfl
  refine Prod.ext rfl ((advance_eq history grown).trans ?_)
  show (logged.tell history event).onto _ = _
  unfold tell
  dsimp only [onto]
  split <;> rfl

/-- An event that is told in the middle of a call goes to the run log right there: what comes after
it is performed in the world that its telling leaves. -/
theorem perform_inPlace {before : Action α} {after : α → Action β} (event : α → Event)
    (blind : before.IsBlind) (rest : ∀ a, (after a).IsBlind) :
    logged.perform history (before >>= fun a => Action.emit (event a) >>= fun _ => after a) =
      ((logged.perform history before).2.tell history
          (event (logged.perform history before).1)).perform history
        (after (logged.perform history before).1) := by
  have told (a : α) : (Action.emit (event a) >>= fun _ => after a).IsBlind :=
    Action.isBlind_bind (Action.emit_isBlind _) fun _ => rest a
  rw [perform_bind blind told, perform_bind (Action.emit_isBlind _) fun _ => rest _, perform_emit]

end InPlace

/-- The worlds have the same objects, and their run logs were told the same. -/
structure Agree (first second : LoggedWorld) : Prop where
  world : first.world.SameButTrace second.world
  told : first.told = second.told

variable {first second : LoggedWorld}

theorem Agree.tell (agree : first.Agree second) (history other : LogHistory) (event : Event) :
    (first.tell history event).Agree (second.tell other event) := by
  have telling (world : World) (records : Bool) :
      world.SameButTrace (if records then world.telling event else world) := by
    cases records <;> rfl
  refine ⟨?_, congrArg (event :: ·) agree.told⟩
  exact (telling _ _).symm.trans (agree.world.trans (telling _ _))

theorem Agree.tellAll (agree : first.Agree second) (history other : LogHistory)
    (events : List Event) :
    (events.foldl (LoggedWorld.tell history) first).Agree
      (events.foldl (LoggedWorld.tell other) second) := by
  induction events generalizing first second with
  | nil => exact agree
  | cons event rest ih => exact ih (agree.tell history other event)

theorem Agree.perform (agree : first.Agree second) (history other : LogHistory)
    {action : Action α} (blind : action.IsBlind) :
    (first.perform history action).1 = (second.perform other action).1 ∧
      (first.perform history action).2.Agree (second.perform other action).2 := by
  obtain ⟨answers, same, told, toldFirst, toldSecond⟩ := blind _ _ agree.world
  refine ⟨answers, ?_⟩
  unfold LoggedWorld.perform advance
  dsimp only
  rw [World.toldSince_of_grown toldFirst, World.toldSince_of_grown toldSecond]
  -- The new events are told in worlds that have the old traces again.
  have back (world : World) (trace : List Event) := world.sameButTrace_withTrace trace
  refine Agree.tellAll ⟨?_, ?_⟩ history other told.reverse
  · exact (back _ _).symm.trans (same.trans (back _ _))
  · exact agree.told

end LoggedWorld

/-- A client of the library: it stops, or makes a call and goes on by the answer. -/
inductive Client : Type 1 where
  | stop
  | call {β : Type} (made : Call β) (blind : made.BringsBlind) (next : β → Client)

structure Answered : Type 1 where
  {β : Type}
  call : Call β
  answer : β

namespace Client

def run (history : LogHistory) : Client → LoggedWorld → List Answered × LoggedWorld
  | stop, logged => ([], logged)
  | call made _ next, logged =>
    let done := logged.perform history made.perform
    let rest := (next done.1).run history done.2
    (⟨made, done.1⟩ :: rest.1, rest.2)

theorem run_agree (client : Client) {first second : LoggedWorld} (agree : first.Agree second)
    (history other : LogHistory) :
    (client.run history first).1 = (client.run other second).1 ∧
      (client.run history first).2.Agree (client.run other second).2 := by
  induction client generalizing first second with
  | stop => exact ⟨rfl, agree⟩
  | call made blind next ih =>
    obtain ⟨answer, after⟩ := agree.perform history other blind.perform
    obtain ⟨answers, final⟩ := ih (first.perform history made.perform).1 after
    rw [run, run, ← answer]
    refine ⟨?_, final⟩
    dsimp only
    rw [answers]

/-- With any two run logs, whatever happens to them, a client gets the same answers, the same is
told, and the same objects are left. -/
theorem run_unaffected (client : Client) (world : World) (firstLog secondLog : RunLog)
    (first second : LogHistory) :
    let one := client.run first (.start world firstLog)
    let other := client.run second (.start world secondLog)
    one.1 = other.1 ∧ one.2.told = other.2.told ∧
      one.2.world.registries = other.2.world.registries ∧ one.2.world.pools = other.2.world.pools ∧
      one.2.world.trackers = other.2.world.trackers ∧ one.2.world.caches = other.2.world.caches ∧
      one.2.world.SameButTrace other.2.world := by
  intro one other
  have start : (LoggedWorld.start world firstLog).Agree (.start world secondLog) :=
    ⟨.refl world, rfl⟩
  obtain ⟨answers, same, told⟩ := client.run_agree start first second
  exact ⟨answers, told, (congrArg World.registries same).symm, (congrArg World.pools same).symm,
    (congrArg World.trackers same).symm, (congrArg World.caches same).symm, same⟩

/-- The traces may differ. -/
example :
    let client := .call .newRegistry trivial fun id =>
      .call (.registerReference id [.aws]) trivial fun _ => .stop
    let left (log : RunLog) := ((run fun _ => []) client (.start .initial log)).2.world.trace.length
    left ⟨.empty, none⟩ = 0 ∧ left ⟨.empty, some ⟨⟨"logs/run.jsonl"⟩, 100, 100⟩⟩ = 1 := by
  decide +kernel

end Client

end TransportSeams

import Mathlib.Logic.Function.Basic
import TransportSeams.Proofs.Registry.Reference
import TransportSeams.Proofs.Run.Stage
import TransportSeams.Proofs.Scope.Building
import TransportSeams.Proofs.Scope.Locality

/-!
Sessions that overlap. Each session enters and leaves its own resources as a stack, and the turns of
different sessions come in any order. Where the sessions patch different seams, the seams of each
one hold what they would hold if only that session had had its turns: the interleaved run agrees at
these seams with the run of the session alone, and turns of other sessions do not reach them.
-/

set_option autoImplicit false
set_option relaxedAutoImplicit false

namespace TransportSeams

open World

/-- One turn of a session: it enters one of its waiting resources, or leaves the newest one. -/
inductive Turn where
  | enter (waiting : Nat)
  | leave

structure Party where
  waiting : List Resource
  entered : List Resource

namespace Party

def idle (resources : List Resource) : Party :=
  ⟨resources, []⟩

def take (party : Party) : Turn → Attempt Party
  | .enter index =>
    match party.waiting[index]? with
    | none => return party
    | some resource => do
      let opened ← resource.enter
      return ⟨party.waiting.eraseIdx index, opened :: party.entered⟩
  | .leave =>
    match party.entered with
    | [] => return party
    | newest :: older => do
      let left ← newest.exit
      return ⟨left :: party.waiting, older⟩

def takeAll (party : Party) : List Turn → Attempt Party
  | [] => return party
  | turn :: rest => do
    let next ← party.take turn
    next.takeAll rest

end Party

/-- Sessions that have been built for one registry and have not entered anything so far. -/
structure Gathering (σ : Type) where
  registry : RegistryId
  world : World
  resources : σ → List Resource

section Turns

variable {σ : Type} [DecidableEq σ]

def turnsOf (s : σ) : List (σ × Turn) → List Turn
  | [] => []
  | (t, turn) :: rest => if t = s then turn :: turnsOf s rest else turnsOf s rest

def takeTurns (parties : σ → Party) : List (σ × Turn) → Attempt (σ → Party)
  | [] => return parties
  | (s, turn) :: rest => do
    let next ← (parties s).take turn
    takeTurns (Function.update parties s next) rest

end Turns

namespace Party

variable {party next : Party} {id : RegistryId} {session : SessionId} {before : Registry}
  {resources : List Resource} {world left : World} {turn : Turn}

/-- The party has its own resources, and over what the registry showed before it has laid those that
are entered. -/
structure Stands (id : RegistryId) (before : Registry) (resources : List Resource)
    (party : Party) (world : World) : Prop where
  waiting : ∀ resource ∈ party.waiting, resource ∈ resources
  entered : ∀ resource ∈ party.entered, resource.unentered ∈ resources
  seams : (world.registries.get id).SameSeams before
  shown : (world.registries.get id).binding? = overlay before before.binding? party.entered
  saved : AllSaved id before before.binding? party.entered

theorem Stands.idle (id : RegistryId) (resources : List Resource) (world : World) :
    (idle resources).Stands id (world.registries.get id) resources world :=
  ⟨fun _ member => member, (fun _ member => nomatch member), fun _ => rfl, rfl, trivial⟩

theorem Stands.take (built : ∀ resource ∈ resources, resource.IsBuilt id session before)
    (stands : party.Stands id before resources world) (turn : Turn) :
    ∃ next left, (party.take turn).on world = (.ok next, left) ∧
      next.Stands id before resources left := by
  obtain ⟨waiting, entered⟩ := party
  obtain ⟨ours, opens, seams, shown, saved⟩ := stands
  cases turn with
  | enter index =>
    cases chosen : waiting[index]? with
    | none =>
      refine ⟨⟨waiting, entered⟩, world, ?_, ours, opens, seams, shown, saved⟩
      simp [Party.take, chosen]
    | some resource =>
      have member := ours resource (List.mem_of_getElem? chosen)
      obtain ⟨opened, left, run, named, -, seams', shown', saved'⟩ :=
        Resource.on_enter world (built resource member).fresh seams
      refine ⟨⟨waiting.eraseIdx index, opened :: entered⟩, left, ?_, ?_, ?_, seams', ?_,
        shown ▸ saved', saved⟩
      · simp only [Party.take, chosen, Attempt.on_bind, run]
        rfl
      · exact fun other listed => ours other (List.mem_of_mem_eraseIdx listed)
      · exact List.forall_mem_cons.2 ⟨named ▸ member, opens⟩
      · funext key
        rw [shown' key, shown, overlay_cons]
  | leave =>
    cases entered with
    | nil =>
      refine ⟨⟨waiting, []⟩, world, ?_, ours, opens, seams, shown, saved⟩
      simp [Party.take]
    | cons newest older =>
      obtain ⟨left, run, same, uncovered⟩ := Resource.on_exit world saved.1
        (fun key known => by rwa [seams.contains_eq])
        (fun key => by rw [shown, overlay_cons])
      obtain ⟨member, opens⟩ := List.forall_mem_cons.1 opens
      refine ⟨⟨newest.unentered :: waiting, older⟩, left, ?_, ?_, opens, ?_, uncovered, saved.2⟩
      · simp only [Party.take, Attempt.on_bind, run]
        rfl
      · exact List.forall_mem_cons.2 ⟨member, ours⟩
      · exact fun key => (same key).trans (seams key)

theorem Stands.take_isLocal (built : ∀ resource ∈ resources, resource.IsBuilt id session before)
    (stands : party.Stands id before resources world) (turn : Turn) :
    (party.take turn).IsLocal id (keysOf resources) := by
  obtain ⟨waiting, entered⟩ := party
  cases turn with
  | enter index =>
    cases chosen : waiting[index]? with
    | none =>
      simp only [Party.take, chosen]
      exact Attempt.isLocal_pure _
    | some resource =>
      have member := stands.waiting resource (List.mem_of_getElem? chosen)
      simp only [Party.take, chosen]
      exact Attempt.isLocal_bind ((built resource member).isWithin member).enter_isLocal
        fun _ => Attempt.isLocal_pure _
  | leave =>
    cases entered with
    | nil => exact Attempt.isLocal_pure _
    | cons newest older =>
      have member := stands.entered newest List.mem_cons_self
      have within := Resource.isWithin_unentered.1 ((built _ member).isWithin member)
      exact Attempt.isLocal_bind within.exit_isLocal fun _ => Attempt.isLocal_pure _

/-- Turns that enter the waiting resources in order open a scope. -/
theorem on_enterAll {waiting entered : List Resource}
    (run : (takeAll ⟨waiting, entered⟩ (List.replicate waiting.length (.enter 0))).on world =
      (.ok next, left)) :
    (Scope.enterAll session waiting entered).on world =
      (.ok ⟨session, next.entered, false⟩, left) := by
  induction waiting generalizing entered world with
  | nil =>
    obtain ⟨rfl, rfl⟩ : ⟨[], entered⟩ = next ∧ world = left := by
      simpa [takeAll] using run
    rfl
  | cons resource rest ih =>
    rw [List.length_cons, List.replicate_succ, takeAll, Attempt.on_bind] at run
    simp only [take, List.getElem?_cons_zero, Attempt.on_bind] at run
    simp only [Scope.enterAll, Attempt.on_bind, Attempt.on_observe]
    generalize resource.enter.on world = turn at run ⊢
    obtain ⟨outcome, middle⟩ := turn
    cases outcome with
    | ok opened => exact ih run
    | error error => simp at run

theorem on_exitAll {waiting entered : List Resource}
    (run : (takeAll ⟨waiting, entered⟩ (List.replicate entered.length .leave)).on world =
      (.ok next, left)) (report : TeardownReport) :
    (Scope.exitAll session entered report).on world =
      (⟨report.exited + entered.length, report.failures⟩, left) := by
  induction entered generalizing waiting world report with
  | nil =>
    obtain rfl : world = left := by
      simpa [takeAll] using (Prod.mk.inj run).2
    rfl
  | cons newest older ih =>
    rw [List.length_cons, List.replicate_succ, takeAll, Attempt.on_bind] at run
    simp only [take, Attempt.on_bind] at run
    simp only [Scope.exitAll, Action.on_bind, Attempt.on_outcome]
    generalize newest.exit.on world = turn at run ⊢
    obtain ⟨outcome, middle⟩ := turn
    cases outcome with
    | ok idle =>
      rw [ih run report.addExit, TeardownReport.addExit, List.length_cons]
      simp only [Nat.add_assoc, Nat.add_comm 1]
    | error error => simp at run

theorem Stands.settled (stands : party.Stands id before resources world)
    (left : party.entered = []) : (world.registries.get id).binding? = before.binding? := by
  rw [stands.shown, left, overlay_nil]

end Party

def buildAll : List Builder → Action (List (List Resource))
  | [] => return []
  | builder :: rest => do
    let resources ← builder.build
    let others ← buildAll rest
    return resources :: others

theorem buildAll_keepsRegistries {builders : List Builder}
    (keeps : ∀ builder ∈ builders, builder.KeepsRegistries) :
    (buildAll builders).Moves KeepsRegistries := by
  induction builders with
  | nil => exact Action.moves_pure []
  | cons builder rest ih =>
    obtain ⟨first, others⟩ := List.forall_mem_cons.1 keeps
    exact Action.moves_bind (Builder.build_keepsRegistries first) fun _ =>
      Action.moves_bind (ih others) fun _ => Action.moves_pure _

theorem buildAll_isBuilt {id : RegistryId} {builders : List Builder}
    (keeps : ∀ builder ∈ builders, builder.registry = id ∧ builder.KeepsRegistries)
    (world : World) : ∀ resources ∈ ((buildAll builders).on world).1, ∃ session,
      ∀ resource ∈ resources, resource.IsBuilt id session (world.registries.get id) := by
  induction builders generalizing world with
  | nil => exact fun resources member => nomatch member
  | cons builder rest ih =>
    obtain ⟨⟨registered, first⟩, others⟩ := List.forall_mem_cons.1 keeps
    refine List.forall_mem_cons.2 ⟨⟨builder.session.id, ?_⟩, ?_⟩
    · exact registered ▸ Builder.build_isBuilt first world
    · have later := ih others (builder.build.on world).2
      rwa [(Builder.build_keepsRegistries first world).get_eq] at later

namespace Gathering

variable {σ : Type} {gathering : Gathering σ}

def built (registry : RegistryId) (builders : List Builder) (world : World) : Gathering Nat where
  registry := registry
  world := ((buildAll builders).on world).2
  resources index := ((buildAll builders).on world).1.getD index []

def seams (gathering : Gathering σ) : Registry :=
  gathering.world.registries.get gathering.registry

def start (gathering : Gathering σ) (s : σ) : Party :=
  .idle (gathering.resources s)

/-- The sessions patch different seams. -/
structure IsApart (gathering : Gathering σ) : Prop where
  built (s : σ) : ∃ session, ∀ resource ∈ gathering.resources s,
    resource.IsBuilt gathering.registry session gathering.seams
  apart {s t : σ} : s ≠ t →
    ∀ key ∈ keysOf (gathering.resources s), key ∉ keysOf (gathering.resources t)

/-- Builders for one registry gather sessions that are apart, where no two of them have built a
patch at one seam. -/
theorem isApart_built {id : RegistryId} {builders : List Builder} {world : World}
    (keeps : ∀ builder ∈ builders, builder.registry = id ∧ builder.KeepsRegistries)
    (apart : ((buildAll builders).on world).1.Pairwise
      fun first later => ∀ key ∈ keysOf first, key ∉ keysOf later) :
    (built id builders world).IsApart where
  built index := by
    have kept := buildAll_keepsRegistries (fun builder member => (keeps builder member).2) world
    have made := buildAll_isBuilt keeps world
    unfold seams
    simp only [built, kept.get_eq, List.getD_eq_getElem?_getD]
    cases found : ((buildAll builders).on world).1[index]? with
    | none => exact ⟨⟨""⟩, List.forall_mem_nil _⟩
    | some resources => exact made resources (List.mem_of_getElem? found)
  apart := by
    intro s t different key first later
    have bound {index : Nat} (listed : key ∈ keysOf ((built id builders world).resources index)) :
        ∃ _ : index < ((buildAll builders).on world).1.length,
          key ∈ keysOf ((buildAll builders).on world).1[index] := by
      simp only [built, List.getD_eq_getElem?_getD] at listed
      cases found : ((buildAll builders).on world).1[index]? with
      | none =>
        rw [found] at listed
        cases listed
      | some resources =>
        obtain ⟨inside, same⟩ := List.getElem?_eq_some_iff.1 found
        rw [found] at listed
        exact ⟨inside, same ▸ listed⟩
    obtain ⟨inside, first⟩ := bound first
    obtain ⟨inside', later⟩ := bound later
    rw [List.pairwise_iff_getElem] at apart
    rcases Nat.lt_or_gt_of_ne different with earlier | earlier
    · exact apart s t inside inside' earlier key first later
    · exact apart t s inside' inside earlier key later first

/-- The parties in the first world are those of the second worlds, one for each session, in which
only this session has had its turns. -/
structure Projects (gathering : Gathering σ) (parties : σ → Party) (world : World)
    (alone : σ → World) : Prop where
  stands (s : σ) : (parties s).Stands gathering.registry gathering.seams (gathering.resources s)
    (alone s)
  agrees (s : σ) : world.AgreesAt gathering.registry (keysOf (gathering.resources s)) (alone s)
  others {key : SeamKey} : (∀ s, key ∉ keysOf (gathering.resources s)) →
    (world.registries.get gathering.registry).slot? key = gathering.seams.slot? key
  backends : (world.registries.get gathering.registry).backends = gathering.seams.backends

namespace Projects

theorem start (gathering : Gathering σ) :
    gathering.Projects gathering.start gathering.world fun _ => gathering.world where
  stands _ := .idle _ _ _
  agrees _ _ _ := rfl
  others _ := rfl
  backends := rfl

variable {parties : σ → Party} {world : World} {alone : σ → World}

theorem take [DecidableEq σ] (projects : gathering.Projects parties world alone)
    (apart : gathering.IsApart) (s : σ) (turn : Turn) : ∃ next left after,
      ((parties s).take turn).on world = (.ok next, left) ∧
        ((parties s).take turn).on (alone s) = (.ok next, after) ∧
        gathering.Projects (Function.update parties s next) left
          (Function.update alone s after) := by
  obtain ⟨session, built⟩ := apart.built s
  obtain ⟨next, after, run, stands⟩ := (projects.stands s).take built turn
  have isLocal := (projects.stands s).take_isLocal built turn
  obtain ⟨outcome, agrees⟩ := isLocal.agrees (projects.agrees s)
  have keeps := isLocal.keeps world
  rw [run] at outcome agrees
  generalize ((parties s).take turn).on world = turned at outcome agrees keeps ⊢
  obtain ⟨result, left⟩ := turned
  obtain rfl : result = .ok next := outcome
  refine ⟨next, left, after, rfl, run, ⟨fun t => ?_, fun t => ?_, fun absent => ?_, ?_⟩⟩
  · by_cases same : t = s
    · subst same
      simpa using stands
    · simpa [same] using projects.stands t
  · by_cases same : t = s
    · subst same
      simpa using agrees
    · simpa [same] using (keeps.agreesAt (apart.apart same)).trans (projects.agrees t)
  · exact (keeps.slots (absent s)).trans (projects.others absent)
  · exact keeps.backends.trans projects.backends

theorem takeTurns [DecidableEq σ] (projects : gathering.Projects parties world alone)
    (apart : gathering.IsApart) (moves : List (σ × Turn)) : ∃ parties' left after,
      (takeTurns parties moves).on world = (.ok parties', left) ∧
        (∀ s, ((parties s).takeAll (turnsOf s moves)).on (alone s) =
          (.ok (parties' s), after s)) ∧
        gathering.Projects parties' left after := by
  induction moves generalizing parties world alone with
  | nil => exact ⟨parties, world, alone, rfl, fun _ => rfl, projects⟩
  | cons move rest ih =>
    obtain ⟨s, turn⟩ := move
    obtain ⟨next, middle, after, run, runAlone, projects'⟩ := projects.take apart s turn
    obtain ⟨parties', left, after', runs, runsAlone, projects''⟩ := ih projects'
    refine ⟨parties', left, after', ?_, fun t => ?_, projects''⟩
    · simp only [TransportSeams.takeTurns, Attempt.on_bind, run, runs]
    · have rests := runsAlone t
      by_cases same : s = t
      · subst same
        rw [Function.update_self, Function.update_self] at rests
        simp only [turnsOf, if_true, Party.takeAll, Attempt.on_bind, runAlone, rests]
      · rw [Function.update_of_ne (Ne.symm same), Function.update_of_ne (Ne.symm same)] at rests
        rw [turnsOf, if_neg same, rests]

theorem settled (projects : gathering.Projects parties world alone) {key : SeamKey}
    (left : ∀ s, key ∈ keysOf (gathering.resources s) → (parties s).entered = []) :
    (world.registries.get gathering.registry).binding? key = gathering.seams.binding? key := by
  by_cases patched : ∃ s, key ∈ keysOf (gathering.resources s)
  · obtain ⟨s, listed⟩ := patched
    rw [(projects.agrees s).binding? listed, (projects.stands s).settled (left s listed)]
  · exact congrArg (Option.map Slot.current)
      (projects.others fun s listed => patched ⟨s, listed⟩)

/-- What the sessions leave alone decides what the registry holds. -/
theorem registry_eq (projects : gathering.Projects parties world alone) {parties' : σ → Party}
    {world' : World} (projects' : gathering.Projects parties' world' alone) :
    world.registries.get gathering.registry = world'.registries.get gathering.registry := by
  have slots (key : SeamKey) : (world.registries.get gathering.registry).slot? key =
      (world'.registries.get gathering.registry).slot? key := by
    by_cases patched : ∃ s, key ∈ keysOf (gathering.resources s)
    · obtain ⟨s, listed⟩ := patched
      rw [projects.agrees s key listed, projects'.agrees s key listed]
    · have absent (s : σ) : key ∉ keysOf (gathering.resources s) :=
        fun listed => patched ⟨s, listed⟩
      rw [projects.others absent, projects'.others absent]
  have backends := projects.backends.trans projects'.backends.symm
  generalize world.registries.get gathering.registry = registry at slots backends ⊢
  generalize world'.registries.get gathering.registry = registry' at slots backends ⊢
  cases registry
  cases registry'
  cases KeyMap.ext_find? slots
  cases backends
  rfl

end Projects

end Gathering

/-- Sessions that patch different seams are independent, in whatever order they have their turns. No
turn fails; a session has entered what it would have entered alone, and its seams show what they
would show then; a seam whose sessions have left everything shows its binding from before, and so do
all seams when all sessions have. What the registry holds in the end depends on the turns of each
session alone, and not on how they were interleaved. -/
theorem Gathering.independent {σ : Type} [DecidableEq σ] {gathering : Gathering σ}
    (apart : gathering.IsApart) :
    (∀ moves, ∃ parties left,
      (takeTurns gathering.start moves).on gathering.world = (.ok parties, left) ∧
        (∀ s, ∃ alone,
          ((gathering.start s).takeAll (turnsOf s moves)).on gathering.world =
              (.ok (parties s), alone) ∧
            ∀ key ∈ keysOf (gathering.resources s),
              (left.registries.get gathering.registry).binding? key =
                (alone.registries.get gathering.registry).binding? key) ∧
        ∀ key, (∀ s, key ∈ keysOf (gathering.resources s) → (parties s).entered = []) →
          (left.registries.get gathering.registry).binding? key =
            gathering.seams.binding? key) ∧
    ∀ moves moves', (∀ s, turnsOf s moves = turnsOf s moves') →
      ((takeTurns gathering.start moves).on gathering.world).2.registries.get gathering.registry =
        ((takeTurns gathering.start moves').on gathering.world).2.registries.get
          gathering.registry := by
  have runs := (Projects.start gathering).takeTurns apart
  constructor
  · intro moves
    obtain ⟨parties, left, alone, run, runAlone, projects⟩ := runs moves
    exact ⟨parties, left, run,
      fun s => ⟨alone s, runAlone s, fun _ listed => (projects.agrees s).binding? listed⟩,
      fun _ => projects.settled⟩
  · intro moves moves' same
    obtain ⟨parties, left, alone, run, runAlone, projects⟩ := runs moves
    obtain ⟨parties', left', alone', run', runAlone', projects'⟩ := runs moves'
    obtain rfl : alone = alone' := by
      funext s
      have both := (runAlone s).symm.trans (same s ▸ runAlone' s)
      exact (Prod.mk.inj both).2
    rw [run, run']
    exact projects.registry_eq projects'

private def stackBuilder (backend : Backend) (cache : CacheId) : Builder :=
  ⟨⟨0⟩, .new ⟨backend.name⟩ (.standard ⟨0⟩), .ofBackends [backend], 4, cache⟩

private def stackGathering : Gathering Nat :=
  .built ⟨0⟩ [stackBuilder .sessions ⟨1⟩, stackBuilder .pooled ⟨2⟩] Reference.pooledWorld

theorem Gathering.independent_stacks :
    stackGathering.IsApart ∧
      (keysOf (stackGathering.resources 0)).length = 10 ∧
      (keysOf (stackGathering.resources 1)).length = 10 ∧
      (∃ parties left,
        (takeTurns stackGathering.start [(0, .enter 0), (1, .enter 3), (0, .leave),
            (1, .leave)]).on stackGathering.world = (.ok parties, left)) ∧
      ((takeTurns stackGathering.start [(0, .enter 0), (1, .enter 3), (0, .leave)]).on
          stackGathering.world).2.registries.get ⟨0⟩ =
        ((takeTurns stackGathering.start [(1, .enter 3), (0, .enter 0), (0, .leave)]).on
          stackGathering.world).2.registries.get ⟨0⟩ := by
  have keeps (backend : Backend) (cache : CacheId) :
      (stackBuilder backend cache).KeepsRegistries := by
    intro adapter member
    obtain rfl := List.mem_singleton.1 member
    exact Adapter.standard_keepsRegistries backend _ (StubCatalog.standard_keepsRegistries ⟨0⟩)
  obtain ⟨disjoint, patches, patches'⟩ : ((buildAll [stackBuilder .sessions ⟨1⟩,
        stackBuilder .pooled ⟨2⟩]).on Reference.pooledWorld).1.Pairwise
          (fun first later => ∀ key ∈ keysOf first, key ∉ keysOf later) ∧
      (keysOf (stackGathering.resources 0)).length = 10 ∧
      (keysOf (stackGathering.resources 1)).length = 10 := by
    decide +kernel
  have apart : stackGathering.IsApart := by
    refine isApart_built ?_ disjoint
    simp only [List.forall_mem_cons, keeps]
    exact ⟨⟨rfl, trivial⟩, ⟨rfl, trivial⟩, fun _ member => nomatch member⟩
  obtain ⟨runs, same⟩ := independent apart
  refine ⟨apart, patches, patches', ?_, same _ _ fun stack => ?_⟩
  · obtain ⟨parties, left, run, -⟩ := runs [(0, .enter 0), (1, .enter 3), (0, .leave),
      (1, .leave)]
    exact ⟨parties, left, run⟩
  · match stack with
    | 0 => rfl
    | 1 => rfl
    | other + 2 => simp [turnsOf]

end TransportSeams

import TransportSeams.Proofs.Registry.Reference
import TransportSeams.Proofs.Scope.Agreement

/-!
Building again and again. A builder may build and start as often as it likes, with anything between
that takes back nothing that is done for good; all of its builds agree on one substitute for each
stub, and that is the one that the cache holds in the end.
-/

set_option autoImplicit false
set_option relaxedAutoImplicit false

namespace TransportSeams

open World

namespace Builder

/-- The builder builds in some worlds, one after the other, on its own or to start a session. -/
inductive Repeats (builder : Builder) : World → List World → World → Prop where
  | done {world : World} : Repeats builder world [] world
  | meanwhile {world later last : World} {builds : List World} :
    world.Retains later → Repeats builder later builds last → Repeats builder world builds last
  | build {world last : World} {builds : List World} :
    Repeats builder (builder.build.on world).2 builds last →
      Repeats builder world (world :: builds) last
  | start {world last : World} {builds : List World} :
    Repeats builder (builder.start.on world).2 builds last →
      Repeats builder world (world :: builds) last

variable {builder : Builder} {start world last : World} {builds : List World}

/-- What a session has in the place of types: the substitutes that the cache holds, and some type
of the session's own where it holds none. -/
def substitutes (builder : Builder) (world : World) (base : TransportId) : TransportType :=
  ((world.caches.get builder.cache).find? ⟨base, builder.session.id⟩).getD
    (.root ⟨base, "", .bound builder.session.id⟩)

theorem substitutes_follows (builder : Builder) (world : World) :
    (world.caches.get builder.cache).Follows builder.session.id (builder.substitutes world) := by
  intro base type held
  rw [substitutes, held, Option.getD_some]

theorem owner?_substitutes (bound : (world.caches.get builder.cache).IsBound) (base : TransportId) :
    (builder.substitutes world base).owner? = some builder.session.id := by
  unfold substitutes
  cases held : (world.caches.get builder.cache).find? ⟨base, builder.session.id⟩ with
  | none => rfl
  | some type => exact bound _ type held

theorem build_retains
    (standard : ∀ adapter ∈ builder.catalog.values, ∃ backend, adapter = .standard backend)
    (moves : builder.session.stubs.Moves Retains) : builder.build.Moves Retains := by
  refine build_moves (fun event _ => Action.emit_retains event)
    (fun type => Action.substitute_retains builder.cache type builder.session.id) ?_
  intro adapter member
  obtain ⟨backend, rfl⟩ := standard adapter member
  exact Adapter.standard_retains backend builder.context moves

theorem built_retains_started (builder : Builder) (world : World) :
    (builder.build.on world).2.Retains (builder.start.on world).2 :=
  Scope.enterAll_retains builder.session.id (builder.build.on world).1 []
    (builder.build.on world).2

namespace Repeats

theorem retains (run : builder.Repeats world builds last)
    (moves : builder.build.Moves Retains) : world.Retains last := by
  induction run with
  | done => exact refl_of Retains _
  | meanwhile kept _ ih => exact trans_of Retains kept ih
  | build _ ih => exact trans_of Retains (moves _) ih
  | start _ ih =>
    exact trans_of Retains (moves _)
      (trans_of Retains (built_retains_started builder _) ih)

/-- A build of the run comes after its beginning, and what is left of it lasts to the end. -/
theorem retains_build (run : builder.Repeats world builds last)
    (moves : builder.build.Moves Retains) : ∀ built ∈ builds,
      world.Retains built ∧ (builder.build.on built).2.Retains last := by
  induction run with
  | done => exact List.forall_mem_nil _
  | meanwhile kept _ ih =>
    intro built member
    obtain ⟨reached, left⟩ := ih built member
    exact ⟨trans_of Retains kept reached, left⟩
  | build rest ih =>
    intro built member
    rcases List.mem_cons.1 member with rfl | member
    · exact ⟨refl_of Retains built, rest.retains moves⟩
    · obtain ⟨reached, left⟩ := ih built member
      exact ⟨trans_of Retains (moves _) reached, left⟩
  | start rest ih =>
    intro built member
    have started := built_retains_started builder
    rcases List.mem_cons.1 member with rfl | member
    · exact ⟨refl_of Retains built, trans_of Retains (started built) (rest.retains moves)⟩
    · obtain ⟨reached, left⟩ := ih built member
      exact ⟨trans_of Retains (moves _) (trans_of Retains (started _) reached), left⟩

end Repeats

/-- However often a session is built or started, there is one substitute for each stub, bound to the
session, on which all of the builds agree. -/
theorem builds_agree
    (standard : ∀ adapter ∈ builder.catalog.values, ∃ backend, adapter = .standard backend)
    (lends : builder.session.stubs.LendsSteadily start)
    (bound : (start.caches.get builder.cache).IsBound)
    (run : builder.Repeats start builds last) :
    ∃ bind : TransportId → TransportType,
      (∀ id, (bind id).owner? = some builder.session.id) ∧
        ∀ world ∈ builds, builder.BuildAgrees bind last world := by
  have moves : builder.build.Moves Retains := build_retains standard lends.moves
  have owned : ∀ id, (builder.substitutes last id).owner? = some builder.session.id :=
    owner?_substitutes ((run.retains moves).bound builder.cache bound)
  -- every build made or found its substitutes in the cache, and the last cache still holds them
  refine ⟨builder.substitutes last, owned, fun world member => ?_⟩
  obtain ⟨reached, left⟩ := run.retains_build moves world member
  exact build_agrees standard lends reached left (substitutes_follows builder last) owned

section Tape

open Reference

private def tape : Builder :=
  ⟨⟨0⟩, .new ⟨"tape"⟩ (.standard ⟨0⟩), .standard, 4, ⟨0⟩⟩

private def tapeOpened : Except SeamError Scope × World :=
  tape.start.on (tape.build.on pooledWorld).2

private def closing : Except SeamError Scope × World → World
  | (.ok scope, left) => (scope.close.on left).2
  | (.error _, left) => left

private def tapeClosed : World :=
  closing tapeOpened

private theorem closing_retains (opened : Except SeamError Scope × World) :
    opened.2.Retains (closing opened) := by
  obtain ⟨outcome, left⟩ := opened
  cases outcome with
  | ok scope => exact scope.close_retains left
  | error error => exact refl_of Retains left

private theorem tape_repeats : tape.Repeats pooledWorld
    [pooledWorld, (tape.build.on pooledWorld).2, tapeClosed] (tape.start.on tapeClosed).2 :=
  .build (.start (.meanwhile (closing_retains tapeOpened) (.start .done)))

private theorem tape_lends (world : World) :
    ∃ stub, tape.lent world .pooled "HttpConnection" = some stub :=
  ⟨_, congrArg Prod.fst (StubCatalog.on_transport_standard ⟨0⟩ .pooled "HttpConnection" world)⟩

private theorem tape_standard :
    ∀ adapter ∈ tape.catalog.values, ∃ backend, adapter = .standard backend := by
  have values : tape.catalog.values = Backend.all.map Adapter.standard := rfl
  rw [values]
  intro adapter member
  obtain ⟨backend, -, same⟩ := List.mem_map.1 member
  exact ⟨backend, same.symm⟩

/-- A session that is built, started, closed and started again has the same type in its connection
module and in its pool class each time, and that is the type that its pool guard tracks. -/
theorem builds_agree_started : ∃ type : TransportType, type.owner? = some ⟨"tape"⟩ ∧
    (∀ world ∈ [pooledWorld, (tape.build.on pooledWorld).2, tapeClosed],
      ∀ key ∈ [httpSite.fallback, httpSite.connectionType], ∃ handle,
        .patch handle ∈ (tape.build.on world).1 ∧ handle.key = key ∧
          handle.replacement = .transport type) ∧
    ∃ guard, .poolGuard guard ∈ (tape.build.on pooledWorld).1 ∧ guard.connectionType = type := by
  have lends : tape.session.stubs.LendsSteadily pooledWorld :=
    StubCatalog.standard_steady (pooledWorld_unbound ⟨0⟩)
  obtain ⟨bind, owned, agree⟩ :=
    builds_agree tape_standard lends (pooledWorld_isBound _) tape_repeats
  obtain ⟨stub, lent⟩ := tape_lends (tape.start.on tapeClosed).2
  have seams : ∀ key ∈ [httpSite.fallback, httpSite.connectionType],
      (⟨key, "HttpConnection"⟩ : Adapter.TypeSeam) ∈ Adapter.typeSeams .pooled := by
    simp only [List.forall_mem_cons]
    refine ⟨?_, httpSite.typeSeam_mem, List.forall_mem_nil _⟩
    exact List.mem_append_left _ (List.mem_cons_of_mem _ List.mem_cons_self)
  refine ⟨bind stub.id, owned stub.id, fun world member key listed => ?_, ?_⟩
  · have built := agree world member
    obtain ⟨reached, -⟩ :=
      tape_repeats.retains_build (build_retains tape_standard lends.moves) world member
    obtain ⟨handle, covered, here⟩ := built.covers .pooled
      ((KeyMap.mem_values_iff _ _).2 ⟨.pooled, rfl⟩)
      (reached.records ⟨0⟩ .pooled (pooledWorld_atRest httpSite).recorded)
      ⟨key, "HttpConnection"⟩ (seams key listed) stub lent
      (reached.seams ⟨0⟩ key (pooledWorld_contains key listed))
    obtain ⟨stub', lent', holds⟩ :=
      built.agrees.types .pooled _ (seams key listed) handle covered here
    obtain rfl := Option.some.inj (lent.symm.trans lent')
    exact ⟨handle, built.parts ▸ List.mem_append_left _ covered, here, holds⟩
  · have built := agree pooledWorld List.mem_cons_self
    obtain ⟨function, stock⟩ := (pooledWorld_atRest httpSite).create
    obtain ⟨guard, guarded, tracks⟩ := built.wraps httpSite
      (StubCatalog.standard_keepsRegistries ⟨0⟩) ((KeyMap.mem_values_iff _ _).2 ⟨.pooled, rfl⟩)
      (pooledWorld_atRest httpSite).recorded stub lent function .stock stock
    obtain ⟨stub', lent', held, -⟩ := tracks.type
    obtain rfl := Option.some.inj (lent.symm.trans lent')
    exact ⟨guard, built.parts ▸ List.mem_append_left _ guarded, held⟩

end Tape

end Builder

end TransportSeams

import TransportSeams.Proofs.Adapter.Handlers
import TransportSeams.Proofs.Run.Pooling

/-!
Who answers at a handler seam. In a run of nested sessions that leave the seam to the adapters, each
session with the stack enabled wraps the handler that it finds there when it starts. So requests
reach the handler of the start through the recorders of the open sessions, the innermost first, and
closing a session takes its recorder away.
-/

set_option autoImplicit false
set_option relaxedAutoImplicit false

namespace TransportSeams

open World Adapter

def recorders (backend : Backend) (frames : List Frame) : List SessionId :=
  (frames.filter (·.enables backend)).filterMap Frame.session?

theorem recorders_cons_disabled {backend : Backend} {frame : Frame}
    (disabled : frame.enables backend = false) (rest : List Frame) :
    recorders backend (frame :: rest) = recorders backend rest := by
  unfold recorders
  rw [List.filter_cons_of_neg (by simp [disabled])]

theorem recorders_cons_enabled {backend : Backend} {frame : Frame} {session : SessionId}
    (enabled : frame.enables backend = true) (opened : frame.session? = some session)
    (rest : List Frame) :
    recorders backend (frame :: rest) = session :: recorders backend rest := by
  unfold recorders
  rw [List.filter_cons_of_pos enabled, List.filterMap_cons_some opened]

/-- The binding holds `inner` as the sessions, the newest first, have wrapped it. The newest of them
owns it, and without any it is that of the start. -/
def Binding.IsWrapped (binding : Binding) (backend : Backend) (sessions : List SessionId)
    (inner : Handler) (owner? : Option SessionId) : Prop :=
  ∃ handler : Handler, binding = ⟨.handler handler, sessions.head?.or owner?⟩ ∧
    handler.IsStamped backend sessions inner

/-- Each frame that enables the stack shows the handler of the start as its own session and those of
the older such frames have wrapped it, and the other frames leave the seam alone. -/
def Wrapped (site : HandlerSite) (inner : Handler) (owner? : Option SessionId) :
    List Frame → Prop
  | [] => True
  | frame :: rest =>
    (if frame.enables site.backend then
      ∃ binding, frame.shown? site.key = some binding ∧
        binding.IsWrapped site.backend (recorders site.backend (frame :: rest)) inner owner?
    else frame.shown? site.key = none) ∧ Wrapped site inner owner? rest

section Sites

variable {site : HandlerSite} {inner : Handler} {owner? : Option SessionId}

/-- What the frames show over the handler of the start has been wrapped by all of their sessions. -/
theorem Wrapped.shown {frames : List Frame} (wrapped : Wrapped site inner owner? frames)
    {below : View} (base : below site.key = some ⟨.handler inner, owner?⟩) :
    ∃ binding, overlays below frames site.key = some binding ∧
      binding.IsWrapped site.backend (recorders site.backend frames) inner owner? := by
  induction frames with
  | nil => exact ⟨_, base, inner, rfl, .refl site.backend inner⟩
  | cons frame rest ih =>
    obtain ⟨newest, older⟩ := wrapped
    split at newest
    · obtain ⟨binding, shows, fits⟩ := newest
      exact ⟨binding, overlays_cons_of_shown shows below rest, fits⟩
    · rename_i disabled
      rw [overlays_cons_of_bare newest, recorders_cons_disabled (Bool.eq_false_iff.2 disabled)]
      exact ih older

theorem Wrapped.cons {frames : List Frame} (wrapped : Wrapped site inner owner? frames)
    {builder : Builder} {world : World} {entered : List Resource} {binding : Binding}
    (before : Registry) (admitted : site.Admits builder.session builder.catalog)
    (keeps : builder.KeepsRegistries)
    (recorded : (world.registries.get builder.registry).hasBackend site.backend = true)
    (held : (world.registries.get builder.registry).binding? site.key = some binding)
    (fits : binding.IsWrapped site.backend (recorders site.backend frames) inner owner?)
    (built : entered.map Resource.unentered = (builder.build.on world).1.reverse) :
    Wrapped site inner owner?
      (⟨before, .session builder ⟨builder.session.id, entered, false⟩⟩ :: frames) := by
  let frame : Frame := ⟨before, .session builder ⟨builder.session.id, entered, false⟩⟩
  have shown : frame.shown? site.key = lastShown? before site.key (builder.build.on world).1 :=
    findSome?_entered built before site.key
  refine ⟨?_, wrapped⟩
  show if frame.enables site.backend then _ else _
  split
  · rename_i enabled
    obtain ⟨adapter, found⟩ := Option.isSome_iff_exists.1 enabled
    obtain ⟨rfl, shelf, stubs⟩ := admitted.own found
    obtain ⟨middle, kept, same⟩ := builder.lastShown?_build_enabled admitted.leaves admitted.others
      keeps found before world
    obtain ⟨handler, rfl, stamped⟩ := fits
    rw [← kept] at recorded held
    obtain ⟨function, wraps⟩ := builder.buildAdapter_wraps before stubs recorded held
    have newest : recorders site.backend (frame :: frames) =
        builder.session.id :: recorders site.backend frames :=
      recorders_cons_enabled enabled rfl frames
    rw [newest]
    exact ⟨_, (shown.trans same).trans wraps, _, rfl, stamped.stamped function _ builder.session.id⟩
  · rename_i disabled
    have absent : builder.catalog.find? site.backend = none :=
      Option.not_isSome_iff_eq_none.1 disabled
    exact shown.trans (builder.lastShown?_build_disabled admitted.leaves admitted.others absent
      before world)

end Sites

/-- Sessions nest, and what they bring to the seam is admitted. What is brought changes no registry
while it builds. -/
structure Operation.WrapsAt (site : HandlerSite) (operation : Operation) : Prop where
  pure : operation.BuildsPurely
  starts : operation.OpensByStarting
  admitted {session : Session} {catalog : Catalog} {limit : Nat} :
    operation = .newBuilder session catalog limit → site.Admits session catalog

structure HandlerSite.IsWrapped (site : HandlerSite) (id : RegistryId) (start : Registry)
    (inner : Handler) (owner? : Option SessionId) (stage : Stage) : Prop where
  layered : Layered id start stage
  recorded : stage.seams.hasBackend site.backend = true
  builders : ∀ builder ∈ stage.builders, site.Admits builder.session builder.catalog
  wrapped : Wrapped site inner owner? stage.frames

namespace HandlerSite.IsWrapped

variable {site : HandlerSite} {id : RegistryId} {start : Registry} {inner : Handler}
  {owner? : Option SessionId} {stage : Stage}

theorem shown (wrapped : site.IsWrapped id start inner owner? stage)
    (held : start.binding? site.key = some ⟨.handler inner, owner?⟩) :
    ∃ binding, stage.seams.binding? site.key = some binding ∧
      binding.IsWrapped site.backend (recorders site.backend stage.frames) inner owner? := by
  rw [wrapped.layered.shown]
  apply wrapped.wrapped.shown
  rw [ground, held]
  rfl

theorem step (wrapped : site.IsWrapped id start inner owner? stage)
    (held : start.binding? site.key = some ⟨.handler inner, owner?⟩) {operation : Operation}
    (wraps : operation.WrapsAt site) :
    site.IsWrapped id start inner owner? (stage.step operation) where
  layered := wrapped.layered.step wraps.pure
  recorded := (wrapped.layered.prepared.step wraps.pure).records site.backend wrapped.recorded
  builders builder member := by
    rcases Stage.mem_builders_step member with member | ⟨session, catalog, limit, rfl, rfl⟩
    · exact wrapped.builders builder member
    · exact wraps.admitted rfl
  wrapped := by
    rcases wrapped.layered.frames_step wraps.starts with frames | ⟨frame, -, frames⟩ |
      ⟨builder, member, -, ⟨entered, built, frames⟩, -⟩
    · rw [frames]
      exact wrapped.wrapped
    · have all := wrapped.wrapped
      rw [frames] at all
      exact all.2
    · have seams := wrapped.layered.prepared.seams_of_builder member
      obtain ⟨binding, shown, fits⟩ := wrapped.shown held
      rw [frames]
      refine wrapped.wrapped.cons stage.seams (wrapped.builders builder member)
        (wrapped.layered.builders builder member).2 ?_ ?_ fits built
      · rw [seams]
        exact wrapped.recorded
      · rw [seams]
        exact shown

end HandlerSite.IsWrapped

theorem Stage.frames_close (stage : Stage) : (stage.step .close).frames = stage.frames.tail := by
  show stage.closeNewest.frames = stage.frames.tail
  unfold closeNewest
  split <;> rename_i frames <;> rw [frames] <;> rfl

/-- At every point of a run of nested sessions that leave a handler seam to its adapter, the seam
holds the handler of the start as the open sessions with the stack enabled have wrapped it: it fails
as that one does, its responses differ in who served them only, and the innermost session owns it.
Closing the newest session takes its wrapper away. -/
theorem Stage.handler_isWrapped {id : RegistryId} {world : World} {stage : Stage}
    {site : HandlerSite} {inner : Handler} {owner? : Option SessionId}
    (recorded : (world.registries.get id).hasBackend site.backend = true)
    (held : (world.registries.get id).binding? site.key = some ⟨.handler inner, owner?⟩)
    (reached : Reachable (fun _ operation => operation.WrapsAt site) (.initial id world) stage) :
    (∃ binding, stage.seams.binding? site.key = some binding ∧
      binding.IsWrapped site.backend (recorders site.backend stage.frames) inner owner?) ∧
    (stage.step .close).frames = stage.frames.tail ∧
    ∃ binding, (stage.step .close).seams.binding? site.key = some binding ∧
      binding.IsWrapped site.backend (recorders site.backend stage.frames.tail) inner owner? := by
  have wrapped : site.IsWrapped id (world.registries.get id) inner owner? stage :=
    reached.invariant
      ⟨.initial id world, recorded, fun _ member => (nomatch member), trivial⟩
      fun _ wrapped wraps => wrapped.step held wraps
  have wraps : Operation.close.WrapsAt site := ⟨trivial, trivial, nofun⟩
  have closed := (wrapped.step held wraps).shown held
  rw [frames_close] at closed
  exact ⟨wrapped.shown held, stage.frames_close, closed⟩

private def requestSite : HandlerSite :=
  ⟨.clientSession, ⟨"client_session.ClientSession", "request"⟩, by decide, by decide⟩

private def stockHandler : Handler :=
  .network ⟨1⟩ "request"

private def clientWorld : World :=
  ((Attempt.registerBackend ⟨0⟩ ⟨.clientSession, ⟨3, 9, 0⟩, false,
    [(requestSite.key, .handler stockHandler)]⟩).on .initial).2

private def plainSession (text : String) : Session :=
  .new ⟨text⟩ (.standard ⟨0⟩)

private def wrappedStage : Stage :=
  ((((((Stage.initial ⟨0⟩ clientWorld).step
    (.newBuilder (plainSession "outer") (Catalog.standard.without []) 4)).step
      (.newBuilder (plainSession "apart") (Catalog.standard.without [.clientSession]) 4)).step
        (.newBuilder (plainSession "inner") (Catalog.standard.without []) 4)).step
          (.start 0)).step (.start 1)).step (.start 2)

theorem Stage.handler_isWrapped_twice :
    recorders .clientSession wrappedStage.frames = [⟨"inner"⟩, ⟨"outer"⟩] ∧
      stamps .clientSession [⟨"inner"⟩, ⟨"outer"⟩] =
        "client_session:inner <- client_session:outer <- " ∧
      ∃ binding, wrappedStage.seams.binding? requestSite.key = some binding ∧
        binding.IsWrapped .clientSession [⟨"inner"⟩, ⟨"outer"⟩] stockHandler none := by
  have sessions : recorders .clientSession wrappedStage.frames = [⟨"inner"⟩, ⟨"outer"⟩] := by
    decide +kernel
  have brings (text : String) (disabled : List Backend) : Operation.WrapsAt requestSite
      (.newBuilder (plainSession text) (Catalog.standard.without disabled) 4) := by
    refine ⟨Operation.NestsSessions.pure ⟨⟨_, rfl⟩, disabled, rfl⟩, trivial, ?_⟩
    rintro session catalog limit ⟨⟩
    exact requestSite.admits_standard disabled rfl fun _ member => nomatch member
  have starts (index : Nat) : (Operation.start index).WrapsAt requestSite :=
    ⟨trivial, trivial, nofun⟩
  have begun : Reachable (fun _ operation => operation.WrapsAt requestSite)
      (.initial ⟨0⟩ clientWorld) (.initial ⟨0⟩ clientWorld) := .start
  have prepared := ((begun.step _ (brings "outer" [])).step _
    (brings "apart" [.clientSession])).step _ (brings "inner" [])
  have reached := ((prepared.step _ (starts 0)).step _ (starts 1)).step _ (starts 2)
  have recorded : (clientWorld.registries.get ⟨0⟩).hasBackend requestSite.backend = true := by
    decide +kernel
  have held : (clientWorld.registries.get ⟨0⟩).binding? requestSite.key =
      some ⟨.handler stockHandler, none⟩ := rfl
  obtain ⟨wrapped, -⟩ := handler_isWrapped recorded held reached
  refine ⟨sessions, by decide +kernel, ?_⟩
  rw [← sessions]
  exact wrapped

end TransportSeams

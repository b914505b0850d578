import TransportSeams.Proofs.Adapter.Covering

/-!
What the adapter of a handler stack makes of a seam for a session with standard stubs: it wraps the
handler that the registry holds there when it builds. Wrappers around wrappers fail as the innermost
handler does, and else name their sessions, the newest first, in front of who served the request.
-/

set_option autoImplicit false
set_option relaxedAutoImplicit false

namespace TransportSeams

open World Adapter

/-- What the recorders of sessions, the newest first, put in front of who served a request. -/
def stamps (backend : Backend) : List SessionId → String
  | [] => ""
  | session :: older => backend.name ++ ":" ++ session.text ++ " <- " ++ stamps backend older

structure Handler.IsStamped (handler : Handler) (backend : Backend) (sessions : List SessionId)
    (inner : Handler) : Prop where
  fails (request : Request) (error : SeamError) :
    handler.answer request = .error error ↔ inner.answer request = .error error
  answers (request : Request) (response : Response) : inner.answer request = .ok response →
    handler.answer request =
      .ok { response with servedBy := stamps backend sessions ++ response.servedBy }
  owned (newest : SessionId) : sessions.head? = some newest → handler.owner? = some newest
  bare : sessions = [] → handler = inner

namespace Handler.IsStamped

variable {backend : Backend} {inner handler : Handler} {sessions : List SessionId}

theorem refl (backend : Backend) (inner : Handler) : inner.IsStamped backend [] inner where
  fails _ _ := .rfl
  answers request response answered := by
    rw [answered, stamps, String.empty_append]
  owned _ head := nomatch head
  bare _ := rfl

theorem stamped (stamped : handler.IsStamped backend sessions inner) (id : FunctionId)
    (name : String) (session : SessionId) :
    (Handler.stamped id name session (backend.name ++ ":" ++ session.text) handler).IsStamped
      backend (session :: sessions) inner where
  fails request error := by
    rw [← stamped.fails]
    show (handler.answer request).map _ = .error error ↔ _
    cases handler.answer request <;> simp [Except.map]
  answers request response answered := by
    show (handler.answer request).map _ = _
    rw [stamped.answers request response answered]
    simp only [Except.map, stamps, String.append_assoc]
  owned newest head := head
  bare none := nomatch none

end Handler.IsStamped

structure HandlerSite where
  backend : Backend
  key : SeamKey
  wrapping : backend ∈ [Backend.asyncFetch, .clientSession, .dualClient]
  declared : key ∈ (Adapter.standard backend).declaredSeams

namespace HandlerSite

variable (site : HandlerSite)

private theorem handlers_declare :
    ∀ backend ∈ [Backend.asyncFetch, .clientSession, .dualClient],
      (Adapter.standard backend).declaredSeams.Nodup ∧
        ∀ key ∈ (Adapter.standard backend).declaredSeams, ∀ other ∈ Backend.all,
          key ∈ (Adapter.standard other).declaredSeams → other = backend := by
  decide

theorem declared_nodup : (Adapter.standard site.backend).declaredSeams.Nodup :=
  (handlers_declare site.backend site.wrapping).1

theorem sole (other : Backend) (declared : site.key ∈ (Adapter.standard other).declaredSeams) :
    other = site.backend :=
  (handlers_declare site.backend site.wrapping).2 site.key site.declared other
    (Backend.mem_all other) declared

theorem standard_eq_handlers : Adapter.standard site.backend =
    Adapter.handlers site.backend (Adapter.standard site.backend).declaredSeams := by
  have wrapping := site.wrapping
  simp only [List.mem_cons, List.not_mem_nil, or_false] at wrapping
  rcases wrapping with backend | backend | backend <;> rw [backend] <;> rfl

/-- A session brings nothing of its own to the seam and no adapters of other stacks; with the stack
of the seam enabled, it has the standard adapter for it, and standard stubs. -/
structure Admits (session : Session) (catalog : Catalog) : Prop where
  leaves : session.Leaves site.key
  others : catalog.LeavesTo site.backend site.key
  own {adapter : Adapter} : catalog.find? site.backend = some adapter →
    adapter = .standard site.backend ∧ ∃ shelf, session.stubs = .standard shelf

theorem admits_standard {session : Session} {shelf : ShelfId} (disabled : List Backend)
    (stubs : session.stubs = .standard shelf) (leaves : session.Leaves site.key) :
    site.Admits session (Catalog.standard.without disabled) where
  leaves := leaves
  others := Catalog.standard_leavesTo disabled site.sole
  own found := ⟨Catalog.eq_standard_of_find? found, shelf, stubs⟩

end HandlerSite

namespace Adapter

variable {context : AdapterContext} {world : World} {shelf : ShelfId} {inner : Handler}

def recording (context : AdapterContext) (backend : Backend) (key : SeamKey)
    (function : FunctionId) (inner : Handler) : Handler :=
  .stamped function ("Recording" ++ key.member) context.session.id
    (backend.name ++ ":" ++ context.session.id.text) inner

theorem on_interceptSeam (backend : Backend) {key : SeamKey}
    (stubs : context.session.stubs = .standard shelf)
    (held : (world.registries.get context.registry).value? key = some (.handler inner)) :
    (interceptSeam context backend key).on world =
      (some ⟨key, .handler (recording context backend key world.nextFunction inner)⟩,
        (Action.freshFunction.on world).2) := by
  simp only [interceptSeam, Action.on_bind, Action.on_registry, held, stubs]
  rfl

theorem interceptSeam_keepsRegistries (backend : Backend) (key : SeamKey)
    (stubs : context.session.stubs = .standard shelf) :
    (interceptSeam context backend key).Moves KeepsRegistries := by
  have moves : context.session.stubs.Moves KeepsRegistries :=
    stubs ▸ StubCatalog.standard_keepsRegistries shelf
  have single := interceptSeams_moves moves backend [key]
  exact single

theorem on_interceptSeams_cons (context : AdapterContext) (backend : Backend) (key : SeamKey)
    (rest : List SeamKey) (world : World) :
    (interceptSeams context backend (key :: rest)).on world =
      let spec := (interceptSeam context backend key).on world
      let others := (interceptSeams context backend rest).on spec.2
      (spec.1.toList ++ others.1, others.2) :=
  rfl

theorem on_interceptSeams (backend : Backend) {key : SeamKey} {seams : List SeamKey}
    (stubs : context.session.stubs = .standard shelf) (distinct : seams.Nodup)
    (listed : key ∈ seams)
    (held : (world.registries.get context.registry).value? key = some (.handler inner)) :
    ∃ front back function, ((interceptSeams context backend seams).on world).1 =
        front ++ ⟨key, .handler (recording context backend key function inner)⟩ :: back ∧
      ∀ spec ∈ back, spec.key ≠ key := by
  induction seams generalizing world with
  | nil => cases listed
  | cons first rest ih =>
    obtain ⟨absent, distinct'⟩ := List.nodup_cons.1 distinct
    rw [on_interceptSeams_cons]
    by_cases here : first = key
    · subst here
      rw [on_interceptSeam backend stubs held]
      refine ⟨[], _, world.nextFunction, rfl, fun spec member same => absent ?_⟩
      exact same ▸ (interceptSeams_emits backend rest _).subset (List.mem_map_of_mem member)
    · have kept := interceptSeam_keepsRegistries backend first stubs world
      obtain ⟨front, back, function, specs, later⟩ :=
        ih distinct' ((List.mem_cons.1 listed).resolve_left (Ne.symm here)) (by rwa [kept])
      refine ⟨((interceptSeam context backend first).on world).1.toList ++ front, back, function,
        ?_, later⟩
      rw [List.append_assoc]
      exact congrArg (_ ++ ·) specs

end Adapter

namespace Builder

variable {builder : Builder} {site : HandlerSite} {world : World} {shelf : ShelfId}
  {inner : Handler} {owner? : Option SessionId}

/-- The adapter of the stack covers the seam with a wrapper around what the registry holds. -/
theorem buildAdapter_wraps (before : Registry)
    (stubs : builder.session.stubs = .standard shelf)
    (recorded : (world.registries.get builder.registry).hasBackend site.backend = true)
    (held : (world.registries.get builder.registry).binding? site.key =
      some ⟨.handler inner, owner?⟩) :
    ∃ function, lastShown? before site.key
        ((builder.buildAdapter (.standard site.backend)).on world).1 =
      some ⟨.handler (recording builder.context site.backend site.key function inner),
        some builder.session.id⟩ := by
  let output := ((Adapter.standard site.backend).build builder.context).on world
  have kept : output.2.registries = world.registries :=
    Adapter.standard_keepsRegistries site.backend builder.context
      (show builder.session.stubs.Moves _ from stubs ▸ StubCatalog.standard_keepsRegistries shelf)
      world
  have value : (world.registries.get builder.context.registry).value? site.key =
      some (.handler inner) := by
    show (world.registries.get builder.registry).value? site.key = _
    rw [Registry.value?, held]
    rfl
  obtain ⟨front, back, function, specs, later⟩ :=
    on_interceptSeams site.backend stubs site.declared_nodup site.declared value
  have emitted : output.1.specs = front ++
      ⟨site.key, .handler (recording builder.context site.backend site.key function inner)⟩ ::
        back := by
    rw [← specs]
    show (((Adapter.standard site.backend).build builder.context).on world).1.specs = _
    rw [site.standard_eq_handlers]
    rfl
  have known : (output.2.registries.get builder.registry).contains site.key = true := by
    rw [kept]
    exact Registry.contains_of_binding? held
  refine ⟨function, ?_⟩
  rw [on_buildAdapter, if_pos (by rwa [Adapter.backend_standard])]
  exact lastShown?_output before emitted known later

end Builder

end TransportSeams

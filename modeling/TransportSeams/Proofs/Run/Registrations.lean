import TransportSeams.Proofs.Adapter.Effects
import TransportSeams.Proofs.Run.Calls
import TransportSeams.Proofs.Scope.Origins
import TransportSeams.Proofs.Scope.Supplies

/-!
Runs of calls on one registry: registering, installing, resetting, building, and entering and
leaving whatever there is in any order. Whatever the run, a seam that was registered stays what the
first manifest accepted with it made it, the records count the seams of their backends, and a
manifest that is refused changes nothing.
-/

set_option autoImplicit false
set_option relaxedAutoImplicit false

namespace TransportSeams

open World

structure AnyCall : Type 1 where
  {β : Type}
  call : Call β

namespace AnyCall

/-- The calls that the users of a registry make on it. Scopes and resources may be any, those that
have been left before or are left out of order included; the adapters and the stubs of a builder
change no registry while it builds. -/
def IsOn (id : RegistryId) : AnyCall → Prop
  | ⟨.register registry _⟩ => registry = id
  | ⟨.install registry _ _⟩ => registry = id
  | ⟨.reset registry⟩ => registry = id
  | ⟨.build builder⟩ => builder.KeepsRegistries
  | ⟨.openScope ..⟩ => True
  | ⟨.close _⟩ => True
  | ⟨.enter _⟩ => True
  | ⟨.exit _⟩ => True
  | _ => False

/-- The world that the call leaves, whatever it answers. -/
def after (world : World) (made : AnyCall) : World :=
  (made.call.on world).2

def accepted? (world : World) : AnyCall → Option Manifest
  | ⟨.register id manifest⟩ =>
    match ((Call.register id manifest).on world).1 with
    | .ok _ => some manifest
    | .error _ => none
  | _ => none

theorem after_cases {id : RegistryId} {made : AnyCall} (isOn : made.IsOn id) (world : World) :
    (made.accepted? world = none ∧ world.KeepsOrigins (made.after world)) ∨
      ∃ manifest grown added, made.accepted? world = some manifest ∧
        (world.registries.get id).register manifest = .ok (grown, added) ∧
        (made.after world).registries.get id = grown := by
  obtain ⟨call⟩ := made
  cases call with
  | register registry manifest =>
    obtain rfl : registry = id := isOn
    simp only [accepted?, after, Call.on_register]
    cases registered : (world.registries.get registry).register manifest with
    | error error =>
      rw [Attempt.on_registerBackend_refused registered]
      exact .inl ⟨rfl, refl_of KeepsOrigins world⟩
    | ok outcome =>
      obtain ⟨grown, added⟩ := outcome
      rw [Attempt.on_registerBackend registered]
      exact .inr ⟨manifest, grown, added, rfl, registered, get_withRegistry world registry grown⟩
  | install registry key binding =>
    exact .inl ⟨rfl, Attempt.install_keepsOrigins registry key binding world⟩
  | reset registry => exact .inl ⟨rfl, Action.resetToPristine_keepsOrigins registry world⟩
  | build builder => exact .inl ⟨rfl, (Builder.build_keepsRegistries isOn world).keepsOrigins⟩
  | openScope session resources =>
    exact .inl ⟨rfl, Scope.enterAll_keepsOrigins session resources [] world⟩
  | close scope => exact .inl ⟨rfl, scope.close_keepsOrigins world⟩
  | enter resource => exact .inl ⟨rfl, resource.enter_keepsOrigins world⟩
  | exit resource => exact .inl ⟨rfl, resource.exit_keepsOrigins world⟩
  | _ => exact absurd isOn not_false

end AnyCall

namespace World

def afterCalls : World → List AnyCall → World
  | world, [] => world
  | world, call :: rest => afterCalls (call.after world) rest

def registryAfter (id : RegistryId) (world : World) (calls : List AnyCall) : Registry :=
  (world.afterCalls calls).registries.get id

def accepted : World → List AnyCall → List Manifest
  | _, [] => []
  | world, call :: rest => (call.accepted? world).toList ++ accepted (call.after world) rest

variable {id : RegistryId} {calls : List AnyCall}

theorem registryAfter_cons (id : RegistryId) (world : World) (call : AnyCall)
    (rest : List AnyCall) :
    world.registryAfter id (call :: rest) = (call.after world).registryAfter id rest :=
  rfl

theorem registryAfter_append (id : RegistryId) (world : World) (first last : List AnyCall) :
    world.registryAfter id (first ++ last) = (world.afterCalls first).registryAfter id last := by
  induction first generalizing world with
  | nil => rfl
  | cons call rest ih => exact ih (call.after world)

theorem origin?_registryAfter (world : World) (isOn : ∀ call ∈ calls, call.IsOn id)
    (key : SeamKey) :
    (world.registryAfter id calls).origin? key =
      ((world.registries.get id).origin? key).or
        ((world.accepted calls).findSome? (Manifest.origin? key)) := by
  induction calls generalizing world with
  | nil => simp [registryAfter, afterCalls, accepted]
  | cons call rest ih =>
    have later := ih (call.after world)
      fun other member => isOn other (List.mem_cons_of_mem call member)
    rw [registryAfter_cons, later, accepted, List.findSome?_append, ← Option.or_assoc]
    congr 1
    rcases AnyCall.after_cases (isOn call List.mem_cons_self) world with
      ⟨refused, kept⟩ | ⟨manifest, grown, added, taken, registered, left⟩
    · rw [refused, (kept id).origin?_eq]
      simp
    · rw [taken, left, Registry.origin?_register registered]
      simp

theorem accounted_registryAfter {world : World} (isOn : ∀ call ∈ calls, call.IsOn id)
    (accounted : (world.registries.get id).Accounted) :
    (world.registryAfter id calls).Accounted := by
  induction calls generalizing world with
  | nil => exact accounted
  | cons call rest ih =>
    refine ih (fun other member => isOn other (List.mem_cons_of_mem call member)) ?_
    rcases AnyCall.after_cases (isOn call List.mem_cons_self) world with
      ⟨-, kept⟩ | ⟨manifest, grown, added, -, registered, left⟩
    · exact accounted.congr (kept id)
    · rw [left]
      exact accounted.register registered

end World

/-- Registering the manifest changes no binding that is there; it succeeds exactly when the registry
admits the manifest, and when it is refused it changes nothing at all. -/
structure World.RegistersSafely (id : RegistryId) (world : World) (manifest : Manifest) :
    Prop where
  kept (key : SeamKey) (binding : Binding) :
    (world.registries.get id).binding? key = some binding →
      (((Attempt.registerBackend id manifest).on world).2.registries.get id).binding? key =
        some binding
  admitted : ((Attempt.registerBackend id manifest).on world).1 = .ok () ↔
    (world.registries.get id).Admits manifest
  refused (error : SeamError) :
    ((Attempt.registerBackend id manifest).on world).1 = .error error →
      ((Attempt.registerBackend id manifest).on world).2 = world ∧
        (world.registries.get id).Refuses manifest error

theorem World.registersSafely (id : RegistryId) (world : World) (manifest : Manifest) :
    world.RegistersSafely id manifest := by
  have admits := (world.registries.get id).register_ok_iff manifest
  cases registered : (world.registries.get id).register manifest with
  | error error =>
    have run := Attempt.on_registerBackend_refused registered
    have unadmitted : ¬ (world.registries.get id).Admits manifest := by
      rw [← admits, registered]
      rintro ⟨grown, added, accepted⟩
      cases accepted
    constructor
    · rw [run]
      exact fun key binding held => held
    · rw [run]
      exact ⟨(fun accepted => by cases accepted), fun admitted => absurd admitted unadmitted⟩
    · rw [run]
      intro other failed
      obtain rfl := Except.error.inj failed
      exact ⟨rfl, Registry.refuses_of_register registered⟩
  | ok outcome =>
    obtain ⟨grown, added⟩ := outcome
    have run := Attempt.on_registerBackend registered
    constructor
    · rw [run]
      intro key binding held
      obtain ⟨slot, found, rfl⟩ := Option.map_eq_some_iff.1 held
      rw [registries_telling, get_withRegistry, Registry.binding?,
        (Registry.grows_of_register registered).kept found]
      rfl
    · rw [run]
      exact ⟨fun _ => admits.1 ⟨grown, added, registered⟩, fun _ => rfl⟩
    · rw [run]
      intro error failed
      cases failed

/-- Whatever the calls on a registry that started empty: each seam has the backend and the pristine
value of its first occurrence in the first manifest that was accepted with it, and keeps them
through all further calls; every seam's backend has a record, every record counts the seams of its
backend, and a further manifest changes no binding that is there and changes nothing if it is
refused. -/
theorem World.registrations_arePermanent {id : RegistryId} {world : World}
    (empty : world.registries.get id = Registry.empty) {calls : List AnyCall}
    (isOn : ∀ call ∈ calls, call.IsOn id) :
    (∀ key, (world.registryAfter id calls).origin? key =
      (world.accepted calls).findSome? (Manifest.origin? key)) ∧
    (∀ further : List AnyCall, (∀ call ∈ further, call.IsOn id) → ∀ key origin,
      (world.registryAfter id calls).origin? key = some origin →
        (world.registryAfter id (calls ++ further)).origin? key = some origin) ∧
    (∀ key slot, (world.registryAfter id calls).slot? key = some slot →
      (world.registryAfter id calls).hasBackend slot.backend = true) ∧
    (∀ record ∈ (world.registryAfter id calls).records,
      record.seamCount = (world.registryAfter id calls).slotCount record.backend) ∧
    ∀ manifest, (world.afterCalls calls).RegistersSafely id manifest := by
  have accounted : (world.registryAfter id calls).Accounted :=
    accounted_registryAfter isOn (empty ▸ Registry.Accounted.empty)
  refine ⟨?_, ?_, ?_, ?_, registersSafely id _⟩
  · intro key
    rw [origin?_registryAfter world isOn, empty]
    rfl
  · intro further others key origin held
    rw [registryAfter_append, origin?_registryAfter _ others, ← registryAfter, held]
    rfl
  · intro key slot held
    exact accounted.recorded (by rw [Registry.origin?, held]; rfl)
  · intro record listed
    obtain ⟨backend, found⟩ := (KeyMap.mem_values_iff _ record).1 listed
    obtain ⟨rfl, counted⟩ := accounted.counted found
    exact counted

private def requestSeam : SeamKey :=
  ⟨"stack", "request"⟩

private def stackManifest (backend : Backend) (major : UInt32) (seams : List (SeamKey × Nat)) :
    Manifest :=
  ⟨backend, ⟨major, 0, 0⟩, false,
    seams.map fun seam => (seam.1, .handler (.network ⟨seam.2⟩ seam.1.member))⟩

private def stackPatch (saved? : Option Binding) : Resource :=
  .patch ⟨⟨0⟩, requestSeam, .handler (.network ⟨20⟩ "stub"), ⟨"tape"⟩, saved?⟩

/-- Of four manifests the first one repeats a seam, the second one claims it for another backend,
the third one is too old, and the last one gives it another value; in between a session is opened,
a reset made, and a scope closed that was left behind. -/
private def stackCalls : List AnyCall :=
  [⟨.register ⟨0⟩ (stackManifest .stdHttp 1
      [(requestSeam, 1), (⟨"stack", "send"⟩, 2), (requestSeam, 3)])⟩,
    ⟨.build ⟨⟨0⟩, .new ⟨"tape"⟩ (.standard ⟨0⟩), .standard, 4, ⟨0⟩⟩⟩,
    ⟨.openScope ⟨"tape"⟩ [stackPatch none, .forceRestore (.new ⟨0⟩)]⟩,
    ⟨.register ⟨0⟩ (stackManifest .certHttp 1 [(⟨"stack", "connect"⟩, 4), (requestSeam, 5)])⟩,
    ⟨.register ⟨0⟩ (stackManifest .sessions 1 [(⟨"stack", "connect"⟩, 6)])⟩,
    ⟨.reset ⟨0⟩⟩,
    ⟨.register ⟨0⟩ (stackManifest .stdHttp 2 [(requestSeam, 7), (⟨"stack", "connect"⟩, 8)])⟩,
    ⟨.install ⟨0⟩ requestSeam ⟨.handler (.network ⟨9⟩ "raw"), some ⟨"tape"⟩⟩⟩,
    ⟨.close ⟨⟨"tape"⟩, [stackPatch (some ⟨.handler (.network ⟨10⟩ "old"), none⟩)], false⟩⟩,
    ⟨.exit (stackPatch none)⟩]

theorem World.registrations_arePermanent_stacked :
    (World.initial.accepted stackCalls).map Manifest.version = [⟨1, 0, 0⟩, ⟨2, 0, 0⟩] ∧
      (World.initial.registryAfter ⟨0⟩ stackCalls).origin? requestSeam =
        some ⟨.stdHttp, .handler (.network ⟨1⟩ "request")⟩ ∧
      ∀ record ∈ (World.initial.registryAfter ⟨0⟩ stackCalls).records,
        record.seamCount =
          (World.initial.registryAfter ⟨0⟩ stackCalls).slotCount
            record.backend := by
  have isOn : ∀ call ∈ stackCalls, call.IsOn ⟨0⟩ := by
    have keeps : Builder.KeepsRegistries
        ⟨⟨0⟩, .new ⟨"tape"⟩ (.standard ⟨0⟩), .standard, 4, ⟨0⟩⟩ := by
      refine Builder.keepsRegistries_of_moves (StubCatalog.standard_keepsRegistries _) ?_
      intro adapter member
      have listed : adapter ∈ Backend.all.map Adapter.standard := member
      obtain ⟨backend, -, rfl⟩ := List.mem_map.1 listed
      exact Adapter.standard_keepsRegistries backend
    simp [stackCalls, AnyCall.IsOn, keeps]
  have begun : World.initial.registries.get ⟨0⟩ = Registry.empty := rfl
  obtain ⟨origins, -, -, counts, -⟩ := registrations_arePermanent begun isOn
  exact ⟨rfl, (origins requestSeam).trans rfl, counts⟩

end TransportSeams

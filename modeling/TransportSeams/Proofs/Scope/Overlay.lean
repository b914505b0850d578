import TransportSeams.Proofs.Scope.Effects
import TransportSeams.Scope.Basic

/-!
Entered resources as overlays. Each entered resource shows bindings at the seams that it covers and
has saved what is shown below it, so leaving the newest one uncovers what was shown before it was
entered; a registry shows the overlays of a whole scope over the bindings below the scope.
-/

set_option autoImplicit false
set_option relaxedAutoImplicit false

namespace TransportSeams

open World

/-- The bindings of all seams, none where there is no seam. -/
abbrev View : Type :=
  SeamKey → Option Binding

namespace Resource

/-- The binding that the resource shows at a seam, once it has been entered where `before` was the
registry. -/
def shown? (before : Registry) (key : SeamKey) : Resource → Option Binding
  | patch handle => if handle.key = key then some handle.binding else none
  | poolGuard _ => none
  | forceRestore _ => before.pristineBinding? key

def unentered : Resource → Resource
  | patch handle => patch { handle with saved? := none }
  | poolGuard guard => poolGuard guard
  | forceRestore restore => forceRestore { restore with saved? := none }

/-- The resource can be entered for the session: it acts on the registry, at a seam that is
there. -/
def IsFresh (id : RegistryId) (session : SessionId) (registry : Registry) : Resource → Prop
  | patch handle =>
    handle.registry = id ∧ handle.owner = session ∧ handle.saved? = none ∧
      registry.contains handle.key = true
  | poolGuard _ => True
  | forceRestore restore => restore.registry = id ∧ restore.saved? = none

def IsBuilt (id : RegistryId) (session : SessionId) (registry : Registry) : Resource → Prop
  | forceRestore _ => False
  | resource => resource.IsFresh id session registry

theorem IsBuilt.fresh {id : RegistryId} {session : SessionId} {registry : Registry}
    {resource : Resource} (built : resource.IsBuilt id session registry) :
    resource.IsFresh id session registry := by
  cases resource with
  | patch handle => exact built
  | poolGuard guard => exact built
  | forceRestore restore => exact built.elim

/-- The resource has saved what the view below it shows at the seams that it covers. -/
def HasSaved (id : RegistryId) (before : Registry) (below : View) : Resource → Prop
  | patch handle =>
    handle.registry = id ∧ before.contains handle.key = true ∧
      ∃ binding, handle.saved? = some binding ∧ below handle.key = some binding
  | poolGuard _ => True
  | forceRestore restore =>
    restore.registry = id ∧ ∃ saved, restore.saved? = some saved ∧
      (∀ entry ∈ saved,
        before.contains entry.1 = true ∧ below entry.1 = some entry.2) ∧
      ∀ key, before.contains key = true → key ∈ saved.map Prod.fst

end Resource

/-- What entered resources, the newest first, show over a view. -/
def overlay (before : Registry) (below : View) (entered : List Resource) : View :=
  fun key => (entered.findSome? (Resource.shown? before key)).or (below key)

def AllSaved (id : RegistryId) (before : Registry) (below : View) : List Resource → Prop
  | [] => True
  | resource :: rest =>
    resource.HasSaved id before (overlay before below rest) ∧ AllSaved id before below rest

theorem Resource.HasSaved.congr {id : RegistryId} {before : Registry} {below below' : View}
    (agree : ∀ key, before.contains key = true → below' key = below key) {resource : Resource}
    (saved : resource.HasSaved id before below) : resource.HasSaved id before below' := by
  cases resource with
  | patch handle =>
    obtain ⟨registered, contained, binding, entered, shownBelow⟩ := saved
    exact ⟨registered, contained, binding, entered, (agree _ contained).trans shownBelow⟩
  | poolGuard guard => exact saved
  | forceRestore restore =>
    obtain ⟨registered, saved, entered, bindings, covered⟩ := saved
    refine ⟨registered, saved, entered, fun entry member => ?_, covered⟩
    obtain ⟨contained, shownBelow⟩ := bindings entry member
    exact ⟨contained, (agree _ contained).trans shownBelow⟩

theorem AllSaved.congr {id : RegistryId} {before : Registry} {below below' : View}
    (agree : ∀ key, before.contains key = true → below' key = below key)
    {entered : List Resource} (saved : AllSaved id before below entered) :
    AllSaved id before below' entered := by
  induction entered with
  | nil => trivial
  | cons resource rest ih =>
    refine ⟨saved.1.congr fun key contained => ?_, ih saved.2⟩
    unfold overlay
    rw [agree key contained]

@[simp]
theorem overlay_nil (before : Registry) (below : View) : overlay before below [] = below :=
  rfl

theorem overlay_cons (before : Registry) (below : View) (resource : Resource)
    (rest : List Resource) (key : SeamKey) :
    overlay before below (resource :: rest) key =
      (resource.shown? before key).or (overlay before below rest key) := by
  unfold overlay
  rw [List.findSome?_cons]
  cases resource.shown? before key <;> simp

theorem overlay_append (before : Registry) (below : View) (newer older : List Resource) :
    overlay before below (newer ++ older) = overlay before (overlay before below older) newer := by
  funext key
  unfold overlay
  rw [List.findSome?_append, Option.or_assoc]

theorem allSaved_append {id : RegistryId} {before : Registry} {below : View}
    {newer older : List Resource} : AllSaved id before below (newer ++ older) ↔
      AllSaved id before (overlay before below older) newer ∧ AllSaved id before below older := by
  induction newer with
  | nil => simp [AllSaved]
  | cons resource rest ih =>
    rw [List.cons_append, AllSaved, ih, overlay_append, AllSaved, and_assoc]

/-- What resources show at a seam once they have been entered in the order of the list. -/
def lastShown? (before : Registry) (key : SeamKey) (resources : List Resource) : Option Binding :=
  resources.reverse.findSome? (Resource.shown? before key)

theorem lastShown?_append (before : Registry) (key : SeamKey) (first last : List Resource) :
    lastShown? before key (first ++ last) =
      (lastShown? before key last).or (lastShown? before key first) := by
  unfold lastShown?
  rw [List.reverse_append, List.findSome?_append]

theorem lastShown?_eq_none {before : Registry} {key : SeamKey} {resources : List Resource}
    (covered : ∀ resource ∈ resources, resource.shown? before key = none) :
    lastShown? before key resources = none :=
  List.findSome?_eq_none_iff.2 fun resource member =>
    covered resource (List.mem_reverse.1 member)

def guardsOf (resources : List Resource) : List PoolGuard :=
  resources.filterMap fun
    | .poolGuard guard => some guard
    | _ => none

def Resource.key? : Resource → Option SeamKey
  | patch handle => some handle.key
  | _ => none

def keysOf (resources : List Resource) : List SeamKey :=
  resources.filterMap Resource.key?

theorem mem_keysOf {key : SeamKey} {resources : List Resource} :
    key ∈ keysOf resources ↔ ∃ handle, .patch handle ∈ resources ∧ handle.key = key := by
  constructor
  · intro listed
    obtain ⟨resource, member, here⟩ := List.mem_filterMap.1 listed
    cases resource with
    | patch handle => exact ⟨handle, member, Option.some.inj here⟩
    | poolGuard guard => cases here
    | forceRestore restore => cases here
  · rintro ⟨handle, member, rfl⟩
    exact List.mem_filterMap.2 ⟨_, member, rfl⟩

theorem keysOf_append (first last : List Resource) :
    keysOf (first ++ last) = keysOf first ++ keysOf last :=
  List.filterMap_append

theorem keysOf_flatten (parts : List (List Resource)) :
    keysOf parts.flatten = (parts.map keysOf).flatten :=
  List.filterMap_flatten

theorem keysOf_guards (guards : List PoolGuard) : keysOf (guards.map Resource.poolGuard) = [] := by
  simp [keysOf, List.filterMap_map, Function.comp_def, Resource.key?]

theorem keysOf_patches (handles : List PatchHandle) :
    keysOf (handles.map Resource.patch) = handles.map PatchHandle.key := by
  simp [keysOf, List.filterMap_map, Function.comp_def, Resource.key?]

namespace Registry

def SameSeams (a b : Registry) : Prop :=
  ∀ key, a.pristineBinding? key = b.pristineBinding? key

theorem contains_iff_pristineBinding? (registry : Registry) (key : SeamKey) :
    registry.contains key = (registry.pristineBinding? key).isSome := by
  simp [contains, pristineBinding?]

theorem SameSeams.contains_eq {a b : Registry} (same : a.SameSeams b) (key : SeamKey) :
    a.contains key = b.contains key := by
  rw [contains_iff_pristineBinding?, contains_iff_pristineBinding?, same key]

theorem SameSeams.keys_perm {a b : Registry} (same : a.SameSeams b) : a.keys.Perm b.keys :=
  (List.perm_ext_iff_of_nodup a.slots.keys_nodup b.slots.keys_nodup).2 fun key => by
    rw [← keys, ← keys, mem_keys_iff, mem_keys_iff, same.contains_eq]

theorem contains_eq_isSome_binding? (registry : Registry) (key : SeamKey) :
    registry.contains key = (registry.binding? key).isSome := by
  simp [contains, binding?]

theorem sameSeams_withBinding (registry : Registry) (key : SeamKey) (binding : Binding) :
    (registry.withBinding key binding).SameSeams registry :=
  fun other => pristineBinding?_withBinding registry key other binding

end Registry

namespace Resource

variable {id : RegistryId} {session : SessionId} {before : Registry} {resource : Resource}

@[simp]
theorem shown?_unentered (before : Registry) (key : SeamKey) (resource : Resource) :
    resource.unentered.shown? before key = resource.shown? before key := by
  cases resource <;> rfl

theorem on_enter (world : World) (fresh : resource.IsFresh id session before)
    (same : (world.registries.get id).SameSeams before) :
    ∃ opened left, resource.enter.on world = (.ok opened, left) ∧
      opened.unentered = resource ∧ world.DiffersAtSeams left ∧
      (left.registries.get id).SameSeams before ∧
      (∀ key, (left.registries.get id).binding? key =
        (opened.shown? before key).or ((world.registries.get id).binding? key)) ∧
      opened.HasSaved id before (world.registries.get id).binding? := by
  cases resource with
  | patch handle =>
    obtain ⟨registered, -, idle, known⟩ := fresh
    subst registered
    rw [← same.contains_eq] at known
    obtain ⟨slot, held⟩ := (Registry.contains_iff_slot? _ _).1 known
    have run := PatchHandle.on_enter idle held
    refine ⟨.patch { handle with saved? := some slot.current }, (handle.enter.on world).2, ?_, ?_,
      ?_, ?_, ?_, rfl, ?_, slot.current, rfl, ?_⟩
    · simp only [enter, Attempt.on_bind, run]
      rfl
    · cases handle
      cases idle
      rfl
    · rw [run]
      exact trans_of DiffersAtSeams (differsAtSeams_withRegistry _ _ _)
        (differsAtSeams_telling _ _)
    · intro other
      rw [run, registries_telling, get_withRegistry]
      exact (Registry.sameSeams_withBinding _ _ _ other).trans (same other)
    · intro other
      rw [run, registries_telling, get_withRegistry, Registry.binding?_withBinding]
      by_cases here : other = handle.key
      · subst here
        simp [shown?, Registry.binding?, held]
        rfl
      · simp [shown?, here, Ne.symm here]
    · rwa [← same.contains_eq]
    · simp [Registry.binding?, held]
  | poolGuard guard =>
    exact ⟨.poolGuard guard, world, rfl, rfl, rfl, same, fun _ => rfl, trivial⟩
  | forceRestore restore =>
    obtain ⟨registered, idle⟩ := fresh
    subst registered
    obtain ⟨saved, left, run, apart, slots, bindings, covered⟩ := ForceRestore.on_enter idle world
    refine ⟨.forceRestore { restore with saved? := some saved }, left, ?_, ?_, apart, ?_, ?_,
      rfl, saved, rfl, ?_, ?_⟩
    · simp only [enter, Attempt.on_bind, run]
      rfl
    · cases restore
      cases idle
      rfl
    · intro key
      rw [← same key]
      simp [Registry.pristineBinding?, slots key, Function.comp_def]
    · intro key
      rw [shown?, ← same key]
      unfold Registry.binding? Registry.pristineBinding?
      rw [slots key]
      cases (world.registries.get restore.registry).slot? key <;> rfl
    · intro entry member
      rw [← same.contains_eq]
      exact ⟨Registry.contains_of_binding? (bindings entry member), bindings entry member⟩
    · intro key known
      rw [← same.contains_eq] at known
      exact covered key known

theorem on_exit (world : World) {below : View} (saved : resource.HasSaved id before below)
    (known : ∀ key, before.contains key = true →
      (world.registries.get id).contains key = true)
    (shown : ∀ key, (world.registries.get id).binding? key =
      (resource.shown? before key).or (below key)) :
    ∃ left, resource.exit.on world = (.ok resource.unentered, left) ∧
      (left.registries.get id).SameSeams (world.registries.get id) ∧
      (left.registries.get id).binding? = below := by
  cases resource with
  | patch handle =>
    obtain ⟨registered, contained, binding, entered, shownBelow⟩ := saved
    subst registered
    obtain ⟨slot, held⟩ := (Registry.contains_iff_slot? _ _).1 (known handle.key contained)
    have run := PatchHandle.on_exit entered held
    refine ⟨(handle.exit.on world).2, ?_, ?_, ?_⟩
    · simp only [exit, Attempt.on_bind, run]
      rfl
    · intro other
      rw [run, get_withRegistry]
      exact Registry.sameSeams_withBinding _ _ _ other
    · funext other
      rw [run, get_withRegistry, Registry.binding?_withBinding]
      by_cases here : other = handle.key
      · subst here
        simp [Registry.binding?, held, shownBelow]
      · rw [if_neg here, shown other]
        simp [shown?, Ne.symm here]
  | poolGuard guard =>
    refine ⟨((Action.drainForGuard guard.tracker).on world).2, rfl, ?_, ?_⟩
    · intro key
      rw [Action.drainForGuard_keepsRegistries guard.tracker world]
    · funext key
      rw [Action.drainForGuard_keepsRegistries guard.tracker world, shown key]
      rfl
  | forceRestore restore =>
    obtain ⟨registered, saved, entered, bindings, covered⟩ := saved
    subst registered
    obtain ⟨left, run, -, others, listed⟩ := ForceRestore.on_exit entered
      fun entry member => known entry.1 (bindings entry member).1
    refine ⟨left, ?_, ?_, ?_⟩
    · simp only [exit, Attempt.on_bind, run]
      rfl
    · intro key
      by_cases member : key ∈ saved.map Prod.fst
      · obtain ⟨binding, -, changed⟩ := listed key member
        simp [Registry.pristineBinding?, changed, Function.comp_def]
      · simp [Registry.pristineBinding?, others key member]
    · funext key
      by_cases member : key ∈ saved.map Prod.fst
      · obtain ⟨binding, listedBinding, changed⟩ := listed key member
        obtain ⟨contained, shownBelow⟩ := bindings _ listedBinding
        obtain ⟨slot, held⟩ := (Registry.contains_iff_slot? _ _).1 (known key contained)
        simp only at shownBelow
        simp [Registry.binding?, changed, held, shownBelow]
      · have absent : before.pristineBinding? key = none := by
          have missing := mt (covered key) member
          rw [Registry.contains_iff_pristineBinding?] at missing
          simpa using missing
        rw [Registry.binding?, others key member, ← Registry.binding?, shown key, shown?, absent]
        rfl

end Resource

namespace Scope

variable {id : RegistryId} {before : Registry} {below : View}

theorem on_enterAll (world : World) {session : SessionId} {resources entered : List Resource}
    (fresh : ∀ resource ∈ resources, resource.IsFresh id session before)
    (same : (world.registries.get id).SameSeams before)
    (shown : (world.registries.get id).binding? = overlay before below entered)
    (saved : AllSaved id before below entered) :
    ∃ all left, (enterAll session resources entered).on world =
        (.ok ⟨session, all, false⟩, left) ∧
      all.map Resource.unentered =
        resources.reverse ++ entered.map Resource.unentered ∧
      world.DiffersAtSeams left ∧
      (left.registries.get id).SameSeams before ∧
      (left.registries.get id).binding? = overlay before below all ∧
      AllSaved id before below all := by
  induction resources generalizing entered world with
  | nil => exact ⟨entered, world, rfl, by simp, rfl, same, shown, saved⟩
  | cons resource rest ih =>
    obtain ⟨opened, middle, run, opens, apart, same', shown', saved'⟩ :=
      Resource.on_enter world (fresh resource List.mem_cons_self) same
    have step : (enterAll session (resource :: rest) entered).on world =
        (enterAll session rest (opened :: entered)).on middle := by
      simp only [enterAll, Attempt.on_bind, Attempt.on_observe, run]
    have laid : (middle.registries.get id).binding? = overlay before below (opened :: entered) := by
      funext key
      rw [shown' key, overlay_cons, shown]
    obtain ⟨all, left, run', named, apart', same'', shown'', saved''⟩ :=
      ih middle (fun other member => fresh other (List.mem_cons_of_mem resource member)) same' laid
        ⟨shown ▸ saved', saved⟩
    refine ⟨all, left, step.trans run', ?_, trans_of DiffersAtSeams apart apart', same'', shown'',
      saved''⟩
    rw [named, List.map_cons, opens]
    simp

theorem on_enterAll_append {session : SessionId} {first entered opened : List Resource}
    {world left : World}
    (run : (enterAll session first entered).on world = (.ok ⟨session, opened, false⟩, left))
    (rest : List Resource) :
    (enterAll session (first ++ rest) entered).on world =
      (enterAll session rest opened).on left := by
  induction first generalizing entered world with
  | nil =>
    obtain ⟨rfl, rfl⟩ : entered = opened ∧ world = left := by
      simpa [enterAll] using run
    rfl
  | cons resource others ih =>
    simp only [List.cons_append, enterAll, Attempt.on_bind, Attempt.on_observe] at run ⊢
    generalize resource.enter.on world = turn at run ⊢
    obtain ⟨outcome, middle⟩ := turn
    cases outcome with
    | ok resource' => exact ih run
    | error error => simp [Attempt.on_bind] at run

theorem on_exitAll_append (session : SessionId) (first rest : List Resource)
    (report : TeardownReport) (world : World) :
    (exitAll session (first ++ rest) report).on world =
      (exitAll session rest ((exitAll session first report).on world).1).on
        ((exitAll session first report).on world).2 := by
  induction first generalizing report world with
  | nil => rfl
  | cons resource others ih =>
    simp only [List.cons_append, exitAll, Action.on_bind, Attempt.on_outcome]
    generalize resource.exit.on world = turn
    obtain ⟨outcome, middle⟩ := turn
    cases outcome with
    | ok resource' => exact ih _ _
    | error error => exact ih _ _

theorem on_close {scope : Scope} (isOpen : scope.closed = false) (world : World) :
    scope.close.on world = (exitAll scope.session scope.entered .empty).on world := by
  unfold close unwind
  rw [isOpen]
  rfl

/-- Leaving entered resources uncovers what is below all of them, and no resource fails. -/
theorem on_exitAll (world : World) (session : SessionId) {entered : List Resource}
    (report : TeardownReport) (saved : AllSaved id before below entered)
    (known : ∀ key, before.contains key = true →
      (world.registries.get id).contains key = true)
    (shown : (world.registries.get id).binding? = overlay before below entered) :
    ∃ left, (exitAll session entered report).on world =
        (⟨report.exited + entered.length, report.failures⟩, left) ∧
      (left.registries.get id).SameSeams (world.registries.get id) ∧
      (left.registries.get id).binding? = below := by
  induction entered generalizing world report with
  | nil => exact ⟨world, rfl, fun _ => rfl, shown⟩
  | cons resource rest ih =>
    obtain ⟨savedHere, savedBelow⟩ := saved
    obtain ⟨middle, run, same, uncovered⟩ := Resource.on_exit world savedHere known fun key => by
      rw [shown, overlay_cons]
    have step : (exitAll session (resource :: rest) report).on world =
        (exitAll session rest report.addExit).on middle := by
      simp only [exitAll, Action.on_bind, Attempt.on_outcome, run]
    obtain ⟨left, run', same', uncovered'⟩ := ih middle report.addExit savedBelow
      (fun key contained => by rw [same.contains_eq]; exact known key contained) uncovered
    refine ⟨left, ?_, fun key => (same' key).trans (same key), uncovered'⟩
    rw [step, run', TeardownReport.addExit, List.length_cons]
    simp only [Nat.add_assoc, Nat.add_comm 1]

end Scope

end TransportSeams

import TransportSeams.Adapter.Catalog
import TransportSeams.Proofs.Scope.Building

/-!
What building may change. Stub catalogs and adapters are code of their users; an adapter moves the
world along a relation when it does so for every session whose stubs do. The standard adapters move
it along every relation that making stubs, functions, substitutes and trackers moves it along.
-/

set_option autoImplicit false
set_option relaxedAutoImplicit false

namespace TransportSeams

open World

variable {R : World → World → Prop}

structure StubCatalog.Moves (R : World → World → Prop) (stubs : StubCatalog) : Prop where
  transport (backend : Backend) (name : String) : (stubs.transport? backend name).Moves R
  intercept (backend : Backend) (name : String) (session : SessionId) (original : Handler) :
    (stubs.intercept? backend name session original).Moves R

def Adapter.Moves (R : World → World → Prop) (adapter : Adapter) : Prop :=
  ∀ context, context.session.stubs.Moves R → (adapter.build context).Moves R

theorem StubCatalog.standard_keepsRegistries (id : ShelfId) :
    (StubCatalog.standard id).Moves KeepsRegistries where
  transport backend name := by
    refine Action.moves_map some (Action.moves_bind (fun _ => rfl) fun shelf => ?_)
    split <;> exact fun _ => rfl
  intercept _ _ _ _ := fun _ => rfl

theorem StubCatalog.restrict_moves [IsPreorder World R] {stubs : StubCatalog}
    (moves : stubs.Moves R) (lends intercepts : Backend → String → Bool) :
    (stubs.restrict lends intercepts).Moves R where
  transport backend name :=
    Action.moves_ite (moves.transport backend name) (Action.moves_pure none)
  intercept backend name session original :=
    Action.moves_ite (moves.intercept backend name session original) (Action.moves_pure none)

theorem Builder.keepsRegistries_of_moves {builder : Builder}
    (stubs : builder.session.stubs.Moves World.KeepsRegistries)
    (adapters : ∀ adapter ∈ builder.catalog.values, adapter.Moves World.KeepsRegistries) :
    builder.KeepsRegistries :=
  fun adapter member => adapters adapter member builder.context stubs

namespace Adapter

open TransportSeams.Action

variable [IsPreorder World R] {context : AdapterContext}

theorem swapTypes_moves (stubs : context.session.stubs.Moves R) (backend : Backend)
    (seams : List TypeSeam) : (swapTypes context backend seams).Moves R := by
  induction seams with
  | nil => exact moves_pure []
  | cons seam rest ih =>
    refine moves_bind (moves_bind (stubs.transport _ _) fun stub? => ?_) fun _ =>
      moves_bind ih fun _ => moves_pure _
    split <;> exact moves_pure _

theorem schemeStubs_moves (stubs : context.session.stubs.Moves R)
    (schemes : List (String × String)) : (schemeStubs context schemes).Moves R := by
  induction schemes with
  | nil => exact moves_pure []
  | cons scheme rest ih =>
    exact moves_bind (stubs.transport _ _) fun _ => moves_bind ih fun _ => moves_pure _

theorem interceptSeams_moves (stubs : context.session.stubs.Moves R) (backend : Backend)
    (seams : List SeamKey) : (interceptSeams context backend seams).Moves R := by
  induction seams with
  | nil => exact moves_pure []
  | cons key rest ih =>
    refine moves_bind (moves_bind (fun world => refl_of R world) fun registry => ?_) fun _ =>
      moves_bind ih fun _ => moves_pure _
    split
    · apply moves_bind (stubs.intercept _ _ _ _)
      intro wrapped?
      split <;> exact moves_pure _
    · exact moves_pure none

theorem trackCreate_moves (functions : freshFunction.Moves R)
    (trackers : ∀ type, (newTracker type).Moves R) (type : TransportType) (key : SeamKey) :
    (trackCreate context type key).Moves R := by
  refine moves_bind (fun world => refl_of R world) fun registry => ?_
  split
  · exact moves_bind (trackers type) fun _ => moves_bind functions fun _ => moves_pure _
  · exact moves_pure _

theorem checkAcquire_moves (functions : freshFunction.Moves R) (fallback key : SeamKey) :
    (checkAcquire context fallback key).Moves R := by
  refine moves_bind (fun world => refl_of R world) fun registry => ?_
  split
  · exact moves_bind functions fun _ => moves_pure _
  · exact moves_pure _

theorem buildPoolClass_moves (stubs : context.session.stubs.Moves R)
    (functions : freshFunction.Moves R) (trackers : ∀ type, (newTracker type).Moves R)
    (substitutes : ∀ type, (substitute context.cache type context.session.id).Moves R)
    (backend : Backend) (poolClass : PoolClass) :
    (buildPoolClass context backend poolClass).Moves R := by
  refine moves_bind (stubs.transport _ _) fun stub? => ?_
  split
  · exact moves_pure _
  · exact moves_bind (substitutes _) fun _ =>
      moves_bind (trackCreate_moves functions trackers _ _) fun _ =>
        moves_bind (checkAcquire_moves functions _ _) fun _ => moves_pure _

theorem buildPoolClasses_moves (stubs : context.session.stubs.Moves R)
    (functions : freshFunction.Moves R) (trackers : ∀ type, (newTracker type).Moves R)
    (substitutes : ∀ type, (substitute context.cache type context.session.id).Moves R)
    (backend : Backend) (classes : List PoolClass) :
    (buildPoolClasses context backend classes).Moves R := by
  induction classes with
  | nil => exact moves_pure _
  | cons poolClass rest ih =>
    exact moves_bind (buildPoolClass_moves stubs functions trackers substitutes backend poolClass)
      fun _ => moves_bind ih fun _ => moves_pure _

theorem standard_moves (functions : freshFunction.Moves R)
    (trackers : ∀ type, (newTracker type).Moves R)
    (substitutes : ∀ id type session, (substitute id type session).Moves R) (backend : Backend) :
    (Adapter.standard backend).Moves R := by
  intro context stubs
  have types (backend : Backend) (seams : List TypeSeam) :
      ((direct backend seams).build context).Moves R :=
    moves_bind (swapTypes_moves stubs backend seams) fun _ => moves_pure _
  have wrapped (backend : Backend) (seams : List SeamKey) :
      ((handlers backend seams).build context).Moves R :=
    moves_bind (interceptSeams_moves stubs backend seams) fun _ => moves_pure _
  have pooled (backend : Backend) : ((pooling backend).build context).Moves R := by
    apply moves_bind (swapTypes_moves stubs backend _)
    intro _
    apply moves_bind (moves_bind functions fun _ => moves_pure _)
    intro _
    exact moves_bind (buildPoolClasses_moves stubs functions trackers
      (fun type => substitutes _ type _) backend _) fun _ => moves_pure _
  cases backend with
  | stdHttp => exact types _ _
  | sessions => exact pooled _
  | aws => exact types _ _
  | pooled => exact pooled _
  | timeoutHttp => exact moves_bind (schemeStubs_moves stubs _) fun _ => moves_pure _
  | certHttp => exact types _ _
  | asyncFetch => exact wrapped _ _
  | clientSession => exact wrapped _ _
  | dualClient => exact wrapped _ _

theorem standard_keepsRegistries (backend : Backend) :
    (Adapter.standard backend).Moves KeepsRegistries :=
  standard_moves (R := KeepsRegistries) (fun _ => rfl) (fun _ _ => rfl) substitute_keepsRegistries
    backend

end Adapter

end TransportSeams

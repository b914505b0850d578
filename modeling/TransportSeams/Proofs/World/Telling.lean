import TransportSeams.Proofs.Evaluation

/-!
What the run log is told of patches. Events only ever come after those that there are, and most
actions tell of other things than patches.
-/

set_option autoImplicit false
set_option relaxedAutoImplicit false

namespace TransportSeams

def Event.isOfPatch : Event → Bool
  | patchEntered .. | patchExited .. => true
  | _ => false

namespace World

/-- The second world has been told more than the first one, and these events of patches. -/
def Tells (ofPatches : List Event) (old new : World) : Prop :=
  ∃ told, new.events = old.events ++ told ∧ told.filter Event.isOfPatch = ofPatches

def KeepsSilent : World → World → Prop :=
  Tells []

variable {old middle new : World}

theorem Tells.trans {first last : List Event} (before : old.Tells first middle)
    (after : middle.Tells last new) : old.Tells (first ++ last) new := by
  obtain ⟨told, events, rfl⟩ := before
  obtain ⟨told', events', rfl⟩ := after
  exact ⟨told ++ told', by rw [events', events, List.append_assoc], List.filter_append ..⟩

theorem KeepsSilent.of_trace (same : new.trace = old.trace) : old.KeepsSilent new :=
  ⟨[], by rw [events, events, same, List.append_nil], rfl⟩

instance : IsPreorder World KeepsSilent where
  refl _ := .of_trace rfl
  trans _ _ _ := Tells.trans

theorem KeepsSilent.tells {events : List Event} (before : old.KeepsSilent middle)
    (after : middle.Tells events new) : old.Tells events new :=
  Tells.trans before after

theorem tells_telling (world : World) {event : Event} (ofPatch : event.isOfPatch = true) :
    world.Tells [event] (world.telling event) :=
  ⟨[event], List.reverse_cons, List.filter_cons_of_pos ofPatch⟩

theorem keepsSilent_telling (world : World) {event : Event} (other : event.isOfPatch = false) :
    world.KeepsSilent (world.telling event) :=
  ⟨[event], List.reverse_cons, List.filter_cons_of_neg (by rw [other]; exact Bool.false_ne_true)⟩

end World

theorem Action.emit_keepsSilent (event : Event) (other : event.isOfPatch = false) :
    (emit event).Moves World.KeepsSilent :=
  fun world => world.keepsSilent_telling other

end TransportSeams

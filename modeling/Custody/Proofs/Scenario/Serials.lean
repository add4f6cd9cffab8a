import Custody.Proofs.Scenario.Sweep
import Custody.Proofs.Session.Serials

/-!
# Serials in a scenario

In every run of a scenario the named locations are issued and only issued locations were read.
So a location that an operation makes has not been read before, whatever was read of others.
-/

namespace Custody

open Watch

namespace Scenario.State

/-- Only issued locations were read, and the named values hold only issued locations. -/
abbrev Issued (state : State) : Prop := state.Watched serials

theorem start_issued (script : Library.Script) (settings : Settings) (storage : Storage) :
    (start script settings storage).Issued := start_watched (by rintro _ ⟨⟩)

variable {state : State}

/-- Every run of steps reads only issued locations and names only issued values. -/
theorem Sound.steps_issued (sound : state.Sound) (issued : state.Issued) (steps : List Step) :
    (state.steps steps).1.Issued :=
  (sound.keeps_steps issued fun step _ =>
    step.operation.suits_of_forall fun _ => True.intro).2

/-- A named location is issued. -/
theorem Issued.location (issued : state.Issued) {name : Text} {location : Location}
    (named : (name, .location location) ∈ state.names) :
    location.Issued state.session.nextSerial := issued.names _ named

end Scenario.State
end Custody

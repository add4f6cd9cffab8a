import Custody.Proofs.Scenario.Sweep

/-!
# Loans in a scenario

Whatever a scenario asks for, every string and every token buffer that the library hands out
in the course of a step is given back in the course of that step, once.  No operation leaves a
debt behind; from one step to a whole run it is an induction.
-/

namespace Custody

open Watch

/-- The debts of the library are the same. -/
def Session.SameDebts (before after : Session) : Prop := before.library.SameDebts after.library

namespace Session.SameDebts

instance : IsPreorder Session SameDebts where
  refl _ := .refl _
  trans _ _ _ := .trans

instance : Steady (Watch.of SameDebts) where
  refl := refl_of SameDebts
  trans := trans_of SameDebts
  lasts _ _ := True.intro
  aside change _ := ⟨change.debts, True.intro⟩
  fresh _ := True.intro
  recalls _ _ := True.intro
  copies _ _ _ _ := True.intro

instance : Recording (Watch.of SameDebts) where
  records _ _ _ := ⟨refl_of SameDebts _, True.intro⟩

instance : Producing (Watch.of SameDebts) where
  produces _ debts _ := ⟨debts, True.intro⟩

instance : Revising (Watch.of SameDebts) where
  revises _ := ⟨refl_of SameDebts _, True.intro⟩

end Session.SameDebts

namespace Scenario

namespace State

variable {state : State} {origin : Library.State}

/-- No run of steps leaves a debt behind. -/
theorem Sound.steps_owes (sound : state.Sound)
    (owes : origin.Owes .nothing state.session.library) (steps : List Step) :
    origin.Owes .nothing (state.steps steps).1.session.library := by
  have watched : state.Watched (Watch.of Session.SameDebts) := ⟨True.intro, namesFit_of _⟩
  have same : state.session.SameDebts (state.steps steps).1.session :=
    (sound.keeps_steps watched fun step _ =>
      step.operation.suits_of_forall fun _ => True.intro).1
  exact same origin .nothing owes

/-- A step leaves no debt behind. -/
theorem Sound.step_owes (sound : state.Sound)
    (owes : origin.Owes .nothing state.session.library) (step : Step) :
    origin.Owes .nothing (state.step step).1.session.library := sound.steps_owes owes [step]

end State

/-- Every operation gives back what the library hands out in the course of it, whether the
operation returns or fails, in every run over every script: each string with data once, whether its
bytes can be read or not, no string without data, and each token buffer once, even without tokens.
So from the beginning of the run nothing was lost and nothing was given back twice. -/
theorem steps_giveBackOnce (script : Library.Script) (settings : Settings) (storage : Storage)
    (earlier : List Step) (next : Step) :
    let before := ((State.start script settings storage).steps earlier).1
    let after := (before.step next).1
    before.session.library.GivesBackOnce after.session.library ∧
      (Library.State.start script).GivesBackOnce after.session.library := by
  have sound := State.start_sound script settings storage
  have begun : (Library.State.start script).Owes .nothing
      (State.start script settings storage).session.library := .refl _
  have reached := sound.steps_owes begun earlier
  have sound := sound.steps earlier
  exact ⟨(sound.step_owes (.refl _) next).givesBackOnce,
    (sound.step_owes reached next).givesBackOnce⟩

/-- The summary of a run never lists a string that was not given back. -/
theorem run_strings (script : Library.Script) (settings : Settings) (storage : Storage)
    (steps : List Step) : (run script settings storage steps).strings = 0 := by
  have begun : (Library.State.start script).Owes .nothing
      (State.start script settings storage).session.library := .refl _
  have sound := State.start_sound script settings storage
  have once := (sound.steps_owes begun steps).givesBackOnce
  refine List.length_eq_zero_iff.mpr (List.filter_eq_nil_iff.mpr fun number _ pending => ?_)
  obtain ⟨due, kept⟩ := Bool.and_eq_true_iff.mp pending
  have returned := once.string_once number
  rw [if_pos ⟨Nat.zero_le _, due⟩] at returned
  have present := List.count_pos_iff.mp (Nat.lt_of_lt_of_eq Nat.zero_lt_one returned.symm)
  rw [List.contains_iff_mem.mpr (List.mem_of_mem_drop present)] at kept
  cases kept

end Scenario
end Custody

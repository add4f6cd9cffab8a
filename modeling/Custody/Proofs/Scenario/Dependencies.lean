import Custody.Proofs.Scenario.Steps

/-!
# Dependencies

A unit and an indexing session depend on their index, a diagnostic on its unit or
set, and a set of notes on its diagnostic.  Whatever is open depends on open holders
only, adoption goes from open holders to younger ones, closing comes to an end, and
the library gets back what was derived from a handle before the handle itself.
-/

namespace Custody

open Facade

namespace Session

/-- A holder was registered to be closed before another one. -/
def Adopted (session : Session) (parent child : Nat) : Prop :=
  ∃ adoption ∈ session.adoptions, adoption.parent = parent ∧ adoption.child = child

/-- The library gets back what was derived from a handle before the handle itself. -/
def ReturnsInOrder (library : Library.State) : Prop :=
  library.disposals.Pairwise fun earlier later => ¬ library.ledger.Derived later earlier

/-- What depends on something is closed and given back before it. -/
structure KeepsDependencies (session : Session) : Prop where
  /-- Only open holders adopt, and only younger ones are adopted. -/
  adoption : ∀ adoption ∈ session.adoptions,
    adoption.parentOpen = true ∧ adoption.parent < adoption.child
  /-- Who was adopted is open only while the holder that adopted it is. -/
  open_parent : ∀ parent child, session.Adopted parent child →
    session.estate.isOpen child = true → session.estate.isOpen parent = true
  /-- The index of an open unit or indexing session adopted it and is open. -/
  index : ∀ number wrapper index, session.estate.isOpen number = true →
    session.estate.content? number = some wrapper → wrapper.index? = some index →
      session.Adopted index number ∧ session.estate.isOpen index = true
  /-- An open holder has a handle of its sort. -/
  sorted : ∀ number handle wrapper, session.estate.handle? number = some handle →
    session.estate.content? number = some wrapper → handle.sort = wrapper.sort
  /-- The unit of an open diagnostic that the library allocated adopted it and is open. -/
  unit : ∀ number count, session.estate.handle? number = some (.owned .diagnostic count) →
    ∃ unit index overlay, session.estate.content? number = some (.diagnostic unit) ∧
      session.estate.content? unit = some (.unit index overlay) ∧
      session.Adopted unit number ∧ session.estate.isOpen unit = true
  /-- The set of an open note adopted it and is open. -/
  set : ∀ number upper position, session.estate.handle? number = some (.note upper position) →
    ∃ set owner, session.estate.content? set = some (.set owner) ∧
      session.Adopted set number ∧ session.estate.handle? set = some upper
  /-- The diagnostic of an open set of notes adopted it and is open. -/
  diagnostic : ∀ number upper, session.estate.handle? number = some (.notes upper) →
    ∃ diagnostic owner, session.estate.content? diagnostic = some (.diagnostic owner) ∧
      session.Adopted diagnostic number ∧ session.estate.handle? diagnostic = some upper
  /-- Adoption never goes in a circle. -/
  acyclic : ∀ number, ¬ Relation.TransGen session.Adopted number number
  /-- Closing comes to an end in every order of the dependants, and gives back in order. -/
  closes : ∀ order, DisposesByLibrary order → ∀ number,
    (order.close number session.estate session.library).failure = none ∧
      (order.close number session.estate session.library).estate.isOpen number = false ∧
      ReturnsInOrder (order.close number session.estate session.library).world
  /-- So far everything was given back in order. -/
  returned : ReturnsInOrder session.library

end Session

section Valid

variable {session : Session} (valid : session.holdings.Valid)
include valid

theorem Session.lt_of_adopted (parent child : Nat) (adopted : session.Adopted parent child) :
    parent < child := by
  obtain ⟨adoption, member, rfl, rfl⟩ := adopted
  exact valid.orderly.parent_lt adoption member

/-- An open holder was adopted by an open holder of the handle above. -/
theorem Session.exists_adopted {number : Nat} {handle upper : Handle}
    (held : session.estate.handle? number = some handle)
    (above : session.library.ledger.above? handle = some upper) :
    ∃ parent wrapper, session.Adopted parent number ∧
      session.estate.handle? parent = some upper ∧
      session.estate.content? parent = some wrapper ∧ upper.sort = wrapper.sort := by
  obtain ⟨adoption, member, rfl, heldAbove⟩ := valid.exists_adopter held above
  have made := valid.orderly.made_of_held heldAbove
  obtain ⟨wrapper, found⟩ := valid.orderly.exists_content made
  exact ⟨adoption.parent, wrapper, ⟨adoption, member, rfl, rfl⟩, heldAbove, found,
    valid.founded.sort_eq found made⟩

/-- The unit of an open diagnostic that the library allocated is the one that adopted it. -/
theorem Session.exists_unit {number count : Nat}
    (held : session.estate.handle? number = some (.owned .diagnostic count)) :
    ∃ unit index overlay, session.estate.content? number = some (.diagnostic unit) ∧
      session.estate.content? unit = some (.unit index overlay) ∧
      session.Adopted unit number ∧ session.estate.isOpen unit = true := by
  have made := valid.orderly.made_of_held held
  obtain ⟨wrapper, found⟩ := valid.orderly.exists_content made
  have sorted : HandleKind.diagnostic = wrapper.sort := valid.founded.sort_eq found made
  obtain ⟨upper, above⟩ := valid.founded.unit_above made
  obtain ⟨parent, upperWrapper, adopted, heldAbove, foundAbove, sortedAbove⟩ :=
    session.exists_adopted valid held above
  cases wrapper with
  | diagnostic owner =>
      -- The owner and the parent were made for the same unit.
      have spaced := valid.founded.spaced found made rfl
      rw [Library.Ledger.space_of_parent? above] at spaced
      have same : owner = parent :=
        valid.founded.injective spaced (valid.orderly.made_of_held heldAbove) rfl
      subst same
      cases upperWrapper with
      | unit index overlay =>
          exact ⟨owner, index, overlay, found, foundAbove, adopted,
            Estate.isOpen_iff.mpr ⟨_, heldAbove⟩⟩
      | _ => cases sortedAbove
  | _ => cases sorted

/-- Valid holdings keep dependencies. -/
theorem Session.keepsDependencies : session.KeepsDependencies where
  adoption := fun adoption member =>
    ⟨valid.orderly.parentOpen adoption member, valid.orderly.parent_lt adoption member⟩
  open_parent := by
    rintro _ _ ⟨adoption, member, rfl, rfl⟩ opened
    exact valid.orderly.open_parent adoption member opened
  index := by
    intro number wrapper index opened found indexed
    obtain ⟨adoption, member, rfl, rfl⟩ := valid.founded.indexed found indexed
    exact ⟨⟨adoption, member, rfl, rfl⟩, valid.orderly.open_parent adoption member opened⟩
  sorted := fun number handle wrapper held found =>
    valid.founded.sort_eq found (valid.orderly.made_of_held held)
  unit := fun number count held => session.exists_unit valid held
  set := by
    intro number upper position held
    have proper : upper.sort = .set := valid.founded.proper (valid.orderly.made_of_held held)
    obtain ⟨parent, wrapper, adopted, heldAbove, found, sorted⟩ :=
      session.exists_adopted valid held rfl
    rw [proper] at sorted
    cases wrapper with
    | set owner => exact ⟨parent, owner, found, adopted, heldAbove⟩
    | _ => cases sorted
  diagnostic := by
    intro number upper held
    have proper : upper.sort = .diagnostic :=
      valid.founded.proper (valid.orderly.made_of_held held)
    obtain ⟨parent, wrapper, adopted, heldAbove, found, sorted⟩ :=
      session.exists_adopted valid held rfl
    rw [proper] at sorted
    cases wrapper with
    | diagnostic owner => exact ⟨parent, owner, found, adopted, heldAbove⟩
    | _ => cases sorted
  acyclic := fun number circle =>
    Nat.lt_irrefl number (lt_of_transGen (session.lt_of_adopted valid) circle)
  closes := by
    intro order byLibrary number
    obtain ⟨course, peaceful, closed⟩ := close_course byLibrary session valid number
    exact ⟨peaceful, closed, (course.valid valid).accurate.ordered⟩
  returned := valid.accurate.ordered

end Valid

namespace Scenario

/-- Whatever a scenario does, it keeps dependencies. -/
theorem steps_keepDependencies (script : Library.Script) (settings : Settings) (storage : Storage)
    (steps : List Step) :
    ((State.start script settings storage).steps steps).1.session.KeepsDependencies :=
  Session.keepsDependencies ((State.start_sound script settings storage).steps steps).valid

end Scenario
end Custody

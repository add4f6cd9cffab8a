import Custody.Proofs.Estate.Teardown

/-!
# Closing and the world

Closing clears holders and moves the world by disposals, one after the other, and does
nothing else.  This needs no rank.  Where one discipline sees less of the world than
another one and otherwise agrees with it, closing under the one is what is seen of closing
under the other.
-/

namespace Custody

namespace Outcome

variable {η α σ τ : Type}

/-- An outcome of which only a part of the world is seen. -/
def see (view : τ → σ) (outcome : Outcome η α τ) : Outcome η α σ :=
  ⟨outcome.estate, view outcome.world, outcome.failure⟩

@[simp] theorem see_estate (view : τ → σ) (outcome : Outcome η α τ) :
    (outcome.see view).estate = outcome.estate := rfl

@[simp] theorem see_world (view : τ → σ) (outcome : Outcome η α τ) :
    (outcome.see view).world = view outcome.world := rfl

@[simp] theorem see_failure (view : τ → σ) (outcome : Outcome η α τ) :
    (outcome.see view).failure = outcome.failure := rfl

end Outcome

namespace Discipline

variable {η α σ τ : Type}

/-- One disposal, whatever fails in it, takes one world to another. -/
def Disposes (discipline : Discipline η α σ) (before after : σ) : Prop :=
  ∃ estate holder handle, (discipline.dispose estate holder handle before).1 = after

/-- Holders are cleared at most, and the world is moved by disposals. -/
structure Advances (discipline : Discipline η α σ) (estate : Estate η α) (world : σ)
    (outcome : Outcome η α σ) : Prop where
  /-- Holders are at most cleared. -/
  wanes : estate.Wanes outcome.estate
  /-- Disposals are all that happens to the world. -/
  disposals : Relation.ReflTransGen discipline.Disposes world outcome.world

namespace Advances

variable {discipline : Discipline η α σ} {estate : Estate η α} {world : σ}

theorem refl (failure : Option Failure) :
    discipline.Advances estate world ⟨estate, world, failure⟩ := ⟨.refl estate, .refl⟩

theorem trans {middle later : Outcome η α σ} (first : discipline.Advances estate world middle)
    (second : discipline.Advances middle.estate middle.world later) :
    discipline.Advances estate world later :=
  ⟨first.wanes.trans second.wanes, first.disposals.trans second.disposals⟩

/-- What no disposal changes is the same after closing. -/
theorem spares
    {γ : Type}
    {outcome : Outcome η α σ}
    (advances : discipline.Advances estate world outcome)
    (measure : σ → γ)
    (spared : ∀ estate holder handle world,
      measure (discipline.dispose estate holder handle world).1 = measure world) :
    measure outcome.world = measure world := by
  obtain ⟨_, disposals⟩ := advances
  generalize outcome.world = later at disposals ⊢
  induction disposals with
  | refl => rfl
  | tail _ disposed inductionHypothesis =>
      obtain ⟨estate, holder, handle, rfl⟩ := disposed
      rw [spared, inductionHypothesis]

end Advances

section Closing

variable {discipline : Discipline η α σ}

theorem closeEach_advances {close : Nat → Estate η α → σ → Outcome η α σ}
    (each : ∀ holder estate world, discipline.Advances estate world (close holder estate world))
    (order : List Nat) (estate : Estate η α) (world : σ) :
    discipline.Advances estate world (closeEach close order estate world) := by
  induction order generalizing estate world with
  | nil => exact .refl none
  | cons holder rest inductionHypothesis =>
      unfold closeEach
      dsimp only
      split
      · exact each holder estate world
      · exact (each holder estate world).trans (inductionHypothesis _ _)

theorem release_advances (holder : Nat) (handle : η) (owned : Bool) (estate : Estate η α)
    (world : σ) :
    discipline.Advances estate world (discipline.release holder handle owned estate world) := by
  unfold release
  dsimp only
  split
  · exact ⟨.clear estate holder, .single ⟨_, _, _, rfl⟩⟩
  · exact ⟨.clear estate holder, .refl⟩

theorem closeWithin_advances (depth holder : Nat) (estate : Estate η α) (world : σ) :
    discipline.Advances estate world (discipline.closeWithin depth holder estate world) := by
  induction depth generalizing holder estate world with
  | zero =>
      unfold closeWithin
      split
      · exact .refl none
      · split
        · exact .refl none
        · exact .refl (some .tooDeep)
  | succ depth inductionHypothesis =>
      unfold closeWithin
      split
      · exact .refl none
      · next record present =>
        split
        · exact .refl none
        · next handle opened =>
          have below := closeEach_advances inductionHypothesis
            (discipline.arrange estate world holder record.dependants) estate world
          dsimp only
          split
          · exact below
          · exact below.trans (release_advances _ _ _ _ _)

theorem closeDependants_advances (holder : Nat) (estate : Estate η α) (world : σ) :
    discipline.Advances estate world (discipline.closeDependants holder estate world) := by
  unfold closeDependants
  split
  · exact .refl none
  · exact closeEach_advances (closeWithin_advances _) _ _ _

end Closing

/-- One discipline does what another one does, on a world of which the other sees a part. -/
structure Seen (view : τ → σ) (fine : Discipline η α τ) (coarse : Discipline η α σ) : Prop where
  /-- Dependants are closed in the same order. -/
  arranges : ∀ estate world holder items,
    fine.arrange estate world holder items = coarse.arrange estate (view world) holder items
  /-- Disposals do the same to what is seen, and fail alike. -/
  disposes : ∀ estate holder handle world,
    coarse.dispose estate holder handle (view world) =
      (view (fine.dispose estate holder handle world).1,
        (fine.dispose estate holder handle world).2)

namespace Seen

variable {view : τ → σ} {fine : Discipline η α τ} {coarse : Discipline η α σ}

theorem release (seen : Seen view fine coarse) (holder : Nat) (handle : η) (owned : Bool)
    (estate : Estate η α) (world : τ) :
    coarse.release holder handle owned estate (view world) =
      (fine.release holder handle owned estate world).see view := by
  cases owned with
  | false => rfl
  | true =>
      unfold Discipline.release
      simp only [if_true, seen.disposes]
      rfl

theorem closeEach
    {fineClose : Nat → Estate η α → τ → Outcome η α τ}
    {coarseClose : Nat → Estate η α → σ → Outcome η α σ}
    (each : ∀ holder estate world,
      coarseClose holder estate (view world) = (fineClose holder estate world).see view)
    (order : List Nat)
    (estate : Estate η α)
    (world : τ) :
    Discipline.closeEach coarseClose order estate (view world) =
      (Discipline.closeEach fineClose order estate world).see view := by
  induction order generalizing estate world with
  | nil => rfl
  | cons holder rest inductionHypothesis =>
      unfold Discipline.closeEach
      rw [each holder estate world]
      dsimp only [Outcome.see_failure, Outcome.see_estate, Outcome.see_world]
      cases (fineClose holder estate world).failure with
      | some wording => rfl
      | none => exact inductionHypothesis _ _

/-- Closing is seen as closing. -/
theorem closeWithin (seen : Seen view fine coarse) (depth holder : Nat) (estate : Estate η α)
    (world : τ) :
    coarse.closeWithin depth holder estate (view world) =
      (fine.closeWithin depth holder estate world).see view := by
  induction depth generalizing holder estate world with
  | zero =>
      unfold Discipline.closeWithin
      cases estate.get? holder with
      | none => rfl
      | some record =>
          dsimp only
          cases record.handle <;> rfl
  | succ depth inductionHypothesis =>
      cases opened : estate.isOpen holder with
      | false =>
          rw [coarse.closeWithin_of_closed _ _ opened, fine.closeWithin_of_closed _ _ opened]
          rfl
      | true =>
          obtain ⟨handle, held⟩ := Estate.isOpen_iff.mp opened
          obtain ⟨record, present, heldHere⟩ := Estate.handle?_eq_some_iff.mp held
          rw [coarse.closeWithin_succ_of_open _ _ present heldHere,
            fine.closeWithin_succ_of_open _ _ present heldHere]
          dsimp only
          rw [← seen.arranges, closeEach inductionHypothesis]
          dsimp only [Outcome.see_failure, Outcome.see_estate, Outcome.see_world]
          split
          · rfl
          · exact seen.release holder handle record.owned _ _

end Seen
end Discipline
end Custody

import Custody.Estate.Basic

/-!
# Closing

Closing a holder closes its dependants first, then forgets the handle and, when it
was owned, disposes of it.  Closing a closed holder does nothing.  A failure stops
the closing at once, and what was not reached stays open.  The order of the
dependants is left to a discipline, which also says what disposing does.
-/

namespace Custody

/-- How an estate is closed: an order for dependants and an effect for disposal. -/
structure Discipline (η α σ : Type) where
  /-- The order in which dependants are closed. -/
  arrange : Estate η α → σ → Nat → List Nat → List Nat
  /-- An arrangement neither drops nor repeats a dependant. -/
  arrange_perm : ∀ estate world holder items, (arrange estate world holder items).Perm items
  /-- What disposing of the handle of a holder does to the world, and how it may fail. -/
  dispose : Estate η α → Nat → η → σ → σ × Option Failure

/-- An estate and its world after an attempt to close, with the failure that stopped it. -/
structure Outcome (η α σ : Type) where
  /-- The estate. -/
  estate : Estate η α
  /-- The world. -/
  world : σ
  /-- The failure, if any. -/
  failure : Option Failure
  deriving Inhabited

namespace Discipline

variable {η α σ : Type}

/-- Dependants in the order of their adoption. -/
def inOrder (dispose : Estate η α → Nat → η → σ → σ × Option Failure) : Discipline η α σ where
  arrange := fun _ _ _ items => items
  arrange_perm := fun _ _ _ _ => .refl _
  dispose := dispose

/-- Closes several holders in turn and stops at the first failure. -/
def closeEach
    (close : Nat → Estate η α → σ → Outcome η α σ) :
    List Nat → Estate η α → σ → Outcome η α σ
  | [], estate, world => ⟨estate, world, none⟩
  | holder :: rest, estate, world =>
      let outcome := close holder estate world
      match outcome.failure with
      | some _ => outcome
      | none => closeEach close rest outcome.estate outcome.world

@[simp] theorem closeEach_nil
    (close : Nat → Estate η α → σ → Outcome η α σ)
    (estate : Estate η α)
    (world : σ) :
    closeEach close [] estate world = ⟨estate, world, none⟩ := rfl

/-- Forgets the handle of a holder and disposes of it if it was owned.  The debug record of the
class and the handle that follows a disposal is left out here. -/
def release
    (discipline : Discipline η α σ)
    (holder : Nat)
    (handle : η)
    (owned : Bool)
    (estate : Estate η α)
    (world : σ) : Outcome η α σ :=
  let cleared := estate.clear holder
  if owned then
    let disposed := discipline.dispose cleared holder handle world
    ⟨cleared, disposed.1, disposed.2⟩
  else ⟨cleared, world, none⟩

/-- Closing with a bound on the depth of adoption. -/
def closeWithin
    (discipline : Discipline η α σ) :
    Nat → Nat → Estate η α → σ → Outcome η α σ
  | depth, holder, estate, world =>
      match estate.get? holder with
      | none => ⟨estate, world, none⟩
      | some record =>
          match record.handle with
          | none => ⟨estate, world, none⟩
          | some handle =>
              match depth with
              | 0 => ⟨estate, world, some .tooDeep⟩
              | depth + 1 =>
                  let order := discipline.arrange estate world holder record.dependants
                  let outcome := closeEach (discipline.closeWithin depth) order estate world
                  match outcome.failure with
                  | some _ => outcome
                  | none =>
                      discipline.release holder handle record.owned outcome.estate outcome.world

/-- Closes a holder.  A chain of adoptions without repetition is never longer than the estate
has holders, so the bound on the depth only stops adoption in a circle.  The limit of the
interpreter on calls within calls, which a long chain can reach, is left out here. -/
def close
    (discipline : Discipline η α σ)
    (holder : Nat)
    (estate : Estate η α)
    (world : σ) : Outcome η α σ :=
  discipline.closeWithin (estate.size + 1) holder estate world

/-- Closes the dependants of a holder and leaves the holder open. -/
def closeDependants
    (discipline : Discipline η α σ)
    (holder : Nat)
    (estate : Estate η α)
    (world : σ) : Outcome η α σ :=
  match estate.get? holder with
  | none => ⟨estate, world, none⟩
  | some record =>
      closeEach (discipline.closeWithin (estate.size + 1))
        (discipline.arrange estate world holder record.dependants) estate world

end Discipline
end Custody

import Custody.Proofs.Session.Watch

/-!
# Serials

Objects are numbered in turn, and what was found at a location is kept under the location
with its number.  A number is issued once it lies below the next one.  No operation reads a
location whose number was not issued, as long as it is given none, so that a location that
has just been made was never read before.
-/

namespace Custody

open Facade Watch

/-- The number of a location lies below a bound. -/
def Location.Issued (bound : Nat) (location : Location) : Prop := location.serial < bound

theorem Location.Issued.mono {bound later : Nat} {location : Location}
    (issued : location.Issued bound) (grown : bound ≤ later) : location.Issued later :=
  Nat.lt_of_lt_of_le issued grown

namespace Session

variable {before after : Session}

/-- Only locations with a number that was issued were read. -/
def Issued (session : Session) : Prop :=
  ∀ entry ∈ session.expansions, entry.1.Issued session.nextSerial

/-- A location that was not issued was not read. -/
theorem Issued.lookup_eq_none {session : Session} (issued : session.Issued)
    {location : Location} (new : session.nextSerial ≤ location.serial) :
    session.expansions.lookup location = none := by
  rw [List.lookup_eq_none_iff]
  intro entry read
  rw [bne_iff_ne]
  rintro rfl
  exact Nat.not_lt.mpr new (issued entry read)

/-- What was issued is issued still when nothing was read. -/
theorem Issued.of_expansions (issued : before.Issued)
    (expansions : after.expansions = before.expansions)
    (serials : before.nextSerial ≤ after.nextSerial) : after.Issued := by
  intro entry listed
  rw [expansions] at listed
  exact (issued entry listed).mono serials

/-- One more location is read. -/
theorem Issued.record (issued : before.Issued) {location : Location}
    (new : location.Issued before.nextSerial) (expansion : Expansion) :
    Issued { before with expansions := before.expansions ++ [(location, expansion)] } := by
  intro entry listed
  rcases List.mem_append.mp listed with old | last
  · exact issued entry old
  · rw [List.mem_singleton.mp last]
    exact new

end Session

/-- The watch on serials: none is given out again, and only issued locations are read. -/
def Watch.serials : Watch where
  relation before after := before.nextSerial ≤ after.nextSerial
  holds := Session.Issued
  issued session number := number < session.nextSerial
  admits _ := True

namespace Watch.serials

instance : Steady serials where
  refl _ := Nat.le_refl _
  trans := Nat.le_trans
  lasts grown issued := Nat.lt_of_lt_of_le issued grown
  aside change issued := ⟨change.serials, issued.of_expansions change.expansions change.serials⟩
  fresh _ := Nat.lt_succ_self _
  recalls _ _ := True.intro
  copies _ _ _ _ := True.intro

instance : Recording serials where
  records _ new issued := ⟨Nat.le_refl _, issued.record new _⟩

instance : Producing serials where
  produces _ _ issued := ⟨Nat.le_refl _, issued⟩

instance : Revising serials where
  revises issued := ⟨Nat.le_refl _, issued⟩

end Watch.serials

end Custody

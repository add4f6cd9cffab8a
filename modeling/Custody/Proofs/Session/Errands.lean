import Custody.Proofs.Session.Conduct

/-!
# Errands

Two kinds of operations can do more than a course of moves.  An errand fetches a
unit.  It loses one when the library was asked without naming a file and provides a
unit, and the operation fails all the same; under what condition that may happen is
said with each errand.  Parsing a unit again may spoil the unit:
then its handle is misused once before the unit is closed.  Both keep holdings valid.
-/

namespace Custody
namespace Holdings

/-- What an operation that may fetch a unit does to the holdings, and whether it succeeds.  It loses
a unit only under a condition. -/
inductive Errand (mayLose : Prop) (holdings : Holdings) : Bool → Holdings → Prop
  /-- There were only moves. -/
  | course {succeeded : Bool} {later : Holdings} (course : holdings.Course later) :
      Errand mayLose holdings succeeded later
  /-- A unit was asked for without naming a file; if that failed, none was provided. -/
  | asked {succeeded : Bool} {middle later : Holdings}
      (before : holdings.Course middle)
      (after : middle.ask.Course later)
      (settled : succeeded = true ∨ middle.books.reply.providesUnit = false) :
      Errand mayLose holdings succeeded later
  /-- A unit was provided without naming a file, and nobody was made to hold it. -/
  | lost {middle : Holdings} {number : Nat} {upper : Handle}
      (allowed : mayLose)
      (before : holdings.Course middle)
      (held : middle.estate.handle? number = some upper)
      (provided : middle.books.reply.providesUnit = true) :
      Errand mayLose holdings false (middle.ask.grant .unit (some upper))

/-- An operation loses a unit when it asked for one without naming a file, was provided with one,
and failed. -/
def Loses (before after : Holdings) (succeeded : Bool) : Prop :=
  before.books.nameless < after.books.nameless ∧ before.books.reply.providesUnit = true ∧
    succeeded = false

variable {holdings middle later : Holdings}

namespace Errand

variable {mayLose : Prop} {succeeded : Bool}

/-- An errand may begin with a course of moves. -/
theorem after (errand : middle.Errand mayLose succeeded later) (course : holdings.Course middle) :
    holdings.Errand mayLose succeeded later := by
  cases errand with
  | course further => exact .course (course.trans further)
  | asked before after settled => exact .asked (course.trans before) after settled
  | lost allowed before held provided => exact .lost allowed (course.trans before) held provided

theorem mono {weaker : Prop} (errand : holdings.Errand mayLose succeeded later)
    (weakens : mayLose → weaker) : holdings.Errand weaker succeeded later := by
  cases errand with
  | course course => exact .course course
  | asked before after settled => exact .asked before after settled
  | lost allowed before held provided => exact .lost (weakens allowed) before held provided

protected theorem valid (errand : holdings.Errand mayLose succeeded later)
    (valid : holdings.Valid) :
    later.Valid := by
  cases errand with
  | course course => exact course.valid valid
  | asked before after _ => exact after.valid (before.valid valid).ask
  | @lost middle number upper _ before held _ =>
      have middleValid := before.valid valid
      refine middleValid.ask.grant .unit ?_
      rintro _ ⟨⟩
      exact middleValid.founded.root_mem (middleValid.orderly.made_of_held held)

/-- An errand forgets no holder, misuses no handle, and loses a unit exactly if it asked for it
without naming a file, was provided with it, and failed, which happens only if it may. -/
theorem account (errand : holdings.Errand mayLose succeeded later) (valid : holdings.Valid) :
    holdings.made <+: later.made ∧ later.books.strays = holdings.books.strays ∧
      (holdings.Loses later succeeded →
        mayLose ∧ ∃ number, later.lost = holdings.lost ++ [.owned .unit number]) ∧
      (¬ holdings.Loses later succeeded → later.lost = holdings.lost) := by
  cases errand with
  | course course =>
      have faithful := course.faithful valid
      refine ⟨faithful.made, faithful.strays, fun loses => ?_, fun _ => faithful.lost⟩
      have grown := loses.1
      rw [faithful.nameless] at grown
      omega
  | @asked succeeded middle later before after settled =>
      have first := before.faithful valid
      have second := after.faithful (before.valid valid).ask
      refine ⟨first.made.trans second.made, second.strays.trans first.strays, fun loses => ?_,
        fun _ => second.lost.trans first.lost⟩
      rw [first.reply, loses.2.2, loses.2.1] at settled
      simp at settled
  | @lost middle number upper allowed before held provided =>
      have first := before.faithful valid
      have middleValid := before.valid valid
      refine ⟨first.made, first.strays, fun _ => ?_, fun kept => absurd ?_ kept⟩
      · exact ⟨allowed, _, (lost_grant middleValid.ask .unit _).trans
          (congrArg (· ++ [middle.ledger.fresh .unit]) first.lost)⟩
      · refine ⟨?_, first.reply ▸ provided, rfl⟩
        change _ < middle.books.nameless + 1
        rw [first.nameless]
        omega

end Errand

/-- What parsing a unit again does to the holdings. -/
inductive Reparsed (holdings : Holdings) (unit : Nat) : Holdings → Prop
  /-- There were only moves, and an open unit stays open. -/
  | kept {later : Holdings}
      (course : holdings.Course later)
      (still : holdings.estate.isOpen unit = true → later.estate.isOpen unit = true) :
      Reparsed holdings unit later
  /-- The unit was spoiled, misused once, and closed. -/
  | abandoned {middle : Holdings} {handle : Handle}
      (heldBefore : holdings.estate.handle? unit = some handle)
      (before : holdings.Course middle)
      (held : middle.estate.handle? unit = some handle)
      (leaf : ∀ child, middle.estate.Adopts unit child → middle.estate.isOpen child = false)
      (failed : middle.books.reply.status ≠ 0) :
      Reparsed holdings unit (((middle.release unit handle).spoil handle).stray handle)

namespace Reparsed

variable {unit : Nat}

/-- A unit that was closed is not held any more, so it may be spoiled. -/
protected theorem valid (reparsed : holdings.Reparsed unit later) (valid : holdings.Valid)
    (isUnit : ∀ handle, holdings.made[unit]? = some handle → handle.isOwned = true) :
    later.Valid := by
  cases reparsed with
  | kept course _ => exact course.valid valid
  | @abandoned middle handle heldBefore before held leaf _ =>
      have middleValid := before.valid valid
      have owned := isUnit handle (valid.orderly.made_of_held heldBefore)
      refine ((middleValid.release held leaf).spoil fun other heldOther => ?_).stray handle
      have standing := (middleValid.release held leaf).backed.stands heldOther owned
      rw [release_of_owned unit owned] at standing
      have gone := (Library.Ledger.stands_retire middle.ledger handle handle).symm.trans standing
      simp at gone

/-- Parsing again forgets no holder and loses no handle.  It misuses the handle of its unit exactly
if it closes the unit. -/
theorem account (reparsed : holdings.Reparsed unit later) (valid : holdings.Valid) :
    holdings.made <+: later.made ∧ later.lost = holdings.lost ∧
      later.books.nameless = holdings.books.nameless ∧
      later.books.strays = holdings.books.strays ++
        if later.estate.isOpen unit then [] else (holdings.estate.handle? unit).toList := by
  cases reparsed with
  | kept course still =>
      have faithful := course.faithful valid
      refine ⟨faithful.made, faithful.lost, faithful.nameless, ?_⟩
      rw [faithful.strays]
      cases held : holdings.estate.handle? unit with
      | none => simp
      | some handle => simp [still (Estate.isOpen_iff.mpr ⟨handle, held⟩)]
  | @abandoned middle handle heldBefore before held leaf _ =>
      have faithful := Course.faithful (before.tail (.release held leaf)) valid
      have closed : (middle.estate.clear unit).isOpen unit = false := by
        rw [Estate.isOpen_clear]
        simp
      refine ⟨faithful.made, ?_, faithful.nameless, ?_⟩
      · refine Eq.trans ?_ faithful.lost
        unfold lost
        exact congrArg (List.filter _) (Library.Ledger.live_spoil _ handle)
      · change (middle.release unit handle).books.strays ++ [handle] = holdings.books.strays ++
          if (middle.estate.clear unit).isOpen unit then [] else _
        rw [closed, faithful.strays, heldBefore]
        rfl

/-- A unit is closed only if the library could not parse it again. -/
theorem status_ne_zero (reparsed : holdings.Reparsed unit later) (valid : holdings.Valid)
    (opened : holdings.estate.isOpen unit = true) (closed : later.estate.isOpen unit = false) :
    holdings.books.reply.status ≠ 0 := by
  cases reparsed with
  | kept course still =>
      rw [still opened] at closed
      cases closed
  | abandoned _ before _ _ failed =>
      rw [← (before.faithful valid).reply]
      exact failed

end Reparsed
end Holdings

namespace Facade

variable {α β : Type} {holdings : Holdings}

variable {mayLose : Prop}

/-- An operation runs an errand, which loses a unit only under a condition. -/
def Fetches (mayLose : Prop) (holdings : Holdings) (action : Facade α) : Prop :=
  Ensures holdings action fun result later => holdings.Errand mayLose result.isOk later

theorem Fetches.mono {weaker : Prop} {action : Facade α} (fetches : Fetches mayLose holdings action)
    (weakens : mayLose → weaker) : Fetches weaker holdings action :=
  Ensures.mono fetches fun _ _ errand => errand.mono weakens

/-- An operation that runs can be followed by an errand. -/
theorem Runs.thenFetches
    {action : Facade α}
    {next : α → Facade β}
    {middle : List Handle → α → Prop}
    (first : Runs holdings action middle)
    (valid : holdings.Valid)
    (rest : ∀ value later, later.Valid → middle later.made value →
      Fetches mayLose later (next value)) : Fetches mayLose holdings (action >>= next) := by
  refine Ensures.bind first ?_ ?_
  · rintro value later ⟨course, holds⟩
    refine Ensures.mono (rest value later (course.valid valid) (holds value rfl)) ?_
    exact fun result last errand => errand.after course
  · rintro failure later ⟨course, _⟩
    exact .course course

theorem Reads.thenFetches
    {action : Facade α}
    {next : α → Facade β}
    {middle : α → Prop}
    (first : Reads holdings action middle)
    (rest : ∀ value, middle value → Fetches mayLose holdings (next value)) :
    Fetches mayLose holdings (action >>= next) :=
  first.andThen rest fun _ => .course .refl

/-- Running is an errand that fetches nothing. -/
theorem Runs.fetches {action : Facade α} {fits : List Handle → α → Prop}
    (first : Runs holdings action fits) : Fetches mayLose holdings action :=
  Ensures.mono first fun _ _ ⟨course, _⟩ => .course course

end Facade
end Custody

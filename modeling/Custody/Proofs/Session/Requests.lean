import Custody.Proofs.Session.Holdings
import Custody.Proofs.Session.Outcomes
import Custody.Session.Diagnostic

/-!
# Answers of the library

A request that only asks, and uses good handles, leaves the library exactly as it was.  What
it answers is stated here for the requests on units, sets, files and locations, and an
operation that makes such a request is followed by rewriting along its answer.
-/

namespace Custody
namespace Library.Call

variable {α β : Type} {state : State}

/-- A request has an answer and leaves the library as it was. -/
def Answers (state : State) (request : Call α) (answer : α) : Prop :=
  Id.run (StateT.run request state) = (answer, state)

namespace Answers

theorem pure (answer : α) : Answers state (Pure.pure answer) answer := rfl

theorem get : Answers state (MonadState.get : Call State) state := rfl

/-- What follows a question starts from the library as it was. -/
theorem run_bind {request : Call α} {next : α → Call β} {answer : α}
    (first : Answers state request answer) :
    Id.run (StateT.run (request >>= next) state) = Id.run (StateT.run (next answer) state) := by
  have unfolded : Id.run (StateT.run (request >>= next) state) =
      Id.run (StateT.run (next (Id.run (StateT.run request state)).1)
        (Id.run (StateT.run request state)).2) := rfl
  unfold Answers at first
  rw [unfolded, first]

theorem bind {request : Call α} {next : α → Call β} {middle : α} {answer : β}
    (first : Answers state request middle) (rest : Answers state (next middle) answer) :
    Answers state (request >>= next) answer := by
  rw [Answers, first.run_bind]
  exact rest

/-- Using a good handle leaves no trace. -/
theorem use {handle : Handle} (good : state.isGood handle = true) :
    Answers state (Call.use handle) () := by
  have used : Id.run (StateT.run (Call.use handle) state) =
      ((), if state.isGood handle then state
        else { state with strays := state.strays ++ [handle] }) := rfl
  rw [Answers, used, if_pos good]

theorem useThen {handle : Handle} {next : Unit → Call α} {answer : α}
    (good : state.isGood handle = true) (rest : Answers state (next ()) answer) :
    Answers state (Call.use handle >>= next) answer := (use good).bind rest

end Answers

section Units

variable {unit : Handle} (good : state.isGood unit = true)
include good

theorem diagnosticCount_answers :
    Answers state (diagnosticCount unit) (state.unitModel unit).diagnostics.length :=
  .useThen good (.bind .get (.pure _))

theorem unitModel_answers : Answers state (unitModel unit) (state.unitModel unit) :=
  .useThen good (.bind .get (.pure _))

theorem setCount_answers : Answers state (setCount unit) (state.setModel unit).length :=
  .useThen good (.bind .get (.pure _))

theorem setItem_answers (position : Nat) : Answers state (setItem unit position) (.note unit position) :=
  .useThen good (.pure _)

end Units

end Library.Call

/-- In valid holdings the handle of an open holder is good. -/
theorem Session.isGood_of_held {session : Session} (valid : session.holdings.Valid) {number : Nat}
    {handle : Handle} (held : session.estate.handle? number = some handle) :
    session.library.isGood handle = true := by
  rw [Library.State.isGood_eq]
  exact valid.good_of_held held

namespace Facade

variable {α : Type}

theorem call_outcome_of_answers
    {session : Session}
    {request : Library.Call α}
    {answer : α}
    (answers : request.Answers session.library answer) :
    (call request).outcome session = (.ok answer, session) := by
  unfold Library.Call.Answers at answers
  rw [outcome_call, answers]

end Facade
end Custody

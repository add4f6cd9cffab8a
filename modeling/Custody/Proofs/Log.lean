import Custody.Log

/-!
# What actions that leave records come to

An action that leaves records has a result and adds records to those that were made before it.  Both
are given by rules that follow the way actions are put together.
-/

namespace Custody

namespace Logged

variable {α β : Type}

/-- What an action comes to when records were made before. -/
def outcomeAfter (action : Logged α) (before : List LogRecord) :
    Except Failure α × List LogRecord := Id.run (StateT.run (ExceptT.run action) before)

theorem outcomeAfter_bind (action : Logged α) (next : α → Logged β) (before : List LogRecord) :
    (action >>= next).outcomeAfter before =
      match action.outcomeAfter before with
      | (.ok value, after) => (next value).outcomeAfter after
      | (.error failure, after) => (.error failure, after) := by
  have expanded : (action >>= next).outcomeAfter before =
      Id.run (StateT.run (ExceptT.bindCont next (action.outcomeAfter before).1)
        (action.outcomeAfter before).2) := rfl
  rw [expanded]
  rcases action.outcomeAfter before with ⟨result, after⟩
  cases result <;> rfl

/-- An action has a result and leaves records, whatever was recorded before. -/
def Yields (action : Logged α) (result : Except Failure α) (records : List LogRecord) : Prop :=
  ∀ before, action.outcomeAfter before = (result, before ++ records)

namespace Yields

theorem outcome_eq {action : Logged α} {result : Except Failure α} {records : List LogRecord}
    (yields : Yields action result records) : action.outcome = (result, records) := yields []

/-- What leaves no records. -/
theorem of_silent {action : Logged α} {result : Except Failure α}
    (silent : ∀ before, action.outcomeAfter before = (result, before)) :
    Yields action result [] := fun before => by rw [silent, List.append_nil]

theorem pure (value : α) : Yields (Pure.pure value) (.ok value) [] := of_silent fun _ => rfl

theorem throw (failure : Failure) :
    Yields (MonadExcept.throw failure : Logged α) (.error failure) [] := of_silent fun _ => rfl

theorem lift (result : Except Failure α) : Yields (ExceptT.mk (Pure.pure result)) result [] :=
  of_silent fun _ => rfl

theorem leave (record : LogRecord) : Yields (Logged.leave record) (.ok ()) [record] :=
  fun _ => rfl

theorem warn (message : Text) : Yields (Logged.warn message) (.ok ()) [⟨.warning, message⟩] :=
  .leave _

theorem bind {action : Logged α} {next : α → Logged β} {value : α} {result : Except Failure β}
    {records later : List LogRecord} (first : Yields action (.ok value) records)
    (rest : Yields (next value) result later) :
    Yields (action >>= next) result (records ++ later) := by
  intro before
  rw [outcomeAfter_bind, first before]
  dsimp only
  rw [rest, List.append_assoc]

/-- Nothing follows after a failure. -/
theorem bind_error {action : Logged α} {next : α → Logged β} {failure : Failure}
    {records : List LogRecord} (first : Yields action (.error failure) records) :
    Yields (action >>= next) (.error failure) records := by
  intro before
  rw [outcomeAfter_bind, first before]

/-- What follows an action that leaves no records. -/
theorem lift_bind {next : α → Logged β} {value : α} {result : Except Failure β}
    {later : List LogRecord} (rest : Yields (next value) result later) :
    Yields (ExceptT.mk (Pure.pure (.ok value)) >>= next) result later :=
  (lift (.ok value)).bind rest

end Yields
end Logged

end Custody

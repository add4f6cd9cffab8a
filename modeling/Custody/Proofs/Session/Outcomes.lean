import Custody.Proofs.Session.Conduct

/-!
# Outcomes of operations

What the basic operations of a session answer and which session they leave.  Operations
are followed by rewriting along these equations.
-/

namespace Custody
namespace Facade

variable {α β : Type}

section Basic

variable (session : Session)

@[simp] theorem outcome_pure (value : α) :
    (pure value : Facade α).outcome session = (.ok value, session) := rfl

@[simp] theorem outcome_throw (failure : Failure) :
    (throw failure : Facade α).outcome session = (.error failure, session) := rfl

@[simp] theorem outcome_get : (get : Facade Session).outcome session = (.ok session, session) := rfl

@[simp] theorem outcome_set (later : Session) :
    (set later : Facade PUnit).outcome session = (.ok ⟨⟩, later) := rfl

@[simp] theorem outcome_call (request : Library.Call α) :
    (call request).outcome session =
      (.ok (Id.run (StateT.run request session.library)).1,
        { session with library := (Id.run (StateT.run request session.library)).2 }) := rfl

@[simp] theorem outcome_fresh :
    fresh.outcome session =
      (.ok session.nextSerial, { session with nextSerial := session.nextSerial + 1 }) := rfl

theorem outcome_ofExcept (result : Except Failure α) :
    (ofExcept result).outcome session = (result, session) := by
  cases result <;> rfl

/-- An attempt answers with the result, whatever it is. -/
theorem outcome_attempt (action : Facade α) :
    (attempt action).outcome session =
      (.ok (action.outcome session).1, (action.outcome session).2) := rfl

theorem outcome_bind_of_ok
    {session middle : Session}
    {action : Facade α}
    {value : α}
    (succeeded : action.outcome session = (.ok value, middle))
    (next : α → Facade β) :
    (action >>= next).outcome session = (next value).outcome middle := by
  rw [outcome_bind, succeeded]

theorem outcome_bind_of_error
    {session middle : Session}
    {action : Facade α}
    {failure : Failure}
    (failed : action.outcome session = (.error failure, middle))
    (next : α → Facade β) :
    (action >>= next).outcome session = (.error failure, middle) := by
  rw [outcome_bind, failed]

theorem outcome_of_toOption
    {session : Session}
    {action : Facade α}
    {value : α}
    (found : (action.outcome session).1.toOption = some value) :
    action.outcome session = (.ok value, (action.outcome session).2) := by
  rcases reached : action.outcome session with ⟨result, after⟩
  rw [reached] at found
  cases result with
  | error failure => cases found
  | ok other => rw [Option.some.inj found]

theorem holder_outcome (number : Nat) :
    (holder number).outcome session =
      ((session.estate.get? number).elim (.error .noSuchPart) .ok, session) := by
  unfold holder
  rw [outcome_bind_of_ok (outcome_get session)]
  cases session.estate.get? number <;> rfl

/-- Asking for a handle changes nothing, and only the estate matters. -/
theorem handle_outcome (number : Nat) :
    (handle number).outcome session =
      ((session.estate.get? number).elim (.error .noSuchPart) fun record =>
        record.handle.elim (.error (.closed record.content.className)) .ok,
      session) := by
  unfold handle
  rw [outcome_bind, holder_outcome]
  cases session.estate.get? number with
  | none => rfl
  | some record =>
      obtain ⟨handle, owned, dependants, content⟩ := record
      cases handle <;> rfl

/-- Asking whether a holder is open changes nothing, and only the estate matters. -/
theorem ensureOpen_outcome (number : Nat) :
    (ensureOpen number).outcome session =
      ((session.estate.get? number).elim (.error .noSuchPart) fun record =>
        record.handle.elim (.error (.closed record.content.className)) fun _ => .ok (),
      session) := by
  unfold ensureOpen
  rw [outcome_bind, handle_outcome]
  cases session.estate.get? number with
  | none => rfl
  | some record => cases held : record.handle <;> simp [held]

theorem ensureOpen_ok_iff (number : Nat) :
    ((ensureOpen number).outcome session).1 = .ok () ↔ session.estate.isOpen number = true := by
  rw [ensureOpen_outcome, Estate.isOpen, Estate.handle?]
  cases session.estate.get? number with
  | none => simp
  | some record => cases held : record.handle <;> simp [held]

/-- The outcome of a closing becomes that of the session, and its failure is passed on. -/
theorem settle_outcome (outcome : Outcome Handle Wrapper Library.State) :
    (settle outcome).outcome session =
      (outcome.failure.elim (.ok ()) .error,
        { session with estate := outcome.estate, library := outcome.world }) := by
  obtain ⟨estate, world, failure⟩ := outcome
  cases failure <;> rfl

variable {session}

theorem holder_outcome_of_get? {number : Nat} {record : Holder Handle Wrapper}
    (present : session.estate.get? number = some record) :
    (holder number).outcome session = (.ok record, session) := by
  rw [holder_outcome, present]
  rfl

theorem handle_outcome_of_held {number : Nat} {kept : Handle}
    (held : session.estate.handle? number = some kept) :
    (handle number).outcome session = (.ok kept, session) := by
  obtain ⟨record, present, opened⟩ := Estate.handle?_eq_some_iff.mp held
  rw [handle_outcome, present]
  simp [opened]

theorem ensureOpen_outcome_of_open {number : Nat} (opened : session.estate.isOpen number = true) :
    (ensureOpen number).outcome session = (.ok (), session) := by
  obtain ⟨kept, held⟩ := Estate.isOpen_iff.mp opened
  unfold ensureOpen
  rw [outcome_bind_of_ok (handle_outcome_of_held held), outcome_pure]

end Basic

end Facade
end Custody

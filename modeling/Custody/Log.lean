import Custody.Failure

/-!
# Log records

Operations leave records of what they did.  An operation that fails keeps the
records it had made before.
-/

namespace Custody

/-- How important a record is. -/
inductive LogLevel where
  /-- For those who look for faults. -/
  | debug
  /-- For everyone. -/
  | warning
  deriving DecidableEq, Inhabited

/-- A record of what was done. -/
structure LogRecord where
  /-- Its importance. -/
  level : LogLevel
  /-- Its message. -/
  message : Text
  deriving DecidableEq, Inhabited

/-- An action that leaves records and may fail. -/
abbrev Logged := ExceptT Failure (StateM (List LogRecord))

namespace Logged

/-- Leaves a record. -/
def leave (record : LogRecord) : Logged Unit := modify (· ++ [record])

/-- Leaves a warning. -/
def warn (message : Text) : Logged Unit := leave ⟨.warning, message⟩

/-- Runs an action: its result and its records. -/
def outcome {α : Type} (action : Logged α) : Except Failure α × List LogRecord :=
  Id.run (StateT.run (ExceptT.run action) [])

end Logged
end Custody

import Custody.Estate.Close
import Custody.Library.Location
import Custody.Log
import Custody.Session.Object
import Custody.Settings.Basic
import Custody.Storage

/-!
# Sessions

A session is an estate whose holders keep handles of the library.  Its operations
are facade actions: they call the library, make and close holders, and fail with a
cause.  What an action did before it failed stays done.  A session also lists the
handles that its holders were made for and the adoptions among them.
-/

namespace Custody

/-- What a holder of a session is. -/
inductive Wrapper where
  /-- An index. -/
  | index
  /-- A unit of an index, with the source that it was made from in memory. -/
  | unit (index : Nat) (overlay : Option UnsavedFile)
  /-- An indexing session of an index. -/
  | action (index : Nat)
  /-- A diagnostic; its locations belong to the owner. -/
  | diagnostic (owner : Nat)
  /-- A set of diagnostics; without an owner the locations belong to the set itself. -/
  | set (owner : Option Nat)
  /-- A database in a directory, with the list of all commands once it was read. -/
  | database (directory : Text) (memo : Option (Nat × List CompileCommand))
  deriving Inhabited

namespace Wrapper

/-- The name under which a holder complains. -/
def className : Wrapper → String
  | .index => "Index"
  | .unit _ _ => "TranslationUnit"
  | .action _ => "IndexAction"
  | .diagnostic _ => "Diagnostic"
  | .set _ => "DiagnosticSet"
  | .database _ _ => "CompilationDatabase"

end Wrapper

/-- What a caller passes where a holder is wanted. -/
inductive Passed where
  /-- A holder, by its number. -/
  | holder (number : Nat)
  /-- Something that is no holder. -/
  | other
  deriving DecidableEq, Inhabited

/-- A holder that was registered to be closed before another one. -/
structure Adoption where
  /-- The holder that is closed later. -/
  parent : Nat
  /-- The holder that is closed earlier. -/
  child : Nat
  /-- Whether the parent was open when it adopted the child. -/
  parentOpen : Bool
  deriving DecidableEq, Inhabited

/-- The state of a session. -/
structure Session where
  /-- The library. -/
  library : Library.State
  /-- The holders. -/
  estate : Estate Handle Wrapper
  /-- The handles that the holders were made for, by number; they are listed for good. -/
  made : List Handle
  /-- The adoptions so far, in order. -/
  adoptions : List Adoption
  /-- The unsaved files, which may change after they were made. -/
  unsaved : List UnsavedFile
  /-- The expansions of the locations that were read. -/
  expansions : List (Location × Expansion)
  /-- The marks that callers put on objects, the latest first. -/
  marks : List Mark
  /-- The next serial. -/
  nextSerial : Nat
  /-- How many names were generated. -/
  generated : Nat
  /-- The active settings. -/
  settings : Settings
  /-- The stored files. -/
  storage : Storage
  /-- The records, in order. -/
  log : List LogRecord
  deriving Inhabited

/-- The session before the first operation. -/
def Session.start (script : Library.Script) (settings : Settings) (storage : Storage) : Session :=
  ⟨.start script, .empty, [], [], [], [], [], 0, 0, settings, storage, []⟩

/-- An operation of a session. -/
abbrev Facade := ExceptT Failure (StateM Session)

namespace Facade

/-- Runs an operation: its result and the session after it. -/
def outcome {α : Type} (action : Facade α) (session : Session) : Except Failure α × Session :=
  Id.run (StateT.run (ExceptT.run action) session)

/-- The result of an operation as a value; nothing that it did is taken back. -/
def attempt {α : Type} (action : Facade α) : Facade (Except Failure α) := do
  let (result, session) := action.outcome (← get)
  set session
  return result

/-- Passes a result on or fails. -/
def ofExcept {α : Type} : Except Failure α → Facade α
  | .ok value => return value
  | .error failure => throw failure

/-- Calls the library. -/
def call {α : Type} (request : Library.Call α) : Facade α := do
  let session ← get
  let (value, library) := Id.run (StateT.run request session.library)
  set { session with library := library }
  return value

/-- Reads a string of the library and gives it back. -/
def borrowed (request : Library.Call Library.Lent) : Facade String := do
  call (do Library.Call.settle (← request))

/-- Reads a string of the library and gives it back; an empty one counts as absent. -/
def borrowed? (request : Library.Call Library.Lent) : Facade (Option String) := do
  call (do Library.Call.settle? (← request))

/-- Leaves a record. -/
def record (level : LogLevel) (message : Text) : Facade Unit :=
  modify fun session => { session with log := session.log ++ [⟨level, message⟩] }

/-- A serial that was not used before. -/
def fresh : Facade Nat := do
  let session ← get
  set { session with nextSerial := session.nextSerial + 1 }
  return session.nextSerial

/-- The mark of an object under a name. -/
def mark? (bearer : Bearer) (name : String) : Facade (Option Mark) := do
  return (← get).marks.find? fun mark => mark.bearer = bearer && mark.name = name

/-- Puts a mark on an object; an earlier one of the same name is hidden. -/
def putMark (bearer : Bearer) (name : String) (value : Datum) : Facade Unit := do
  let serial ← fresh
  modify fun session => { session with marks := ⟨serial, bearer, name, value⟩ :: session.marks }

/-- A holder. -/
def holder (number : Nat) : Facade (Holder Handle Wrapper) := do
  match (← get).estate.get? number with
  | some holder => return holder
  | none => throw .noSuchPart

/-- The handle of a holder, which must be open. -/
def handle (number : Nat) : Facade Handle := do
  let holder ← holder number
  match holder.handle with
  | some handle => return handle
  | none => throw (.closed holder.content.className)

/-- The number and the handle of what is passed for a holder. -/
def passed : Passed → Facade (Nat × Handle)
  | .holder number => do return (number, ← handle number)
  | .other => throw .noSuchPart

/-- Fails if a holder is closed. -/
def ensureOpen (number : Nat) : Facade Unit := do
  let _ ← handle number

/-- Makes a holder; a null handle is refused. -/
def wrap (handle : Option Handle) (owned : Bool) (wrapper : Wrapper) : Facade Nat := do
  match handle with
  | none => throw (.nullHandle wrapper.className)
  | some handle =>
      let session ← get
      set { session with
        estate := session.estate.add ⟨some handle, owned, [], wrapper⟩
        made := session.made ++ [handle] }
      return session.estate.size

/-- Registers a holder to be closed before another one. -/
def adopt (parent child : Nat) : Facade Unit :=
  modify fun session =>
    { session with
      estate := session.estate.adopt parent child
      adoptions := session.adoptions ++ [⟨parent, child, session.estate.isOpen parent⟩] }

/-- Disposal in a session is disposal by the library. -/
def discipline : Discipline Handle Wrapper Library.State :=
  .inOrder fun _ _ handle library =>
    ((Id.run (StateT.run (Library.Call.dispose handle) library)).2, none)

/-- Puts the outcome of closing into the session. -/
def settle (outcome : Outcome Handle Wrapper Library.State) : Facade Unit := do
  modify fun session => { session with estate := outcome.estate, library := outcome.world }
  match outcome.failure with
  | some failure => throw failure
  | none => return

/-- Closes a holder with its dependants. -/
def close (number : Nat) : Facade Unit := do
  let session ← get
  settle (discipline.close number session.estate session.library)

/-- Closes the dependants of a holder. -/
def closeDependants (number : Nat) : Facade Unit := do
  let session ← get
  settle (discipline.closeDependants number session.estate session.library)

end Facade
end Custody

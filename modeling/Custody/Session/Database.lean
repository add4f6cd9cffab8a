import Custody.Library.Database
import Custody.Session.Basic

/-!
# Compilation databases of a session

The commands that the library lists are copied, and the list is given back whether
or not copying succeeded.  All commands of a database are copied once and then
recalled, also after the database is closed.
-/

namespace Custody
namespace CompilationDatabase

/-- The file that makes a directory a database. -/
def filename : String := "compile_commands.json"

/-- The failure to open the database of a directory. -/
def failure (wording : Text) (code : Option Int) : Failure :=
  .reported ⟨.database, .canNotLoadDatabase, wording, code⟩

/-- Opens the database of a directory.  A handle that came with a bad status is disposed of. -/
def load (directory : Datum) : Facade Nat := do
  let directory ← Facade.ofExcept directory.decodeName
  let storage := (← get).storage
  let path := Storage.join directory.encode (Text.encode filename)
  if !(directory.encodeName?.isSome && storage.isFile path) then
    throw (failure (Text.ofString filename ++ " not found in " ++ directory) none)
  let (handle, status) ← Facade.call (Library.Call.openDatabase directory.encode)
  if status ≠ 0 ∨ handle.isNone then
    match handle with
    | some handle => Facade.call (Library.Call.dispose handle)
    | none => pure ()
    throw (failure ("libclang could not load the compilation database in " ++ directory)
      (some status))
  let database ← Facade.wrap handle true (.database directory none)
  Facade.record .debug ("loaded compilation database from " ++ directory)
  return database

/-- Copies one command. -/
def copy (command : Library.CommandModel) : Facade CompileCommand := do
  let directory ← Facade.borrowed (Library.Call.lend command.directory)
  let filename ← Facade.borrowed (Library.Call.lend command.filename)
  let arguments ← command.arguments.mapM fun argument =>
    Facade.borrowed (Library.Call.lend argument)
  return ⟨← Facade.fresh, .text directory, .text filename,
    arguments.map fun argument => .text (Text.ofString argument)⟩

/-- Copies commands that stand from a position on; a null command is a failure. -/
def copyAll : Nat → List (Option Library.CommandModel) → Facade (List CompileCommand)
  | _, [] => return []
  | position, none :: _ => throw (.nullCommand position)
  | position, some command :: rest => do
      let command ← copy command
      return command :: (← copyAll (position + 1) rest)

/-- Copies the commands of a list and gives the list back. -/
def snapshot : Option Handle → Facade (List CompileCommand)
  | none => return []
  | some commands => do
      let items ← Facade.call (Library.Call.commandItems commands)
      let result ← Facade.attempt (copyAll 0 items)
      Facade.call (Library.Call.dispose commands)
      Facade.ofExcept result

/-- The directory of a database. -/
def directory (database : Nat) : Facade Text := do
  match (← Facade.holder database).content with
  | .database directory _ => return directory
  | _ => throw .noSuchPart

/-- Keeps the list of all commands of a database. -/
def remember (database : Nat) (memo : Nat × List CompileCommand) : Facade Unit :=
  modify fun session =>
    { session with
      estate := session.estate.modify database fun holder =>
        match holder.content with
        | .database directory _ => { holder with content := .database directory (some memo) }
        | _ => holder }

/-- All commands of a database, as a list with a serial. -/
def commands (database : Nat) : Facade (Nat × List CompileCommand) := do
  match (← Facade.holder database).content with
  | .database _ (some memo) => return memo
  | _ =>
      let handle ← Facade.handle database
      let commands ← snapshot (← Facade.call (Library.Call.allCommands handle))
      let memo := (← Facade.fresh, commands)
      remember database memo
      return memo

/-- The commands of a database for a file. -/
def commandsFor (database : Nat) (filename : Datum) : Facade (List CompileCommand) := do
  let handle ← Facade.handle database
  let filename ← Facade.ofExcept filename.encodeName
  snapshot (← Facade.call (Library.Call.commandsFor handle filename))

/-- How a database of a directory is shown. -/
def writtenIn (directory : String) : Text := "<CompilationDatabase " ++ Text.ofString directory ++ ">"

/-- How a database is shown. -/
def written (database : Nat) : Facade Text := do
  return writtenIn (Quoted.ofText (← directory database))

end CompilationDatabase
end Custody

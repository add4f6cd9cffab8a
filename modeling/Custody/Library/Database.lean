import Custody.Library.State
import Custody.Library.Word

/-!
# Compilation databases of the library

A request for commands allocates a list, which has to be given back.  A request
that finds nothing allocates nothing, unless the reply wants an empty list.
-/

namespace Custody
namespace Library
namespace State

/-- The commands of a database. -/
def databaseModel (state : State) (database : Handle) : DatabaseModel :=
  (state.script.databases[state.modelNumber database]?).getD []

/-- The commands in a list. -/
def commandItems (state : State) (commands : Handle) : List (Option CommandModel) :=
  match (state.resource? commands).map Resource.content with
  | some (.commands items) => items
  | _ => []

end State

namespace Call

/-- Opens a database: the handle and the status. -/
def openDatabase (path : Bytes) : Call (Option Handle × Int) := do
  note (.openDatabase path)
  let reply := (← get).reply
  let status := signedWord reply.status
  match reply.database.number? with
  | none => return (none, status)
  | some model => return (some (← allocate .database none (.database model)), status)

/-- A list of commands, if there is anything to list. -/
def listCommands (items : List (Option CommandModel)) : Call (Option Handle) := do
  if items.isEmpty && !(← get).reply.emptyList then return none
  return some (← allocate .commands none (.commands items))

/-- All commands of a database. -/
def allCommands (database : Handle) : Call (Option Handle) := do
  use database
  note (.allCommands database)
  listCommands ((← get).databaseModel database)

/-- The commands of a database for a file; null commands are always among them. -/
def commandsFor (database : Handle) (filename : Bytes) : Call (Option Handle) := do
  use database
  note (.commandsFor database filename)
  listCommands (((← get).databaseModel database).filter fun item =>
    item.all fun command => command.filename = some filename)

/-- The commands in a list. -/
def commandItems (commands : Handle) : Call (List (Option CommandModel)) := do
  use commands
  return (← get).commandItems commands

end Call
end Library
end Custody

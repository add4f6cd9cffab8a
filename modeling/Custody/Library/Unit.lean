import Custody.Library.State
import Custody.Library.Word

/-!
# Indexes and units of the library

Units are made from an index by parsing or by loading a stored unit, and only with
the status of success.  Parsing again may exchange the model of a unit; a status
other than success leaves the unit unusable.
-/

namespace Custody
namespace Library

namespace Call

/-- Makes an index, unless the reply says otherwise. -/
def createIndex (excludeDeclarations displayDiagnostics : Bool) : Call (Option Handle) := do
  note (.createIndex excludeDeclarations displayDiagnostics)
  if (← get).reply.null then return none
  return some (← allocate .index none (.index 0))

/-- The options of an index. -/
def globalOptions (index : Handle) : Call Nat := do
  use index
  match ((← get).resource? index).map Resource.content with
  | some (.index options) => return options
  | _ => return 0

/-- Sets the options of an index. -/
def setGlobalOptions (index : Handle) (options : Int) : Call Unit := do
  use index
  note (.setGlobalOptions index (unsignedWord options))
  modify fun state => state.modifyResource index fun resource =>
    { resource with content := .index (unsignedWord options) }

/-- The unit that the reply provides, made from an index. -/
def produceUnit (index : Handle) : Call (Int × Option Handle) := do
  let reply := (← get).reply
  if reply.status ≠ 0 then return (reply.status, none)
  match reply.unit.number? with
  | none => return (reply.status, none)
  | some model => return (reply.status, some (← allocate .unit (some index) (.unit model)))

/-- Parses a file, or with a full argument vector whatever that names. -/
def parse
    (full : Bool)
    (index : Handle)
    (filename : Option Bytes)
    (arguments : List Bytes)
    (unsaved : Option (List Slot))
    (options : Int) : Call (Int × Option Handle) := do
  use index
  note (.parse full index filename (arguments.map Bytes.upToZero) (unsaved.getD [])
    (unsignedWord options))
  produceUnit index

/-- Loads a stored unit. -/
def loadUnit (index : Handle) (path : Bytes) : Call (Int × Option Handle) := do
  use index
  note (.loadUnit index path)
  produceUnit index

/-- Parses a unit again. -/
def reparse (unit : Handle) (unsaved : Option (List Slot)) (options : Int) : Call Int := do
  use unit
  note (.reparse unit (unsaved.getD []) (unsignedWord options))
  let reply := (← get).reply
  modify fun state => state.modifyResource unit fun resource =>
    if reply.status ≠ 0 then { resource with sound := false }
    else
      match reply.unit with
      | .model model => { resource with content := .unit model }
      | _ => resource
  return reply.status

/-- Saves a unit. -/
def save (unit : Handle) (path : Bytes) (options : Int) : Call Int := do
  use unit
  note (.save unit path (unsignedWord options))
  return (← get).reply.status

/-- The model of a unit. -/
def unitModel (unit : Handle) : Call UnitModel := do
  use unit
  return (← get).unitModel unit

/-- The options with which a unit is parsed again by default. -/
def defaultReparseOptions (unit : Handle) : Call Int := do
  return (← unitModel unit).reparseOptions

/-- The options with which a unit is saved by default. -/
def defaultSaveOptions (unit : Handle) : Call Int := do
  return (← unitModel unit).saveOptions

/-- The name of a unit. -/
def unitSpelling (unit : Handle) : Call Lent := do
  lend (← unitModel unit).spelling

end Call
end Library
end Custody

import Custody.Library.Location
import Custody.Library.Word

/-!
# Diagnostics of the library

A diagnostic of a unit is allocated anew on every request.  Loaded sets are
allocated once, and their diagnostics and notes are borrowed.  The locations of a
diagnostic lie in the space of the unit or set it came from.
-/

namespace Custody
namespace Library
namespace State

mutual

/-- The model of a diagnostic. -/
def diagnosticModel (state : State) : Handle → DiagnosticModel
  | .note set position => ((state.setModel set)[position]?).getD default
  | .notes _ => default
  | .owned kind number =>
      match (state.resource? (.owned kind number)).map Resource.content with
      | some (.diagnostic model) => model
      | _ => default

/-- The diagnostics of a set. -/
def setModel (state : State) : Handle → List DiagnosticModel
  | .note _ _ => []
  | .notes diagnostic => (state.diagnosticModel diagnostic).children.getD []
  | .owned kind number =>
      (state.script.sets[state.modelNumber (.owned kind number)]?).elim []
        SetModel.diagnostics

end

/-- The unit or set in whose space the locations of a diagnostic lie. -/
def diagnosticSpace (state : State) (handle : Handle) : Handle :=
  match handle.root with
  | .owned .diagnostic number =>
      ((state.resource? (.owned .diagnostic number)).bind Resource.parent).getD handle.root
  | root => root

end State

namespace Call

/-- How many diagnostics a unit has. -/
def diagnosticCount (unit : Handle) : Call Nat := do
  use unit
  return ((← get).unitModel unit).diagnostics.length

/-- Allocates the diagnostic at a position of a unit. -/
def diagnosticAt (unit : Handle) (position : Nat) : Call (Option Handle) := do
  use unit
  match ((← get).unitModel unit).diagnostics[position]? with
  | none => return none
  | some model => return some (← allocate .diagnostic (some unit) (.diagnostic model))

/-- How many diagnostics a set has. -/
def setCount (set : Handle) : Call Nat := do
  use set
  return ((← get).setModel set).length

/-- The diagnostic at a position of a set. -/
def setItem (set : Handle) (position : Nat) : Call Handle := do
  use set
  return .note set position

/-- The set of notes below a diagnostic. -/
def childDiagnostics (diagnostic : Handle) : Call (Option Handle) := do
  use diagnostic
  return ((← get).diagnosticModel diagnostic).children.map fun _ => .notes diagnostic

/-- The model of a diagnostic. -/
def diagnosticModel (diagnostic : Handle) : Call DiagnosticModel := do
  use diagnostic
  return (← get).diagnosticModel diagnostic

/-- The location of a diagnostic. -/
def diagnosticLocation (diagnostic : Handle) : Call NativeLocation := do
  let model ← diagnosticModel diagnostic
  let state ← get
  return state.locate (state.diagnosticSpace diagnostic) model.spot

/-- The ranges of a diagnostic. -/
def diagnosticRanges (diagnostic : Handle) : Call (List NativeRange) := do
  let model ← diagnosticModel diagnostic
  let state ← get
  return model.ranges.map (state.delimit (state.diagnosticSpace diagnostic))

/-- How many replacements a diagnostic proposes. -/
def replacementCount (diagnostic : Handle) : Call Nat := do
  return (← diagnosticModel diagnostic).replacements.length

/-- The replacement at a position: the new text and the range. -/
def replacementAt (diagnostic : Handle) (position : Nat) : Call (Lent × NativeRange) := do
  let model ← diagnosticModel diagnostic
  let replacement := (model.replacements[position]?).getD default
  let lent ← lend replacement.value
  let state ← get
  return (lent, state.delimit (state.diagnosticSpace diagnostic) replacement.range)

/-- The option that enables a diagnostic and, on request, the one that disables it. -/
def diagnosticOption (diagnostic : Handle) (withDisable : Bool) : Call (Lent × Option Lent) := do
  let model ← diagnosticModel diagnostic
  let enabling ← lend model.option
  if withDisable then return (enabling, some (← lend model.disable))
  return (enabling, none)

/-- The text of a diagnostic as a compiler prints it, with the options in front. -/
def formatted (model : DiagnosticModel) (options : Int) : Bytes :=
  (Text.encode ("[" ++ Text.ofInt options ++ "] ")) ++ model.spelling.getD []

/-- Formats a diagnostic. -/
def formatDiagnostic (diagnostic : Handle) (options : Int) : Call Lent := do
  lend (formatted (← diagnosticModel diagnostic) options)

/-- Loads stored diagnostics: the set, the status and a message. -/
def loadDiagnostics (path : Bytes) : Call (Option Handle × Int × Lent) := do
  note (.loadDiagnostics path)
  let reply := (← get).reply
  let handle ←
    match reply.set.number? with
    | none => pure none
    | some model => some <$> allocate .set none (.set model)
  return (handle, signedWord reply.status, ← lend reply.message)

end Call
end Library
end Custody

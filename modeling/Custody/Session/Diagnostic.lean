import Custody.Library.Diagnostic
import Custody.Sequence
import Custody.Session.Source

/-!
# Diagnostics of a session

A diagnostic read from a unit owns its handle and is closed with the unit.  A
diagnostic read from a set borrows its handle and is closed with the set; the notes
of a diagnostic form a borrowed set that is closed with it.
-/

namespace Custody

namespace DiagnosticSet

/-- How many diagnostics a set has; a closed one has none. -/
def count (set : Nat) : Facade Nat := do
  match (← Facade.holder set).handle with
  | none => return 0
  | some handle => Facade.call (Library.Call.setCount handle)

/-- The holder to which the locations of the diagnostics of a set belong. -/
def owner (set : Nat) : Facade Nat := do
  match (← Facade.holder set).content with
  | .set (some owner) => return owner
  | _ => return set

/-- The diagnostic of a set that an index denotes. -/
def item (set : Nat) (index : Int) : Facade Nat := do
  match Sequence.position? index (← count set) with
  | none => throw .diagnosticIndex
  | some position =>
      let handle ← Facade.handle set
      let note ← Facade.call (Library.Call.setItem handle position)
      let diagnostic ← Facade.wrap (some note) false (.diagnostic (← owner set))
      Facade.adopt set diagnostic
      return diagnostic

/-- The diagnostics of a set that a slice picks. -/
def slice (set : Nat) (slice : Slice) : Facade (List Nat) := do
  (← Facade.ofExcept (slice.positions (← count set))).mapM (item set)

/-- All diagnostics of a set. -/
def toList (set : Nat) : Facade (List Nat) := do
  (List.range (← count set)).mapM fun (position : Nat) => item set position

/-- The kind of failure to load stored diagnostics. -/
def loadFailureKind (status : Int) : ErrorKind :=
  if status = 2 then .cannotLoadSerializedDiagnostics
  else if status = 3 then .invalidSerializedDiagnostics
  else .unknownSerializedDiagnosticError

/-- Loads stored diagnostics.  A set that came with a bad status is disposed of at once. -/
def load (path : Datum) : Facade Nat := do
  let encoded ← Facade.ofExcept path.encodeName
  let (handle, status, lent) ← Facade.call (Library.Call.loadDiagnostics encoded)
  let message ← Facade.call (Library.Call.settle lent)
  match handle with
  | some handle =>
      if status = 0 then return ← Facade.wrap (some handle) true (.set none)
      Facade.call (Library.Call.dispose handle)
  | none => pure ()
  let member ← Facade.ofExcept (Codes.loadStatuses.ofCode status)
  let path ← Facade.ofExcept path.decodeName
  let wording : Text :=
    if message ≠ "" then message else "could not load diagnostics from " ++ path
  throw (.reported
    ⟨.storedDiagnostics, loadFailureKind member.code, wording, some member.code⟩)

end DiagnosticSet

namespace DiagnosticView

/-- How many diagnostics a unit has. -/
def count (unit : Nat) : Facade Nat := do
  let handle ← Facade.handle unit
  Facade.call (Library.Call.diagnosticCount handle)

/-- The diagnostic of a unit that an index denotes, with a handle of its own. -/
def item (unit : Nat) (index : Int) : Facade Nat := do
  match Sequence.position? index (← count unit) with
  | none => throw .diagnosticIndex
  | some position =>
      let handle ← Facade.handle unit
      let diagnostic ← Facade.call (Library.Call.diagnosticAt handle position)
      let diagnostic ← Facade.wrap diagnostic true (.diagnostic unit)
      Facade.adopt unit diagnostic
      return diagnostic

/-- The diagnostics of a unit that a slice picks. -/
def slice (unit : Nat) (slice : Slice) : Facade (List Nat) := do
  (← Facade.ofExcept (slice.positions (← count unit))).mapM (item unit)

/-- All diagnostics of a unit. -/
def toList (unit : Nat) : Facade (List Nat) := do
  (List.range (← count unit)).mapM fun (position : Nat) => item unit position

end DiagnosticView

namespace Diagnostic

/-- The bits that display options may have. -/
def displayMask : Nat := 0x3F

/-- Display options have no bits but those with a meaning. -/
def validDisplay (options : Int) : Bool := 0 ≤ options && options ≤ displayMask

/-- The holder to which the locations of a diagnostic belong. -/
def owner (diagnostic : Nat) : Facade Nat := do
  match (← Facade.holder diagnostic).content with
  | .diagnostic owner => return owner
  | _ => return diagnostic

/-- A part of the model of a diagnostic. -/
def model (diagnostic : Nat) : Facade Library.DiagnosticModel := do
  let handle ← Facade.handle diagnostic
  Facade.call (Library.Call.diagnosticModel handle)

/-- A text of a diagnostic. -/
def textOf (diagnostic : Nat) (part : Library.DiagnosticModel → Option Bytes) : Facade String := do
  let handle ← Facade.handle diagnostic
  Facade.borrowed (do Library.Call.lend (part (← Library.Call.diagnosticModel handle)))

/-- How grave a diagnostic is. -/
def severity (diagnostic : Nat) : Facade Member := do
  Facade.ofExcept (Codes.severities.ofCode (← model diagnostic).severity)

/-- The wording of a diagnostic. -/
def spelling (diagnostic : Nat) : Facade String := textOf diagnostic (·.spelling)

/-- Where a diagnostic is. -/
def location (diagnostic : Nat) : Facade Location := do
  let handle ← Facade.handle diagnostic
  let native ← Facade.call (Library.Call.diagnosticLocation handle)
  Location.wrap native (← owner diagnostic)

/-- The ranges that a diagnostic concerns. -/
def ranges (diagnostic : Nat) : Facade (List Range) := do
  let handle ← Facade.handle diagnostic
  let natives ← Facade.call (Library.Call.diagnosticRanges handle)
  let owner ← owner diagnostic
  natives.mapM fun native => Range.wrap native owner

/-- The replacements that a diagnostic proposes. -/
def fixIts (diagnostic : Nat) : Facade (List FixIt) := do
  let handle ← Facade.handle diagnostic
  let owner ← owner diagnostic
  let count ← Facade.call (Library.Call.replacementCount handle)
  (List.range count).mapM fun position => do
    let (lent, native) ← Facade.call (Library.Call.replacementAt handle position)
    let value ← Facade.call (Library.Call.settle lent)
    let range ← Range.wrap native owner
    return ⟨← Facade.fresh, value, range⟩

/-- The number of the category of a diagnostic. -/
def categoryNumber (diagnostic : Nat) : Facade Int := do return (← model diagnostic).category

/-- The name of the category of a diagnostic. -/
def categoryName (diagnostic : Nat) : Facade String := textOf diagnostic (·.categoryText)

/-- The option that enables a diagnostic. -/
def option (diagnostic : Nat) : Facade String := do
  let handle ← Facade.handle diagnostic
  let (enabling, _) ← Facade.call (Library.Call.diagnosticOption handle false)
  Facade.call (Library.Call.settle enabling)

/-- The option that disables a diagnostic. -/
def disableOption (diagnostic : Nat) : Facade String := do
  let handle ← Facade.handle diagnostic
  let (enabling, disabling) ← Facade.call (Library.Call.diagnosticOption handle true)
  let _ ← Facade.call (Library.Call.settle enabling)
  match disabling with
  | none => return ""
  | some disabling => Facade.call (Library.Call.settle disabling)

/-- The notes of a diagnostic. -/
def children (diagnostic : Nat) : Facade (List Nat) := do
  let handle ← Facade.handle diagnostic
  match ← Facade.call (Library.Call.childDiagnostics handle) with
  | none => return []
  | some notes =>
      let set ← Facade.wrap (some notes) false (.set (some (← owner diagnostic)))
      Facade.adopt diagnostic set
      DiagnosticSet.toList set

/-- The text of a diagnostic as a compiler prints it; without options, with those of the
library. -/
def format (diagnostic : Nat) (options : Option Datum) : Facade String := do
  let default := (← get).library.script.displayOptions
  let options ← options.elim (pure default) fun options => Facade.ofExcept options.toInteger
  if !validDisplay options then throw (.displayOptions options)
  let handle ← Facade.handle diagnostic
  Facade.borrowed (Library.Call.formatDiagnostic handle options)

/-- How a diagnostic is shown. -/
def written (diagnostic : Nat) : Facade Text := do
  let severity ← severity diagnostic
  let spelling ← spelling diagnostic
  return "<Diagnostic severity " ++ Text.ofString severity.name ++ ", spelling " ++
    Text.ofString (Quoted.ofString spelling) ++ ">"

end Diagnostic
end Custody

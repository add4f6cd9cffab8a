import Custody.Library.Unit
import Custody.Session.Basic

/-!
# Indexes of a session

An index is the context in which units are made.
-/

namespace Custody
namespace Index

/-- Makes an index. -/
def make (excludeDeclarations displayDiagnostics : Bool) : Facade Nat := do
  let handle ← Facade.call (Library.Call.createIndex excludeDeclarations displayDiagnostics)
  let index ← Facade.wrap handle true .index
  match handle with
  | some handle => Facade.record .debug ("created index " ++ Text.ofHex handle.value)
  | none => return index
  return index

/-- What was passed for an index, or a new one. -/
def orNew : Option Passed → Facade Passed
  | some index => return index
  | none => do return .holder (← make true true)

/-- The options of an index. -/
def globalOptions (index : Nat) : Facade Nat := do
  let handle ← Facade.handle index
  Facade.call (Library.Call.globalOptions handle)

/-- Sets the options of an index. -/
def setGlobalOptions (index : Nat) (options : Datum) : Facade Unit := do
  let handle ← Facade.handle index
  let options ← Facade.ofExcept options.toInteger
  Facade.call (Library.Call.setGlobalOptions handle options)

end Index
end Custody

import Custody.Library.State

/-!
# Files, locations and ranges of the library

A location is read against the files that its unit or set has at that moment.  A
file keeps to the model it was found in, even when its unit has another one since;
a location asked for in such a file is one of the file that has its place now.
-/

namespace Custody
namespace Library

/-- Where a location lies when it is read. -/
structure NativeExpansion where
  /-- The file, absent for the null location. -/
  file : Option FileHandle
  /-- The line. -/
  line : Nat
  /-- The column. -/
  column : Nat
  /-- The offset. -/
  offset : Nat
  deriving DecidableEq, Inhabited

/-- The expansion of the null location. -/
def NativeExpansion.null : NativeExpansion := ⟨none, 0, 0, 0⟩

namespace State

/-- The files of a model of a unit or set. -/
def filesIn (state : State) (origin : Handle) (model : Nat) : List SourceFile :=
  match origin with
  | .owned .set _ => (state.script.sets[model]?).elim [] SetModel.files
  | _ => (state.script.units[model]?).elim [] UnitModel.files

/-- The files that a unit or set has at present. -/
def files (state : State) (space : Handle) : List SourceFile :=
  state.filesIn space (state.modelNumber space)

/-- The number of the main file of a unit; the first file of a set. -/
def mainFile (state : State) (space : Handle) : Nat :=
  match space with
  | .owned .unit _ => (state.unitModel space).main
  | _ => 0

/-- Whether a unit or set has a file at the place of another one at present. -/
def hasPlace (state : State) (space : Handle) (file : FileHandle) : Bool :=
  file.index < (state.files space).length

/-- The file behind a handle. -/
def sourceFile (state : State) (file : FileHandle) : SourceFile :=
  ((state.filesIn file.origin file.model)[file.index]?).getD default

/-- The location of a spot. -/
def locate (state : State) (space : Handle) : Option Spot → NativeLocation
  | none => .null
  | some spot => ⟨some space, Source.positionOf (state.files space) spot⟩

/-- The range of a stretch. -/
def delimit (state : State) (space : Handle) : Option Stretch → NativeRange
  | none => .null
  | some stretch => .between (state.locate space stretch.first) (state.locate space stretch.last)

/-- The spot of a location. -/
def spot? (state : State) (location : NativeLocation) : Option (Handle × Spot) :=
  match location.space with
  | none => none
  | some space =>
      (Source.spotAt? (state.files space) location.position).map fun spot => (space, spot)

/-- Reads a location. -/
def expand (state : State) (location : NativeLocation) : NativeExpansion :=
  match state.spot? location with
  | none => .null
  | some (space, spot) =>
      let file : FileHandle := ⟨space, state.modelNumber space, spot.file⟩
      let text := (state.sourceFile file).text
      ⟨some file, Source.lineAt text spot.offset, Source.columnAt text spot.offset, spot.offset⟩

end State

namespace Call

/-- Uses the space of a location, if it has one. -/
def useSpace (location : NativeLocation) : Call Unit :=
  match location.space with
  | none => return
  | some space => use space

/-- The file of a unit with a given name. -/
def fileNamed (unit : Handle) (name : Bytes) : Call (Option FileHandle) := do
  use unit
  let state ← get
  return ((state.files unit).findIdx? fun file => file.name = some name).map fun index =>
    ⟨unit, state.modelNumber unit, index⟩

/-- The name of a file. -/
def fileName (file : FileHandle) : Call Lent := do
  use file.origin
  lend ((← get).sourceFile file).name

/-- The time of the last change of a file. -/
def fileTime (file : FileHandle) : Call Int := do
  use file.origin
  return ((← get).sourceFile file).time

/-- Whether two files are one. -/
def sameFile (left right : FileHandle) : Call Bool := do
  use left.origin
  use right.origin
  let state ← get
  return (state.sourceFile left).identity = (state.sourceFile right).identity

/-- The location of an offset in a file. -/
def locationOfOffset (unit : Handle) (file : FileHandle) (offset : Nat) : Call NativeLocation := do
  use unit
  use file.origin
  return ⟨some unit, Source.positionOf ((← get).files unit) ⟨file.index, offset⟩⟩

/-- The location of a line and column in a file. -/
def locationOfPosition (unit : Handle) (file : FileHandle) (line column : Nat) :
    Call NativeLocation := do
  let offset := Source.offsetAt ((← get).sourceFile file).text line column
  locationOfOffset unit file offset

/-- Reads a location. -/
def expansion (location : NativeLocation) : Call NativeExpansion := do
  useSpace location
  return (← get).expand location

/-- Whether a location lies in the main file. -/
def isFromMainFile (location : NativeLocation) : Call Bool := do
  useSpace location
  let state ← get
  return (state.spot? location).any fun (space, spot) => spot.file = state.mainFile space

/-- Whether a location lies in a system header. -/
def isInSystemHeader (location : NativeLocation) : Call Bool := do
  useSpace location
  let state ← get
  return (state.spot? location).any fun (space, spot) =>
    (state.sourceFile ⟨space, state.modelNumber space, spot.file⟩).system

end Call
end Library
end Custody

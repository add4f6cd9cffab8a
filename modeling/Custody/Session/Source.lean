import Custody.Session.Basic

/-!
# Files, locations and ranges of a session

A file is used only while its owner is open.  A location is read once: what was
found then is kept for good, also when its owner is closed or parsed again later.
Equality of locations and ranges compares the values of the library and needs no
open owner.
-/

namespace Custody

namespace File

/-- Makes an object of a file. -/
def wrap (native : FileHandle) (owner : Nat) : Facade File := do
  return ⟨← Facade.fresh, owner, native⟩

/-- The name of a file. -/
def name (file : File) : Facade String := do
  Facade.ensureOpen file.owner
  Facade.borrowed (Library.Call.fileName file.native)

/-- The time of the last change, in seconds. -/
def time (file : File) : Facade Int := do
  Facade.ensureOpen file.owner
  Facade.call (Library.Call.fileTime file.native)

/-- Whether two files are one; only the owner of the first must be open. -/
def agrees (left right : File) : Facade Bool := do
  Facade.ensureOpen left.owner
  Facade.call (Library.Call.sameFile left.native right.native)

/-- How a file is shown. -/
def written (file : File) : Facade Text := do
  return "<File " ++ Text.ofString (Quoted.ofString (← file.name)) ++ ">"

end File

/-- An owner that is a unit. -/
def Facade.unit? (owner : Nat) : Facade (Option Nat) := do
  match (← Facade.holder owner).content with
  | .unit _ _ => return some owner
  | _ => return none

namespace Location

/-- Makes an object of a location. -/
def wrap (native : NativeLocation) (owner : Nat) : Facade Location := do
  return ⟨← Facade.fresh, owner, native⟩

/-- Refuses a file of another unit. -/
def checkFile (unit : Nat) (file : File) : Facade Unit :=
  if file.owner = unit then return else throw .foreignFile

/-- Refuses a file whose place is gone since its unit was parsed again. -/
def checkPlace (handle : Handle) (file : File) : Facade Unit := do
  if (← get).library.hasPlace handle file.native then return else throw .listIndex

/-- The location of a line and column in a file. -/
def ofPosition (unit : Nat) (file : File) (line column : Int) : Facade Location := do
  if line < 1 ∨ column < 1 then
    throw (.positionBelowOne (Text.ofInt line) (Text.ofInt column))
  checkFile unit file
  let handle ← Facade.handle unit
  checkPlace handle file
  wrap (← Facade.call
    (Library.Call.locationOfPosition handle file.native line.toNat column.toNat)) unit

/-- The location of an offset in a file. -/
def ofOffset (unit : Nat) (file : File) (offset : Int) : Facade Location := do
  if offset < 0 then throw (.negativeOffset (Text.ofInt offset))
  checkFile unit file
  let handle ← Facade.handle unit
  checkPlace handle file
  wrap (← Facade.call (Library.Call.locationOfOffset handle file.native offset.toNat)) unit

/-- Reads a location, or recalls what was read before. -/
def expansion (location : Location) : Facade Expansion := do
  match (← get).expansions.lookup location with
  | some expansion => return expansion
  | none =>
      Facade.ensureOpen location.owner
      let native ← Facade.call (Library.Call.expansion location.native)
      let file ← native.file.mapM fun file => File.wrap file location.owner
      let expansion : Expansion := ⟨file, native.line, native.column, native.offset⟩
      modify fun session =>
        { session with expansions := session.expansions ++ [(location, expansion)] }
      return expansion

/-- Whether a location is nowhere. -/
def isNull (location : Location) : Bool := location.native = .null

/-- Whether a location lies in the main file. -/
def isFromMainFile (location : Location) : Facade Bool := do
  Facade.ensureOpen location.owner
  Facade.call (Library.Call.isFromMainFile location.native)

/-- Whether a location lies in a system header. -/
def isInSystemHeader (location : Location) : Facade Bool := do
  Facade.ensureOpen location.owner
  Facade.call (Library.Call.isInSystemHeader location.native)

/-- The name of the file of a location. -/
def fileName? (location : Location) : Facade (Option String) := do
  match (← location.expansion).file with
  | none => return none
  | some file => return some (← file.name)

/-- What the hash of a location is made of: the name of the file and the offset. -/
def key (location : Location) : Facade (Option String × Nat) := do
  let name ← location.fileName?
  return (name, (← location.expansion).offset)

/-- How a location is shown. -/
def written (location : Location) : Facade Text := do
  let name ← location.fileName?
  let expansion ← location.expansion
  return "<SourceLocation file " ++ Text.ofString (name.elim "None" Quoted.ofString) ++
    ", line " ++ Text.ofNat expansion.line ++ ", column " ++ Text.ofNat expansion.column ++ ">"

end Location

namespace Range

/-- Makes an object of a range. -/
def wrap (native : NativeRange) (owner : Nat) : Facade Range := do
  return ⟨← Facade.fresh, owner, native⟩

/-- The range between two locations of one owner. -/
def make (start finish : Location) : Facade Range := do
  if start.owner ≠ finish.owner then throw .mixedOwners
  Facade.ensureOpen start.owner
  wrap (.between start.native finish.native) start.owner

/-- Where a range begins. -/
def start (range : Range) : Facade Location := Location.wrap range.native.start range.owner

/-- Where a range ends. -/
def finish (range : Range) : Facade Location := Location.wrap range.native.finish range.owner

/-- Whether a range is nowhere. -/
def isNull (range : Range) : Bool := range.native = .null

/-- What the hash of a range is made of: the keys of its two locations. -/
def key (range : Range) : Facade ((Option String × Nat) × (Option String × Nat)) := do
  let start ← range.start
  let finish ← range.finish
  let first ← start.key
  return (first, ← finish.key)

/-- How a range is shown. -/
def written (range : Range) : Facade Text := do
  let start ← (← range.start).written
  let finish ← (← range.finish).written
  return "<SourceRange start " ++ start ++ ", end " ++ finish ++ ">"

end Range
end Custody

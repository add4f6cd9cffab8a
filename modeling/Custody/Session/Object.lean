import Custody.Datum.Argument
import Custody.Enumeration.Lookup
import Custody.Library.Handle

/-!
# Objects of a session

A session hands out objects.  Files, locations, ranges, cursors and tokens are
values of the library together with the holder they came from, their owner or
unit.  Every object has a serial, which tells it apart from other objects of equal
content.  Snapshots of compile commands and of what the indexer reports need no
handle any more.
-/

namespace Custody

/-- A file of an owner. -/
structure File where
  /-- Tells the object apart. -/
  serial : Nat
  /-- The holder that must be open while the file is used. -/
  owner : Nat
  /-- The file of the library. -/
  native : FileHandle
  deriving DecidableEq, Inhabited

/-- A location of an owner. -/
structure Location where
  /-- Tells the object apart. -/
  serial : Nat
  /-- The holder that must be open while the location is read. -/
  owner : Nat
  /-- The location of the library. -/
  native : NativeLocation
  deriving DecidableEq, Inhabited

/-- Where a location lies, as it was found when it was first read. -/
structure Expansion where
  /-- The file, absent for the null location. -/
  file : Option File
  /-- The line. -/
  line : Nat
  /-- The column. -/
  column : Nat
  /-- The offset. -/
  offset : Nat
  deriving DecidableEq, Inhabited

/-- A range of an owner. -/
structure Range where
  /-- Tells the object apart. -/
  serial : Nat
  /-- The holder that must be open while the range is read. -/
  owner : Nat
  /-- The range of the library. -/
  native : NativeRange
  deriving DecidableEq, Inhabited

/-- A cursor of a unit. -/
structure Cursor where
  /-- Tells the object apart. -/
  serial : Nat
  /-- The unit. -/
  unit : Nat
  /-- The cursor of the library. -/
  native : NativeCursor
  /-- The cursor from which it was visited. -/
  visitedFrom : Option NativeCursor
  deriving DecidableEq, Inhabited

/-- A token of a unit. -/
structure Token where
  /-- Tells the object apart. -/
  serial : Nat
  /-- The unit. -/
  unit : Nat
  /-- The token of the library. -/
  native : NativeToken
  deriving DecidableEq, Inhabited

/-- A proposal to replace the source in a range. -/
structure FixIt where
  /-- Tells the object apart. -/
  serial : Nat
  /-- The new text. -/
  value : String
  /-- What it replaces. -/
  range : Range
  deriving DecidableEq, Inhabited

/-- How one file is compiled.  A caller may put anything into a command. -/
structure CompileCommand where
  /-- Tells the object apart. -/
  serial : Nat
  /-- The working directory. -/
  directory : Datum
  /-- The file. -/
  filename : Datum
  /-- The argument vector, the program first. -/
  arguments : List Datum
  deriving Inhabited

/-- Two commands agree when all their parts do. -/
def CompileCommand.agrees (left right : CompileCommand) : Bool :=
  left.directory.agrees right.directory && left.filename.agrees right.filename &&
    Datum.agreesAll left.arguments right.arguments

/-- A snapshot of an indexed entity. -/
structure Entity where
  /-- Tells the object apart. -/
  serial : Nat
  /-- What it is. -/
  kind : Member
  /-- Its name. -/
  name : Option String
  /-- The name of its symbol across units. -/
  usr : Option String
  /-- Its cursor. -/
  cursor : Option Cursor
  deriving DecidableEq, Inhabited

/-- A snapshot of an indexed declaration. -/
structure Declaration where
  /-- Tells the object apart. -/
  serial : Nat
  /-- Its cursor. -/
  cursor : Option Cursor
  /-- What it declares. -/
  entity : Option Entity
  /-- Where it is. -/
  location : Location
  /-- What it belongs to. -/
  semanticContainer : Option Cursor
  /-- What it is written in. -/
  lexicalContainer : Option Cursor
  /-- Whether it was declared before. -/
  isRedeclaration : Bool
  /-- Whether it is a definition. -/
  isDefinition : Bool
  /-- Whether it contains other declarations. -/
  isContainer : Bool
  /-- Whether it is not written out. -/
  isImplicit : Bool
  deriving DecidableEq, Inhabited

/-- A snapshot of an indexed reference. -/
structure Reference where
  /-- Tells the object apart. -/
  serial : Nat
  /-- How the entity is referred to. -/
  kind : Member
  /-- Its cursor. -/
  cursor : Option Cursor
  /-- Where it is. -/
  location : Location
  /-- The entity. -/
  referenced : Option Entity
  /-- The entity that the reference is part of. -/
  parent : Option Entity
  /-- What it is written in. -/
  container : Option Cursor
  deriving DecidableEq, Inhabited

/-- A snapshot of an indexed inclusion. -/
structure IncludedFile where
  /-- Tells the object apart. -/
  serial : Nat
  /-- The name as written. -/
  filename : String
  /-- The file. -/
  file : Option File
  /-- Where the directive is. -/
  hashLocation : Location
  /-- Whether it is an import. -/
  isImport : Bool
  /-- Whether the name is in angle brackets. -/
  isAngled : Bool
  /-- Whether it imports a module. -/
  isModuleImport : Bool
  deriving DecidableEq, Inhabited

/-- A snapshot of an indexed import of a stored unit. -/
structure ImportedFile where
  /-- Tells the object apart. -/
  serial : Nat
  /-- The file. -/
  file : Option File
  /-- Where the import is. -/
  location : Location
  /-- Whether it is not written out. -/
  isImplicit : Bool
  deriving DecidableEq, Inhabited

/-- A snapshot of an indexed diagnostic. -/
structure IndexedDiagnostic where
  /-- Tells the object apart. -/
  serial : Nat
  /-- How grave it is. -/
  severity : Member
  /-- Its wording. -/
  spelling : String
  /-- The text that a compiler would print. -/
  formatted : String
  deriving DecidableEq, Inhabited

/-- What keeps the marks that a caller puts on it. -/
inductive Bearer where
  /-- A holder, by its number. -/
  | holder (number : Nat)
  /-- An unsaved file, by its number. -/
  | unsaved (number : Nat)
  /-- The slot of an unsaved file, by the number of the file. -/
  | slot (number : Nat)
  /-- Any other object, by its serial. -/
  | object (serial : Nat)
  deriving DecidableEq, Inhabited

/-- A value that a caller put on an object under a name that is no part of it. -/
structure Mark where
  /-- Tells the value apart. -/
  serial : Nat
  /-- The object. -/
  bearer : Bearer
  /-- The name. -/
  name : String
  /-- The value. -/
  value : Datum
  deriving Inhabited

end Custody

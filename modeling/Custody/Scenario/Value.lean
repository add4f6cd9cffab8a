import Custody.Session.Database
import Custody.Session.Indexing

/-!
# Values of a scenario

A scenario works with whatever a session hands out: plain data, holders, objects
and lists of them.  Snapshots of the indexer and replacements are records with
named fields.  Texts, byte strings and flags have serials too, since two of equal
content need not be one object.
-/

namespace Custody

/-- A value of a scenario. -/
inductive Value where
  /-- The absent value. -/
  | nothing
  /-- A truth value. -/
  | bool (value : Bool)
  /-- An integer. -/
  | int (value : Int)
  /-- A text. -/
  | text (serial : Nat) (value : Text)
  /-- A byte string. -/
  | bytes (serial : Nat) (value : Bytes)
  /-- Any other datum that a caller put into a value. -/
  | loose (serial : Nat) (value : Datum)
  /-- A member of an enumeration of integers. -/
  | member (value : Member)
  /-- A kind of cursors or tokens: the name of the enumeration and its member. -/
  | kind (enumeration : String) (name : String) (code : Int)
  /-- A value of a flag set. -/
  | flags (serial : Nat) (names : FlagSet) (value : Nat)
  /-- A holder. -/
  | holder (number : Nat)
  /-- An unsaved file. -/
  | unsaved (number : Nat)
  /-- The slot of an unsaved file. -/
  | slot (number : Nat)
  /-- A file. -/
  | file (value : File)
  /-- A location. -/
  | location (value : Location)
  /-- A range. -/
  | range (value : Range)
  /-- A cursor. -/
  | cursor (value : Cursor)
  /-- A token. -/
  | token (value : Token)
  /-- The diagnostics of a unit. -/
  | view (serial : Nat) (unit : Nat)
  /-- A compile command. -/
  | command (value : CompileCommand)
  /-- A record with named fields. -/
  | record (serial : Nat) (name : String) (fields : List (String × Value))
  /-- A list. -/
  | list (serial : Nat) (items : List Value)
  /-- A tuple. -/
  | tuple (serial : Nat) (items : List Value)
  deriving Inhabited

namespace Value

/-- A value that may be absent. -/
def option {α : Type} (make : α → Value) : Option α → Value
  | none => .nothing
  | some value => make value

/-- A string as a value. -/
def string (serial : Nat) (value : String) : Value := .text serial (Text.ofString value)

/-- A datum as a value. -/
def ofDatum (serial : Nat) : Datum → Value
  | .null => .nothing
  | .bool value => .bool value
  | .int value => .int value
  | .text value => .text serial value
  | .bytes value => .bytes serial value
  | datum => .loose serial datum

/-- A new text. -/
def newText (value : Text) : Facade Value := do return .text (← Facade.fresh) value

/-- A new text with the content of a string. -/
def newString (value : String) : Facade Value := newText (Text.ofString value)

/-- A new list. -/
def listOf (items : List Value) : Facade Value := do return .list (← Facade.fresh) items

/-- A list of cursors, some of which may be absent. -/
def cursors (items : List (Option Cursor)) : Facade Value := listOf (items.map (option .cursor))

/-- A replacement as a record. -/
def ofFixIt (fixIt : FixIt) : Value :=
  .record fixIt.serial "FixIt" [("value", string fixIt.serial fixIt.value), ("range", .range fixIt.range)]

/-- An entity as a record. -/
def ofEntity (entity : Entity) : Value :=
  .record entity.serial "IndexedEntity" [
    ("kind", .member entity.kind),
    ("name", option (string entity.serial) entity.name),
    ("usr", option (string entity.serial) entity.usr),
    ("cursor", option .cursor entity.cursor)]

/-- A declaration as a record. -/
def ofDeclaration (declaration : Declaration) : Value :=
  .record declaration.serial "IndexedDeclaration" [
    ("cursor", option .cursor declaration.cursor),
    ("entity", option ofEntity declaration.entity),
    ("location", .location declaration.location),
    ("semantic_container", option .cursor declaration.semanticContainer),
    ("lexical_container", option .cursor declaration.lexicalContainer),
    ("is_redeclaration", .bool declaration.isRedeclaration),
    ("is_definition", .bool declaration.isDefinition),
    ("is_container", .bool declaration.isContainer),
    ("is_implicit", .bool declaration.isImplicit)]

/-- A reference as a record. -/
def ofReference (reference : Reference) : Value :=
  .record reference.serial "IndexedEntityReference" [
    ("kind", .member reference.kind),
    ("cursor", option .cursor reference.cursor),
    ("location", .location reference.location),
    ("referenced_entity", option ofEntity reference.referenced),
    ("parent_entity", option ofEntity reference.parent),
    ("container", option .cursor reference.container)]

/-- An inclusion as a record. -/
def ofIncluded (included : IncludedFile) : Value :=
  .record included.serial "IncludedFile" [
    ("filename", string included.serial included.filename),
    ("file", option .file included.file),
    ("hash_location", .location included.hashLocation),
    ("is_import", .bool included.isImport),
    ("is_angled", .bool included.isAngled),
    ("is_module_import", .bool included.isModuleImport)]

/-- An import of a stored unit as a record. -/
def ofImported (imported : ImportedFile) : Value :=
  .record imported.serial "ImportedASTFile" [
    ("file", option .file imported.file),
    ("location", .location imported.location),
    ("is_implicit", .bool imported.isImplicit)]

/-- An indexed diagnostic as a record. -/
def ofIndexedDiagnostic (diagnostic : IndexedDiagnostic) : Value :=
  .record diagnostic.serial "IndexedDiagnostic" [
    ("severity", .member diagnostic.severity),
    ("spelling", string diagnostic.serial diagnostic.spelling),
    ("formatted", string diagnostic.serial diagnostic.formatted)]

/-- What a hook was told, as a value. -/
def ofNotice : Notice → Value
  | .started => .nothing
  | .mainFile item => .file item
  | .diagnostics serial items => .list serial (items.map ofIndexedDiagnostic)
  | .included item => ofIncluded item
  | .imported item => ofImported item
  | .declaration item => ofDeclaration item
  | .reference item => ofReference item

/-- The name of the class of a value. -/
def className (session : Session) : Value → String
  | .nothing => "NoneType"
  | .bool _ => "bool"
  | .int _ => "int"
  | .text _ _ => "str"
  | .bytes _ _ => "bytes"
  | .loose _ value => value.kindName
  | .member value => value.enumeration
  | .kind enumeration _ _ => enumeration
  | .flags _ names _ => names.name
  | .holder number =>
      ((session.estate.get? number).map fun holder => holder.content.className).getD ""
  | .unsaved _ => "UnsavedFile"
  | .slot _ => "CXUnsavedFile"
  | .file _ => "File"
  | .location _ => "SourceLocation"
  | .range _ => "SourceRange"
  | .cursor value => value.cursorClass.name
  | .token _ => "Token"
  | .view _ _ => "_DiagnosticList"
  | .command _ => "CompileCommand"
  | .record _ name _ => name
  | .list _ _ => "list"
  | .tuple _ _ => "tuple"

/-- The number of a holder. -/
def asHolder : Value → Facade Nat
  | .holder number => return number
  | _ => throw .noSuchPart

/-- The number of a holder that is of the wanted sort. -/
def asWrapper (wanted : Wrapper → Bool) (value : Value) : Facade Nat := do
  let number ← value.asHolder
  if wanted (← Facade.holder number).content then return number else throw .noSuchPart

/-- What is passed where a holder is wanted, unless it is nothing. -/
def passed? : Value → Option Passed
  | .nothing => none
  | .holder number => some (.holder number)
  | _ => some .other

/-- What is passed where a holder is wanted. -/
def passed (value : Value) : Passed := value.passed?.getD .other

/-- The number of an index. -/
def asIndex : Value → Facade Nat := asWrapper fun wrapper =>
  match wrapper with
  | .index => true
  | _ => false

/-- The number of a unit. -/
def asUnit : Value → Facade Nat := asWrapper fun wrapper =>
  match wrapper with
  | .unit _ _ => true
  | _ => false

/-- The number of an indexing session. -/
def asAction : Value → Facade Nat := asWrapper fun wrapper =>
  match wrapper with
  | .action _ => true
  | _ => false

/-- The number of a diagnostic. -/
def asDiagnostic : Value → Facade Nat := asWrapper fun wrapper =>
  match wrapper with
  | .diagnostic _ => true
  | _ => false

/-- The number of a database. -/
def asDatabase : Value → Facade Nat := asWrapper fun wrapper =>
  match wrapper with
  | .database _ _ => true
  | _ => false

/-- A file. -/
def asFile : Value → Facade File
  | .file value => return value
  | _ => throw .noSuchPart

/-- A location. -/
def asLocation : Value → Facade Location
  | .location value => return value
  | _ => throw .noSuchPart

/-- A range. -/
def asRange : Value → Facade Range
  | .range value => return value
  | _ => throw .noSuchPart

/-- A cursor. -/
def asCursor : Value → Facade Cursor
  | .cursor value => return value
  | _ => throw .noSuchPart

/-- A compile command. -/
def asCommand : Value → Facade CompileCommand
  | .command value => return value
  | _ => throw .noSuchPart

/-- The holder that something belongs to; a set may belong to none. -/
def owner : Value → Facade (Option Nat)
  | .file value => return some value.owner
  | .location value => return some value.owner
  | .range value => return some value.owner
  | .holder number => do
      match (← Facade.holder number).content with
      | .diagnostic owner => return some owner
      | .set owner => return owner
      | _ => throw .noSuchPart
  | _ => throw .noSuchPart

/-- Whether a value is the owner of something. -/
def isOwner (owner : Option Nat) : Value → Bool
  | .nothing => owner.isNone
  | .holder number => owner = some number
  | _ => false

/-- An unsaved file as it is at present. -/
def asUnsaved : Value → Facade UnsavedFile
  | .unsaved number => do
      match (← get).unsaved[number]? with
      | some value => return value
      | none => throw .noSuchPart
  | _ => throw .noSuchPart

end Value

/-- The form in which a scenario reports a value. -/
inductive Rendered where
  /-- The absent value. -/
  | nothing
  /-- A truth value. -/
  | bool (value : Bool)
  /-- An integer. -/
  | int (value : Int)
  /-- A text, which may hold raw bytes. -/
  | text (value : Text)
  /-- A value of a flag set. -/
  | flags (name : String) (value : Nat)
  /-- Any object, by its class. -/
  | object (className : String)
  /-- Named parts. -/
  | fields (entries : List (Text × Rendered))
  /-- A list. -/
  | list (items : List Rendered)
  /-- A failure in place of a value. -/
  | failure (failure : Failure)
  deriving Inhabited

namespace Rendered

/-- The form of a string. -/
def string (value : String) : Rendered := .text (Text.ofString value)

mutual

/-- Whether a form can be written down: texts with halves of pairs cannot. -/
def isWritable : Rendered → Bool
  | .text value => !value.hasHalf
  | .fields entries => areWritableFields entries
  | .list items => areWritable items
  | _ => true

/-- Whether several forms can be written down. -/
def areWritable : List Rendered → Bool
  | [] => true
  | item :: items => isWritable item && areWritable items

/-- Whether the forms of named parts can be written down. -/
def areWritableFields : List (Text × Rendered) → Bool
  | [] => true
  | (_, value) :: entries => isWritable value && areWritableFields entries

end

/-- A form that can be written down. -/
def checked (rendered : Rendered) : Except Failure Rendered :=
  if rendered.isWritable then .ok rendered else .error .unencodable

mutual

/-- The form of a datum: numbers with a fraction and mappings are shown by their class. -/
def ofDatum : Datum → Rendered
  | .null => .nothing
  | .bool value => .bool value
  | .int value => .int value
  | .text value => .text value
  | .bytes value => .text (Utf8.decodeKeeping value)
  | .list items => .list (ofData items)
  | datum => .object datum.kindName

/-- The forms of several data. -/
def ofData : List Datum → List Rendered
  | [] => []
  | item :: items => ofDatum item :: ofData items

end

/-- The form of a compile command. -/
def command (command : CompileCommand) : Rendered :=
  .fields [
    ("directory", ofDatum command.directory),
    ("filename", ofDatum command.filename),
    ("arguments", .list (ofData command.arguments))]

/-- The form of settings. -/
def settings (settings : Settings) : Rendered :=
  .fields [
    ("library_file", ofDatum settings.libraryFile),
    ("library_path", ofDatum settings.libraryPath),
    ("default_args", ofDatum settings.defaultArguments)]

mutual

/-- The form of a value. -/
def ofValue (session : Session) : Value → Rendered
  | .nothing => .nothing
  | .bool value => .bool value
  | .int value => .int value
  | .text _ value => .text value
  | .bytes _ value => .text (Utf8.decodeKeeping value)
  | .loose _ value => ofDatum value
  | .member member => string member.name
  | .kind _ name _ => string name
  | .flags _ names value => .flags names.name value
  | .command value => command value
  | .list _ items => .list (ofValues session items)
  | .tuple _ items => .list (ofValues session items)
  | .holder number => .object (Value.className session (.holder number))
  | .unsaved number => .object (Value.className session (.unsaved number))
  | .slot number => .object (Value.className session (.slot number))
  | .file value => .object (Value.className session (.file value))
  | .location value => .object (Value.className session (.location value))
  | .range value => .object (Value.className session (.range value))
  | .cursor value => .object (Value.className session (.cursor value))
  | .token value => .object (Value.className session (.token value))
  | .view serial unit => .object (Value.className session (.view serial unit))
  | .record _ name _ => .object name

/-- The forms of several values. -/
def ofValues (session : Session) : List Value → List Rendered
  | [] => []
  | item :: items => ofValue session item :: ofValues session items

end

end Rendered
end Custody

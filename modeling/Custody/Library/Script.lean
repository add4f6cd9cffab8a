import Custody.Library.Source

/-!
# Scripts of the library

The compiler library itself is not part of this project.  A script says what it
answers: the units, sets of diagnostics and compilation databases that it can
produce.  A reply chooses among them for one operation and fixes the status codes.
Kinds and flags are given as numbers, of which the library passes on a word.
-/

namespace Custody
namespace Library

/-- A stretch of source between two spots, each of which may be null. -/
structure Stretch where
  /-- Where it begins. -/
  first : Option Spot
  /-- Where it ends. -/
  last : Option Spot
  deriving DecidableEq, Inhabited

/-- A proposed replacement of source. -/
structure Replacement where
  /-- The new text. -/
  value : Option Bytes
  /-- What it replaces. -/
  range : Option Stretch
  deriving DecidableEq, Inhabited

/-- A scripted diagnostic. -/
structure DiagnosticModel where
  /-- How grave it is. -/
  severity : Int
  /-- Its wording. -/
  spelling : Option Bytes
  /-- Where it is. -/
  spot : Option Spot
  /-- The ranges it concerns. -/
  ranges : List (Option Stretch)
  /-- The replacements it proposes. -/
  replacements : List Replacement
  /-- The option that enables it. -/
  option : Option Bytes
  /-- The option that disables it. -/
  disable : Option Bytes
  /-- The number of its category. -/
  category : Int
  /-- The name of its category. -/
  categoryText : Option Bytes
  /-- Its notes, absent when it has no set of notes. -/
  children : Option (List DiagnosticModel)
  deriving Inhabited

/-- A scripted cursor.  Other cursors are given by their number, absent for the null cursor. -/
structure CursorModel where
  /-- Its kind. -/
  kind : Int
  /-- Its name. -/
  spelling : Option Bytes
  /-- Its name with parameters. -/
  display : Option Bytes
  /-- The name of its symbol across units. -/
  usr : Option Bytes
  /-- What it spans. -/
  extent : Option Stretch
  /-- Where it is. -/
  spot : Option Spot
  /-- What is below it. -/
  children : List (Option Nat)
  /-- What it belongs to. -/
  semanticParent : Option Nat
  /-- What it is written in. -/
  lexicalParent : Option Nat
  /-- What it refers to. -/
  referenced : Option Nat
  /-- Where it is defined. -/
  definition : Option Nat
  /-- Whether it is a definition. -/
  isDefinition : Bool
  deriving DecidableEq, Inhabited

/-- A scripted token. -/
structure TokenModel where
  /-- Its kind. -/
  kind : Int
  /-- Its text. -/
  spelling : Option Bytes
  /-- What it spans. -/
  extent : Option Stretch
  deriving DecidableEq, Inhabited

/-- A scripted inclusion: a file and how it was reached, the innermost place first. -/
structure InclusionModel where
  /-- The file. -/
  file : Nat
  /-- The places of the inclusions that led to it. -/
  stack : List (Option Spot)
  deriving DecidableEq, Inhabited

/-- A scripted entity. -/
structure EntityModel where
  /-- Its kind. -/
  kind : Int
  /-- Its name. -/
  name : Option Bytes
  /-- The name of its symbol across units. -/
  usr : Option Bytes
  /-- Its cursor. -/
  cursor : Option Nat
  deriving DecidableEq, Inhabited

/-- A container: absent, or given by a cursor that may be null. -/
abbrev ContainerModel := Option (Option Nat)

/-- A scripted declaration. -/
structure DeclarationModel where
  /-- Its cursor. -/
  cursor : Option Nat
  /-- What it declares. -/
  entity : Option EntityModel
  /-- Where it is. -/
  spot : Option Spot
  /-- What it belongs to. -/
  semantic : ContainerModel
  /-- What it is written in. -/
  lexical : ContainerModel
  /-- Whether it was declared before. -/
  isRedeclaration : Int
  /-- Whether it is a definition. -/
  isDefinition : Int
  /-- Whether it contains other declarations. -/
  isContainer : Int
  /-- Whether it is not written out. -/
  isImplicit : Int
  deriving DecidableEq, Inhabited

/-- A scripted reference to an entity. -/
structure ReferenceModel where
  /-- How the entity is referred to. -/
  kind : Int
  /-- Its cursor. -/
  cursor : Option Nat
  /-- Where it is. -/
  spot : Option Spot
  /-- The entity. -/
  entity : Option EntityModel
  /-- The entity that the reference is part of. -/
  parent : Option EntityModel
  /-- What it is written in. -/
  container : ContainerModel
  deriving DecidableEq, Inhabited

/-- A scripted inclusion, as the indexer reports it. -/
structure IncludedModel where
  /-- The name as written. -/
  filename : Option Bytes
  /-- The file. -/
  file : Option Nat
  /-- Where the directive is. -/
  spot : Option Spot
  /-- Whether it is an import. -/
  isImport : Int
  /-- Whether the name is in angle brackets. -/
  isAngled : Int
  /-- Whether it imports a module. -/
  isModule : Int
  deriving DecidableEq, Inhabited

/-- A scripted import of a stored unit. -/
structure ImportedModel where
  /-- The file. -/
  file : Option Nat
  /-- Where the import is. -/
  spot : Option Spot
  /-- Whether it is not written out. -/
  isImplicit : Int
  deriving DecidableEq, Inhabited

/-- What the indexer reports. -/
inductive Event where
  /-- The unit is begun. -/
  | started
  /-- The main file is entered. -/
  | mainFile (file : Option Nat)
  /-- Diagnostics were made. -/
  | diagnostics (items : Option (List DiagnosticModel))
  /-- A file is included. -/
  | included (item : IncludedModel)
  /-- A stored unit is imported. -/
  | imported (item : ImportedModel)
  /-- A declaration. -/
  | declaration (item : DeclarationModel)
  /-- A reference. -/
  | reference (item : ReferenceModel)
  deriving Inhabited

/-- The places for callbacks of the indexer, in the order in which they are listed. -/
inductive Station where
  /-- Asks whether to stop. -/
  | abortQuery
  /-- Receives diagnostics. -/
  | diagnostic
  /-- Receives the main file. -/
  | enteredMainFile
  /-- Receives inclusions. -/
  | includedFile
  /-- Receives imports of stored units. -/
  | importedUnit
  /-- Is told that the unit is begun. -/
  | startedUnit
  /-- Receives declarations. -/
  | declaration
  /-- Receives references. -/
  | reference
  deriving DecidableEq, Inhabited

namespace Station

/-- All stations in order. -/
def all : List Station :=
  [.abortQuery, .diagnostic, .enteredMainFile, .includedFile, .importedUnit, .startedUnit,
    .declaration, .reference]

/-- The name of a station. -/
def name : Station → String
  | .abortQuery => "abortQuery"
  | .diagnostic => "diagnostic"
  | .enteredMainFile => "enteredMainFile"
  | .includedFile => "ppIncludedFile"
  | .importedUnit => "importedASTFile"
  | .startedUnit => "startedTranslationUnit"
  | .declaration => "indexDeclaration"
  | .reference => "indexEntityReference"

end Station

/-- The station that an event is delivered to. -/
def Event.station : Event → Station
  | .started => .startedUnit
  | .mainFile _ => .enteredMainFile
  | .diagnostics _ => .diagnostic
  | .included _ => .includedFile
  | .imported _ => .importedUnit
  | .declaration _ => .declaration
  | .reference _ => .reference

/-- A scripted compilation unit. -/
structure UnitModel where
  /-- Its name. -/
  spelling : Option Bytes
  /-- The options with which it is parsed again. -/
  reparseOptions : Int
  /-- The options with which it is saved. -/
  saveOptions : Int
  /-- The number of the main file. -/
  main : Nat
  /-- The root cursor. -/
  root : Option Nat
  /-- Its files. -/
  files : List SourceFile
  /-- Its cursors. -/
  cursors : List CursorModel
  /-- Its tokens. -/
  tokens : List TokenModel
  /-- Whether a request that finds no token yields an empty buffer and not a null one. -/
  emptyTokenBuffer : Bool
  /-- Its diagnostics. -/
  diagnostics : List DiagnosticModel
  /-- Its inclusions. -/
  inclusions : List InclusionModel
  /-- What the indexer reports about it. -/
  events : List Event
  deriving Inhabited

/-- A scripted set of diagnostics. -/
structure SetModel where
  /-- Its files. -/
  files : List SourceFile
  /-- Its diagnostics. -/
  diagnostics : List DiagnosticModel
  deriving Inhabited

/-- A scripted compile command. -/
structure CommandModel where
  /-- Where it is run. -/
  directory : Option Bytes
  /-- The file it compiles. -/
  filename : Option Bytes
  /-- Its arguments. -/
  arguments : List (Option Bytes)
  deriving DecidableEq, Inhabited

/-- A scripted compilation database; a command may be null. -/
abbrev DatabaseModel := List (Option CommandModel)

/-- What the library can produce. -/
structure Script where
  /-- Units. -/
  units : List UnitModel
  /-- Sets of diagnostics. -/
  sets : List SetModel
  /-- Compilation databases. -/
  databases : List DatabaseModel
  /-- The options with which diagnostics are formatted by default. -/
  displayOptions : Int
  deriving Inhabited

/-- Which model an answer is made from. -/
inductive Choice where
  /-- Nothing was said. -/
  | unsaid
  /-- None at all. -/
  | nothing
  /-- The model with this number. -/
  | model (number : Nat)
  deriving DecidableEq, Inhabited

namespace Choice

/-- The number of the chosen model; the first one if nothing was said. -/
def number? : Choice → Option Nat
  | .unsaid => some 0
  | .nothing => none
  | .model number => some number

end Choice

/-- How the library answers during one operation. -/
structure Reply where
  /-- The status code. -/
  status : Int := 0
  /-- The unit that is produced. -/
  unit : Choice := .unsaid
  /-- The set that is produced. -/
  set : Choice := .unsaid
  /-- The database that is produced. -/
  database : Choice := .unsaid
  /-- The message about stored diagnostics. -/
  message : Option Bytes := none
  /-- Whether an index or an action fails to be made. -/
  null : Bool := false
  /-- Whether an empty list of commands is a list. -/
  emptyList : Bool := false
  /-- Whether the indexer goes on although it was asked to stop. -/
  ignoreAbort : Bool := false
  /-- The numbers of the strings whose bytes the library does not show. -/
  hidden : List Nat := []
  deriving DecidableEq, Inhabited

end Library
end Custody

import Custody.Session.Cursor
import Custody.Session.Diagnostic
import Custody.Session.Index

/-!
# Units of a session

A unit is parsed from a file, from source in memory, or from a compile command, or
it is loaded from a stored unit.  Its index closes it.  Parsing it again closes the
diagnostics it has handed out; if that fails, the unit is closed too.
-/

namespace Custody
namespace CompilationUnit

/-- Makes a holder of a unit, which its index will close. -/
def wrap (handle : Handle) (index : Nat) (overlay : Option UnsavedFile) : Facade Nat := do
  let unit ← Facade.wrap (some handle) true (.unit index overlay)
  Facade.adopt index unit
  return unit

/-- What a parse call is about: its file, or else its arguments, which must be text. -/
def subject (filename : Option Datum) (arguments : List Datum) : Except Failure Text :=
  match filename with
  | some filename => filename.decodeName
  | none =>
      match arguments.mapM Datum.text? with
      | some texts => .ok (Text.intercalate " " texts)
      | none => .error .wrongKind

/-- Files for a call, each of which may turn out to be none. -/
abbrev UnsavedFiles := List (Option UnsavedFile)

/-- The files for a call, if all are files. -/
def checkedFiles (files : UnsavedFiles) : Facade (List UnsavedFile) :=
  files.mapM fun file =>
    match file with
    | some file => return file
    | none => throw .noSuchPart

/-- Parses a file, or with a full argument vector whatever that names.  Everything is encoded
before the record is left, and only then the index and the options are looked at. -/
def parse
    (full : Bool)
    (index : Passed)
    (filename : Option Datum)
    (arguments : List Datum)
    (unsaved : UnsavedFiles)
    (options : Datum) : Facade (Nat × Handle) := do
  let encoded ← Facade.ofExcept (arguments.mapM Datum.encodeArgument)
  let files ← checkedFiles unsaved
  let name ← filename.mapM fun filename => Facade.ofExcept filename.encodeName
  Facade.record .debug ("parsing " ++ filename.elim ("None" : Text) Datum.shown ++ " with args " ++
    Text.ofString (Quoted.list (arguments.map Datum.written)))
  let (index, handle) ← Facade.passed index
  let options ← Facade.ofExcept options.toInteger
  let (status, unit) ← Facade.call
    (Library.Call.parse full handle name encoded (unsavedSlots files) options)
  let subject ← Facade.ofExcept (subject filename arguments)
  if status ≠ 0 then throw (.ofParseStatus status subject)
  match unit with
  | some unit => return (index, unit)
  | none =>
      throw (.reported ⟨.unit, .unknownUnitFailure,
        "libclang returned no translation unit for " ++ subject, none⟩)

/-- The arguments of a parse call; without any, those of the settings. -/
def argumentsOf (arguments : Option Datum) : Facade (List Datum) := do
  let arguments := arguments.getD (← get).settings.defaultArguments
  Facade.ofExcept arguments.toItems

/-- Parses a file and keeps the source that it was given in memory. -/
def parseFile
    (index : Option Passed)
    (filename : Option Datum)
    (arguments : Option Datum)
    (unsaved : UnsavedFiles)
    (options : Datum)
    (overlay : Option UnsavedFile) : Facade Nat := do
  let index ← Index.orNew index
  let arguments ← argumentsOf arguments
  let (index, handle) ← parse false index filename arguments unsaved options
  wrap handle index overlay

/-- Parses a file; without arguments, with those of the settings. -/
def ofFile
    (index : Option Passed)
    (filename : Option Datum)
    (arguments : Option Datum)
    (unsaved : UnsavedFiles)
    (options : Datum) : Facade Nat :=
  parseFile index filename arguments unsaved options none

/-- A name that was not generated before. -/
def generatedName : Facade String := do
  modify fun session => { session with generated := session.generated + 1 }
  return "source" ++ String.ofList (Nat.toDigits 10 (← get).generated)

/-- Parses source in memory under a generated name, whose extension tells the language. -/
def ofSource
    (index : Option Passed)
    (source : Datum)
    (language : Datum)
    (arguments : Option Datum)
    (unsaved : UnsavedFiles)
    (options : Datum) : Facade Nat := do
  let name ← generatedName
  let (_, extension) ← Facade.ofExcept (Language.labels.ofDatum language)
  let filename : Datum := (name ++ "." ++ extension : String)
  let overlay ← Facade.ofExcept (UnsavedFile.make filename source)
  parseFile index (some filename) arguments (unsaved ++ [some overlay]) options (some overlay)

/-- Loads a stored unit. -/
def ofStored (index : Option Passed) (path : Datum) : Facade Nat := do
  let path ← Facade.ofExcept path.decodeName
  let storage := (← get).storage
  if !path.encodeName?.any storage.isFile then
    throw (.reported ⟨.unit, .cannotLoadAst, "AST file not found: " ++ path, none⟩)
  let index ← Index.orNew index
  let (index, handle) ← Facade.passed index
  let (status, unit) ← Facade.call (Library.Call.loadUnit handle path.encode)
  if status = 1 ∨ status = 4 then
    throw (.reported ⟨.unit, .invalidAstFile, "not a valid AST file: " ++ path, some status⟩)
  if status ≠ 0 then
    throw (.reported ⟨.unit, .cannotLoadAst, "could not load AST file " ++ path, some status⟩)
  match unit with
  | some unit => wrap unit index none
  | none =>
      throw (.reported ⟨.unit, .invalidAstFile, "not a valid AST file: " ++ path, some status⟩)

/-- The option that names the working directory of a compile command. -/
def directoryArguments (directory : Datum) : List Datum :=
  if directory.isTrue then [.text "-working-directory", directory] else []

/-- Parses what a compile command compiles. -/
def ofCommand
    (index : Option Passed)
    (command : CompileCommand)
    (unsaved : UnsavedFiles)
    (options : Datum) : Facade Nat := do
  if command.arguments.isEmpty then throw (.noArguments command.filename.shown)
  let index ← Index.orNew index
  let arguments := command.arguments ++ directoryArguments command.directory
  let (index, handle) ← parse true index none arguments unsaved options
  wrap handle index none

/-- The index of a unit. -/
def index (unit : Nat) : Facade Nat := do
  match (← Facade.holder unit).content with
  | .unit index _ => return index
  | _ => throw .noSuchPart

/-- The source that a unit was made from in memory. -/
def overlay (unit : Nat) : Facade (Option UnsavedFile) := do
  match (← Facade.holder unit).content with
  | .unit _ overlay => return overlay
  | _ => return none

/-- The options with which a unit is parsed again by default. -/
def defaultReparseOptions (unit : Nat) : Facade Int := do
  let handle ← Facade.handle unit
  Facade.call (Library.Call.defaultReparseOptions handle)

/-- The options with which a unit is saved by default. -/
def defaultSaveOptions (unit : Nat) : Facade Int := do
  let handle ← Facade.handle unit
  Facade.call (Library.Call.defaultSaveOptions handle)

/-- The name of a unit. -/
def spelling (unit : Nat) : Facade String := do
  let handle ← Facade.handle unit
  Facade.borrowed (Library.Call.unitSpelling handle)

/-- The files for parsing again: the source in memory comes last unless it is overridden. -/
def withOverlay (overlay : Option UnsavedFile) (unsaved : List UnsavedFile) : List UnsavedFile :=
  match overlay with
  | none => unsaved
  | some overlay =>
      if unsaved.all fun file => file.filename ≠ overlay.filename then unsaved ++ [overlay]
      else unsaved

/-- Options given by a caller, or else those of the library. -/
def optionsOr (default : Facade Int) (options : Option Datum) : Facade Datum :=
  match options with
  | some options => return options
  | none => do return .int (← default)

/-- Parses a unit again. -/
def reparse (unit : Nat) (unsaved : UnsavedFiles) (options : Option Datum) : Facade Unit := do
  let options ← optionsOr (defaultReparseOptions unit) options
  let handle ← Facade.handle unit
  Facade.closeDependants unit
  let files := withOverlay (← overlay unit) (← checkedFiles unsaved)
  let options ← Facade.ofExcept options.toInteger
  let status ← Facade.call (Library.Call.reparse handle (unsavedSlots files) options)
  if status ≠ 0 then
    let spelling ← spelling unit
    Facade.close unit
    throw (.reported
      ⟨.unit, .reparseFailed, "failed to reparse " ++ Text.ofString spelling, some status⟩)

/-- Saves a unit. -/
def save (unit : Nat) (path : Datum) (options : Option Datum) : Facade Unit := do
  let options ← optionsOr (defaultSaveOptions unit) options
  let handle ← Facade.handle unit
  let encoded ← Facade.ofExcept path.encodeName
  let options ← Facade.ofExcept options.toInteger
  let status ← Facade.call (Library.Call.save handle encoded options)
  if status ≠ 0 then
    let path ← Facade.ofExcept path.decodeName
    throw (.reported ⟨.unit, .saveFailed, "failed to save AST to " ++ path, some status⟩)

/-- The root cursor of a unit. -/
def cursor (unit : Nat) : Facade (Option Cursor) := do
  let handle ← Facade.handle unit
  let root ← Facade.call (Library.Call.rootCursor handle)
  root.forM Cursor.checkPresent
  Cursor.wrap root unit none

/-- The file of a unit with a given name. -/
def file (unit : Nat) (path : Datum) : Facade (Option File) := do
  let handle ← Facade.handle unit
  let name ← Facade.ofExcept path.encodeName
  match ← Facade.call (Library.Call.fileNamed handle name) with
  | none => return none
  | some native => return some (← File.wrap native unit)

/-- The tokens in a range of a unit, or in all of it. -/
def tokens (unit : Nat) (extent : Option Range) : Facade (List Token) := do
  let extent ←
    match extent with
    | some extent => pure extent
    | none =>
        match ← cursor unit with
        | some cursor => cursor.range
        | none => throw .noSuchPart
  if extent.owner ≠ unit then throw .foreignRange
  let handle ← Facade.handle unit
  match ← Facade.call (Library.Call.tokenize handle extent.native) with
  | none => return []
  | some buffer =>
      let tokens ← buffer.tokens.mapM fun token => Token.wrap token unit
      Facade.call (Library.Call.disposeTokens handle buffer)
      return tokens

/-- The tokens of a cursor. -/
def tokensOfCursor (cursor : Cursor) : Facade (List Token) := do
  tokens cursor.unit (some (← cursor.range))

/-- Visits the cursors of a unit: the visited cursors, and the failure that ended the visit. -/
def visitChildren (unit : Nat) (visitor : Visitor) :
    Facade (List (Option Cursor) × Option Failure) := do
  let handle ← Facade.handle unit
  let root ← Facade.call (Library.Call.rootCursor handle)
  let visiting ← Cursor.visitFrom unit root visitor
  return (← Cursor.ofVisits unit visiting.visits, visiting.failure)

/-- An inclusion: a file and the locations that led to it, the innermost first. -/
abbrev Inclusion := File × List Location

/-- An inclusion as the library reports it. -/
abbrev NativeInclusion := FileHandle × List NativeLocation

/-- A visitor of inclusions: whether it fails, given all calls so far with this one at the end. -/
abbrev InclusionVisitor := List NativeInclusion → Option Failure

/-- The course of a visit of inclusions. -/
structure InclusionVisiting where
  /-- The calls of the visitor, in order. -/
  visits : List NativeInclusion
  /-- The first failure of the visitor. -/
  failure : Option Failure
  deriving DecidableEq, Inhabited

/-- Calls a visitor on an inclusion, unless it has failed before. -/
def InclusionVisiting.step (visitor : InclusionVisitor) (file : FileHandle)
    (stack : List NativeLocation) (visiting : InclusionVisiting) : InclusionVisiting :=
  match visiting.failure with
  | some _ => visiting
  | none =>
      let visits := visiting.visits ++ [(file, stack)]
      ⟨visits, visitor visits⟩

/-- Visits the inclusions of a unit: those on which the visitor was called, and its failure. -/
def visitInclusions (unit : Nat) (visitor : InclusionVisitor) :
    Facade (List Inclusion × Option Failure) := do
  let handle ← Facade.handle unit
  let visiting ← Facade.call
    (Library.Call.visitInclusions handle (InclusionVisiting.step visitor) ⟨[], none⟩)
  let inclusions ← visiting.visits.mapM fun (file, stack) => do
    let file ← File.wrap file unit
    return (file, ← stack.mapM fun location => Location.wrap location unit)
  return (inclusions, visiting.failure)

/-- How a unit is shown. -/
def written (unit : Nat) : Facade Text := do
  if (← Facade.holder unit).handle.isNone then return "<TranslationUnit (closed)>"
  return "<TranslationUnit " ++ Text.ofString (Quoted.ofString (← spelling unit)) ++ ">"

end CompilationUnit
end Custody

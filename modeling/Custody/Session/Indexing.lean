import Custody.Library.Indexing
import Custody.Session.Unit

/-!
# Indexing in a session

The events of an indexing run are copied into snapshots before a hook sees them.
The first failure, of a hook, of the abort query or of a snapshot, ends the run: it
stops the indexer at the next query, silences all later events and is what the run
fails with.  Events that arrive after the run are dropped.
-/

namespace Custody

/-- What a hook is told. -/
inductive Notice where
  /-- The unit is begun. -/
  | started
  /-- The main file is entered. -/
  | mainFile (file : File)
  /-- Diagnostics were made. -/
  | diagnostics (serial : Nat) (items : List IndexedDiagnostic)
  /-- A file is included. -/
  | included (item : IncludedFile)
  /-- A stored unit is imported. -/
  | imported (item : ImportedFile)
  /-- A declaration. -/
  | declaration (item : Declaration)
  /-- A reference. -/
  | reference (item : Reference)
  deriving DecidableEq, Inhabited

/-- The station whose hook receives a notice. -/
def Notice.station : Notice → Library.Station
  | .started => .startedUnit
  | .mainFile _ => .enteredMainFile
  | .diagnostics _ _ => .diagnostic
  | .included _ => .includedFile
  | .imported _ => .importedUnit
  | .declaration _ => .declaration
  | .reference _ => .reference

/-- The name of the hook of a station. -/
def Library.Station.hook : Library.Station → String
  | .abortQuery => "abort_query"
  | .diagnostic => "diagnostic"
  | .enteredMainFile => "entered_main_file"
  | .includedFile => "included_file"
  | .importedUnit => "imported_ast_file"
  | .startedUnit => "started_translation_unit"
  | .declaration => "index_declaration"
  | .reference => "index_entity_reference"

/-- The functions of a caller that an indexing run calls. -/
structure Hooks where
  /-- Whether to stop, given the number of queries before. -/
  abortQuery : Option (Nat → Except Failure Bool)
  /-- Whether the hook of a station fails, given the number of its calls before. -/
  hook : Library.Station → Option (Nat → Option Failure)

namespace Hooks

/-- The stations at which something is installed: the abort query always is. -/
def installed (hooks : Hooks) : List Library.Station :=
  Library.Station.all.filter fun station =>
    station = .abortQuery || (hooks.hook station).isSome

end Hooks

namespace Snapshot

/-- The cursor with a given number in a unit. -/
def cursor (unit : Nat) (index : Option Nat) : Facade (Option Cursor) := do
  let handle ← Facade.handle unit
  Cursor.wrap (index.map ((← get).library.nativeCursor handle)) unit none

/-- The cursor of a container. -/
def container (unit : Nat) : Library.ContainerModel → Facade (Option Cursor)
  | none => return none
  | some index => cursor unit index

/-- The file with a given number in a unit. -/
def file (unit : Nat) : Option Nat → Facade (Option File)
  | none => return none
  | some index => do
      let handle ← Facade.handle unit
      return some (← File.wrap ⟨handle, (← get).library.modelNumber handle, index⟩ unit)

/-- The location of a spot in a unit. -/
def location (unit : Nat) (spot : Option Spot) : Facade Location := do
  let handle ← Facade.handle unit
  Location.wrap ((← get).library.locate handle spot) unit

/-- The text of bytes that end at the first zero byte. -/
def text? (bytes : Option Bytes) : Option String := Loan.decode? (bytes.map Bytes.upToZero)

/-- Copies an entity. -/
def entity (unit : Nat) : Option Library.EntityModel → Facade (Option Entity)
  | none => return none
  | some model => do
      let kind ← Facade.ofExcept (Codes.entityKinds.ofCode (Library.signedWord model.kind))
      let cursor ← cursor unit model.cursor
      return some ⟨← Facade.fresh, kind, text? model.name, text? model.usr, cursor⟩

/-- Copies a declaration. -/
def declaration (unit : Nat) (model : Library.DeclarationModel) : Facade Declaration := do
  let cursor ← cursor unit model.cursor
  let entity ← entity unit model.entity
  let location ← location unit model.spot
  let semantic ← container unit model.semantic
  let lexical ← container unit model.lexical
  return ⟨← Facade.fresh, cursor, entity, location, semantic, lexical,
    Library.isSet model.isRedeclaration, Library.isSet model.isDefinition,
    Library.isSet model.isContainer, Library.isSet model.isImplicit⟩

/-- Copies a reference. -/
def reference (unit : Nat) (model : Library.ReferenceModel) : Facade Reference := do
  let kind ← Facade.ofExcept (Codes.referenceKinds.ofCode (Library.signedWord model.kind))
  let cursor ← cursor unit model.cursor
  let location ← location unit model.spot
  let referenced ← entity unit model.entity
  let parent ← entity unit model.parent
  let container ← container unit model.container
  return ⟨← Facade.fresh, kind, cursor, location, referenced, parent, container⟩

/-- Copies an inclusion. -/
def included (unit : Nat) (model : Library.IncludedModel) : Facade IncludedFile := do
  let file ← file unit model.file
  let location ← location unit model.spot
  return ⟨← Facade.fresh, (text? model.filename).getD "", file, location,
    Library.isSet model.isImport, Library.isSet model.isAngled, Library.isSet model.isModule⟩

/-- Copies an import of a stored unit. -/
def imported (unit : Nat) (model : Library.ImportedModel) : Facade ImportedFile := do
  let file ← file unit model.file
  let location ← location unit model.spot
  return ⟨← Facade.fresh, file, location, Library.isSet model.isImplicit⟩

/-- Copies a diagnostic. -/
def diagnostic (model : Library.DiagnosticModel) : Facade IndexedDiagnostic := do
  let options := (← get).library.script.displayOptions
  let severity ← Facade.ofExcept (Codes.severities.ofCode model.severity)
  let spelling ← Facade.borrowed (Library.Call.lend model.spelling)
  let formatted ← Facade.borrowed
    (Library.Call.lend (Library.Call.formatted model options))
  return ⟨← Facade.fresh, severity, spelling, formatted⟩

/-- Copies an event; one without a payload has no notice. -/
def notice? (unit : Nat) : Library.Event → Option (Facade Notice)
  | .started => some (return .started)
  | .mainFile none => none
  | .mainFile (some index) => some do
      match ← file unit (some index) with
      | some file => return .mainFile file
      | none => throw .noSuchPart
  | .diagnostics none => none
  | .diagnostics (some items) => some do
      let items ← items.mapM diagnostic
      return .diagnostics (← Facade.fresh) items
  | .included model => some do return .included (← included unit model)
  | .imported model => some do return .imported (← imported unit model)
  | .declaration model => some do return .declaration (← declaration unit model)
  | .reference model => some do return .reference (← reference unit model)

end Snapshot

/-- The course of an indexing run. -/
structure IndexingRun where
  /-- The session. -/
  session : Session
  /-- How often the abort query of the caller was called. -/
  queries : Nat
  /-- What the hooks were told, in order. -/
  notices : List Notice
  /-- The first failure. -/
  failure : Option Failure
  deriving Inhabited

namespace IndexingRun

/-- Asks whether to stop: always after a failure, else as the caller says. -/
def query (hooks : Hooks) (run : IndexingRun) : IndexingRun × Bool :=
  match run.failure, hooks.abortQuery with
  | some _, _ => (run, true)
  | none, none => (run, false)
  | none, some query =>
      match query run.queries with
      | .ok stop => ({ run with queries := run.queries + 1 }, stop)
      | .error failure => ({ run with queries := run.queries + 1, failure := some failure }, true)

/-- How often the hook of a station was called. -/
def calls (run : IndexingRun) (station : Library.Station) : Nat :=
  run.notices.countP fun notice => notice.station = station

/-- Tells a hook. -/
def tell (hooks : Hooks) (notice : Notice) (run : IndexingRun) : IndexingRun :=
  match hooks.hook notice.station with
  | none => run
  | some hook =>
      { run with
        notices := run.notices ++ [notice]
        failure := hook (run.calls notice.station) }

/-- Delivers an event: copies it and tells its hook, unless something has failed before. -/
def deliver (hooks : Hooks) (unit : Nat) (event : Library.Event) (run : IndexingRun) :
    IndexingRun :=
  match run.failure, Snapshot.notice? unit event with
  | some _, _ => run
  | none, none => run
  | none, some snapshot =>
      match snapshot.outcome run.session with
      | (.error failure, session) => { run with session := session, failure := some failure }
      | (.ok notice, session) => tell hooks notice { run with session := session }

/-- The listener of an indexing run over a unit. -/
def listener (hooks : Hooks) (unit : Nat) : Library.Listener IndexingRun :=
  ⟨query hooks, deliver hooks unit⟩

end IndexingRun

namespace IndexAction

/-- Makes an indexing session, which its index will close. -/
def make (index : Option Passed) : Facade Nat := do
  let (index, handle) ← Facade.passed (← Index.orNew index)
  let action ← Facade.wrap (← Facade.call (Library.Call.createAction handle)) true (.action index)
  Facade.adopt index action
  return action

/-- Indexes a unit with a library that reports in a certain way: what the hooks were told, and the
failure of the run. -/
def indexBy
    (reporter : Library.Reporter IndexingRun)
    (action : Nat)
    (unit : Passed)
    (hooks : Hooks)
    (options : Datum) : Facade (List Notice × Option Failure) := do
  let actionHandle ← Facade.handle action
  let options ← Facade.ofExcept options.toInteger
  let (unit, unitHandle) ← Facade.passed unit
  let events ← Facade.call
    (Library.Call.beginIndexing actionHandle unitHandle options hooks.installed)
  let session ← get
  let reply := session.library.reply
  let run := reporter (IndexingRun.listener hooks unit) hooks.installed reply.ignoreAbort events
    ⟨session, 0, [], none⟩
  set run.session
  match run.failure with
  | some failure => return (run.notices, some failure)
  | none =>
      if reply.status = 0 then return (run.notices, none)
      let spelling ← CompilationUnit.spelling unit
      return (run.notices, some (.reported ⟨.indexing, .indexFailed,
        "failed to index " ++ Text.ofString spelling, some reply.status⟩))

/-- Indexes a unit: what the hooks were told, and the failure of the run. -/
def index (action : Nat) (unit : Passed) (hooks : Hooks) (options : Datum) :
    Facade (List Notice × Option Failure) :=
  indexBy Library.report action unit hooks options

/-- An event that arrives after its run: it is dropped with a warning if it has a payload.
Tells whether something was installed for it. -/
def late (event : Library.Event) : Facade Bool := do
  if !(← get).library.installed.contains event.station then return false
  match event with
  | .started => return true
  | .mainFile none => return true
  | .diagnostics none => return true
  | event =>
      Facade.record .warning ("dropping " ++ Text.ofString event.station.hook ++
        " event delivered after indexing finished")
      return true

end IndexAction
end Custody

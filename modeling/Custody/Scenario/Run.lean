import Custody.Scenario.Equality
import Custody.Scenario.Step

/-!
# Running a scenario

A scenario runs its steps one after the other.  A step reports its answer, the
calls of the library that matter, the log records made meanwhile, and for some
operations what the functions of the caller were called on.
-/

namespace Custody
namespace Scenario

/-- What a step says besides its answer. -/
inductive Extra where
  /-- Nothing. -/
  | nothing
  /-- The block was given the holder itself. -/
  | same
  /-- What a visitor was called on. -/
  | visited (items : List Rendered)
  /-- What hooks were called on. -/
  | events (items : List (String × Rendered))
  deriving Inhabited

/-- What an operation produced: its answer, the value to be named, and more. -/
structure Product where
  /-- The answer. -/
  answer : Except Failure Rendered
  /-- The value to be named, if any. -/
  value : Option Value
  /-- What else is said. -/
  extra : Extra
  deriving Inhabited

/-- The state of a scenario. -/
structure State where
  /-- The session. -/
  session : Session
  /-- The named values, the newest first. -/
  names : List (Text × Value)
  deriving Inhabited

/-- What a step reports. -/
structure StepReport where
  /-- The answer. -/
  answer : Except Failure Rendered
  /-- The calls of the library that matter. -/
  effects : List Library.Effect
  /-- The log records. -/
  log : List LogRecord
  /-- What else is said. -/
  extra : Extra
  deriving Inhabited

/-- What a scenario reports in the end. -/
structure Summary where
  /-- The reports of the steps. -/
  steps : List StepReport
  /-- The labels of the live handles, in order. -/
  live : List String
  /-- How many strings were not given back. -/
  strings : Nat
  deriving Inhabited

/-- The names that a step may use. -/
abbrev Names := List (Text × Value)

/-- The value of a target. -/
def Target.value (names : Names) : Target → Facade Value
  | .unnamed => throw .noSuchPart
  | .named name items => do
      match names.find? fun entry => entry.1 = name with
      | none => throw (.unknownKey (Quoted.ofText name))
      | some (_, value) =>
          items.foldlM (fun value index => do
            value.item (← Facade.ofExcept (Numeral.integer 10 index))) value

/-- The unsaved file of a source, absent if what was made before is none. -/
def UnsavedSource.file (names : Names) : UnsavedSource → Facade (Option UnsavedFile)
  | .given filename contents => do
      return some (← Facade.ofExcept (UnsavedFile.make filename contents))
  | .made target => do
      match ← target.value names with
      | .unsaved number => return (← get).unsaved[number]?
      | _ => return none

/-- What is passed for an index, if anything is. -/
def indexOf (names : Names) : Option Target → Facade (Option Passed)
  | none => return none
  | some target => do return (← target.value names).passed?

/-- A datum that is not null. -/
def given? : Datum → Option Datum
  | .null => none
  | datum => some datum

/-- Makes an unsaved file. -/
def newUnsaved (filename contents : Datum) : Facade Value := do
  let file ← Facade.ofExcept (UnsavedFile.make filename contents)
  let number := (← get).unsaved.length
  modify fun session => { session with unsaved := session.unsaved ++ [file] }
  return .unsaved number

/-- Changes an unsaved file. -/
def changeUnsaved (number : Nat) (change : UnsavedFile → Except Failure UnsavedFile) :
    Facade Unit := do
  let file ← Facade.ofExcept (change (← (Value.unsaved number).asUnsaved))
  modify fun session => { session with unsaved := session.unsaved.set number file }

/-- Makes settings the active ones; the library is loaded, so its place cannot change. -/
def configure (settings : Settings) : Facade Unit := do
  if !settings.samePlace (← get).settings then throw (.configuration .locationFixed)
  modify fun session => { session with settings := settings }

/-- Changes the slot of an unsaved file. -/
def changeSlot (number : Nat) (change : Slot → Except Failure Slot) : Facade Unit :=
  changeUnsaved number fun file => do return { file with native := ← change file.native }

/-- Puts a mark on a value, which must be able to have one of that name. -/
def putMark (value : Value) (name : Text) (datum : Datum) : Facade Unit := do
  match value.bearer?, name.toString? with
  | some bearer, some name =>
      if ← value.isMarkable name then Facade.putMark bearer name datum else throw .noSuchPart
  | _, _ => throw .noSuchPart

/-- Assigns a part of a value, or puts a mark on it. -/
def assign (value : Value) (part : Text) (datum : Datum) : Facade Unit :=
  match value with
  | .unsaved number =>
      if part = "filename" then changeUnsaved number fun file => file.setFilename datum
      else if part = "contents" then changeUnsaved number fun file => file.setContents datum
      else putMark value part datum
  | .slot number =>
      if part = "Filename" then
        changeSlot number fun slot => return { slot with filename := ← Slot.stringField datum }
      else if part = "Contents" then
        changeSlot number fun slot => return { slot with contents := ← Slot.stringField datum }
      else if part = "Length" then
        changeSlot number fun slot => return { slot with length := ← Slot.lengthField datum }
      else putMark value part datum
  | .holder number => do
      match (← Facade.holder number).content with
      | .index =>
          if part = "global_options" then Index.setGlobalOptions number datum
          else putMark value part datum
      | _ => putMark value part datum
  | .command _ => throw .fixedPart
  | .record _ _ _ => throw .fixedPart
  | value => putMark value part datum

/-- The hooks of a plan. -/
def HookPlan.toHooks (plan : HookPlan) : Hooks where
  abortQuery := plan.queries.map fun reactions number =>
    (((reactions[number]?).getD (.answer .null)).outcome).map Datum.isTrue
  hook := fun station =>
    (plan.hooks.lookup station).map fun failsAt number =>
      if failsAt.sameKey (.int number) then some (.hook ("boom in " ++ station.hook)) else none

/-- The paths on which a notice is reported. -/
def noticePaths : Notice → List Path
  | .started => []
  | .diagnostics _ _ => []
  | .mainFile _ => [.ofText "name"]
  | .included _ =>
      ["filename", "file.name", "hash_location.line", "hash_location.offset", "is_import",
        "is_angled", "is_module_import"].map (Path.ofText ∘ Text.ofString)
  | .imported _ => ["file.name", "location.line", "is_implicit"].map (Path.ofText ∘ Text.ofString)
  | .declaration _ =>
      ["entity_kind", "entity.name", "entity.usr", "entity.cursor.spelling", "cursor.type",
        "cursor.spelling", "location.line", "location.column", "semantic_container.spelling",
        "lexical_container.spelling", "is_redeclaration", "is_definition", "is_container",
        "is_implicit"].map (Path.ofText ∘ Text.ofString)
  | .reference _ =>
      ["kind", "cursor.spelling", "location.line", "location.column", "referenced_entity.kind",
        "referenced_entity.name", "referenced_entity.usr", "parent_entity.name",
        "container.spelling"].map (Path.ofText ∘ Text.ofString)

/-- Reports what a hook was told. -/
def renderNotice (notice : Notice) : Facade (String × Rendered) := do
  let rendered ←
    match notice with
    | .started => pure Rendered.nothing
    | .diagnostics _ items =>
        pure (Rendered.list (items.map fun item =>
          .list [.string item.severity.name, .string item.spelling, .string item.formatted]))
    | notice => (Value.ofNotice notice).describe (noticePaths notice)
  return (notice.station.hook, rendered)

/-- Reports an inclusion: the name of the file and where each location of the stack lies. -/
def renderInclusion (inclusion : CompilationUnit.Inclusion) : Facade Rendered := do
  let name ← inclusion.1.name
  let stack ← inclusion.2.mapM fun location => do
    let file ← location.fileName?
    let expansion ← location.expansion
    return Rendered.list [file.elim .nothing .string, .int expansion.line, .int expansion.column,
      .int expansion.offset]
  return .list [.string name, .list stack]

/-- Reports visited cursors. -/
def renderVisited (paths : List Path) (cursors : List (Option Cursor)) :
    Facade (List Rendered) :=
  cursors.mapM fun cursor =>
    match cursor with
    | none => return .nothing
    | some cursor => (Value.cursor cursor).describe paths

namespace Product

/-- The product of an operation that yields a value. -/
def ofValue (value : Value) : Facade Product := do
  return ⟨(Rendered.ofValue (← get) value).checked, some value, .nothing⟩

/-- The product of an operation that yields nothing. -/
def done : Product := ⟨.ok .nothing, some .nothing, .nothing⟩

/-- The product of an operation that only reports. -/
def ofRendered (rendered : Rendered) : Product := ⟨.ok rendered, none, .nothing⟩

/-- The product of an operation that calls functions of the caller: it names the list of what
they were called on even if it fails. -/
def ofCalls (failure : Option Failure) (calls : List Value) (extra : Extra) : Facade Product := do
  let value ← Value.listOf calls
  return ⟨match failure with
    | some failure => .error failure
    | none => .ok .nothing, some value, extra⟩

end Product

/-- The product of an operation that calls functions of the caller, also if it fails before the
first call. -/
def calling {α : Type} (action : Facade (List α × Option Failure)) (empty : Extra)
    (present : List α → Facade (List Value × Extra)) : Facade Product := do
  match ← Facade.attempt action with
  | .error failure => Product.ofCalls (some failure) [] empty
  | .ok (items, failure) =>
      let (values, extra) ← present items
      Product.ofCalls failure values extra

/-- The extra of a visit; without a call there is none. -/
def visitedExtra (items : List Rendered) : Extra :=
  if items.isEmpty then .nothing else .visited items

/-- Visits what is below a cursor or in a unit. -/
def visit (value : Value) (visitor : Visitor) : Facade (List (Option Cursor) × Option Failure) :=
  match value with
  | .cursor cursor => cursor.visitChildren visitor
  | value => do CompilationUnit.visitChildren (← value.asUnit) visitor

/-- The tokens of a unit in an extent: the owner of the extent is checked first, then whether
the unit is open. -/
def tokensIn (unit : Nat) : Value → Facade (List Token)
  | .nothing => CompilationUnit.tokens unit none
  | .range range => CompilationUnit.tokens unit (some range)
  | extent => do
      if (← extent.owner) ≠ some unit then throw .foreignRange
      Facade.ensureOpen unit
      throw .noSuchPart

/-- The tokens of a unit, of an extent of it, or of a cursor, which takes no extent. -/
def tokens (value : Value) (extent : Option Value) : Facade (List Token) :=
  match value, extent with
  | .cursor cursor, none => CompilationUnit.tokensOfCursor cursor
  | .cursor _, some _ => throw .wrongKind
  | value, extent => do tokensIn (← value.asUnit) (extent.getD .nothing)

/-- The range between two values: their owners are compared first. -/
def rangeBetween (start finish : Value) : Facade Range := do
  let owner ← start.owner
  if owner ≠ (← finish.owner) then throw .mixedOwners
  match owner with
  | none => throw .noSuchPart
  | some owner => Facade.ensureOpen owner
  Range.make (← start.asLocation) (← finish.asLocation)

/-- The owner and the file for a location: the file must belong to the owner, which must be
open. -/
def placeIn (owner file : Value) : Facade (Nat × File) := do
  if !owner.isOwner (← file.owner) then throw .foreignFile
  let number ← owner.asHolder
  Facade.ensureOpen number
  return (number, ← file.asFile)

/-- A number without a fraction. -/
def whole : Datum → Facade Int
  | .bool value => return if value then 1 else 0
  | .int value => return value
  | _ => throw .wrongKind

/-- The location of a line and column; both are compared with one before anything else. -/
def locationAt (owner file : Value) (line column : Datum) : Facade Location := do
  let refused := Failure.positionBelowOne line.shown column.shown
  if ← Facade.ofExcept (line.isBelow 1) then throw refused
  if ← Facade.ofExcept (column.isBelow 1) then throw refused
  let (owner, file) ← placeIn owner file
  Location.ofPosition owner file (← whole line) (← whole column)

/-- The location of an offset, which is compared with zero before anything else. -/
def locationAtOffset (owner file : Value) (offset : Datum) : Facade Location := do
  if ← Facade.ofExcept (offset.isBelow 0) then throw (.negativeOffset offset.shown)
  let (owner, file) ← placeIn owner file
  Location.ofOffset owner file (← whole offset)

/-- Indexes a unit.  A session takes a unit; a unit hands itself to a session, and two units
hand themselves to each other without end. -/
def indexUnit (receiver argument : Value) (hooks : Hooks) (options : Datum) :
    Facade (List Notice × Option Failure) := do
  match ← Facade.attempt receiver.asAction, ← Facade.attempt receiver.asUnit with
  | .ok action, _ => IndexAction.index action argument.passed hooks options
  | .error _, .ok _ =>
      match ← Facade.attempt argument.asUnit with
      | .ok _ => throw .tooDeep
      | .error _ => IndexAction.index (← argument.asAction) receiver.passed hooks options
  | .error _, .error failure => throw failure

/-- The named holders and whether they are closed. -/
def closedNames (session : Session) (names : Names) : List (Text × Rendered) :=
  names.filterMap fun (name, value) =>
    match value with
    | .holder number => some (name, .bool (!session.estate.isOpen number))
    | _ => none

/-- Performs an operation. -/
def perform (names : Names) : Operation → Facade Product
  | .newIndex excludeDeclarations displayDiagnostics => do
      Product.ofValue (.holder (← Index.make excludeDeclarations displayDiagnostics))
  | .newAction index => do
      Product.ofValue (.holder (← IndexAction.make (← indexOf names index)))
  | .parseFile index filename parsing => do
      let index ← indexOf names index
      let unsaved ← parsing.unsaved.mapM (·.file names)
      Product.ofValue (.holder (← CompilationUnit.ofFile index (given? filename)
        parsing.arguments unsaved parsing.options))
  | .parseWith index filename parsing => do
      let index ← (← index.value names).asIndex
      let unsaved ← parsing.unsaved.mapM (·.file names)
      Product.ofValue (.holder (← CompilationUnit.ofFile (some (.holder index))
        (given? filename) parsing.arguments unsaved parsing.options))
  | .parseSource index source language parsing => do
      let index ← indexOf names index
      let unsaved ← parsing.unsaved.mapM (·.file names)
      Product.ofValue (.holder (← CompilationUnit.ofSource index source language
        parsing.arguments unsaved parsing.options))
  | .parseCommand index command parsing => do
      let command ← command.value names
      let index ← indexOf names index
      let unsaved ← parsing.unsaved.mapM (·.file names)
      Product.ofValue (.holder
        (← CompilationUnit.ofCommand index (← command.asCommand) unsaved parsing.options))
  | .loadUnit index path => do
      Product.ofValue (.holder (← CompilationUnit.ofStored (← indexOf names index) path))
  | .loadWith index path => do
      let index ← (← index.value names).asIndex
      Product.ofValue (.holder (← CompilationUnit.ofStored (some (.holder index)) path))
  | .newCommand directory filename arguments => do
      let arguments ← Facade.ofExcept arguments.toItems
      Product.ofValue (.command ⟨← Facade.fresh, directory, filename, arguments⟩)
  | .newUnsaved filename contents => do Product.ofValue (← newUnsaved filename contents)
  | .configure settings => do
      configure (← Facade.ofExcept (Settings.ofDatum settings))
      return .done
  | .reparse unit unsaved options => do
      let unit ← (← unit.value names).asUnit
      CompilationUnit.reparse unit (← unsaved.mapM (·.file names)) options
      return .done
  | .save unit path options => do
      CompilationUnit.save (← (← unit.value names).asUnit) path options
      return .done
  | .file unit path => do
      let unit ← (← unit.value names).asUnit
      Product.ofValue (Value.option .file (← CompilationUnit.file unit path))
  | .describe target paths => do
      return .ofRendered (← (← target.value names).describe paths)
  | .describeEach target paths => do
      let items ← (← target.value names).items
      return .ofRendered (.list (← items.mapM fun item => item.describe paths))
  | .follow target path => do
      Product.ofValue (← (← target.value names).follow path.selectors)
  | .assign target part datum => do
      assign (← target.value names) part datum
      return .done
  | .close target => do
      Facade.close (← (← target.value names).asHolder)
      return .done
  | .scoped target fails => do
      match ← target.value names with
      | .holder number =>
          Facade.close number
          match fails with
          | some wording => throw (.hook wording)
          | none => return ⟨.ok .nothing, some .nothing, .same⟩
      | _ => throw .wrongKind
  | .closed => do return .ofRendered (.fields (closedNames (← get) names))
  | .equal left right => do
      let left ← left.value names
      let right ← right.value names
      let equal ← left.equal right
      let again ← left.equal right
      Product.ofValue (← Value.listOf [.bool equal, .bool (!again)])
  | .hashEqual left right => do
      let left ← left.value names
      let right ← right.value names
      let key ← left.key
      Product.ofValue (.bool (key = (← right.key)))
  | .same left right => do
      let left ← left.value names
      Product.ofValue (.bool (left.same (← right.value names)))
  | .pick target choice => do
      let value ← target.value names
      Product.ofValue (← value.pick (← Facade.ofExcept (Choice.ofDatum choice)))
  | .position unit file line column => do
      let unit ← unit.value names
      let file ← file.value names
      Product.ofValue (.location (← locationAt unit file line column))
  | .offset unit file offset => do
      let unit ← unit.value names
      let file ← file.value names
      Product.ofValue (.location (← locationAtOffset unit file offset))
  | .range start finish => do
      let start ← start.value names
      let finish ← finish.value names
      Product.ofValue (.range (← rangeBetween start finish))
  | .tokens target extent => do
      let value ← target.value names
      let extent ← extent.mapM fun extent => extent.value names
      Product.ofValue (← Value.listOf ((← tokens value extent).map .token))
  | .format diagnostic options => do
      let diagnostic ← (← diagnostic.value names).asDiagnostic
      Product.ofValue (← Value.newString (← Diagnostic.format diagnostic options))
  | .walk cursor paths => do
      let cursors ← (← (← cursor.value names).asCursor).walk
      let value ← Value.listOf (cursors.map .cursor)
      let visited ← renderVisited paths (cursors.map some)
      return ⟨.ok (Rendered.ofValue (← get) value), some value, .visited visited⟩
  | .visit target script otherwise paths => do
      let value ← target.value names
      let visitor : Visitor := fun history =>
        ((script[history.length - 1]?).getD otherwise).outcome
      calling (visit value visitor) .nothing fun cursors => do
        return (cursors.map (Value.option .cursor),
          visitedExtra (← renderVisited paths cursors))
  | .visitInclusions unit failsAt => do
      let value ← unit.value names
      let visitor : CompilationUnit.InclusionVisitor := fun history =>
        if failsAt.sameKey (.int (history.length - 1 : Nat)) then some (.hook "stop") else none
      let visiting := do CompilationUnit.visitInclusions (← value.asUnit) visitor
      calling visiting .nothing fun inclusions => do
        let values ← inclusions.mapM fun (file, stack) =>
          Value.listOf (.file file :: stack.map .location)
        return (values, visitedExtra (← inclusions.mapM renderInclusion))
  | .loadDiagnostics path => do Product.ofValue (.holder (← DiagnosticSet.load path))
  | .openDatabase directory => do
      Product.ofValue (.holder (← CompilationDatabase.load directory))
  | .commandsFor database filename => do
      let database ← (← database.value names).asDatabase
      let commands ← CompilationDatabase.commandsFor database filename
      Product.ofValue (← Value.listOf (commands.map .command))
  | .indexUnit receiver argument plan options => do
      let receiver ← receiver.value names
      let argument ← argument.value names
      calling (indexUnit receiver argument plan.toHooks options) (.events []) fun notices => do
        return ((notices.filter (· ≠ .started)).map Value.ofNotice,
          .events (← notices.mapM renderNotice))
  | .lateEvent event => do Product.ofValue (.bool (← IndexAction.late event))
  | .lateQuery => Product.ofValue (.int 1)

/-- Orders two disposals by their labels and then by their numbers. -/
def disposalLe (left right : Handle × Nat) : Bool :=
  left.1.label < right.1.label || (left.1.label = right.1.label && left.2 ≤ right.2)

/-- Puts a run of disposals, newest first, in order. -/
def arrangeRun (run : List (Handle × Nat)) : List Library.Effect :=
  (run.reverse.mergeSort disposalLe).map fun (handle, count) => .dispose handle count

/-- Puts every run of consecutive disposals in order, since dependants have none among
themselves. -/
def arrange : List (Handle × Nat) → List Library.Effect → List Library.Effect
  | run, [] => arrangeRun run
  | run, .dispose handle count :: rest => arrange ((handle, count) :: run) rest
  | run, effect :: rest => arrangeRun run ++ effect :: arrange [] rest

namespace State

/-- A scenario before its first step. -/
def start (script : Library.Script) (settings : Settings) (storage : Storage) : State :=
  ⟨.start script settings storage, []⟩

/-- Gives a name to a value; a name that was given before means the new value. -/
def bind (state : State) (name : Option Text) (value : Option Value) : State :=
  match name, value with
  | some name, some value =>
      { state with names := (name, value) :: state.names.filter fun entry => entry.1 ≠ name }
  | _, _ => state

/-- Runs one step. -/
def step (state : State) (step : Step) : State × StepReport :=
  let library := { state.session.library with reply := step.reply }
  let (result, session) :=
    (perform state.names step.operation).outcome { state.session with library := library }
  let effects := arrange [] (session.library.effects.drop library.effects.length)
  let log := session.log.drop state.session.log.length
  let after : State := { state with session := session }
  match result with
  | .error failure => (after, ⟨.error failure, effects, log, .nothing⟩)
  | .ok product =>
      (after.bind step.name product.value, ⟨product.answer, effects, log, product.extra⟩)

/-- Runs steps in turn: the state after them and their reports. -/
def steps : State → List Step → State × List StepReport
  | state, [] => (state, [])
  | state, next :: rest =>
      let (after, report) := state.step next
      let (last, reports) := steps after rest
      (last, report :: reports)

end State

/-- Runs a scenario from its beginning. -/
def run (script : Library.Script) (settings : Settings) (storage : Storage) (steps : List Step) :
    Summary :=
  let (state, reports) := (State.start script settings storage).steps steps
  let library := state.session.library
  ⟨reports, (library.live.map Handle.label).mergeSort (fun left right => left ≤ right),
    library.outstanding.length⟩

end Scenario
end Custody

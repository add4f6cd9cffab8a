import Custody.Library.Symbols
import Custody.Settings.Load

/-!
# Loading the library

The library is found by a finder that other parts of the program may have used
before.  The finder is told the place of the library as long as it has not loaded
anything.  The file it found is then opened a second time, which the system may refuse,
and every symbol looked up.  The first success fixes the library and its place; a failure
fixes nothing, although the finder stays loaded.
-/

namespace Custody
namespace Library

/-- How the finder behaves. -/
structure Finder where
  /-- Whether it has loaded a library. -/
  loaded : Bool := false
  /-- The name that the loaded library reports. -/
  reportedName : Datum := .null
  /-- The name that the finder gives when asked. -/
  filename : Datum := "libclang.so"
  /-- The words with which loading fails, empty if it succeeds. -/
  refusal : Text := .empty
  /-- The words with which the system refuses to open the library that was found, empty if it can
  be opened. -/
  obstacle : Text := .empty
  /-- The symbols that the library lacks. -/
  missing : List String := []
  deriving Inhabited

/-- A call of the finder or of the system loader. -/
inductive LoaderCall where
  /-- Telling the finder the library. -/
  | setLibraryFile (file : Datum)
  /-- Telling the finder the directory of the library. -/
  | setLibraryPath (path : Datum)
  /-- Letting the finder load. -/
  | load
  /-- Asking the finder for the name of the library. -/
  | getFilename
  /-- Opening a library; without a name, the program itself. -/
  | openLibrary (filename : Datum)
  deriving Inhabited

/-- An opened library. -/
structure Opened where
  /-- Tells opened libraries apart. -/
  serial : Nat
  /-- How many symbols were looked up. -/
  registered : Nat
  deriving DecidableEq, Inhabited

/-- The state of the program as far as the library is concerned. -/
structure Loader where
  /-- The finder. -/
  finder : Finder
  /-- The environment. -/
  environment : Environment
  /-- The stored files. -/
  storage : Storage
  /-- The reader of documents. -/
  reader : Yaml.Reader
  /-- The active settings. -/
  settings : Option Settings
  /-- The library, once loaded. -/
  library : Option Opened
  /-- How many libraries were opened. -/
  opened : Nat
  /-- The calls so far. -/
  calls : List LoaderCall
  /-- The records so far. -/
  log : List LogRecord

/-- An action of the program on its loader. -/
abbrev Action := ExceptT Failure (StateM Loader)

namespace Loader

/-- The program at its start. -/
def start (reader : Yaml.Reader) (finder : Finder) (storage : Storage) : Loader :=
  ⟨finder, ⟨[]⟩, storage, reader, none, none, 0, [], []⟩

/-- Notes a call. -/
def note (call : LoaderCall) : Action Unit :=
  modify fun loader => { loader with calls := loader.calls ++ [call] }

/-- The active settings, loaded from the environment on first use. -/
def getSettings : Action Settings := do
  let loader ← get
  match loader.settings with
  | some settings => return settings
  | none =>
      let (result, records) :=
        (Settings.load loader.reader loader.storage loader.environment .null).outcome
      modify fun loader => { loader with log := loader.log ++ records }
      match result with
      | .error failure => throw failure
      | .ok settings =>
          modify fun loader => { loader with settings := some settings }
          return settings

/-- Makes settings the active ones; the place of a loaded library cannot change. -/
def configure (settings : Settings) : Action Unit := do
  if (← get).library.isSome then
    let current ← getSettings
    if !settings.samePlace current then
      throw (.configuration .locationFixed)
  modify fun loader => { loader with settings := some settings }

/-- Adds an argument to the active settings. -/
def appendArgument (argument : Datum) : Action Unit := do
  let settings ← getSettings
  match settings.appendArguments [argument] with
  | .error failure => throw failure
  | .ok extended => modify fun loader => { loader with settings := some extended }

/-- The first symbol that a library lacks. -/
def firstMissing? (missing : List String) : Option String := symbols.find? missing.contains

/-- Tells the finder where the library is: the file if there is one, else the directory. -/
def tellFinder (settings : Settings) : Action Unit := do
  if !(← get).finder.loaded then
    if settings.libraryFile.isTrue then note (.setLibraryFile settings.libraryFile)
    else if settings.libraryPath.isTrue then note (.setLibraryPath settings.libraryPath)

/-- Lets the finder load, and gives the name under which the library can be opened. -/
def locate : Action Datum := do
  let finder := (← get).finder
  if !finder.refusal.isEmpty then throw (.loading finder.refusal)
  note .load
  modify fun loader => { loader with finder := { loader.finder with loaded := true } }
  if finder.reportedName.isTrue then return finder.reportedName
  note .getFilename
  return finder.filename

/-- Opens the library that was found, unless the system refuses, and counts it. -/
def openFile (filename : Datum) : Action Nat := do
  note (.openLibrary filename)
  let loader ← get
  if !loader.finder.obstacle.isEmpty then throw (.unopened loader.finder.obstacle)
  set { loader with opened := loader.opened + 1 }
  return loader.opened

/-- Opens the library and looks up its symbols. -/
def openAndRegister (settings : Settings) : Action Opened := do
  tellFinder settings
  let filename ← locate
  let serial ← openFile filename
  let loader ← get
  match firstMissing? loader.finder.missing with
  | some symbol => throw (.missingSymbol symbol)
  | none =>
      modify fun loader =>
        { loader with log := loader.log ++
            [⟨.debug, "loaded libclang from " ++ filename.shown⟩] }
      return ⟨serial, symbols.length⟩

/-- The library, loaded on first use. -/
def currentLibrary : Action Opened := do
  match (← get).library with
  | some library => return library
  | none =>
      let settings ← getSettings
      let library ← openAndRegister settings
      modify fun loader => { loader with library := some library }
      return library

/-- A step of a program. -/
inductive Step where
  /-- Makes settings the active ones. -/
  | configure (settings : Datum)
  /-- Asks for the active settings. -/
  | getSettings
  /-- Adds an argument to the active settings. -/
  | appendArgument (argument : Datum)
  /-- Changes the environment. -/
  | setVariables (entries : List (Text × Datum))
  /-- Changes the behaviour of the finder; what it has loaded stays loaded. -/
  | changeFinder (change : Finder → Finder)
  /-- Asks for the library. -/
  | library

/-- What a step answers. -/
inductive Answer where
  /-- Nothing. -/
  | nothing
  /-- Settings. -/
  | settings (settings : Settings)
  /-- A library: how many symbols were looked up, and the first success that gave it. -/
  | library (registered first : Nat)
  deriving Inhabited

/-- The result of a step. -/
structure Result where
  /-- The answer or the failure. -/
  answer : Except Failure Answer
  /-- The calls made. -/
  calls : List LoaderCall
  /-- The records left. -/
  log : List LogRecord

/-- The action of a step; `given` are the serials of the libraries given before. -/
def action (given : List Nat) : Step → Action Answer
  | .configure settings => do
      match Settings.ofDatum settings with
      | .error failure => throw failure
      | .ok settings => configure settings
      return .nothing
  | .getSettings => return .settings (← getSettings)
  | .appendArgument argument => do
      appendArgument argument
      return .nothing
  | .setVariables entries => do
      entries.forM fun (name, value) => do
        match (← get).environment.set name value with
        | .error failure => throw failure
        | .ok environment => modify fun loader => { loader with environment := environment }
      return .nothing
  | .changeFinder change => do
      modify fun loader =>
        { loader with
          finder := { change loader.finder with loaded := loader.finder.loaded } }
      return .nothing
  | .library => do
      let library ← currentLibrary
      return .library library.registered ((given ++ [library.serial]).idxOf library.serial)

/-- Runs one step from a loader without calls and records. -/
def step (loader : Loader) (given : List Nat) (step : Step) : Loader × Result :=
  let (answer, after) := Id.run (StateT.run (ExceptT.run (action given step))
    { loader with calls := [], log := [] })
  (after, ⟨answer, after.calls, after.log⟩)

/-- Runs steps in turn. -/
def steps (loader : Loader) (given : List Nat) : List Step → List Result
  | [] => []
  | next :: rest =>
      let (after, result) := loader.step given next
      let given :=
        match result.answer, after.library with
        | .ok (.library _ _), some library => given ++ [library.serial]
        | _, _ => given
      result :: steps after given rest

end Loader
end Library
end Custody

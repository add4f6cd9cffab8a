import Custody.Log
import Custody.Settings.Basic
import Custody.ShellWords
import Custody.Storage
import Custody.Yaml.Reader

/-!
# Loading settings

Settings are built from a configuration file and the environment.  A file that
cannot be opened is passed over with a warning, and so is every key that means
nothing.  The environment overrides the place of the library and adds arguments.  The
reader of documents is given: it is no part of the program.
-/

namespace Custody
namespace Settings

/-- What looking for a configuration file finds. -/
inductive Finding where
  /-- No file is named. -/
  | unnamed
  /-- The file cannot be read. -/
  | unreadable (path : Datum) (fault : StorageFault)
  /-- The file holds a document. -/
  | document (path : Datum) (value : Yaml.Document)
  deriving Inhabited

/-- The configuration file: the one asked for, or else the one the environment names. -/
def configurationPath? (path : Datum) (environment : Environment) : Option Datum :=
  if path.isTrue then some path
  else environment.given? Environment.configurationName

/-- The document in a file with a path and some contents. -/
def readDocument (reader : Yaml.Reader) (path : Datum) (contents : Bytes) :
    Except Failure Yaml.Document :=
  match reader.read (.ofBytes contents) with
  | .ok value => .ok value
  | .error .undecodable => .error .undecodable
  | .error (.fault .malformed) => .error (.configuration (.malformed path.shown))
  | .error (.fault (.refused failure)) => .error failure

/-- Looks for a configuration file. -/
def find (reader : Yaml.Reader) (storage : Storage) (path : Option Datum) :
    Except Failure Finding :=
  match path with
  | none => .ok .unnamed
  | some path => do
      let encoded ← path.encodeName
      if encoded.contains 0 then .error .zeroByte
      else
        match storage.read encoded with
        | .error fault => .ok (.unreadable path fault)
        | .ok contents => (readDocument reader path contents).map (.document path)

/-- The number of the value of a key of a mapping. -/
def lookup? (entries : List (Datum × Nat)) (key : String) : Option Nat :=
  (entries.find? fun entry => entry.1.sameKey (.text key)).map Prod.snd

/-- The value of a key that is there and not null. -/
def present? (document : Yaml.Document) (entries : List (Datum × Nat)) (key : String) :
    Option Nat :=
  (lookup? entries key).filter fun number =>
    match document.cell number with
    | .scalar .null => false
    | _ => true

/-- The keys of a configuration file that mean nothing. -/
def unknownKeys (entries : List (Datum × Nat)) : List Datum :=
  (entries.map Prod.fst).filter (!isKey ·)

/-- The form of an item of a list of arguments, unless it is null. -/
def documentArgument? (room : Yaml.Room) (document : Yaml.Document) (number : Nat) :
    Except Failure (Option Datum) :=
  match document.cell number with
  | .scalar .null => .ok none
  | _ => do return some (.text (← document.shown room.item number))

/-- The arguments in a configuration file: words of a text or items of a list. -/
def documentArguments (room : Yaml.Room) (path : Datum) (document : Yaml.Document) :
    Option Nat → Except Failure (List Datum)
  | none => .ok []
  | some number =>
      match document.cell number with
      | .scalar (.text line) => do return (← ShellWords.split line).map .text
      | .list items => do return (← items.mapM (documentArgument? room document)).filterMap id
      | .pairs items => items.zipIdx.mapM fun (pair, position) => do
          return .text (← document.writtenPair room.item [] (.pair number position) pair)
      | _ => .error (.configuration (.arguments path.shown))

/-- The settings that the entries of a mapping give. -/
def ofEntries (room : Yaml.Room) (path : Datum) (document : Yaml.Document)
    (entries : List (Datum × Nat)) : Except Failure Settings := do
  let shown := document.shown room.value
  let libraryFile ← (present? document entries "library_file").mapM shown
  let libraryPath ← (present? document entries "library_path").mapM shown
  let arguments ← documentArguments room path document (present? document entries "default_args")
  return ⟨libraryFile.elim .null .text, libraryPath.elim .null .text, .list arguments⟩

/-- The record about a key that means nothing.  Keys are shown when records are handed on, and
those who hand them on do not let it fail: for a key that cannot be shown the wording stays as it
was before anything was filled in. -/
def unknownWarning (path key : Datum) : LogRecord :=
  match Yaml.Document.writtenScalar key with
  | .ok written =>
      ⟨.warning,
        "ignoring unknown key " ++ Text.ofString written ++ " in config file " ++ path.shown⟩
  | .error _ => ⟨.warning, "ignoring unknown key %r in config file %s"⟩

/-- Warns of the keys of a configuration file that mean nothing. -/
def warnUnknown (path : Datum) (entries : List (Datum × Nat)) : Logged Unit :=
  (unknownKeys entries).forM fun key => Logged.leave (unknownWarning path key)

/-- The settings that a document gives. -/
def ofDocument (room : Yaml.Room) (path : Datum) (document : Yaml.Document) : Logged Settings := do
  match document.top with
  | none => return blank
  | some top =>
      match document.cell top with
      | .scalar .null => return blank
      | .map entries =>
          warnUnknown path entries
          ExceptT.mk (pure (ofEntries room path document entries))
      | _ => throw (.configuration (.notMapping path.shown (document.kindName top)))

/-- The settings that looking for a file gives. -/
def ofFinding (room : Yaml.Room) : Finding → Logged Settings
  | .unnamed => return blank
  | .unreadable path fault => do
      match fault with
      | .missing => Logged.warn ("config file not found, ignoring: " ++ path.shown)
      | fault =>
          Logged.warn ("could not read config file " ++ path.shown ++ ": " ++ fault.message path)
      return blank
  | .document path value => ofDocument room path value

/-- The words of a line that must be text. -/
def words : Datum → Except Failure (List Datum)
  | .text line => do return (← ShellWords.split line).map .text
  | _ => .error .noSuchPart

/-- Lets the environment override the place of the library and add arguments. -/
def override (environment : Environment) (settings : Settings) : Except Failure Settings := do
  let extra ← (environment.given? Environment.argumentsName).mapM words
  let placed : Settings :=
    { settings with
      libraryFile :=
        (environment.given? Environment.libraryFileName).getD settings.libraryFile
      libraryPath :=
        (environment.given? Environment.libraryPathName).getD settings.libraryPath }
  placed.appendArguments (extra.getD [])

/-- Loads settings from a configuration file and the environment. -/
def load (reader : Yaml.Reader) (storage : Storage) (environment : Environment) (path : Datum) :
    Logged Settings := do
  let finding ← ExceptT.mk (pure (find reader storage (configurationPath? path environment)))
  let settings ← ofFinding reader.room finding
  ExceptT.mk (pure (override environment settings))

end Settings
end Custody

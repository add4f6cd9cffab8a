import Custody.Datum.Argument

/-!
# Settings

Where the compiler library is found, and the arguments of a parse call that names
none.  The environment may name a configuration file and override what it says.
Nobody checks what a caller puts into settings before it is used.
-/

namespace Custody

/-- Settings of the whole program. -/
structure Settings where
  /-- The library itself. -/
  libraryFile : Datum := .null
  /-- The directory of the library. -/
  libraryPath : Datum := .null
  /-- The arguments of a parse call that names none. -/
  defaultArguments : Datum := .list []
  deriving Inhabited

namespace Settings

/-- Settings without any choice. -/
def blank : Settings := {}

/-- Whether two settings name the same place of the library. -/
def samePlace (left right : Settings) : Bool :=
  left.libraryFile.agrees right.libraryFile && left.libraryPath.agrees right.libraryPath

/-- The keys of settings. -/
def keys : List String := ["library_file", "library_path", "default_args"]

/-- Whether a key of a mapping is a key of settings. -/
def isKey (key : Datum) : Bool := keys.any fun name => key.sameKey (.text name)

/-- The settings that a mapping spells; it may not have other keys. -/
def ofDatum : Datum → Except Failure Settings
  | .map entries =>
      let value (key : String) (default : Datum) : Datum :=
        ((entries.find? fun entry => entry.1.sameKey (.text key)).map Prod.snd).getD default
      if entries.all fun entry => isKey entry.1 then
        .ok ⟨value "library_file" .null, value "library_path" .null,
          value "default_args" (.list [])⟩
      else .error .wrongKind
  | _ => .error .wrongKind

/-- Adds arguments at the end, if the arguments are a list. -/
def appendArguments (settings : Settings) (arguments : List Datum) : Except Failure Settings :=
  match settings.defaultArguments with
  | .list items => .ok { settings with defaultArguments := .list (items ++ arguments) }
  | _ => .error .noSuchPart

end Settings

/-- Named values that a program is started with. -/
structure Environment where
  /-- The names and their values. -/
  entries : List (Text × Datum)
  deriving Inhabited

namespace Environment

/-- The variable that names the configuration file. -/
def configurationName : String := "CLANGKIT_CONFIG"

/-- The variable that names the library. -/
def libraryFileName : String := "CLANGKIT_LIBRARY_FILE"

/-- The variable that names the directory of the library. -/
def libraryPathName : String := "CLANGKIT_LIBRARY_PATH"

/-- The variable with additional arguments. -/
def argumentsName : String := "CLANGKIT_CLANG_ARGS"

/-- The value of a variable that is set and not empty. -/
def given? (environment : Environment) (name : String) : Option Datum :=
  (environment.entries.lookup (Text.ofString name)).filter Datum.isTrue

/-- A text after systems kept its bytes: raw bytes may have come together to characters. -/
def kept (text : Text) : Text := Utf8.decodeKeeping text.encode

/-- Sets a variable, which must be text that systems can keep, under a name that is not empty and
has no equals sign. -/
def set (environment : Environment) (name : Text) (value : Datum) :
    Except Failure Environment :=
  if name.hasHalf then .error .unencodable
  else
    match value with
    | .text text =>
        if text.hasHalf then .error .unencodable
        else if (name ++ text).glyphs.contains (.char '\x00') then .error .zeroByte
        else if name.glyphs.contains (.char '=') then .error .variableName
        else if name.isEmpty then .error .namelessVariable
        else
          .ok ⟨(kept name, .text (kept text)) ::
            environment.entries.filter fun entry => entry.1 ≠ kept name⟩
    | _ => .error .wrongKind

end Environment
end Custody

import Custody.Datum.Argument

/-!
# Stored files

A store is a tree of directories and files below the working directory.  A path is
followed name by name.  A name below a file, or a slash after one, does not lead
anywhere, and neither does a name that is not there.  The directories above the
working directory hold nothing that a path could name.
-/

namespace Custody

/-- What a path leads to. -/
inductive Place where
  /-- A directory. -/
  | directory
  /-- A file. -/
  | file (contents : Bytes)
  deriving DecidableEq, Inhabited

/-- Why a path leads nowhere. -/
inductive StorageFault where
  /-- A name is not there. -/
  | missing
  /-- A file is used as a directory. -/
  | notDirectory
  /-- A directory is used as a file. -/
  | isDirectory
  /-- A name is too long. -/
  | nameTooLong
  deriving DecidableEq, Inhabited

namespace StorageFault

/-- The number that systems give to a fault. -/
def number : StorageFault → Nat
  | .missing => 2
  | .notDirectory => 20
  | .isDirectory => 21
  | .nameTooLong => 36

/-- The words that systems have for a fault. -/
def words : StorageFault → String
  | .missing => "No such file or directory"
  | .notDirectory => "Not a directory"
  | .isDirectory => "Is a directory"
  | .nameTooLong => "File name too long"

/-- The message of a fault at a path. -/
def message (fault : StorageFault) (path : Datum) : Text :=
  "[Errno " ++ Text.ofNat fault.number ++ "] " ++ Text.ofString fault.words ++ ": " ++
    Text.ofString path.written

end StorageFault

/-- A tree of directories and files, listed by their names from the top. -/
structure Storage where
  /-- The listed places; a directory above a listed place need not be listed. -/
  places : List (List Bytes × Place)
  deriving Inhabited

namespace Storage

/-- The slash. -/
def slash : UInt8 := 0x2F

/-- The names of a path, split at slashes. -/
def splitPath : Bytes → List Bytes
  | [] => [[]]
  | byte :: rest =>
      if byte = slash then [] :: splitPath rest
      else
        match splitPath rest with
        | [] => [[byte]]
        | name :: names => (byte :: name) :: names

/-- A name that stays where it is. -/
def isIdle (name : Bytes) : Bool := name = [] || name = [0x2E]

/-- The name of the directory above. -/
def isUp (name : Bytes) : Bool := name = [0x2E, 0x2E]

/-- A store from paths with contents, or none for a directory. -/
def ofPaths (paths : List (Text × Option Bytes)) : Storage :=
  ⟨paths.map fun (path, contents) =>
    ((splitPath path.encode).filter (!isIdle ·),
      match contents with
      | some bytes => .file bytes
      | none => .directory)⟩

/-- What stands at a list of names. -/
def at? (storage : Storage) (names : List Bytes) : Option Place :=
  if names.isEmpty then some .directory
  else
    match storage.places.lookup names with
    | some place => some place
    | none =>
        if storage.places.any fun (listed, _) => names.isPrefixOf listed then some .directory
        else none

/-- The most bytes of a name. -/
def longestName : Nat := 255

/-- The most bytes of a path. -/
def longestPath : Nat := 4095

/-- Follows names above the working directory: there are directories, and no names. -/
def followAbove : List Bytes → Except StorageFault Place
  | [] => .ok .directory
  | name :: rest =>
      if longestName < name.length then .error .nameTooLong
      else if isIdle name || isUp name then followAbove rest
      else .error .missing

/-- Follows names from a place; `here` are the names from the top. -/
def follow (storage : Storage) (here : List Bytes) : List Bytes → Except StorageFault Place
  | [] =>
      match storage.at? here with
      | some place => .ok place
      | none => .error .missing
  | name :: rest =>
      match storage.at? here with
      | none => .error .missing
      | some (.file _) => .error .notDirectory
      | some .directory =>
          if longestName < name.length then .error .nameTooLong
          else if isIdle name then storage.follow here rest
          else if isUp name then
            if here.isEmpty then followAbove rest else storage.follow here.dropLast rest
          else storage.follow (here ++ [name]) rest

/-- What a path leads to.  Nothing is stored outside of the working directory. -/
def resolve (storage : Storage) (path : Bytes) : Except StorageFault Place :=
  if path.isEmpty then .error .missing
  else if longestPath < path.length then .error .nameTooLong
  else if path.head? = some slash then followAbove (splitPath path)
  else storage.follow [] (splitPath path)

/-- Reads a file. -/
def read (storage : Storage) (path : Bytes) : Except StorageFault Bytes :=
  match storage.resolve path with
  | .error fault => .error fault
  | .ok .directory => .error .isDirectory
  | .ok (.file contents) => .ok contents

/-- Whether a path leads to a file; a path with a zero byte leads nowhere. -/
def isFile (storage : Storage) (path : Bytes) : Bool :=
  !path.contains 0 &&
    match storage.resolve path with
    | .ok (.file _) => true
    | _ => false

/-- A directory and a name below it as one path. -/
def join (directory name : Bytes) : Bytes :=
  if name.head? = some slash ∨ directory.isEmpty then name
  else if directory.getLast? = some slash then directory ++ name
  else directory ++ slash :: name

end Storage
end Custody

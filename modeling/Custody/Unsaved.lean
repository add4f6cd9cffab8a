import Custody.Datum.Argument
import Custody.Text.Loan

/-!
# Unsaved files

An unsaved file overrides a file of the same name while a unit is parsed.  Next to
its name and contents it keeps a slot with the three fields that the library
reads; every assignment renews the slot before it returns.
-/

namespace Custody

/-- What the library sees of an unsaved file. -/
structure Slot where
  /-- The name, null before the first assignment. -/
  filename : Option Bytes
  /-- The contents, null before the first assignment. -/
  contents : Option Bytes
  /-- The full length of the contents, zero bytes included. -/
  length : Nat
  deriving DecidableEq, Inhabited

namespace Slot

/-- The slot before any assignment. -/
def blank : Slot := ⟨none, none, 0⟩

/-- The slot of a name and contents. -/
def of (filename contents : Bytes) : Slot := ⟨some filename, some contents, contents.length⟩

/-- The name up to its first zero byte. -/
def visibleFilename (slot : Slot) : Option Bytes := slot.filename.map Bytes.upToZero

/-- The contents up to their first zero byte. -/
def visibleContents (slot : Slot) : Option Bytes := slot.contents.map Bytes.upToZero

/-- What a field for a string of the library holds of a datum: bytes, or null. -/
def stringField : Datum → Except Failure (Option Bytes)
  | .null => .ok none
  | .bytes value => .ok (some value)
  | _ => .error .wrongKind

/-- What a field for a length of 64 bits holds of a datum. -/
def lengthField : Datum → Except Failure Nat
  | .bool value => .ok (if value then 1 else 0)
  | .int value => .ok (value % 18446744073709551616).toNat
  | _ => .error .wrongKind

end Slot

/-- A file in memory. -/
structure UnsavedFile where
  /-- The bytes of the name. -/
  filenameBytes : Bytes
  /-- The bytes of the contents. -/
  contentsBytes : Bytes
  /-- What the library is shown of the file. -/
  native : Slot
  deriving DecidableEq, Inhabited

namespace UnsavedFile

/-- A file before its first assignments. -/
def blank : UnsavedFile := ⟨[], [], .blank⟩

/-- The name as text. -/
def filename (file : UnsavedFile) : Text := Utf8.decodeKeeping file.filenameBytes

/-- The contents as text. -/
def contents (file : UnsavedFile) : String :=
  String.ofList (Utf8.decodeReplacing file.contentsBytes)

/-- Assigns the name. -/
def setFilename (file : UnsavedFile) (value : Datum) : Except Failure UnsavedFile := do
  let encoded ← value.encodeName
  return { file with
    filenameBytes := encoded
    native := { file.native with filename := some encoded } }

/-- Assigns the contents; text without a strict encoding changes nothing. -/
def setContents (file : UnsavedFile) (value : Datum) : Except Failure UnsavedFile := do
  let encoded ← value.encodeContents
  return { file with
    contentsBytes := encoded
    native := { file.native with contents := some encoded, length := encoded.length } }

/-- A file with a name and contents. -/
def make (filename contents : Datum) : Except Failure UnsavedFile := do
  (← blank.setFilename filename).setContents contents

/-- The slot passed to a parse call. -/
def slot (file : UnsavedFile) : Slot := .of file.filenameBytes file.contentsBytes

/-- How a file is shown. -/
def written (file : UnsavedFile) : Text :=
  "<UnsavedFile " ++ Text.ofString (Quoted.ofText file.filename) ++ " (" ++
    Text.ofNat file.native.length ++ " bytes)>"

end UnsavedFile

/-- The slots of several files; no array is passed when there are none. -/
def unsavedSlots (files : List UnsavedFile) : Option (List Slot) :=
  if files.isEmpty then none else some (files.map UnsavedFile.slot)

end Custody

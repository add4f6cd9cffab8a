import Custody.Datum.Hash
import Custody.Scenario.Value

/-!
# Equality of values

Two values can be one object, or they can be equal.  Files are equal when the
library says so, which needs an open owner.  Locations, ranges and cursors are
equal when their values in the library are.  Records and lists are compared item by
item, where one object is equal to itself without a question.  Plain data are equal
when they denote the same.  All else is equal only to itself.

What a hash is made of agrees with equality as far as it can.  Numbers count modulo
a prime, whatever their kind.  Texts and byte strings count by the bytes that they
take in memory, where the widest code point of a text decides how many bytes each
of its glyphs takes; without any bytes they count as zero.  A cursor counts as the
number that the library gives for it.
-/

namespace Custody

/-- A piece of what a hash is made of. -/
inductive KeyPiece where
  /-- The absent value. -/
  | nothing
  /-- A number. -/
  | number (value : Int)
  /-- The bytes of a text or of a byte string. -/
  | memory (bytes : Bytes)
  /-- A member of an enumeration by name. -/
  | name (enumeration name : String)
  /-- A holder. -/
  | holder (number : Nat)
  /-- An unsaved file. -/
  | unsaved (number : Nat)
  /-- An object by its serial. -/
  | object (serial : Nat)
  /-- The beginning of a group of pieces. -/
  | group (size : Nat)
  deriving DecidableEq, Inhabited

namespace KeyPiece

/-- The piece of an integer. -/
def ofInt (value : Int) : KeyPiece := .number (Hash.ofInt value)

/-- The piece of a number with a fraction; an undefined number counts as itself alone. -/
def ofFloat (serial : Nat) (value : Binary64) : KeyPiece :=
  (Hash.ofFloat? value).elim (.object serial) .number

/-- The piece of bytes in memory. -/
def ofBytes (bytes : Bytes) : KeyPiece := if bytes.isEmpty then .number 0 else .memory bytes

/-- The bytes that each code point up to a given one takes. -/
def codeWidth (widest : Nat) : Nat :=
  if widest < 0x100 then 1 else if widest < 0x10000 then 2 else 4

/-- The bytes of a number, the least significant first. -/
def littleEndian : Nat → Nat → Bytes
  | 0, _ => []
  | width + 1, value => (value % 256).toUInt8 :: littleEndian width (value / 256)

/-- The piece of a text. -/
def ofText (text : Text) : KeyPiece :=
  let codes := text.glyphs.map Glyph.code
  ofBytes (codes.flatMap (littleEndian (codeWidth (codes.foldl max 0))))

/-- The piece of a string. -/
def ofString (string : String) : KeyPiece := ofText (Text.ofString string)

/-- The piece of a datum; lists and mappings have none. -/
def ofDatum (serial : Nat) : Datum → Except Failure KeyPiece
  | .null => .ok .nothing
  | .bool value => .ok (ofInt (if value then 1 else 0))
  | .int value => .ok (ofInt value)
  | .float value => .ok (ofFloat serial value)
  | .text value => .ok (ofText value)
  | .bytes value => .ok (ofBytes value)
  | _ => .error .wrongKind

end KeyPiece

namespace Value

/-- The datum that a value is. -/
def datum? : Value → Option Datum
  | .nothing => some .null
  | .bool value => some (.bool value)
  | .int value => some (.int value)
  | .text _ value => some (.text value)
  | .bytes _ value => some (.bytes value)
  | .loose _ value => some value
  | .member value => some (.int value.code)
  | .flags _ _ value => some (.int value)
  | _ => none

/-- Whether there is only one text of this content: an empty one or one of a narrow glyph. -/
def isSharedText (text : Text) : Bool :=
  match text.glyphs with
  | [] => true
  | [glyph] => glyph.code < 0x100
  | _ => false

/-- Whether two values are one object. -/
def same : Value → Value → Bool
  | .nothing, .nothing => true
  | .bool left, .bool right => left = right
  | .int left, .int right => left = right
  | .text left leftText, .text right rightText =>
      leftText = rightText && (left = right || isSharedText leftText)
  | .bytes left leftBytes, .bytes right rightBytes =>
      leftBytes = rightBytes && (left = right || leftBytes.length ≤ 1)
  | .loose left leftDatum, .loose right rightDatum =>
      left = right && leftDatum.kindName = rightDatum.kindName
  | .member left, .member right => left = right
  | .kind left leftName _, .kind right rightName _ => left = right && leftName = rightName
  | .flags left leftNames leftValue, .flags right rightNames rightValue =>
      leftNames.name = rightNames.name && leftValue = rightValue &&
        (left = right || leftNames.unnamedIn leftValue = 0)
  | .holder left, .holder right => left = right
  | .unsaved left, .unsaved right => left = right
  | .slot left, .slot right => left = right
  | .file left, .file right => left.serial = right.serial
  | .location left, .location right => left.serial = right.serial
  | .range left, .range right => left.serial = right.serial
  | .cursor left, .cursor right => left.serial = right.serial
  | .token left, .token right => left.serial = right.serial
  | .view left _, .view right _ => left = right
  | .command left, .command right => left.serial = right.serial
  | .record left _ _, .record right _ _ => left = right
  | .list left _, .list right _ => left = right
  | .tuple left _, .tuple right _ => left = right
  | _, _ => false

mutual

/-- Whether two values are equal. -/
def equal : Value → Value → Facade Bool
  | .file left, .file right => left.agrees right
  | .location left, .location right => return left.native = right.native
  | .range left, .range right => return left.native = right.native
  | .cursor left, .cursor right => return left.native = right.native
  | .command left, .command right =>
      return left.serial = right.serial || left.agrees right
  | .record _ left leftFields, .record _ right rightFields =>
      if left = right then equalFields leftFields rightFields else return false
  | .list _ left, .list _ right =>
      if left.length = right.length then equalItems left right else return false
  | .tuple _ left, .tuple _ right => equalItems left right
  | left, right =>
      match left.datum?, right.datum? with
      | some leftDatum, some rightDatum => return leftDatum.agrees rightDatum
      | _, _ => return left.same right

/-- Whether two sequences of values are equal item by item. -/
def equalItems : List Value → List Value → Facade Bool
  | [], [] => return true
  | left :: lefts, right :: rights => do
      if left.same right then equalItems lefts rights
      else if ← equal left right then equalItems lefts rights
      else return false
  | _, _ => return false

/-- Whether two sequences of fields have equal values. -/
def equalFields : List (String × Value) → List (String × Value) → Facade Bool
  | [], [] => return true
  | (_, left) :: lefts, (_, right) :: rights => do
      if left.same right then equalFields lefts rights
      else if ← equal left right then equalFields lefts rights
      else return false
  | _, _ => return false

end

/-- The pieces of the key of a location. -/
def locationKey (key : Option String × Nat) : List KeyPiece :=
  [.group 2, key.1.elim .nothing .ofString, .ofInt key.2]

/-- The pieces of a command. -/
def commandKey (command : CompileCommand) : Except Failure (List KeyPiece) := do
  let directory ← KeyPiece.ofDatum command.serial command.directory
  let filename ← KeyPiece.ofDatum command.serial command.filename
  let arguments ← command.arguments.mapM (KeyPiece.ofDatum command.serial)
  return [.group 3, directory, filename, .group arguments.length] ++ arguments

mutual

/-- What the hash of a value is made of; a list and a slot have none. -/
def key : Value → Facade (List KeyPiece)
  | .nothing => return [.nothing]
  | .bool value => return [.ofInt (if value then 1 else 0)]
  | .int value => return [.ofInt value]
  | .text _ value => return [.ofText value]
  | .bytes _ value => return [.ofBytes value]
  | .loose serial value => do return [← Facade.ofExcept (KeyPiece.ofDatum serial value)]
  | .member value => return [.ofInt value.code]
  | .kind enumeration name _ => return [.name enumeration name]
  | .flags _ _ value => return [.ofInt value]
  | .holder number => return [.holder number]
  | .unsaved number => return [.unsaved number]
  | .slot _ => throw .wrongKind
  | .file value => do return [.ofString (← value.name)]
  | .location value => do return locationKey (← value.key)
  | .range value => do
      let (start, finish) ← value.key
      return .group 2 :: locationKey start ++ locationKey finish
  | .cursor value => return [.ofInt value.native.hash]
  | .token value => return [.object value.serial]
  | .view serial _ => return [.object serial]
  | .command value => Facade.ofExcept (commandKey value)
  | .record _ _ fields => do return .group fields.length :: (← fieldKeys fields)
  | .list _ _ => throw .wrongKind
  | .tuple _ items => do return .group items.length :: (← itemKeys items)

/-- The keys of several values. -/
def itemKeys : List Value → Facade (List KeyPiece)
  | [] => return []
  | value :: values => do
      let first ← key value
      return first ++ (← itemKeys values)

/-- The keys of the values of fields. -/
def fieldKeys : List (String × Value) → Facade (List KeyPiece)
  | [] => return []
  | (_, value) :: fields => do
      let first ← key value
      return first ++ (← fieldKeys fields)

end

end Value
end Custody

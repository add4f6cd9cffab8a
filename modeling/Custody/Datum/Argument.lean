import Custody.Number.Numeral
import Custody.Text.Utf8

/-!
# Data as arguments

Callers pass names, arguments, file contents and options as loose data.  A name is
text or bytes, and undecodable bytes of a text come back as they were.  An argument
may be anything, since all that is not bytes is shown as text; the encoding of
arguments and of contents is strict.  An option is whatever denotes an integer.
-/

namespace Custody
namespace Datum

/-- The strict encoding of a text, or a failure. -/
def encodeStrict (text : Text) : Except Failure Bytes :=
  match text.encodeStrict? with
  | some encoded => .ok encoded
  | none => .error .unencodable

/-- The bytes of a name. -/
def encodeName : Datum → Except Failure Bytes
  | .text value =>
      match value.encodeName? with
      | some encoded => .ok encoded
      | none => .error .unencodable
  | .bytes value => .ok value
  | _ => .error .wrongKind

@[simp] theorem encodeName_bytes (value : Bytes) : encodeName (.bytes value) = .ok value := rfl

/-- The text of a name; bytes that are no character are kept. -/
def decodeName : Datum → Except Failure Text
  | .text value => .ok value
  | .bytes value => .ok (Utf8.decodeKeeping value)
  | _ => .error .wrongKind

@[simp] theorem decodeName_text (value : Text) : decodeName (.text value) = .ok value := rfl

/-- The bytes of an argument: all that is not bytes is shown as text. -/
def encodeArgument : Datum → Except Failure Bytes
  | .bytes value => .ok value
  | datum => encodeStrict datum.shown

@[simp] theorem encodeArgument_bytes (value : Bytes) :
    encodeArgument (.bytes value) = .ok value := rfl

/-- The bytes of the contents of a file. -/
def encodeContents : Datum → Except Failure Bytes
  | .bytes value => .ok value
  | .text value => encodeStrict value
  | _ => .error .noSuchPart

@[simp] theorem encodeContents_bytes (value : Bytes) :
    encodeContents (.bytes value) = .ok value := rfl

/-- The integer that a datum can be read as: numbers are cut towards zero, text and bytes are
read as numerals. -/
def toInteger : Datum → Except Failure Int
  | .bool value => .ok (if value then 1 else 0)
  | .int value => .ok value
  | .float value =>
      match value.shape with
      | .nan => .error .undefinedInteger
      | .infinite => .error .infiniteInteger
      | .finite _ _ => .ok value.truncated
  | .text value => Numeral.integer 10 value
  | .bytes value => Numeral.integerOfBytes value
  | _ => .error .wrongKind

@[simp] theorem toInteger_int (value : Int) : toInteger (.int value) = .ok value := rfl

/-- The items of whatever has items: glyphs of a text, bytes, and keys of a mapping. -/
def toItems : Datum → Except Failure (List Datum)
  | .list items => .ok items
  | .text value => .ok (value.glyphs.map fun glyph => .text ⟨[glyph]⟩)
  | .bytes value => .ok (value.map fun byte => .int byte.toNat)
  | .map entries => .ok (entries.map Prod.fst)
  | _ => .error .wrongKind

/-- Whether a number lies below an integer; what is no number cannot be compared. -/
def isBelow (bound : Int) : Datum → Except Failure Bool
  | .bool value => .ok (decide ((if value then 1 else 0 : Int) < bound))
  | .int value => .ok (decide (value < bound))
  | .float value => .ok (value.isBelow bound)
  | _ => .error .wrongKind

end Datum
end Custody

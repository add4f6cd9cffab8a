/-!
# Text with undecodable bytes

File names are byte strings, and not every byte string is valid UTF-8.  A
`Text` is therefore a sequence of glyphs, where a glyph is a character or one
byte that no character accounts for.  Encoding a text gives every raw byte back
unchanged, so a name survives being read and written.  An escape in a document
may also spell half of a pair of code units, which is neither a character nor a
byte; a text that holds one has no encoding as a name.
-/

namespace Custody

/-- A byte string. -/
abbrev Bytes := List UInt8

/-- One unit of text: a character, a byte that decoding left over, or half of a pair. -/
inductive Glyph where
  /-- A character. -/
  | char (character : Char)
  /-- A byte that belongs to no character. -/
  | raw (byte : UInt8)
  /-- Half of a pair of code units. -/
  | half (code : UInt16)
  deriving DecidableEq, Inhabited

namespace Glyph

/-- The bytes of one glyph: UTF-8 for a character, itself for a raw byte, and the three bytes
that UTF-8 would use for half of a pair. -/
def encode : Glyph → Bytes
  | .char character => String.utf8EncodeChar character
  | .raw byte => [byte]
  | .half code =>
      [(0xE0 + code.toNat / 0x1000).toUInt8, (0x80 + code.toNat / 0x40 % 0x40).toUInt8,
        (0x80 + code.toNat % 0x40).toUInt8]

@[simp] theorem encode_char (character : Char) :
    encode (.char character) = String.utf8EncodeChar character := rfl

@[simp] theorem encode_raw (byte : UInt8) : encode (.raw byte) = [byte] := rfl

/-- The character of a glyph that is one. -/
def char? : Glyph → Option Char
  | .char character => some character
  | .raw _ => none
  | .half _ => none

@[simp] theorem char?_char (character : Char) : char? (.char character) = some character := rfl

@[simp] theorem char?_raw (byte : UInt8) : char? (.raw byte) = none := rfl

/-- Whether a glyph is half of a pair. -/
def isHalf : Glyph → Bool
  | .half _ => true
  | _ => false

/-- The code point of a glyph: a raw byte counts from U+DC00. -/
def code : Glyph → Nat
  | .char character => character.toNat
  | .raw byte => 0xDC00 + byte.toNat
  | .half code => code.toNat

/-- The glyph with a code point: U+DC80 to U+DCFF are raw bytes, the others from U+D800 to
U+DFFF are halves of pairs. -/
def ofCode (code : Nat) : Glyph :=
  if 0xDC80 ≤ code ∧ code ≤ 0xDCFF then .raw (code - 0xDC00).toUInt8
  else if 0xD800 ≤ code ∧ code ≤ 0xDFFF then .half code.toUInt16
  else .char (Char.ofNat code)

end Glyph

/-- A sequence of glyphs. -/
structure Text where
  /-- The glyphs in reading order. -/
  glyphs : List Glyph
  deriving DecidableEq, Inhabited

namespace Text

/-- The text without glyphs. -/
def empty : Text := ⟨[]⟩

/-- The text of a character sequence. -/
def ofList (characters : List Char) : Text := ⟨characters.map .char⟩

/-- The text of a string. -/
def ofString (string : String) : Text := ofList string.toList

instance : Coe String Text := ⟨ofString⟩

instance : Append Text := ⟨fun left right => ⟨left.glyphs ++ right.glyphs⟩⟩

@[simp] theorem glyphs_append (left right : Text) :
    (left ++ right).glyphs = left.glyphs ++ right.glyphs := rfl

@[simp] theorem glyphs_ofList (characters : List Char) :
    (ofList characters).glyphs = characters.map .char := rfl

@[simp] theorem glyphs_empty : empty.glyphs = [] := rfl

/-- A text is empty when it has no glyphs. -/
def isEmpty (text : Text) : Bool := text.glyphs.isEmpty

/-- The bytes of a text. -/
def encode (text : Text) : Bytes := text.glyphs.flatMap Glyph.encode

@[simp] theorem encode_append (left right : Text) :
    (left ++ right).encode = left.encode ++ right.encode := by
  simp [encode, List.flatMap_append]

/-- Whether a text holds half of a pair. -/
def hasHalf (text : Text) : Bool := text.glyphs.any Glyph.isHalf

/-- The bytes of a text as a name, which halves of pairs do not have. -/
def encodeName? (text : Text) : Option Bytes :=
  if text.hasHalf then none else some text.encode

/-- The characters of a text that has no raw bytes. -/
def characters? (text : Text) : Option (List Char) := text.glyphs.mapM Glyph.char?

/-- The string of a text that has no raw bytes. -/
def toString? (text : Text) : Option String := text.characters?.map String.ofList

/-- The strict encoding, which raw bytes do not have. -/
def encodeStrict? (text : Text) : Option Bytes :=
  text.characters?.map fun characters => characters.flatMap String.utf8EncodeChar

/-- The texts of a list with a separator between neighbours. -/
def intercalate (separator : Text) : List Text → Text
  | [] => empty
  | [text] => text
  | text :: next :: rest => text ++ separator ++ intercalate separator (next :: rest)

/-- The runs of glyphs between separators. -/
def splitGlyphs (separator : Glyph) : List Glyph → List (List Glyph)
  | [] => [[]]
  | glyph :: rest =>
      match splitGlyphs separator rest with
      | [] => []
      | run :: runs =>
          if glyph = separator then [] :: run :: runs else (glyph :: run) :: runs

/-- The texts between separators. -/
def splitOn (separator : Char) (text : Text) : List Text :=
  (splitGlyphs (.char separator) text.glyphs).map Text.mk

/-- The decimal text of an integer. -/
def ofInt (number : Int) : Text :=
  match number with
  | .ofNat magnitude => ofList (Nat.toDigits 10 magnitude)
  | .negSucc magnitude => ofList ('-' :: Nat.toDigits 10 (magnitude + 1))

/-- The decimal text of a natural number. -/
def ofNat (number : Nat) : Text := ofList (Nat.toDigits 10 number)

/-- The hexadecimal text of an integer, written after `0x`. -/
def ofHex (number : Int) : Text :=
  match number with
  | .ofNat magnitude => ofList ('0' :: 'x' :: Nat.toDigits 16 magnitude)
  | .negSucc magnitude => ofList ('-' :: '0' :: 'x' :: Nat.toDigits 16 (magnitude + 1))

end Text
end Custody

import Custody.Text.Basic
import Custody.Text.Printable

/-!
# Quoted text

Messages show a text between quotes.  Single quotes are used unless the text has
a single quote and no double quote.  The quote in use and the backslash are
escaped, and so is everything that does not print.
-/

namespace Custody
namespace Quoted

/-- The quote around a text, given whether it holds single and double quotes. -/
def quoteFor (hasSingle hasDouble : Bool) : Char :=
  if hasSingle && !hasDouble then '"' else '\x27'

/-- Hexadecimal digits, filled up with zeros to a given width. -/
def hexDigits (width number : Nat) : List Char :=
  let digits := Nat.toDigits 16 number
  List.replicate (width - digits.length) '0' ++ digits

/-- The escape of a code point that does not print: two, four or eight digits. -/
def escapeCode (code : Nat) : List Char :=
  if code < 0x100 then '\\' :: 'x' :: hexDigits 2 code
  else if code < 0x10000 then '\\' :: 'u' :: hexDigits 4 code
  else '\\' :: 'U' :: hexDigits 8 code

/-- One character inside quotes. -/
def escapeChar (quote character : Char) : List Char :=
  if character = quote ∨ character = '\\' then ['\\', character]
  else if character = '\n' then ['\\', 'n']
  else if character = '\r' then ['\\', 'r']
  else if character = '\t' then ['\\', 't']
  else if isPrintable character then [character]
  else escapeCode character.toNat

/-- One glyph inside quotes: what is no character shows as its code point. -/
def escapeGlyph (quote : Char) : Glyph → List Char
  | .char character => escapeChar quote character
  | glyph => escapeCode glyph.code

/-- The quoted form of a text. -/
def ofText (text : Text) : String :=
  let quote := quoteFor (text.glyphs.contains (.char '\x27')) (text.glyphs.contains (.char '"'))
  String.ofList (quote :: text.glyphs.flatMap (escapeGlyph quote) ++ [quote])

/-- The quoted form of a string. -/
def ofString (string : String) : String := ofText (Text.ofString string)

/-- One byte inside quotes: only ASCII prints. -/
def escapeByte (quote : Char) (byte : UInt8) : List Char :=
  let character := Char.ofNat byte.toNat
  if character = quote ∨ character = '\\' then ['\\', character]
  else if character = '\n' then ['\\', 'n']
  else if character = '\r' then ['\\', 'r']
  else if character = '\t' then ['\\', 't']
  else if 0x20 ≤ byte && byte < 0x7F then [character]
  else '\\' :: 'x' :: hexDigits 2 byte.toNat

/-- The quoted form of a byte string, marked by a leading `b`. -/
def ofBytes (bytes : Bytes) : String :=
  let quote := quoteFor (bytes.contains 0x27) (bytes.contains 0x22)
  String.ofList ('b' :: quote :: bytes.flatMap (escapeByte quote) ++ [quote])

/-- Written items between an opening and a closing mark, parted by commas. -/
def bracketed (opening closing : String) (items : List String) : String :=
  opening ++ String.intercalate ", " items ++ closing

/-- The written form of a list with written items. -/
def list (items : List String) : String := bracketed "[" "]" items

/-- The written form of a tuple: a single item keeps its comma. -/
def tuple : List String → String
  | [item] => "(" ++ item ++ ",)"
  | items => bracketed "(" ")" items

end Quoted
end Custody

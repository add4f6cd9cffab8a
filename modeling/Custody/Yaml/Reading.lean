import Custody.Number.Numeral

/-!
# Reading a document

A reading is a place in a document: the characters that follow, and the line and
column reached.  The end of a document reads as a zero character, which no
document holds.
-/

namespace Custody
namespace Yaml

/-- Why a document has no value. -/
inductive Fault where
  /-- It breaks the rules of the format. -/
  | malformed
  /-- A scalar in it has no value. -/
  | refused (failure : Failure)
  deriving DecidableEq, Inhabited

/-- The character that stands for the end. -/
def ending : Char := '\x00'

/-- Line breaks. -/
def isBreak (character : Char) : Bool :=
  character = '\n' || character = '\r' || character = '\x85' || character = '\u2028' ||
    character = '\u2029'

/-- Line breaks and the end. -/
def isBreakOrEnd (character : Char) : Bool := character = ending || isBreak character

/-- Spaces, line breaks and the end. -/
def isSpaceOrEnd (character : Char) : Bool := character = ' ' || isBreakOrEnd character

/-- Spaces, tabs, line breaks and the end. -/
def isBlankOrEnd (character : Char) : Bool := character = '\t' || isSpaceOrEnd character

/-- Letters, digits, hyphen and underscore. -/
def isNameCharacter (character : Char) : Bool :=
  character.isAlphanum || character = '-' || character = '_'

/-- Hexadecimal digits. -/
def isHexDigit (character : Char) : Bool :=
  character.isDigit || ('a' ≤ character && character ≤ 'f') || ('A' ≤ character && character ≤ 'F')

/-- Characters that a document may hold. -/
def isAllowed (character : Char) : Bool :=
  let code := character.toNat
  code = 0x09 || code = 0x0A || code = 0x0D || (0x20 ≤ code && code ≤ 0x7E) || code = 0x85 ||
    (0xA0 ≤ code && code ≤ 0xD7FF) || (0xE000 ≤ code && code ≤ 0xFFFD) || 0x10000 ≤ code

/-- A place in a document. -/
structure Reading where
  /-- The characters that follow. -/
  rest : List Char
  /-- How many characters came before. -/
  index : Nat
  /-- How many lines came before. -/
  line : Nat
  /-- How many characters of the line came before; byte order marks do not count. -/
  column : Nat
  deriving Inhabited

namespace Reading

/-- The beginning of a document. -/
def start (document : List Char) : Reading := ⟨document, 0, 0, 0⟩

/-- The character at a distance. -/
def peekAt (reading : Reading) (distance : Nat) : Char := reading.rest.getD distance ending

/-- The next character. -/
def peek (reading : Reading) : Char := reading.peekAt 0

/-- Steps over one character. -/
def next (reading : Reading) : Reading :=
  match reading.rest with
  | [] => reading
  | character :: rest =>
      if isBreak character then ⟨rest, reading.index + 1, reading.line + 1, 0⟩
      else if character = '\uFEFF' then ⟨rest, reading.index + 1, reading.line, reading.column⟩
      else ⟨rest, reading.index + 1, reading.line, reading.column + 1⟩

/-- Steps over several characters. -/
def skip (reading : Reading) : Nat → Reading
  | 0 => reading
  | count + 1 => (reading.skip count).next

/-- Takes the characters of a class. -/
def takeWhile (reading : Reading) (accepts : Char → Bool) : List Char × Reading :=
  let taken := reading.rest.takeWhile accepts
  (taken, reading.skip taken.length)

/-- Steps over the characters of a class. -/
def skipWhile (reading : Reading) (accepts : Char → Bool) : Reading := (reading.takeWhile accepts).2

/-- Steps over one line break, which reads as itself if it is a separator and as a line feed
otherwise. -/
def takeBreak (reading : Reading) : List Char × Reading :=
  let character := reading.peek
  if character = '\u2028' || character = '\u2029' then ([character], reading.next)
  else if isBreak character then
    if character = '\r' && reading.peekAt 1 = '\n' then (['\n'], reading.skip 2)
    else (['\n'], reading.next)
  else ([], reading)

/-- Three equal marks followed by a blank stand here. -/
def atMark (reading : Reading) (mark : Char) : Bool :=
  reading.peekAt 0 = mark && reading.peekAt 1 = mark && reading.peekAt 2 = mark &&
    isBlankOrEnd (reading.peekAt 3)

/-- The beginning or the end of a document is marked here. -/
def atDocumentMark (reading : Reading) : Bool := reading.atMark '-' || reading.atMark '.'

/-- Steps over a comment. -/
def skipComment (reading : Reading) : Reading :=
  if reading.peek = '#' then reading.skipWhile (!isBreakOrEnd ·) else reading

end Reading
end Yaml
end Custody

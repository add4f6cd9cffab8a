import Custody.Text.Basic

/-!
# Reading UTF-8

The reader is a machine that takes one byte at a time.  It produces pieces: a
character, or a maximal invalid subpart, which is the longest beginning of a
character that the next byte does not continue.  Two readings share the machine:
one puts U+FFFD for every invalid subpart, the other keeps its bytes.
-/

namespace Custody
namespace Utf8

/-- A piece of a byte string: a character or a maximal invalid subpart. -/
inductive Piece where
  /-- A well-formed character. -/
  | valid (character : Char)
  /-- Bytes that do not form a character. -/
  | invalid (bytes : Bytes)
  deriving DecidableEq, Inhabited

/-- What the machine has read of the character it is in. -/
inductive Progress where
  /-- Between two characters. -/
  | idle
  /-- Inside a character: how many bytes are missing, the bounds of the next
  one, the bits collected and the bytes taken. -/
  | inside (missing : Nat) (low high : UInt8) (code : Nat) (taken : Bytes)
  deriving DecidableEq, Inhabited

/-- The first byte of a character fixes its length and the bounds of the second byte. -/
def start (byte : UInt8) : List Piece × Progress :=
  if byte < 0x80 then ([.valid (Char.ofNat byte.toNat)], .idle)
  else if byte < 0xC2 then ([.invalid [byte]], .idle)
  else if byte < 0xE0 then ([], .inside 1 0x80 0xBF (byte.toNat % 32) [byte])
  else if byte = 0xE0 then ([], .inside 2 0xA0 0xBF 0 [byte])
  else if byte = 0xED then ([], .inside 2 0x80 0x9F 13 [byte])
  else if byte < 0xF0 then ([], .inside 2 0x80 0xBF (byte.toNat % 16) [byte])
  else if byte = 0xF0 then ([], .inside 3 0x90 0xBF 0 [byte])
  else if byte < 0xF4 then ([], .inside 3 0x80 0xBF (byte.toNat % 8) [byte])
  else if byte = 0xF4 then ([], .inside 3 0x80 0x8F 4 [byte])
  else ([.invalid [byte]], .idle)

/-- One step: a byte outside the expected bounds ends the subpart and starts afresh. -/
def step : Progress → UInt8 → List Piece × Progress
  | .idle, byte => start byte
  | .inside missing low high code taken, byte =>
      if low ≤ byte ∧ byte ≤ high then
        let code := code * 64 + byte.toNat % 64
        if missing ≤ 1 then ([.valid (Char.ofNat code)], .idle)
        else ([], .inside (missing - 1) 0x80 0xBF code (taken ++ [byte]))
      else
        let (pieces, next) := start byte
        (.invalid taken :: pieces, next)

/-- What is left when the bytes end. -/
def finish : Progress → List Piece
  | .idle => []
  | .inside _ _ _ _ taken => [.invalid taken]

/-- The pieces of a byte string, read from a given state. -/
def pieces (progress : Progress) : Bytes → List Piece
  | [] => finish progress
  | byte :: rest =>
      let (produced, next) := step progress byte
      produced ++ pieces next rest

@[simp] theorem pieces_nil (progress : Progress) : pieces progress [] = finish progress := rfl

theorem pieces_cons (progress : Progress) (byte : UInt8) (rest : Bytes) :
    pieces progress (byte :: rest) =
      (step progress byte).1 ++ pieces (step progress byte).2 rest := rfl

/-- The character that stands for a piece when invalid subparts are replaced. -/
def Piece.replaced : Piece → Char
  | .valid character => character
  | .invalid _ => '\uFFFD'

/-- The glyphs that stand for a piece when invalid subparts are kept. -/
def Piece.kept : Piece → List Glyph
  | .valid character => [.char character]
  | .invalid bytes => bytes.map .raw

/-- Decoding with U+FFFD for every maximal invalid subpart. -/
def decodeReplacing (bytes : Bytes) : List Char :=
  (pieces .idle bytes).map Piece.replaced

/-- Decoding that keeps invalid bytes as raw glyphs. -/
def decodeKeeping (bytes : Bytes) : Text :=
  ⟨(pieces .idle bytes).flatMap Piece.kept⟩

/-- Decoding that refuses invalid bytes. -/
def decode? (bytes : Bytes) : Option (List Char) :=
  (pieces .idle bytes).mapM fun piece =>
    match piece with
    | .valid character => some character
    | .invalid _ => none

/-- The characters before the first invalid bytes. -/
def validStart : List Piece → List Char
  | .valid character :: rest => character :: validStart rest
  | _ => []

/-- The bytes of a character sequence. -/
def encode (characters : List Char) : Bytes :=
  characters.flatMap String.utf8EncodeChar

@[simp] theorem encode_nil : encode [] = [] := rfl

@[simp] theorem encode_cons (character : Char) (rest : List Char) :
    encode (character :: rest) = String.utf8EncodeChar character ++ encode rest := rfl

end Utf8
end Custody

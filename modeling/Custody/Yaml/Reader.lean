import Custody.Text.Utf8
import Custody.Yaml.Printer

/-!
# Readers of documents

A file is opened as a text and handed to a reader of documents.  The reader belongs to
another program.  It takes the text in piece by piece, so a fault of the format may be
found before bytes that are no text are come to, and how much it can read before its stack
is used up depends on the interpreter that runs it.  Here a reader is whatever it answers.
-/

namespace Custody
namespace Yaml

/-- Every kind of line break of a text file reads as a line feed. -/
def universalBreaks : List Char → List Char
  | '\r' :: '\n' :: rest => '\n' :: universalBreaks rest
  | '\r' :: rest => '\n' :: universalBreaks rest
  | character :: rest => character :: universalBreaks rest
  | [] => []

/-- A text as it comes from a file. -/
structure Stream where
  /-- The characters, up to the first bytes that are no text. -/
  characters : List Char
  /-- Whether there are such bytes. -/
  broken : Bool
  deriving DecidableEq, Inhabited

/-- The text in a file with some contents. -/
def Stream.ofBytes (contents : Bytes) : Stream :=
  match Utf8.decode? contents with
  | some characters => ⟨universalBreaks characters, false⟩
  | none => ⟨universalBreaks (Utf8.validStart (Utf8.pieces .idle contents)), true⟩

/-- Bytes that are no text are found exactly in a file that cannot be decoded. -/
theorem Stream.broken_ofBytes_iff (contents : Bytes) :
    (ofBytes contents).broken = true ↔ Utf8.decode? contents = none := by
  unfold ofBytes
  cases Utf8.decode? contents <;> simp

/-- Why a reader gives no document. -/
inductive Refusal where
  /-- It came to bytes that are no text. -/
  | undecodable
  /-- What it has read breaks the rules of the format, or has no value. -/
  | fault (fault : Fault)
  deriving DecidableEq, Inhabited

/-- How many values inside each other can be shown, which depends on the stack that is left. -/
structure Room where
  /-- Where the value under a key is shown. -/
  value : Nat
  /-- Where an item of a list of arguments is shown. -/
  item : Nat
  deriving Inhabited

/-- A reader of documents, and the room for showing what it has read. -/
structure Reader where
  /-- The document in a text, or why there is none. -/
  read : Stream → Except Refusal Document
  /-- Bytes that are no text are only come to where there are some. -/
  broken_of_undecodable : ∀ stream, read stream = .error .undecodable → stream.broken = true
  /-- The room. -/
  room : Room

/-- The reader that takes a text in as a whole, with the stack and the room that it has. -/
def Reader.whole (stack : Stack) (room : Room) : Reader where
  read stream :=
    if stream.broken then .error .undecodable
    else (load stack stream.characters).mapError .fault
  broken_of_undecodable stream undecodable := by
    split at undecodable
    · assumption
    · cases read : load stack stream.characters <;> rw [read] at undecodable <;> cases undecodable
  room := room

end Yaml
end Custody

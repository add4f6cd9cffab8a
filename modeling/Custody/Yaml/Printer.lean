import Custody.Datum.Hash
import Custody.Yaml.Document

/-!
# Printing values of documents

A value of a document is shown like loose data.  A collection inside itself is cut
off, and so is a pair, so that every value has a finite form; but it may be deeper than
there is room for, and an integer may have too many digits.
-/

namespace Custody
namespace Yaml
namespace Document

/-- The value with a number. -/
def cell (document : Document) (number : Nat) : Cell :=
  (document.cells[number]?).getD (.scalar .null)

/-- Refuses to show an integer with more digits than can be read back. -/
def checkDigits : Datum → Except Failure Unit
  | .int value =>
      if Nat.pow 10 Numeral.mostDigits ≤ value.natAbs then .error (.tooManyDigits none) else .ok ()
  | _ => .ok ()

/-- The written form of a value without parts. -/
def writtenScalar (value : Datum) : Except Failure String := do
  checkDigits value
  return value.written

/-- The written form of a value without parts, unless nothing can be shown inside. -/
def writtenLeaf : Nat → Datum → Except Failure String
  | 0, _ => .error .tooDeep
  | _ + 1, value => writtenScalar value

/-- A value with parts: a collection, or a pair in a list of pairs. -/
inductive Whole where
  /-- The collection with a number. -/
  | collection (number : Nat)
  /-- The pair at a position of a list. -/
  | pair (list position : Nat)
  deriving DecidableEq

mutual

/-- The written form of a value inside others; a set shows the list of its items. -/
def writtenInside (document : Document) : Nat → List Whole → Nat → Except Failure String
  | 0, _, _ => .error .tooDeep
  | bound + 1, path, number =>
      let whole := Whole.collection number
      let inside := document.writtenInside bound (whole :: path)
      match document.cell number with
      | .scalar value => writtenScalar value
      | .set [] => .ok "set()"
      | .set items =>
          return Quoted.bracketed "\x7b" "\x7d"
            (← (Datum.arranged items).mapM (writtenLeaf (bound - 1)))
      | .list items =>
          if path.contains whole then .ok "[...]"
          else return Quoted.list (← items.mapM inside)
      | .pairs items =>
          if path.contains whole then .ok "[...]"
          else return Quoted.list (← items.zipIdx.mapM fun (pair, position) =>
            document.writtenPair bound (whole :: path) (.pair number position) pair)
      | .map entries =>
          if path.contains whole then .ok "\x7b...\x7d"
          else return Quoted.bracketed "\x7b" "\x7d" (← entries.mapM fun (key, value) => do
            let key ← writtenLeaf bound key
            return key ++ ": " ++ (← inside value))

/-- The written form of a pair inside others. -/
def writtenPair (document : Document) :
    Nat → List Whole → Whole → Nat × Nat → Except Failure String
  | 0, _, _, _ => .error .tooDeep
  | bound + 1, path, whole, (first, second) =>
      if path.contains whole then .ok "(...)"
      else do
        let inside := document.writtenInside bound (whole :: path)
        let first ← inside first
        return Quoted.tuple [first, ← inside second]

end

/-- The written form of a value, with a bound on the values inside each other. -/
def written (document : Document) (bound number : Nat) : Except Failure String :=
  document.writtenInside bound [] number

/-- The form of a value that stands alone. -/
def shown (document : Document) (bound number : Nat) : Except Failure Text :=
  match document.cell number with
  | .scalar value => do
      checkDigits value
      return value.shown
  | _ => do return Text.ofString (← document.written bound number)

/-- The name of the kind of a value. -/
def kindName (document : Document) (number : Nat) : String :=
  match document.cell number with
  | .scalar value => value.kindName
  | .list _ => "list"
  | .pairs _ => "list"
  | .set _ => "set"
  | .map _ => "dict"

end Document
end Yaml
end Custody

import Custody.Datum

/-!
# Hashes of data

The hash of a number follows from its value alone: numbers count modulo a prime,
whatever their kind.  So does the hash of a text or byte string without any bytes.
All other hashes differ from run to run.

A set keeps its items in the slots of a table and lists them from the first slot to
the last.  An item goes to the slot that the low bits of its hash name, or to a free
slot shortly after it, or else to slots that depend on more and more bits of the
hash.  The order of a set of known hashes is therefore known.
-/

namespace Custody
namespace Hash

/-- The prime by which numbers are taken. -/
def modulus : Nat := 2305843009213693951

/-- The hash of a magnitude with a sign; minus one counts as minus two. -/
def ofMagnitude (negative : Bool) (magnitude : Nat) : Int :=
  let residue : Int := (magnitude % modulus : Nat)
  let value := if negative then -residue else residue
  if value = -1 then -2 else value

/-- The hash of an integer. -/
def ofInt (value : Int) : Int := ofMagnitude (value < 0) value.natAbs

/-- The hash of a number with a fraction; modulo the prime, 61 doublings change nothing.  An
undefined number has no known hash. -/
def ofFloat? (value : Binary64) : Option Int :=
  match value.shape with
  | .nan => none
  | .infinite => some (if value.isNegative then -314159 else 314159)
  | .finite significand exponent =>
      some (ofMagnitude value.isNegative (significand * Nat.pow 2 (exponent % 61).toNat))

/-- The hash of a datum, if it is known. -/
def ofDatum? : Datum → Option Int
  | .bool value => some (if value then 1 else 0)
  | .int value => some (ofInt value)
  | .float value => ofFloat? value
  | .text value => if value.glyphs.isEmpty then some 0 else none
  | .bytes value => if value.isEmpty then some 0 else none
  | _ => none

/-- The bits of a hash as a natural number. -/
def bits (hash : Int) : Nat := (hash % 18446744073709551616).toNat

end Hash

/-- The slots of a set; their number is a power of two. -/
abbrev Slots (α : Type) := List (Option α)

namespace Slots

variable {α : Type}

/-- The slots that are tried after one before the search jumps. -/
def stretch : Nat := 9

/-- The first free slot among one and those that are tried after it; near the end of the table
only the slot itself is tried. -/
def freeNear? (slots : Slots α) (slot : Nat) : Option Nat :=
  let tried := if slot + stretch < slots.length then stretch + 1 else 1
  ((List.range tried).map (slot + ·)).find? fun slot => (slots[slot]?).any Option.isNone

/-- The slot for an item, from a first slot and the bits of the hash that were not used yet. -/
def place (slots : Slots α) : Nat → Nat → Nat → Nat
  | 0, slot, _ => slot
  | steps + 1, slot, rest =>
      match slots.freeNear? slot with
      | some free => free
      | none => slots.place steps ((slot * 5 + 1 + rest / 32) % slots.length) (rest / 32)

/-- Puts an item into a table.  Once the bits of the hash are used up, which takes thirteen jumps,
the jumps lead to every slot in turn. -/
def insert (slots : Slots α) (hash : Int) (item : α) : Slots α :=
  let rest := Hash.bits hash
  slots.set (slots.place (slots.length + 14) (rest % slots.length) rest) (some item)

/-- The least doubling of a size above a bound. -/
def sizeAbove (bound : Nat) : Nat → Nat → Nat
  | 0, size => size
  | steps + 1, size => if size ≤ bound then sizeAbove bound steps (size * 2) else size

/-- The number of slots for items: eight for a few, otherwise more than twice as many. -/
def sizeFor (count : Nat) : Nat := if count < 5 then 8 else sizeAbove (count * 2) count 8

/-- Items in the order in which a set lists them. -/
def arranged (items : List (Int × α)) : List α :=
  let empty : Slots α := List.replicate (sizeFor items.length) none
  (items.foldl (fun slots (hash, item) => slots.insert hash item) empty).filterMap id

end Slots

/-- Data in the order in which a set lists them, which is known when all hashes are. -/
def Datum.arranged (items : List Datum) : List Datum :=
  match items.mapM fun item => (Hash.ofDatum? item).map fun hash => (hash, item) with
  | some hashed => Slots.arranged hashed
  | none => items

end Custody

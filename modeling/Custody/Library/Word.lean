/-!
# Machine words

The library passes options, kinds, flags and some statuses in words of 32 bits.  A
number that does not fit loses its higher bits.
-/

namespace Custody
namespace Library

/-- The number of values of a word. -/
def wordRange : Nat := 0x100000000

/-- A number in a word without a sign. -/
def unsignedWord (value : Int) : Nat := (value % wordRange).toNat

/-- A number in a word with a sign. -/
def signedWord (value : Int) : Int := value.bmod wordRange

/-- Whether a flag in a word is set. -/
def isSet (value : Int) : Bool := unsignedWord value ≠ 0

end Library
end Custody

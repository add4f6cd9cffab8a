/-!
# Double-precision numbers

A number is kept as the 64 bits of its binary encoding, so that two numbers can
be told apart exactly.  A finite number is an integer significand times a power
of two, and comparisons with integers go through that exact value.
-/

namespace Custody

/-- A double-precision number, given by its bits. -/
structure Binary64 where
  /-- Sign, exponent and fraction, most significant bit first. -/
  bits : UInt64
  deriving DecidableEq, Inhabited

namespace Binary64

/-- The number of a machine float. -/
def ofFloat (value : Float) : Binary64 := ⟨value.toBits⟩

/-- The machine float of a number. -/
def toFloat (number : Binary64) : Float := Float.ofBits number.bits

/-- Whether the sign bit is set. -/
def isNegative (number : Binary64) : Bool := number.bits.toNat ≥ Nat.pow 2 63

/-- The biased exponent. -/
def biasedExponent (number : Binary64) : Nat := number.bits.toNat / Nat.pow 2 52 % 2048

/-- The fraction bits. -/
def fraction (number : Binary64) : Nat := number.bits.toNat % Nat.pow 2 52

/-- What a bit pattern denotes. -/
inductive Shape where
  /-- Not a number. -/
  | nan
  /-- An infinity. -/
  | infinite
  /-- The magnitude `significand * 2 ^ exponent`. -/
  | finite (significand : Nat) (exponent : Int)
  deriving DecidableEq, Inhabited

/-- The magnitude that the bits denote. -/
def shape (number : Binary64) : Shape :=
  if number.biasedExponent = 2047 then
    if number.fraction = 0 then .infinite else .nan
  else if number.biasedExponent = 0 then .finite number.fraction (-1074)
  else .finite (Nat.pow 2 52 + number.fraction) (number.biasedExponent - 1075 : Int)

/-- The integer that a number equals, if it is one. -/
def toInt? (number : Binary64) : Option Int :=
  match number.shape with
  | .nan => none
  | .infinite => none
  | .finite significand exponent =>
      let signed (magnitude : Nat) : Int :=
        if number.isNegative then -(magnitude : Int) else magnitude
      if 0 ≤ exponent then some (signed (significand * Nat.pow 2 exponent.toNat))
      else if significand % Nat.pow 2 (-exponent).toNat = 0 then
        some (signed (significand / Nat.pow 2 (-exponent).toNat))
      else none

/-- The number zero. -/
def zero : Binary64 := ⟨0⟩

/-- The positive infinity. -/
def infinity : Binary64 := ⟨0x7FF0000000000000⟩

/-- The undefined number. -/
def undefined : Binary64 := ⟨0x7FF8000000000000⟩

/-- The number with the opposite sign. -/
def negate (number : Binary64) : Binary64 := ⟨number.bits ^^^ 0x8000000000000000⟩

/-- The number with a sign. -/
def signed (negative : Bool) (number : Binary64) : Binary64 :=
  if negative then number.negate else number

/-- The nearest integer to a quotient, even on a tie. -/
def nearestQuotient (numerator denominator : Nat) : Nat :=
  let quotient := numerator / denominator
  let rest := numerator % denominator
  if 2 * rest < denominator then quotient
  else if denominator < 2 * rest then quotient + 1
  else quotient + quotient % 2

/-- The number nearest to a quotient, even on a tie.  The exponent is chosen so that the
significand has 53 bits, or fewer at the least exponent; a carry out of the significand
raises the exponent by itself. -/
def ofRatio (numerator denominator : Nat) : Binary64 :=
  if numerator = 0 then zero
  else
    let scaled (exponent : Int) : Nat × Nat :=
      if 0 ≤ exponent then (numerator, denominator * Nat.pow 2 exponent.toNat)
      else (numerator * Nat.pow 2 (-exponent).toNat, denominator)
    let guess : Int := (numerator.log2 : Int) - denominator.log2 - 53
    let (top, bottom) := scaled guess
    let exponent := max (if Nat.pow 2 53 ≤ top / bottom then guess + 1 else guess) (-1074)
    let (top, bottom) := scaled exponent
    let bits := (exponent + 1074).toNat * Nat.pow 2 52 + nearestQuotient top bottom
    if 0x7FF0000000000000 ≤ bits then infinity else ⟨bits.toUInt64⟩

/-- The number nearest to `digits * 10 ^ exponent`; far exponents saturate. -/
def ofDecimal (digits : Nat) (exponent : Int) : Binary64 :=
  let size : Int := (Nat.toDigits 10 digits).length
  if digits = 0 then zero
  else if size + exponent > 400 then infinity
  else if size + exponent < -400 then zero
  else if 0 ≤ exponent then ofRatio (digits * Nat.pow 10 exponent.toNat) 1
  else ofRatio digits (Nat.pow 10 (-exponent).toNat)

/-- The number nearest to an integer, unless that is beyond all finite numbers. -/
def ofInt? (value : Int) : Option Binary64 :=
  let magnitude := ofRatio value.natAbs 1
  if magnitude = infinity then none else some (signed (value < 0) magnitude)

/-- Whether a number is undefined. -/
def isUndefined (number : Binary64) : Bool := number.shape = .nan

/-- Whether a number is zero, with either sign. -/
def isZero (number : Binary64) : Bool := number = zero || number = zero.negate

/-- Two numbers agree when they denote the same number. -/
def agrees (left right : Binary64) : Bool :=
  (!left.isUndefined && left = right) || (left.isZero && right.isZero)

/-- Whether a number lies below an integer. -/
def isBelow (number : Binary64) (bound : Int) : Bool :=
  match number.shape with
  | .nan => false
  | .infinite => number.isNegative
  | .finite significand exponent =>
      let magnitude : Int := if number.isNegative then -(significand : Int) else significand
      if 0 ≤ exponent then magnitude * (Nat.pow 2 exponent.toNat : Nat) < bound
      else magnitude < bound * (Nat.pow 2 (-exponent).toNat : Nat)

/-- The integer part of a finite number, cut towards zero. -/
def truncated (number : Binary64) : Int :=
  match number.shape with
  | .nan => 0
  | .infinite => 0
  | .finite significand exponent =>
      let magnitude : Nat :=
        if 0 ≤ exponent then significand * Nat.pow 2 exponent.toNat
        else significand / Nat.pow 2 (-exponent).toNat
      if number.isNegative then -(magnitude : Int) else magnitude

end Binary64
end Custody

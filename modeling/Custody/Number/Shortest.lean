import Custody.Number.Binary64

/-!
# Shortest decimals

A finite number is written with the fewest digits that read back as it.  All
reals between the two midpoints around the number read back as it, the midpoints
included when the significand is even.  For every number of digits in turn the
two neighbours on that decimal grid are tried, and the nearer one that reads back
is taken.
-/

namespace Custody
namespace Shortest

/-- A positive rational as a fraction. -/
structure Fraction where
  /-- The numerator. -/
  numerator : Nat
  /-- The denominator. -/
  denominator : Nat

/-- `significand * 2 ^ exponent` as a fraction. -/
def Fraction.ofBinary (significand : Nat) (exponent : Int) : Fraction :=
  if 0 ≤ exponent then ⟨significand * Nat.pow 2 exponent.toNat, 1⟩
  else ⟨significand, Nat.pow 2 (-exponent).toNat⟩

/-- `digits * 10 ^ exponent` as a fraction. -/
def Fraction.ofDecimal (digits : Nat) (exponent : Int) : Fraction :=
  if 0 ≤ exponent then ⟨digits * Nat.pow 10 exponent.toNat, 1⟩
  else ⟨digits, Nat.pow 10 (-exponent).toNat⟩

/-- Strict order of fractions. -/
def Fraction.less (left right : Fraction) : Bool :=
  left.numerator * right.denominator < right.numerator * left.denominator

/-- Whether a decimal reads back as `significand * 2 ^ exponent`. -/
def readsBack (significand : Nat) (exponent : Int) (decimal : Fraction) : Bool :=
  let low :=
    if significand = Nat.pow 2 52 ∧ exponent > -1074 then
      Fraction.ofBinary (4 * significand - 1) (exponent - 2)
    else Fraction.ofBinary (2 * significand - 1) (exponent - 1)
  let high := Fraction.ofBinary (2 * significand + 1) (exponent - 1)
  if significand % 2 = 0 then !(decimal.less low) && !(high.less decimal)
  else low.less decimal && decimal.less high

/-- The distance between two fractions, over the product of their denominators. -/
def Fraction.distance (left right : Fraction) : Nat :=
  let cross := left.numerator * right.denominator
  let other := right.numerator * left.denominator
  if cross ≤ other then other - cross else cross - other

/-- The digits on the grid `10 ^ exponent` that read back, nearest first, even on a tie. -/
def onGrid? (significand : Nat) (binary : Int) (grid : Int) : Option Nat :=
  let value := Fraction.ofBinary significand binary
  let unit := Fraction.ofDecimal 1 grid
  let below := value.numerator * unit.denominator / (value.denominator * unit.numerator)
  let lower := Fraction.ofDecimal below grid
  let upper := Fraction.ofDecimal (below + 1) grid
  let lowerReads := 0 < below && readsBack significand binary lower
  let upperReads := readsBack significand binary upper
  if lowerReads && upperReads then
    let toLower := value.distance lower
    let toUpper := value.distance upper
    if toLower < toUpper then some below
    else if toUpper < toLower then some (below + 1)
    else if below % 2 = 0 then some below else some (below + 1)
  else if lowerReads then some below
  else if upperReads then some (below + 1)
  else none

/-- The decimal exponent of the leading digit of a positive fraction. -/
def leadingExponent (value : Fraction) : Int :=
  let estimate : Int :=
    ((Nat.toDigits 10 value.numerator).length : Int) - (Nat.toDigits 10 value.denominator).length
  if value.less (Fraction.ofDecimal 1 estimate) then estimate - 1 else estimate

/-- Tries the grids from a given one to finer ones. -/
def search (significand : Nat) (binary : Int) : Nat → Int → Nat × Int
  | 0, grid => (significand, grid)
  | tries + 1, grid =>
      match onGrid? significand binary grid with
      | some digits => (digits, grid)
      | none => search significand binary tries (grid - 1)

/-- Drops trailing zeros of the digits, raising the exponent. -/
def trim : Nat → Nat → Int → Nat × Int
  | 0, digits, exponent => (digits, exponent)
  | tries + 1, digits, exponent =>
      if digits % 10 = 0 ∧ 0 < digits then trim tries (digits / 10) (exponent + 1)
      else (digits, exponent)

/-- The shortest digits and their exponent for a positive finite magnitude. -/
def digits (significand : Nat) (binary : Int) : Nat × Int :=
  let leading := leadingExponent (Fraction.ofBinary significand binary)
  let (found, grid) := search significand binary 20 leading
  trim 25 found grid

end Shortest

/-- How a number is laid out once its digits are known. -/
structure NumberFormat where
  /-- The least position of the point, counted from the first digit, without an exponent. -/
  lowest : Int
  /-- The greatest such position. -/
  highest : Int
  /-- The least number of exponent digits. -/
  exponentWidth : Nat

namespace NumberFormat

/-- Numbers are positional from `1e-4` to below `1e16`; exponents have two digits. -/
def standard : NumberFormat := ⟨-3, 16, 2⟩

/-- Lays out digits whose point stands after `point` of them. -/
def layout (format : NumberFormat) (digits : List Char) (point : Int) : List Char :=
  if format.lowest ≤ point ∧ point ≤ format.highest then
    if point ≤ 0 then '0' :: '.' :: List.replicate (-point).toNat '0' ++ digits
    else if digits.length ≤ point.toNat then
      digits ++ List.replicate (point.toNat - digits.length) '0' ++ ['.', '0']
    else digits.take point.toNat ++ '.' :: digits.drop point.toNat
  else
    let exponent := point - 1
    let magnitude := Nat.toDigits 10 exponent.natAbs
    let filled := List.replicate (format.exponentWidth - magnitude.length) '0' ++ magnitude
    let mantissa := digits.take 1 ++
      (if digits.length ≤ 1 then [] else '.' :: digits.drop 1)
    mantissa ++ 'e' :: (if exponent < 0 then '-' else '+') :: filled

end NumberFormat

/-- The written form of a number: shortest digits in the standard layout. -/
def Binary64.written (number : Binary64) : String :=
  let signed (characters : List Char) : String :=
    String.ofList (if number.isNegative then '-' :: characters else characters)
  match number.shape with
  | .nan => "nan"
  | .infinite => signed ['i', 'n', 'f']
  | .finite significand exponent =>
      if significand = 0 then signed ['0', '.', '0']
      else
        let (digits, grid) := Shortest.digits significand exponent
        let characters := Nat.toDigits 10 digits
        signed (NumberFormat.standard.layout characters (characters.length + grid))

end Custody

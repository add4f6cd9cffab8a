import Custody.Failure
import Custody.Text.Digit

/-!
# Numerals

Reading numbers that are spelled out.  Blanks around a numeral are stepped over, and
decimal digits of every script count.  The digits of an integer may be parted by
single underscores, and a decimal integer has at most 4300 digits.
-/

namespace Custody
namespace Numeral

/-- The value of a digit, letters counting on from nine. -/
def digitValue (character : Char) : Nat :=
  if character.isDigit then character.toNat - '0'.toNat
  else if 'a' ≤ character && character ≤ 'z' then character.toNat - 'a'.toNat + 10
  else character.toNat - 'A'.toNat + 10

/-- Whether a character is a digit in a base. -/
def isDigitIn (base : Nat) (character : Char) : Bool :=
  character.isAlphanum && digitValue character < base

/-- The number that digits denote in a base. -/
def digitsValue (base : Nat) (digits : List Char) : Nat :=
  digits.foldl (fun total digit => total * base + digitValue digit) 0

/-- The blanks around a numeral. -/
def isBlank (character : Char) : Bool :=
  character = ' ' || (0x09 ≤ character.toNat && character.toNat ≤ 0x0D)

/-- The characters without blanks at either end. -/
def trimmed (characters : List Char) : List Char :=
  ((characters.dropWhile isBlank).reverse.dropWhile isBlank).reverse

/-- A glyph of a text in ASCII: blanks become spaces and digits those of ASCII.  A glyph that
is neither nor ASCII has no such form. -/
def plainGlyph? (glyph : Glyph) : Option Char :=
  match glyph with
  | .char character =>
      if character.toNat < 0x7F then some character
      else if Digit.isBlank character then some ' '
      else (Digit.decimal? character).map fun value => Char.ofNat ('0'.toNat + value)
  | _ => none

/-- Glyphs in ASCII, up to a question mark for the first one without such a form. -/
def plainGlyphs : List Glyph → List Char
  | [] => []
  | glyph :: rest =>
      match plainGlyph? glyph with
      | some character => character :: plainGlyphs rest
      | none => ['?']

/-- A text in ASCII; one that is ASCII already stays as it is. -/
def plain (text : Text) : List Char :=
  match text.characters? with
  | some characters =>
      if characters.all (·.toNat < 0x80) then characters else plainGlyphs text.glyphs
  | none => plainGlyphs text.glyphs

/-- The sign in front of a number and what follows it. -/
def signed : List Char → Bool × List Char
  | '-' :: rest => (true, rest)
  | '+' :: rest => (false, rest)
  | characters => (false, characters)

/-- An integer with a sign. -/
def applySign (negative : Bool) (magnitude : Int) : Int :=
  if negative then -magnitude else magnitude

/-- The letter that marks a base after a zero. -/
def markOf? (base : Nat) : Option Char :=
  if base = 2 then some 'b' else if base = 8 then some 'o' else if base = 16 then some 'x' else none

/-- Drops the mark of a base in front of digits, with one underscore after it. -/
def withoutMark (base : Nat) : List Char → List Char
  | '0' :: letter :: rest =>
      if markOf? base = some letter.toLower then
        match rest with
        | '_' :: rest => rest
        | rest => rest
      else '0' :: letter :: rest
  | characters => characters

/-- Whether every underscore of a run stands between two digits. -/
def isWellParted (run : List Char) : Bool :=
  run.head? ≠ some '_' && run.getLast? ≠ some '_' && !(run.zip run.tail).contains ('_', '_')

/-- The most digits of a decimal integer. -/
def mostDigits : Nat := 4300

/-- Reads an integer in a base; a failure to do so quotes the whole spelling. -/
def integerOf (base : Nat) (characters : List Char) (written : String) : Except Failure Int :=
  let refused := Except.error (.notInteger base written)
  let (negative, unsigned) := signed (characters.dropWhile isBlank)
  let body := withoutMark base unsigned
  let run := body.takeWhile fun character => isDigitIn base character || character = '_'
  let digits := run.filter (· ≠ '_')
  if !isWellParted run then refused
  else if base = 10 && mostDigits < digits.length then .error (.tooManyDigits (some digits.length))
  else if digits.isEmpty || !(body.drop run.length).all isBlank then refused
  else .ok (applySign negative (digitsValue base digits))

/-- The integer that a text spells in a base. -/
def integer (base : Nat) (text : Text) : Except Failure Int :=
  integerOf base (plain text) (Quoted.ofText text)

/-- The decimal integer that bytes spell. -/
def integerOfBytes (bytes : Bytes) : Except Failure Int :=
  integerOf 10 (bytes.map fun byte => Char.ofNat byte.toNat) (Quoted.ofBytes bytes)

/-- The digits of a decimal number with its exponent: what stands before and after the point and
after the exponent mark. -/
def decimal? (characters : List Char) : Option (Nat × Int) :=
  let whole := characters.takeWhile Char.isDigit
  let rest := characters.dropWhile Char.isDigit
  let (fraction, rest) :=
    match rest with
    | '.' :: rest => (rest.takeWhile Char.isDigit, rest.dropWhile Char.isDigit)
    | rest => ([], rest)
  if whole.isEmpty && fraction.isEmpty then none
  else
    let digits := digitsValue 10 (whole ++ fraction)
    match rest with
    | [] => some (digits, -(fraction.length : Int))
    | mark :: rest =>
        let (negative, exponent) := signed rest
        if mark.toLower = 'e' && !exponent.isEmpty && exponent.all Char.isDigit then
          some (digits, applySign negative (digitsValue 10 exponent) - fraction.length)
        else none

/-- The number that a text spells. -/
def number (text : Text) : Except Failure Binary64 :=
  let (negative, magnitude) := signed (trimmed (plain text))
  let lowered := String.ofList (magnitude.map Char.toLower)
  let value? : Option Binary64 :=
    if lowered = "inf" || lowered = "infinity" then some .infinity
    else if lowered = "nan" then some .undefined
    else (decimal? magnitude).map fun (digits, exponent) => .ofDecimal digits exponent
  match value? with
  | some value => .ok (value.signed negative)
  | none => .error (.notNumber (Quoted.ofText text))

end Numeral
end Custody

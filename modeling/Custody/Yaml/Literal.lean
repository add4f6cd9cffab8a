import Custody.Datum.Argument
import Custody.Text.Lowercase
import Custody.Yaml.Reading

/-!
# Literals

The values that scalars denote: truth values, integers in several bases, decimal
numbers, dates, moments and bytes.  A spelling that denotes nothing is refused with
the words of the reader that gave up on it.
-/

namespace Custody
namespace Yaml
namespace Literal

/-- Takes the failure to read a scalar for a fault of the document. -/
def checked {α : Type} : Except Failure α → Except Fault α
  | .ok value => .ok value
  | .error failure => .error (.refused failure)

/-- The parts of a text between colons. -/
def splitColons : List Glyph → List (List Glyph)
  | [] => [[]]
  | glyph :: rest =>
      if glyph = .char ':' then [] :: splitColons rest
      else
        match splitColons rest with
        | [] => [[glyph]]
        | part :: parts => (glyph :: part) :: parts

/-- A text without its underscores. -/
def withoutUnderscores (text : Text) : Text := ⟨text.glyphs.filter (· ≠ .char '_')⟩

/-- The sign of a text and what follows it; an empty text is refused. -/
def unsigned (text : Text) : Except Fault (Bool × List Glyph) :=
  match text.glyphs with
  | [] => .error (.refused .textIndex)
  | .char '-' :: rest => .ok (true, rest)
  | .char '+' :: rest => .ok (false, rest)
  | glyphs => .ok (false, glyphs)

/-- The integer that a scalar denotes; the base follows from its first characters. -/
def int (text : Text) : Except Fault Datum := do
  let (negative, digits) ← unsigned (withoutUnderscores text)
  let magnitude ←
    match digits with
    | [] => .error (.refused .textIndex)
    | [.char '0'] => pure 0
    | .char '0' :: .char 'b' :: rest => checked (Numeral.integer 2 ⟨rest⟩)
    | .char '0' :: .char 'x' :: rest => checked (Numeral.integer 16 ⟨rest⟩)
    | .char '0' :: rest => checked (Numeral.integer 8 ⟨.char '0' :: rest⟩)
    | digits =>
        if digits.contains (.char ':') then do
          let parts ← (splitColons digits).mapM fun part => checked (Numeral.integer 10 ⟨part⟩)
          pure (parts.foldl (fun total part => total * 60 + part) 0)
        else checked (Numeral.integer 10 ⟨digits⟩)
  return .int (Numeral.applySign negative magnitude)

/-- A sum of numbers, each counting sixty times as much as the one before it, from a given
power of sixty on.  A power beyond all numbers is refused. -/
def sixties (total : Binary64) (power : Nat) : List Binary64 → Except Failure Binary64
  | [] => .ok total
  | part :: parts =>
      match Binary64.ofInt? power with
      | none => .error .hugeNumber
      | some scale =>
          sixties (.ofFloat (total.toFloat + part.toFloat * scale.toFloat)) (power * 60) parts

/-- The number that a scalar denotes. -/
def float (text : Text) : Except Fault Datum := do
  let (negative, digits) ← unsigned (withoutUnderscores text).lower
  let signed (value : Binary64) : Datum := .float (value.signed negative)
  if Text.mk digits = Text.ofString ".inf" then return signed .infinity
  else if Text.mk digits = Text.ofString ".nan" then return .float .undefined
  else if digits.contains (.char ':') then
    let parts ← (splitColons digits).mapM fun part => checked (Numeral.number ⟨part⟩)
    return signed (← checked (sixties .zero 1 parts.reverse))
  else return signed (← checked (Numeral.number ⟨digits⟩))

/-- Whether a scalar spells the undefined number by its own word, with any sign. -/
def isUndefinedWord (text : Text) : Bool :=
  match unsigned (withoutUnderscores text).lower with
  | .ok (_, word) => Text.mk word = Text.ofString ".nan"
  | .error _ => false

/-- The truth value that a scalar denotes. -/
def bool (text : Text) : Except Fault Datum :=
  let among (words : List String) : Bool := words.any fun word => text.lower = Text.ofString word
  if among ["yes", "true", "on"] then .ok (.bool true)
  else if among ["no", "false", "off"] then .ok (.bool false)
  else .error (.refused (.unknownKey (Quoted.ofText text.lower)))

/-- Digits at the beginning of a text, at least and at most so many, as a number. -/
def field? (least most : Nat) (text : List Char) : Option (Nat × List Char) :=
  let digits := (text.take most).takeWhile Char.isDigit
  if digits.length < least then none
  else some (Numeral.digitsValue 10 digits, text.drop digits.length)

/-- A given character at the beginning of a text. -/
def mark? (mark : Char) : List Char → Option (List Char)
  | character :: rest => if character = mark then some rest else none
  | [] => none

/-- Tabs and spaces. -/
def isGap (character : Char) : Bool := character = ' ' || character = '\t'

/-- The end of a text, up to one final line break. -/
def atEnd (text : List Char) : Bool := text = [] || text = ['\n']

/-- The numbers of a moment as they are spelled. -/
structure Timing where
  /-- The hour. -/
  hour : Nat
  /-- The minute. -/
  minute : Nat
  /-- The second. -/
  second : Nat
  /-- The millionths of a second. -/
  micro : Nat
  /-- The offset in seconds. -/
  offset : Option Int

/-- The offset at the end of a moment. -/
def offset? (text : List Char) : Option (Option Int) :=
  if atEnd text then some none
  else
    match text.dropWhile isGap with
    | 'Z' :: rest => if atEnd rest then some (some 0) else none
    | sign :: rest => do
        if sign ≠ '+' ∧ sign ≠ '-' then none
        let (hours, rest) ← field? 1 2 rest
        let (minutes, rest) ←
          match rest with
          | ':' :: rest => field? 2 2 rest
          | rest => some (0, rest)
        if atEnd rest then some (some (Numeral.applySign (sign = '-') (hours * 3600 + minutes * 60)))
        else none
    | [] => none

/-- The millionths that the digits after the point denote. -/
def micros (digits : List Char) : Nat :=
  let kept := digits.take 6
  Numeral.digitsValue 10 (kept ++ List.replicate (6 - kept.length) '0')

/-- The time of day after a date. -/
def timing? (text : List Char) : Option Timing := do
  let rest ←
    match text with
    | 'T' :: rest => some rest
    | 't' :: rest => some rest
    | character :: rest => if isGap character then some (rest.dropWhile isGap) else none
    | [] => none
  let (hour, rest) ← field? 1 2 rest
  let (minute, rest) ← field? 2 2 (← mark? ':' rest)
  let (second, rest) ← field? 2 2 (← mark? ':' rest)
  let (fraction, rest) :=
    match rest with
    | '.' :: rest => (rest.takeWhile Char.isDigit, rest.dropWhile Char.isDigit)
    | rest => ([], rest)
  let offset ← offset? rest
  return ⟨hour, minute, second, micros fraction, offset⟩

/-- The numbers of a date and, if there is one, of a time of day. -/
def timestamp? (text : List Char) : Option ((Nat × Nat × Nat) × Option Timing) := do
  let (year, rest) ← field? 4 4 text
  let (month, rest) ← field? 1 2 (← mark? '-' rest)
  let (day, rest) ← field? 1 2 (← mark? '-' rest)
  if atEnd rest then return ((year, month, day), none)
  else return ((year, month, day), some (← timing? rest))

/-- The date or moment that a scalar denotes; one that does not fit the form has no parts. -/
def timestamp (text : Text) : Except Fault Datum :=
  let dated (value : Except CalendarFault Datum) : Except Fault Datum :=
    match value with
    | .ok datum => .ok datum
    | .error fault => .error (.refused (.calendar fault))
  match text.characters?.bind timestamp? with
  | none => .error (.refused .noSuchPart)
  | some ((year, month, day), none) => dated ((Date.make year month day).map .date)
  | some ((year, month, day), some timing) =>
      dated ((Moment.make year month day timing.hour timing.minute timing.second timing.micro
        timing.offset).map .moment)

/-- The value of a digit in base 64. -/
def base64Digit? (character : Char) : Option Nat :=
  if 'A' ≤ character && character ≤ 'Z' then some (character.toNat - 'A'.toNat)
  else if 'a' ≤ character && character ≤ 'z' then some (character.toNat - 'a'.toNat + 26)
  else if character.isDigit then some (character.toNat - '0'.toNat + 52)
  else if character = '+' then some 62
  else if character = '/' then some 63
  else none

/-- Bytes in base 64: `held` bits of the current group, `count` digits of it, and padding seen.
Characters that are no digits are stepped over. -/
def base64 (count held pads : Nat) : List Char → Except Fault Bytes
  | [] => if count = 0 then .ok [] else .error .malformed
  | character :: rest =>
      if character = '=' then
        if 2 ≤ count ∧ 4 ≤ count + pads + 1 then .ok []
        else base64 count held (if 2 ≤ count then pads + 1 else pads) rest
      else
        match base64Digit? character with
        | none => base64 count held pads rest
        | some digit =>
            match count with
            | 0 => base64 1 digit 0 rest
            | 1 => (base64 2 (digit % 16) 0 rest).map ((held * 4 + digit / 16).toUInt8 :: ·)
            | 2 => (base64 3 (digit % 4) 0 rest).map ((held * 16 + digit / 4).toUInt8 :: ·)
            | _ => (base64 0 0 0 rest).map ((held * 64 + digit).toUInt8 :: ·)

/-- The bytes that a scalar denotes; they are spelled in ASCII. -/
def binary (text : Text) : Except Fault Datum :=
  match text.characters? with
  | some characters =>
      if characters.all fun character => character.toNat < 128 then
        (base64 0 0 0 characters).map .bytes
      else .error .malformed
  | none => .error .malformed

end Literal
end Yaml
end Custody

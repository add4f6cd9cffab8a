import Custody.Text.Pattern
import Custody.Yaml.Reading

/-!
# Tags

A tag says what a node means.  A plain scalar without a tag is given one by its
spelling: the first of the listed forms that fits, and text if none does.
-/

namespace Custody
namespace Yaml

/-- What a node means. -/
inductive Tag where
  /-- Nothing. -/
  | null
  /-- A truth value. -/
  | bool
  /-- An integer. -/
  | int
  /-- A floating-point number. -/
  | float
  /-- Bytes in base 64. -/
  | binary
  /-- A date or a moment. -/
  | timestamp
  /-- An ordered mapping. -/
  | omap
  /-- A list of pairs. -/
  | pairs
  /-- A set. -/
  | set
  /-- A text. -/
  | str
  /-- A sequence. -/
  | seq
  /-- A mapping. -/
  | map
  /-- The key that merges mappings. -/
  | merge
  /-- The key of a default value. -/
  | value
  /-- Anything else. -/
  | other
  deriving DecidableEq, Inhabited

namespace Tag

/-- The beginning of the names of the standard tags. -/
def standard : String := "tag:yaml.org,2002:"

/-- The standard tags with their names. -/
def names : List (String × Tag) := [
  ("null", .null), ("bool", .bool), ("int", .int), ("float", .float), ("binary", .binary),
  ("timestamp", .timestamp), ("omap", .omap), ("pairs", .pairs), ("set", .set), ("str", .str),
  ("seq", .seq), ("map", .map), ("merge", .merge), ("value", .value)]

/-- The tag with a full name. -/
def ofName (name : String) : Tag :=
  ((names.find? fun (short, _) => standard ++ short = name).map Prod.snd).getD .other

end Tag

namespace Implicit

open Pattern

/-- A decimal digit. -/
def digit : Pattern := one Char.isDigit

/-- One or two decimal digits. -/
def shortNumber : Pattern := sequence [digit, optional digit]

/-- A sign or nothing. -/
def sign : Pattern := optional (one fun character => character = '-' || character = '+')

/-- A digit or an underscore. -/
def isSpacedDigit (character : Char) : Bool := character.isDigit || character = '_'

/-- Digits and underscores. -/
def digits : Pattern := run isSpacedDigit

/-- The parts of a number in base 60 after the first. -/
def sixties : Pattern :=
  repeated (sequence [
    word ":", optional (one fun character => '0' ≤ character && character ≤ '5'), digit])

/-- Truth values. -/
def bool : Pattern := words [
  "yes", "Yes", "YES", "no", "No", "NO", "true", "True", "TRUE", "false", "False", "FALSE", "on",
  "On", "ON", "off", "Off", "OFF"]

/-- A signed exponent or nothing. -/
def exponent : Pattern :=
  optional (sequence [
    one fun character => character = 'e' || character = 'E',
    one fun character => character = '-' || character = '+',
    digit, run Char.isDigit])

/-- Floating-point numbers; they have a point. -/
def float : Pattern := choice [
  sequence [sign, digit, digits, word ".", digits, exponent],
  sequence [word ".", digit, digits, exponent],
  sequence [sign, digit, digits, sixties, word ".", digits],
  sequence [sign, words [".inf", ".Inf", ".INF"]],
  words [".nan", ".NaN", ".NAN"]]

/-- A digit other than zero. -/
def leadingDigit : Pattern := one fun character => character.isDigit && character ≠ '0'

/-- One or more characters of a class or underscores. -/
def oneOrMore (accepts : Char → Bool) : Pattern :=
  let accepts character := accepts character || character = '_'
  sequence [one accepts, run accepts]

/-- Integers in base two, eight, ten, sixteen or sixty. -/
def int : Pattern := followedBy sign (choice [
  sequence [word "0b", oneOrMore fun character => character = '0' || character = '1'],
  sequence [word "0", oneOrMore fun character => '0' ≤ character && character ≤ '7'],
  word "0",
  sequence [leadingDigit, digits],
  sequence [word "0x", oneOrMore isHexDigit],
  sequence [leadingDigit, digits, sixties]])

/-- The absent value. -/
def null : Pattern := choice [words ["~", "null", "Null", "NULL"], nothing]

/-- Blanks between a date and a time. -/
def blanks : Pattern := run fun character => character = ' ' || character = '\t'

/-- Four digits. -/
def year : Pattern := sequence [digit, digit, digit, digit]

/-- Dates with two digits for month and day, and moments. -/
def timestamp : Pattern := choice [
  sequence [year, word "-", digit, digit, word "-", digit, digit],
  sequence [
    year, word "-", shortNumber, word "-", shortNumber,
    choice [
      words ["T", "t"],
      followedBy (one fun character => character = ' ' || character = '\t') blanks],
    shortNumber, word ":", digit, digit, word ":", digit, digit,
    optional (sequence [word ".", run Char.isDigit]),
    optional (sequence [
      blanks,
      choice [
        word "Z",
        sequence [
          one fun character => character = '-' || character = '+',
          shortNumber, optional (sequence [word ":", digit, digit])]]])]]

/-- The tags with the first characters that a scalar of the tag may have. -/
def forms : List (Tag × List Char × Pattern) := [
  (.bool, "yYnNtTfFoO".toList, bool),
  (.float, "-+0123456789.".toList, float),
  (.int, "-+0123456789".toList, int),
  (.merge, ['<'], word "<<"),
  (.null, "~nN".toList, null),
  (.timestamp, "0123456789".toList, timestamp),
  (.value, ['='], word "="),
  (.other, "!&*".toList, words ["!", "&", "*"])]

/-- The tag of a scalar by its spelling. -/
def tag (text : List Char) : Tag :=
  match text with
  | [] => .null
  | first :: _ =>
      ((forms.find? fun (_, starts, pattern) =>
        starts.contains first && pattern.accepts text).map Prod.fst).getD .str

end Implicit
end Yaml
end Custody

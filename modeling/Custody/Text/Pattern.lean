/-!
# Patterns

A pattern reads a beginning of a character sequence.  It is given by the rests that
its ways of reading leave over, so that a choice made early can be taken back.
-/

namespace Custody

/-- The rests left over by the ways of reading a beginning. -/
abbrev Pattern := List Char → List (List Char)

namespace Pattern

/-- Reads nothing. -/
def nothing : Pattern := fun input => [input]

/-- Reads one character of a class. -/
def one (accepts : Char → Bool) : Pattern
  | [] => []
  | character :: rest => if accepts character then [rest] else []

/-- Reads a word. -/
def word (letters : String) : Pattern := fun input =>
  if letters.toList.isPrefixOf input then [input.drop letters.length] else []

/-- Reads one of several words. -/
def words (choices : List String) : Pattern := fun input =>
  choices.flatMap fun letters => word letters input

/-- Reads one part and then another. -/
def followedBy (first second : Pattern) : Pattern := fun input => (first input).flatMap second

/-- Reads several parts in turn. -/
def sequence : List Pattern → Pattern
  | [] => nothing
  | first :: rest => followedBy first (sequence rest)

/-- Reads in any of several ways. -/
def choice (patterns : List Pattern) : Pattern := fun input =>
  patterns.flatMap fun pattern => pattern input

/-- Reads a part or nothing. -/
def optional (pattern : Pattern) : Pattern := fun input => pattern input ++ [input]

/-- Reads any number of characters of a class. -/
def run (accepts : Char → Bool) : Pattern
  | [] => [[]]
  | character :: rest =>
      (if accepts character then run accepts rest else []) ++ [character :: rest]

/-- Reads a part up to a given number of times. -/
def upTo (pattern : Pattern) : Nat → Pattern
  | 0 => nothing
  | count + 1 => fun input => (pattern input).flatMap (upTo pattern count) ++ [input]

/-- Reads a part once or more often; a part that reads something fits at most as often as there
are characters. -/
def repeated (pattern : Pattern) : Pattern := fun input =>
  (pattern input).flatMap (upTo pattern input.length)

/-- Whether a pattern reads a whole text, up to one final line break. -/
def accepts (pattern : Pattern) (input : List Char) : Bool :=
  (pattern input).any fun rest => rest = [] || rest = ['\n']

end Pattern
end Custody

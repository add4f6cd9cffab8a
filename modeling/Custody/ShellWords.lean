import Custody.Failure

/-!
# Shell words

A line is split into words at blanks.  Between single quotes every character
stands for itself.  Between double quotes a backslash escapes a double quote or a
backslash and stands for itself before anything else.  Outside of quotes a
backslash escapes the next character.  Quotes may begin and end inside a word, and
empty quotes make an empty word.
-/

namespace Custody
namespace ShellWords

/-- Where the splitter stands, with the glyphs of the word so far. -/
inductive State where
  /-- Between two words. -/
  | between
  /-- In a word, outside of quotes. -/
  | word (taken : List Glyph)
  /-- Between single quotes. -/
  | single (taken : List Glyph)
  /-- Between double quotes. -/
  | double (taken : List Glyph)
  /-- After a backslash outside of quotes. -/
  | escaped (taken : List Glyph)
  /-- After a backslash between double quotes. -/
  | doubleEscaped (taken : List Glyph)
  deriving DecidableEq, Inhabited

/-- The single quote. -/
def singleQuote : Glyph := .char '\x27'

/-- The double quote. -/
def doubleQuote : Glyph := .char '"'

/-- The backslash. -/
def backslash : Glyph := .char '\\'

/-- Blanks part words. -/
def isBlank (glyph : Glyph) : Bool :=
  glyph = .char ' ' || glyph = .char '\t' || glyph = .char '\r' || glyph = .char '\n'

/-- A glyph outside of quotes. -/
def outside (taken : List Glyph) (glyph : Glyph) : State :=
  if glyph = singleQuote then .single taken
  else if glyph = doubleQuote then .double taken
  else if glyph = backslash then .escaped taken
  else .word (taken ++ [glyph])

/-- One glyph: the words it completes, at most one, and the next state. -/
def step : State → Glyph → List (List Glyph) × State
  | .between, glyph =>
      if isBlank glyph then ([], .between) else ([], outside [] glyph)
  | .word taken, glyph =>
      if isBlank glyph then ([taken], .between) else ([], outside taken glyph)
  | .single taken, glyph =>
      if glyph = singleQuote then ([], .word taken) else ([], .single (taken ++ [glyph]))
  | .double taken, glyph =>
      if glyph = doubleQuote then ([], .word taken)
      else if glyph = backslash then ([], .doubleEscaped taken)
      else ([], .double (taken ++ [glyph]))
  | .escaped taken, glyph => ([], .word (taken ++ [glyph]))
  | .doubleEscaped taken, glyph =>
      if glyph = doubleQuote ∨ glyph = backslash then ([], .double (taken ++ [glyph]))
      else ([], .double (taken ++ [backslash, glyph]))

/-- The end of the line. -/
def finish : State → Except Failure (List (List Glyph))
  | .between => .ok []
  | .word taken => .ok [taken]
  | .single _ => .error .openQuotation
  | .double _ => .error .openQuotation
  | .escaped _ => .error .openEscape
  | .doubleEscaped _ => .error .openEscape

/-- The words of a line, read from a given state. -/
def splitFrom (state : State) : List Glyph → Except Failure (List (List Glyph))
  | [] => finish state
  | glyph :: rest =>
      (splitFrom (step state glyph).2 rest).map ((step state glyph).1 ++ ·)

@[simp] theorem splitFrom_nil (state : State) : splitFrom state [] = finish state := rfl

theorem splitFrom_cons (state : State) (glyph : Glyph) (rest : List Glyph) :
    splitFrom state (glyph :: rest) =
      (splitFrom (step state glyph).2 rest).map ((step state glyph).1 ++ ·) := rfl

/-- The words of a line. -/
def split (line : Text) : Except Failure (List Text) :=
  (splitFrom .between line.glyphs).map (·.map Text.mk)

/-- The inside of a quoted word: a single quote leaves the quotes and is quoted on its own. -/
def quoteInside : List Glyph → List Glyph
  | [] => []
  | glyph :: rest =>
      if glyph = singleQuote then
        singleQuote :: doubleQuote :: singleQuote :: doubleQuote :: singleQuote :: quoteInside rest
      else glyph :: quoteInside rest

/-- A word between single quotes. -/
def quote (word : List Glyph) : List Glyph := singleQuote :: quoteInside word ++ [singleQuote]

/-- Quoted words, parted by single spaces. -/
def quoteAll : List (List Glyph) → List Glyph
  | [] => []
  | [word] => quote word
  | word :: next :: rest => quote word ++ .char ' ' :: quoteAll (next :: rest)

end ShellWords
end Custody

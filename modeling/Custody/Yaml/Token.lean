import Custody.Text.Utf8
import Custody.Yaml.Reading

/-!
# Tokens

The tokens of a document, and how the ones with contents of their own are read:
directives, names of anchors, tags, and scalars.  Block scalars keep or fold their
lines, quoted scalars fold lines and may escape characters, plain scalars end where
an indicator begins.
-/

namespace Custody
namespace Yaml

/-- A directive at the beginning of a document. -/
inductive Directive where
  /-- The version of the format. -/
  | version (major minor : Nat)
  /-- A short form for tags. -/
  | handle (short long : String)
  /-- Any other directive. -/
  | other
  deriving DecidableEq, Inhabited

/-- A token. -/
inductive Token where
  /-- A directive. -/
  | directive (directive : Directive)
  /-- The beginning of a document. -/
  | documentStart
  /-- The end of a document. -/
  | documentEnd
  /-- The end of everything. -/
  | streamEnd
  /-- The beginning of an indented sequence. -/
  | blockSequenceStart
  /-- The beginning of an indented mapping. -/
  | blockMappingStart
  /-- The end of an indented collection. -/
  | blockEnd
  /-- The beginning of a bracketed sequence. -/
  | flowSequenceStart
  /-- The end of a bracketed sequence. -/
  | flowSequenceEnd
  /-- The beginning of a bracketed mapping. -/
  | flowMappingStart
  /-- The end of a bracketed mapping. -/
  | flowMappingEnd
  /-- An entry of an indented sequence. -/
  | blockEntry
  /-- A comma between entries. -/
  | flowEntry
  /-- A key. -/
  | key
  /-- A value. -/
  | value
  /-- A reference to an anchor. -/
  | alias (name : String)
  /-- An anchor. -/
  | anchor (name : String)
  /-- A tag: an optional short form and what follows it. -/
  | tag (short : Option String) (suffix : String)
  /-- A scalar; plain ones have no quotes and no indicator. -/
  | scalar (text : Text) (plain : Bool)
  deriving DecidableEq, Inhabited

/-- Refuses a document that does not go on as required. -/
def require (condition : Bool) : Except Fault Unit :=
  if condition then .ok () else .error .malformed

namespace Lexeme

/-- A name of letters, digits, hyphens and underscores. -/
def name (reading : Reading) : Except Fault (String × Reading) := do
  let (letters, after) := reading.takeWhile isNameCharacter
  require (!letters.isEmpty)
  return (String.ofList letters, after)

/-- The name after an anchor or alias indicator. -/
def anchorName (reading : Reading) : Except Fault (String × Reading) := do
  let (letters, after) ← name reading.next
  let character := after.peek
  require (isBlankOrEnd character ||
    ['?', ':', ',', ']', '}', '%', '@', '\x60'].contains character)
  return (letters, after)

/-- A natural number; it has only so many digits. -/
def number (reading : Reading) : Except Fault (Nat × Reading) := do
  let (digits, after) := reading.takeWhile Char.isDigit
  require (!digits.isEmpty)
  if Numeral.mostDigits < digits.length then
    .error (.refused (.tooManyDigits (some digits.length)))
  else return (Numeral.digitsValue 10 digits, after)

/-- Characters that a tag may hold. -/
def isTagCharacter (character : Char) : Bool :=
  character.isAlphanum ||
    ['-', ';', '/', '?', ':', '@', '&', '=', '+', '$', ',', '_', '.', '!', '~', '*', '\x27', '(',
      ')', '[', ']', '%'].contains character

/-- The bytes of percent escapes. -/
def percentEscapes : Nat → Reading → Except Fault (Bytes × Reading)
  | 0, reading => .ok ([], reading)
  | bound + 1, reading =>
      if reading.peek = '%' then do
        let digits := [reading.peekAt 1, reading.peekAt 2]
        require (digits.all isHexDigit)
        let (bytes, after) ← percentEscapes bound (reading.skip 3)
        return ((Numeral.digitsValue 16 digits).toUInt8 :: bytes, after)
      else .ok ([], reading)

/-- The characters of a tag. -/
def tagCharacters : Nat → Reading → Except Fault (List Char × Reading)
  | 0, reading => .ok ([], reading)
  | bound + 1, reading =>
      if reading.peek = '%' then do
        let (bytes, after) ← percentEscapes (bound + 1) reading
        match Utf8.decode? bytes with
        | none => .error .malformed
        | some characters =>
            let (rest, final) ← tagCharacters bound after
            return (characters ++ rest, final)
      else if isTagCharacter reading.peek then do
        let (rest, final) ← tagCharacters bound reading.next
        return (reading.peek :: rest, final)
      else .ok ([], reading)

/-- The text of a tag, which is not empty. -/
def tagText (reading : Reading) : Except Fault (String × Reading) := do
  require (isTagCharacter reading.peek)
  let (characters, after) ← tagCharacters (reading.rest.length + 1) reading
  return (String.ofList characters, after)

/-- The short form of a tag, between exclamation marks. -/
def tagHandle (reading : Reading) : Except Fault (String × Reading) := do
  require (reading.peek = '!')
  if reading.peekAt 1 = ' ' then return ("!", reading.next)
  else
    let (letters, after) := reading.next.takeWhile isNameCharacter
    require (after.peek = '!')
    return (String.ofList ('!' :: letters ++ ['!']), after.next)

/-- A tag. -/
def tag (reading : Reading) : Except Fault (Token × Reading) := do
  let second := reading.peekAt 1
  let (token, after) ←
    if second = '<' then do
      let (suffix, after) ← tagText (reading.skip 2)
      require (after.peek = '>')
      pure (Token.tag none suffix, after.next)
    else if isBlankOrEnd second then pure (Token.tag none "!", reading.next)
    else
      let ahead := reading.next.rest.takeWhile (!isSpaceOrEnd ·)
      if ahead.contains '!' then do
        let (short, after) ← tagHandle reading
        let (suffix, after) ← tagText after
        pure (Token.tag (some short) suffix, after)
      else do
        let (suffix, after) ← tagText reading.next
        pure (Token.tag (some "!") suffix, after)
  require (isSpaceOrEnd after.peek)
  return (token, after)

/-- The rest of a line that may hold a comment only. -/
def lineEnd (reading : Reading) : Except Fault Reading := do
  let after := (reading.skipWhile (· = ' ')).skipComment
  require (isBreakOrEnd after.peek)
  return after.takeBreak.2

/-- A directive. -/
def directive (reading : Reading) : Except Fault (Token × Reading) := do
  let (title, after) ← name reading.next
  require (isSpaceOrEnd after.peek)
  let (value, after) ←
    if title = "YAML" then do
      let (major, after) ← number (after.skipWhile (· = ' '))
      require (after.peek = '.')
      let (minor, after) ← number after.next
      require (isSpaceOrEnd after.peek)
      pure (Directive.version major minor, after)
    else if title = "TAG" then do
      let (short, after) ← tagHandle (after.skipWhile (· = ' '))
      require (after.peek = ' ')
      let (long, after) ← tagText (after.skipWhile (· = ' '))
      require (isSpaceOrEnd after.peek)
      pure (Directive.handle short long, after)
    else pure (Directive.other, after.skipWhile (!isBreakOrEnd ·))
  return (.directive value, ← lineEnd after)

/-- What happens to the line breaks at the end of a block scalar. -/
inductive Chomping where
  /-- All are dropped. -/
  | strip
  /-- One is kept. -/
  | clip
  /-- All are kept. -/
  | keep
  deriving DecidableEq, Inhabited

/-- The chomping that an indicator asks for. -/
def chomping? (character : Char) : Option Chomping :=
  if character = '+' then some .keep
  else if character = '-' then some .strip
  else none

/-- The indentation that an indicator asks for; zero is refused. -/
def increment? (character : Char) : Except Fault (Option Nat) :=
  if character = '0' then .error .malformed
  else if character.isDigit then .ok (some (Numeral.digitValue character))
  else .ok none

/-- The indicators of a block scalar, in either order. -/
def blockIndicators (reading : Reading) : Except Fault ((Chomping × Option Nat) × Reading) := do
  let (indicators, after) ←
    match chomping? reading.peek with
    | some chomping => do
        match ← increment? (reading.peekAt 1) with
        | some increment => pure ((chomping, some increment), reading.skip 2)
        | none => pure ((chomping, none), reading.next)
    | none => do
        match ← increment? reading.peek with
        | none => pure ((.clip, none), reading)
        | some increment =>
            match chomping? (reading.peekAt 1) with
            | some chomping => pure ((chomping, some increment), reading.skip 2)
            | none => pure ((.clip, some increment), reading.next)
  require (isSpaceOrEnd after.peek)
  return (indicators, after)

/-- Empty lines before the first line of a block scalar, and the widest column they reach. -/
def blockIndentation : Nat → Nat → Reading → List Char × Nat × Reading
  | 0, widest, reading => ([], widest, reading)
  | bound + 1, widest, reading =>
      if reading.peek = ' ' then
        let after := reading.next
        blockIndentation bound (max widest after.column) after
      else if isBreak reading.peek then
        let (first, after) := reading.takeBreak
        let (breaks, widest, final) := blockIndentation bound widest after
        (first ++ breaks, widest, final)
      else ([], widest, reading)

/-- Steps over spaces up to an indentation. -/
def skipIndentation : Nat → Nat → Reading → Reading
  | 0, _, reading => reading
  | bound + 1, indentation, reading =>
      if reading.column < indentation && reading.peek = ' ' then
        skipIndentation bound indentation reading.next
      else reading

/-- Empty lines inside a block scalar. -/
def blockBreaks : Nat → Nat → Reading → List Char × Reading
  | 0, _, reading => ([], reading)
  | bound + 1, indentation, reading =>
      let reading := skipIndentation (indentation + 1) indentation reading
      if isBreak reading.peek then
        let (first, after) := reading.takeBreak
        let (breaks, final) := blockBreaks bound indentation after
        (first ++ breaks, final)
      else ([], reading)

/-- Whether a line of a block scalar at an indentation follows. -/
def atBlockLine (indentation : Nat) (reading : Reading) : Bool :=
  reading.column = indentation && reading.peek ≠ ending

/-- The lines of a block scalar: the text, the last line break and the empty lines at the end. -/
def blockLines (folded : Bool) (indentation : Nat) :
    Nat → List Char → List Char → Reading → List Char × List Char × List Char × Reading
  | 0, lastBreak, breaks, reading => ([], lastBreak, breaks, reading)
  | bound + 1, lastBreak, breaks, reading =>
      if atBlockLine indentation reading then
        let flush := reading.peek ≠ ' ' && reading.peek ≠ '\t'
        let (line, afterLine) := reading.takeWhile (!isBreakOrEnd ·)
        let (lineBreak, afterBreak) := afterLine.takeBreak
        let (empty, after) := blockBreaks (afterBreak.rest.length + 1) indentation afterBreak
        if atBlockLine indentation after then
          let joint :=
            if folded && lineBreak = ['\n'] && flush && after.peek ≠ ' ' && after.peek ≠ '\t' then
              if empty.isEmpty then [' '] else []
            else lineBreak
          let (text, lastBreak, final, afterAll) :=
            blockLines folded indentation bound lineBreak empty after
          (breaks ++ line ++ joint ++ text, lastBreak, final, afterAll)
        else (breaks ++ line, lineBreak, empty, after)
      else ([], lastBreak, breaks, reading)

/-- A block scalar inside a collection with a given indentation. -/
def blockScalar (folded : Bool) (indent : Int) (reading : Reading) : Except Fault (Token × Reading) := do
  let ((chomping, increment), after) ← blockIndicators reading.next
  let after ← lineEnd after
  let least : Nat := max 1 (indent + 1).toNat
  let size := after.rest.length + 1
  let (breaks, indentation, after) :=
    match increment with
    | none =>
        let (breaks, widest, after) := blockIndentation size 0 after
        (breaks, max least widest, after)
    | some increment =>
        let indentation := least + increment - 1
        let (breaks, after) := blockBreaks size indentation after
        (breaks, indentation, after)
  let (text, lastBreak, final, after) := blockLines folded indentation size [] breaks after
  let ending :=
    match chomping with
    | .strip => []
    | .clip => lastBreak
    | .keep => lastBreak ++ final
  return (.scalar (Text.ofList (text ++ ending)) false, after)

/-- The character that a short escape stands for. -/
def escape? (character : Char) : Option Char :=
  [('0', '\x00'), ('a', '\x07'), ('b', '\x08'), ('t', '\t'), ('\t', '\t'), ('n', '\n'),
    ('v', '\x0B'), ('f', '\x0C'), ('r', '\r'), ('e', '\x1B'), (' ', ' '), ('"', '"'),
    ('\\', '\\'), ('/', '/'), ('N', '\x85'), ('_', '\xA0'), ('L', '\u2028'),
    ('P', '\u2029')].lookup character

/-- How many digits a numeric escape has. -/
def escapeWidth? (character : Char) : Option Nat :=
  [('x', 2), ('u', 4), ('U', 8)].lookup character

/-- The glyph with a code point, which must not be too large. -/
def glyphOf (code : Nat) : Except Fault Glyph :=
  if 0x7FFFFFFF < code then .error (.refused .endlessCodePoint)
  else if 0x10FFFF < code then .error (.refused .hugeCodePoint)
  else .ok (.ofCode code)

/-- Empty lines inside a quoted scalar; a document mark is not allowed among them. -/
def quotedBreaks : Nat → Reading → Except Fault (List Char × Reading)
  | 0, reading => .ok ([], reading)
  | bound + 1, reading => do
      require (!reading.atDocumentMark)
      let after := reading.skipWhile fun character => character = ' ' || character = '\t'
      if isBreak after.peek then
        let (first, after) := after.takeBreak
        let (breaks, final) ← quotedBreaks bound after
        return (first ++ breaks, final)
      else return ([], after)

/-- Blanks inside a quoted scalar: a line break folds to a space unless empty lines follow. -/
def quotedBlanks (reading : Reading) : Except Fault (List Char × Reading) := do
  let (blanks, after) := reading.takeWhile fun character => character = ' ' || character = '\t'
  require (after.peek ≠ ending)
  if isBreak after.peek then
    let (first, after) := after.takeBreak
    let (breaks, after) ← quotedBreaks (after.rest.length + 1) after
    let joint := if first ≠ ['\n'] then first else if breaks.isEmpty then [' '] else []
    return (joint ++ breaks, after)
  else return (blanks, after)

/-- An escape between double quotes, read after the backslash. -/
def quotedEscape (reading : Reading) : Except Fault (List Glyph × Reading) := do
  let character := reading.peek
  match escape? character with
  | some meaning => return ([.char meaning], reading.next)
  | none =>
      match escapeWidth? character with
      | some width =>
          let digits := (List.range width).map fun offset => reading.peekAt (offset + 1)
          require (digits.all isHexDigit)
          let meaning ← glyphOf (Numeral.digitsValue 16 digits)
          return ([meaning], reading.skip (width + 1))
      | none =>
          require (isBreak character)
          let after := reading.takeBreak.2
          let (breaks, after) ← quotedBreaks (after.rest.length + 1) after
          return (breaks.map .char, after)

/-- The inside of a quoted scalar, up to and over the closing quote. -/
def quotedInside (double : Bool) : Nat → Reading → Except Fault (List Glyph × Reading)
  | 0, _ => .error .malformed
  | bound + 1, reading => do
      let character := reading.peek
      let more (piece : List Glyph) (after : Reading) : Except Fault (List Glyph × Reading) := do
        let (text, final) ← quotedInside double bound after
        return (piece ++ text, final)
      if isBlankOrEnd character then
        let (piece, after) ← quotedBlanks reading
        more (piece.map .char) after
      else if double then
        if character = '"' then return ([], reading.next)
        else if character = '\\' then
          let (piece, after) ← quotedEscape reading.next
          more piece after
        else more [.char character] reading.next
      else if character = '\x27' then
        if reading.peekAt 1 = '\x27' then more [.char '\x27'] (reading.skip 2)
        else return ([], reading.next)
      else more [.char character] reading.next

/-- A quoted scalar. -/
def quotedScalar (double : Bool) (reading : Reading) : Except Fault (Token × Reading) := do
  let (text, after) ← quotedInside double (reading.rest.length + 1) reading.next
  return (.scalar ⟨text⟩ false, after)

/-- Whether a plain scalar may begin here. -/
def atPlain (flow : Bool) (reading : Reading) : Bool :=
  let character := reading.peek
  let free := !(isBlankOrEnd character ||
    ['-', '?', ':', ',', '[', ']', '\x7b', '\x7d', '#', '&', '*', '!', '|', '>', '\x27', '"', '%',
      '@', '\x60'].contains character)
  free || (!isBlankOrEnd (reading.peekAt 1) &&
    (character = '-' || (!flow && (character = '?' || character = ':'))))

/-- The characters of a plain scalar up to a blank or an indicator. -/
def plainRun (flow : Bool) : List Char → List Char
  | [] => []
  | character :: rest =>
      let following := rest.headD ending
      let stops :=
        isBlankOrEnd character ||
          (character = ':' && (isBlankOrEnd following ||
            (flow && [',', '[', ']', '\x7b', '\x7d'].contains following))) ||
          (flow && [',', '?', '[', ']', '\x7b', '\x7d'].contains character)
      if stops then [] else character :: plainRun flow rest

/-- What parts two runs of a plain scalar. -/
structure Gap where
  /-- How the gap reads, empty when the scalar ends. -/
  text : List Char
  /-- Whether it crosses a line break. -/
  crossed : Bool
  /-- The place after it. -/
  after : Reading

/-- Empty lines inside a plain scalar, unless a document mark ends it. -/
def plainBreaks : Nat → Reading → Option (List Char) × Reading
  | 0, reading => (some [], reading)
  | bound + 1, reading =>
      if reading.peek = ' ' then plainBreaks bound reading.next
      else if isBreak reading.peek then
        let (first, after) := reading.takeBreak
        if after.atDocumentMark then (none, after)
        else
          let (breaks, final) := plainBreaks bound after
          (breaks.map (first ++ ·), final)
      else (some [], reading)

/-- The gap after a run of a plain scalar. -/
def plainGap (reading : Reading) : Gap :=
  let (spaces, after) := reading.takeWhile (· = ' ')
  if isBreak after.peek then
    let (first, after) := after.takeBreak
    if after.atDocumentMark then ⟨[], true, after⟩
    else
      match plainBreaks (after.rest.length + 1) after with
      | (none, final) => ⟨[], true, final⟩
      | (some breaks, final) =>
          let joint := if first ≠ ['\n'] then first else if breaks.isEmpty then [' '] else []
          ⟨joint ++ breaks, true, final⟩
  else ⟨spaces, false, after⟩

/-- The runs and gaps of a plain scalar, and whether the last gap crossed a line break. -/
def plainRuns (flow : Bool) (indentation : Int) :
    Nat → List Char → Bool → Reading → List Char × Bool × Reading
  | 0, _, crossed, reading => ([], crossed, reading)
  | bound + 1, gapText, crossed, reading =>
      if reading.peek = '#' then ([], crossed, reading)
      else
        let run := plainRun flow reading.rest
        if run.isEmpty then ([], crossed, reading)
        else
          let gap := plainGap (reading.skip run.length)
          let ends := gap.text.isEmpty || gap.after.peek = '#' ||
            (!flow && (gap.after.column : Int) < indentation)
          if ends then (gapText ++ run, gap.crossed, gap.after)
          else
            let (text, crossed, final) :=
              plainRuns flow indentation bound gap.text gap.crossed gap.after
            (gapText ++ run ++ text, crossed, final)

/-- A plain scalar inside a collection with a given indentation. -/
def plainScalar (flow : Bool) (indent : Int) (reading : Reading) : (Token × Bool) × Reading :=
  let (text, crossed, after) :=
    plainRuns flow (indent + 1) (reading.rest.length + 1) [] false reading
  ((.scalar (Text.ofList text) true, crossed), after)

end Lexeme
end Yaml
end Custody

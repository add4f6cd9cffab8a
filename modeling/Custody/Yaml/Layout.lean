import Custody.Yaml.Token

/-!
# Layout

Indentation and colons give a document its structure.  A token that may turn out
to be a key is remembered until the colon comes; the key is then marked before it.
A remembered key is given up at the end of its line or after 1024 characters, and
one that stands at the indentation of its collection must be followed by a colon.
-/

namespace Custody
namespace Yaml

/-- A token that may turn out to be a key. -/
structure PendingKey where
  /-- The number of the token. -/
  number : Nat
  /-- Whether a colon must follow. -/
  required : Bool
  /-- Where it stands. -/
  index : Nat
  /-- The line it stands in. -/
  line : Nat
  /-- The column it stands in. -/
  column : Nat
  deriving Inhabited

/-- The state of reading tokens. -/
structure Layout where
  /-- The place reached. -/
  reading : Reading
  /-- How many brackets are open. -/
  flow : Nat
  /-- The column of the innermost indented collection, or minus one. -/
  indent : Int
  /-- The columns of the collections around it. -/
  outer : List Int
  /-- Whether a key may begin here. -/
  allowKey : Bool
  /-- The tokens so far. -/
  tokens : Array Token
  /-- The pending keys, by the number of open brackets. -/
  pending : List (Nat × PendingKey)
  deriving Inhabited

/-- The tokens that can be used, and why there are no more, if the end was not reached. -/
structure Lexed where
  /-- The tokens. -/
  tokens : List Token
  /-- The fault after them. -/
  fault : Option Fault
  deriving Inhabited

namespace Layout

/-- The layout at the beginning of a document. -/
def start (document : List Char) : Layout :=
  ⟨.start document, 0, -1, [], true, #[], []⟩

/-- Adds a token. -/
def emit (layout : Layout) (token : Token) : Layout :=
  { layout with tokens := layout.tokens.push token }

/-- A pending key is stale in another line or after 1024 characters. -/
def isStale (layout : Layout) (key : PendingKey) : Bool :=
  key.line ≠ layout.reading.line || key.index + 1024 < layout.reading.index

/-- Gives up stale keys. -/
def dropStale (layout : Layout) : Except Fault Layout := do
  let (stale, fresh) := layout.pending.partition fun (_, key) => layout.isStale key
  require (!stale.any fun (_, key) => key.required)
  return { layout with pending := fresh }

/-- Gives up the pending key between the current brackets. -/
def dropKey (layout : Layout) : Except Fault Layout := do
  let (here, others) := layout.pending.partition fun (level, _) => level = layout.flow
  require (!here.any fun (_, key) => key.required)
  return { layout with pending := others }

/-- Remembers the next token as a possible key. -/
def saveKey (layout : Layout) : Except Fault Layout := do
  if layout.allowKey then
    let cleared ← layout.dropKey
    let place := layout.reading
    let required := layout.flow = 0 && layout.indent = place.column
    let key : PendingKey := ⟨layout.tokens.size, required, place.index, place.line, place.column⟩
    return { cleared with pending := cleared.pending ++ [(layout.flow, key)] }
  else return layout

/-- The collections left when a column is reached: how many end, and what stays. -/
def unwound (column : Int) : Int → List Int → Nat × Int × List Int
  | indent, [] => if indent > column then (1, -1, []) else (0, indent, [])
  | indent, next :: outer =>
      if indent > column then
        let (count, indent, outer) := unwound column next outer
        (count + 1, indent, outer)
      else (0, indent, next :: outer)

/-- Ends the indented collections that a column leaves. -/
def unwind (layout : Layout) (column : Int) : Layout :=
  if layout.flow ≠ 0 then layout
  else
    let (count, indent, outer) := unwound column layout.indent layout.outer
    { layout with
      indent := indent
      outer := outer
      tokens := layout.tokens ++ Array.replicate count Token.blockEnd }

/-- Begins an indented collection if the column is further right, with its token at a place. -/
def indentAt (layout : Layout) (column : Nat) (position : Nat) (token : Token) : Layout :=
  if layout.indent < column then
    { layout with
      outer := layout.indent :: layout.outer
      indent := column
      tokens := layout.tokens.insertIdxIfInBounds position token }
  else layout

/-- Steps over spaces, comments and line breaks. -/
def skipBlank : Nat → Layout → Layout
  | 0, layout => layout
  | bound + 1, layout =>
      let reading := (layout.reading.skipWhile (· = ' ')).skipComment
      if isBreak reading.peek then
        skipBlank bound { layout with
          reading := reading.takeBreak.2
          allowKey := layout.allowKey || layout.flow = 0 }
      else { layout with reading := reading }

/-- Adds a token of one character. -/
def emitMark (layout : Layout) (token : Token) : Layout :=
  { layout.emit token with reading := layout.reading.next }

/-- Adds a token with contents, after which no key may begin. -/
def emitLexeme (layout : Layout) (lexeme : Except Fault (Token × Reading)) :
    Except Fault Layout := do
  let (token, after) ← lexeme
  return { layout.emit token with reading := after }

/-- Ends everything before a directive, a document mark or the end. -/
def level (layout : Layout) : Except Fault Layout := do
  let layout ← (layout.unwind (-1)).dropKey
  return { layout with allowKey := false }

/-- A document mark. -/
def documentMark (layout : Layout) (token : Token) : Except Fault Layout := do
  let layout ← layout.level
  return { layout.emit token with reading := layout.reading.skip 3 }

/-- An opening bracket. -/
def openFlow (layout : Layout) (token : Token) : Except Fault Layout := do
  let layout ← layout.saveKey
  return { layout.emitMark token with flow := layout.flow + 1, allowKey := true }

/-- A closing bracket. -/
def closeFlow (layout : Layout) (token : Token) : Except Fault Layout := do
  let layout ← layout.dropKey
  return { layout.emitMark token with flow := layout.flow - 1, allowKey := false }

/-- A comma. -/
def entry (layout : Layout) : Except Fault Layout := do
  let layout ← layout.dropKey
  return { layout.emitMark .flowEntry with allowKey := true }

/-- A hyphen or question mark, which may begin an indented collection. -/
def blockMark (layout : Layout) (collection token : Token) (allowKey : Bool) :
    Except Fault Layout := do
  require (layout.flow ≠ 0 || layout.allowKey)
  let layout :=
    if layout.flow = 0 then
      layout.indentAt layout.reading.column layout.tokens.size collection
    else layout
  let layout ← layout.dropKey
  return { layout.emitMark token with allowKey := allowKey }

/-- A colon: the pending key becomes a key, or the key is empty. -/
def colon (layout : Layout) : Except Fault Layout := do
  match layout.pending.lookup layout.flow with
  | some key =>
      let marked : Layout :=
        { layout with
          pending := layout.pending.filter fun (level, _) => level ≠ layout.flow
          tokens := layout.tokens.insertIdxIfInBounds key.number Token.key }
      let layout :=
        if layout.flow = 0 then marked.indentAt key.column key.number .blockMappingStart else marked
      return { layout.emitMark .value with allowKey := false }
  | none => layout.blockMark .blockMappingStart .value (layout.flow = 0)

/-- The next token at a character that is no blank, or nothing at the end. -/
def token (layout : Layout) : Except Fault Layout := do
  let reading := layout.reading
  let character := reading.peek
  let flow := layout.flow ≠ 0
  let spaced := isBlankOrEnd (reading.peekAt 1)
  let quiet (layout : Layout) : Layout := { layout with allowKey := false }
  if character = '%' && reading.column = 0 then
    let layout ← layout.level
    layout.emitLexeme (Lexeme.directive reading)
  else if reading.column = 0 && reading.atMark '-' then layout.documentMark .documentStart
  else if reading.column = 0 && reading.atMark '.' then layout.documentMark .documentEnd
  else if character = '[' then layout.openFlow .flowSequenceStart
  else if character = '\x7b' then layout.openFlow .flowMappingStart
  else if character = ']' then layout.closeFlow .flowSequenceEnd
  else if character = '\x7d' then layout.closeFlow .flowMappingEnd
  else if character = ',' then layout.entry
  else if character = '-' && spaced then layout.blockMark .blockSequenceStart .blockEntry true
  else if character = '?' && (flow || spaced) then
    layout.blockMark .blockMappingStart .key (!flow)
  else if character = ':' && (flow || spaced) then layout.colon
  else if character = '*' then
    (quiet (← layout.saveKey)).emitLexeme
      ((Lexeme.anchorName reading).map fun (name, after) => (.alias name, after))
  else if character = '&' then
    (quiet (← layout.saveKey)).emitLexeme
      ((Lexeme.anchorName reading).map fun (name, after) => (.anchor name, after))
  else if character = '!' then (quiet (← layout.saveKey)).emitLexeme (Lexeme.tag reading)
  else if (character = '|' || character = '>') && !flow then
    let layout ← layout.dropKey
    { layout with allowKey := true }.emitLexeme
      (Lexeme.blockScalar (character = '>') layout.indent reading)
  else if character = '\x27' then
    (quiet (← layout.saveKey)).emitLexeme (Lexeme.quotedScalar false reading)
  else if character = '"' then
    (quiet (← layout.saveKey)).emitLexeme (Lexeme.quotedScalar true reading)
  else if Lexeme.atPlain flow reading then
    let layout ← layout.saveKey
    let ((token, crossed), after) := Lexeme.plainScalar flow layout.indent reading
    return { layout.emit token with reading := after, allowKey := crossed }
  else .error .malformed

/-- The tokens that do not wait for a pending key. -/
def settled (layout : Layout) : List Token :=
  let first := (layout.pending.map fun (_, key) => key.number).foldl min layout.tokens.size
  layout.tokens.toList.take first

/-- Reads tokens to the end; every token but the last takes a character. -/
def run : Nat → Layout → Lexed
  | 0, layout => ⟨layout.settled, some .malformed⟩
  | bound + 1, layout =>
      let skipped := skipBlank (layout.reading.rest.length + 1) layout
      match skipped.dropStale with
      | .error fault => ⟨skipped.settled, some fault⟩
      | .ok fresh =>
          let unwound := fresh.unwind fresh.reading.column
          if unwound.reading.peek = ending then
            match unwound.level with
            | .error fault => ⟨unwound.settled, some fault⟩
            | .ok final => ⟨(final.tokens.push .streamEnd).toList, none⟩
          else
            match unwound.token with
            | .error fault => ⟨unwound.settled, some fault⟩
            | .ok next => run bound next

end Layout

/-- The tokens of a document; a byte order mark at the beginning is stepped over. -/
def lex (document : List Char) : Lexed :=
  let layout := Layout.start document
  let layout :=
    if layout.reading.peek = '\uFEFF' then { layout with reading := layout.reading.next }
    else layout
  layout.run (document.length + 1)

end Yaml
end Custody

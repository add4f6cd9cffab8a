import Custody.Cursor.Kind
import Custody.Library.Cursor
import Custody.Session.Source

/-!
# Cursors and tokens of a session

Cursors are read while their unit is open; their kind and the cursor they were
visited from are known for good.  Visiting goes through the cursors below a start
in depth-first order, as the visitor directs.  A visitor that answers nothing wants
to descend; an answer without meaning or a failure of the visitor ends the visit.
-/

namespace Custody

/-- One call of a visitor. -/
structure Visit where
  /-- The visited cursor, absent if it is null. -/
  cursor : Option NativeCursor
  /-- The cursor it is a child of. -/
  parent : NativeCursor
  deriving DecidableEq, Inhabited

/-- A visitor: what it answers to a call, given all calls so far with this one at the end. -/
abbrev Visitor := List Visit → Except Failure Datum

/-- The course of a visit. -/
structure Visiting where
  /-- The calls of the visitor, in order. -/
  visits : List Visit
  /-- The failure that ended the visit. -/
  failure : Option Failure
  deriving DecidableEq, Inhabited

namespace Visiting

/-- A visit before its first call. -/
def start : Visiting := ⟨[], none⟩

/-- What an answer of a visitor means; no answer means to descend. -/
def meaning (answer : Datum) : Except Failure Library.VisitAnswer :=
  match answer with
  | .null => .ok .descend
  | answer =>
      match Codes.visitAnswers.ofDatum answer with
      | .error failure => .error failure
      | .ok member =>
          .ok (if member.code = 0 then .stop else if member.code = 1 then .proceed else .descend)

/-- Calls a visitor on a cursor and keeps the failure if it ends the visit. -/
def step (visitor : Visitor) : Library.CursorVisitor Visiting :=
  fun cursor parent visiting =>
    let visits := visiting.visits ++ [⟨cursor, parent⟩]
    match (visitor visits).bind meaning with
    | .error failure => (⟨visits, some failure⟩, .stop)
    | .ok answer => (⟨visits, visiting.failure⟩, answer)

end Visiting

namespace Cursor

/-- Makes an object of a cursor; the null cursor has none. -/
def wrap (native : Option NativeCursor) (unit : Nat) (visitedFrom : Option NativeCursor) :
    Facade (Option Cursor) := do
  match native with
  | none => return none
  | some native => return some ⟨← Facade.fresh, unit, native, visitedFrom⟩

/-- Refuses a cursor that the model of its unit does not have, or not any more since the unit was
parsed again. -/
def checkPresent (native : NativeCursor) : Facade Unit := do
  if (← get).library.hasCursor native then return else throw .listIndex

/-- Prepares for reading a cursor: its unit must be open and must have it. -/
def ensureReadable (cursor : Cursor) : Facade Unit := do
  Facade.ensureOpen cursor.unit
  checkPresent cursor.native

/-- The class of a cursor. -/
def cursorClass (cursor : Cursor) : CursorClass := .ofKind cursor.native.kind

/-- A text of a cursor, on loan. -/
def lendText (cursor : Cursor) (part : Library.CursorModel → Option Bytes) :
    Library.Call Library.Lent := do
  Library.Call.lend (part (← Library.Call.cursorModel cursor.native))

/-- The name of a cursor. -/
def spelling (cursor : Cursor) : Facade String := do
  cursor.ensureReadable
  Facade.borrowed (cursor.lendText (·.spelling))

/-- The name of a cursor with its parameters. -/
def displayName (cursor : Cursor) : Facade String := do
  cursor.ensureReadable
  Facade.borrowed (cursor.lendText (·.display))

/-- The name of the symbol of a cursor across units. -/
def usr (cursor : Cursor) : Facade (Option String) := do
  cursor.ensureReadable
  Facade.borrowed? (cursor.lendText (·.usr))

/-- What a cursor spans. -/
def range (cursor : Cursor) : Facade Range := do
  cursor.ensureReadable
  Range.wrap (← Facade.call (Library.Call.cursorExtent cursor.native)) cursor.unit

/-- Where a cursor is. -/
def location (cursor : Cursor) : Facade Location := do
  cursor.ensureReadable
  Location.wrap (← Facade.call (Library.Call.cursorLocation cursor.native)) cursor.unit

/-- A cursor that a cursor points to. -/
def related (cursor : Cursor) (relation : Library.CursorModel → Option Nat) :
    Facade (Option Cursor) := do
  cursor.ensureReadable
  let native ← Facade.call (Library.Call.relatedCursor cursor.native relation)
  native.forM checkPresent
  wrap native cursor.unit none

/-- What a cursor belongs to. -/
def semanticParent (cursor : Cursor) : Facade (Option Cursor) := cursor.related (·.semanticParent)

/-- What a cursor is written in. -/
def lexicalParent (cursor : Cursor) : Facade (Option Cursor) := cursor.related (·.lexicalParent)

/-- What a cursor refers to. -/
def referenced (cursor : Cursor) : Facade (Option Cursor) := cursor.related (·.referenced)

/-- Where a cursor is defined. -/
def definition (cursor : Cursor) : Facade (Option Cursor) := cursor.related (·.definition)

/-- Whether a cursor is a definition. -/
def isDefinition (cursor : Cursor) : Facade Bool := do
  cursor.ensureReadable
  return (← Facade.call (Library.Call.cursorModel cursor.native)).isDefinition

/-- The cursor from which a cursor was visited, or else what it belongs to. -/
def parent (cursor : Cursor) : Facade (Option Cursor) :=
  match cursor.visitedFrom with
  | some native => wrap (some native) cursor.unit none
  | none => cursor.semanticParent

/-- Visits what is below a cursor of a unit. -/
def visitFrom (unit : Nat) (start : Option NativeCursor) (visitor : Visitor) :
    Facade Visiting := do
  Facade.ensureOpen unit
  start.forM checkPresent
  let (visiting, ended) ←
    Facade.call (Library.Call.visitChildren start (Visiting.step visitor) .start)
  if ended = .tooDeep then return { visiting with failure := some .tooDeep }
  return visiting

/-- The objects of visited cursors. -/
def ofVisits (unit : Nat) (visits : List Visit) : Facade (List (Option Cursor)) :=
  visits.mapM fun visit => wrap visit.cursor unit (some visit.parent)

/-- Visits what is below a cursor: the visited cursors, and the failure that ended the visit. -/
def visitChildren (cursor : Cursor) (visitor : Visitor) :
    Facade (List (Option Cursor) × Option Failure) := do
  let visiting ← visitFrom cursor.unit (some cursor.native) visitor
  return (← ofVisits cursor.unit visiting.visits, visiting.failure)

/-- The visitor that never descends. -/
def collecting : Visitor := fun _ => .ok (.int 1)

/-- The cursors directly below a cursor. -/
def children (cursor : Cursor) : Facade (List (Option Cursor)) := do
  return (← cursor.visitChildren collecting).1

/-- A cursor and what is below it, with a bound on the depth. -/
def walkWithin : Nat → Cursor → Facade (List Cursor)
  | 0, _ => throw .tooDeep
  | depth + 1, cursor => do
      let below ← (← cursor.children).mapM fun child =>
        match child with
        | some child => walkWithin depth child
        | none => throw .noSuchPart
      return cursor :: below.flatten

/-- A cursor and what is below it, every cursor before those below it.  The limit of the
interpreter on calls within calls, which a deep tree can reach, is left out here. -/
def walk (cursor : Cursor) : Facade (List Cursor) := do
  cursor.walkWithin ((← get).library.depthBound cursor.native.unit)

/-- How a cursor is shown. -/
def written (cursor : Cursor) : Facade Text := do
  return "<" ++ Text.ofString cursor.cursorClass.name ++ " " ++
    Text.ofString (Quoted.ofString (← cursor.spelling)) ++ ">"

end Cursor

namespace Token

/-- Makes an object of a token. -/
def wrap (native : NativeToken) (unit : Nat) : Facade Token := do
  return ⟨← Facade.fresh, unit, native⟩

/-- Prepares for reading a token: its unit must be open and must have it. -/
def readableIn (token : Token) : Facade Handle := do
  let handle ← Facade.handle token.unit
  if (← get).library.hasToken token.native then return handle else throw .listIndex

/-- The text of a token. -/
def spelling (token : Token) : Facade String := do
  let handle ← token.readableIn
  Facade.borrowed (Library.Call.tokenSpelling handle token.native)

/-- Where a token starts. -/
def location (token : Token) : Facade Location := do
  let handle ← token.readableIn
  Location.wrap (← Facade.call (Library.Call.tokenLocation handle token.native)) token.unit

/-- What a token spans. -/
def range (token : Token) : Facade Range := do
  let handle ← token.readableIn
  Range.wrap (← Facade.call (Library.Call.tokenExtent handle token.native)) token.unit

/-- How a token is shown. -/
def written (token : Token) : Facade Text := do
  return "<Token " ++ Text.ofString (Quoted.ofString (← token.spelling)) ++ ">"

end Token
end Custody

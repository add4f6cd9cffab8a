import Custody.Library.Location
import Custody.Library.Word

/-!
# Cursors and tokens of the library

A cursor is read against the model that its unit has at that moment.  Visiting
calls a visitor on the children of a cursor in order; the answer of the visitor
says whether to stop, to go on, or to visit the children of the child first.  A
cursor that is below itself is visited again and again, until that is too deep.
-/

namespace Custody
namespace Library

/-- What a visitor wants next. -/
inductive VisitAnswer where
  /-- To stop visiting altogether. -/
  | stop
  /-- To go on with the next child. -/
  | proceed
  /-- To visit the children of the child first. -/
  | descend
  deriving DecidableEq, Inhabited

/-- How a visit ends. -/
inductive VisitEnd where
  /-- Everything was visited. -/
  | complete
  /-- The visitor stopped it. -/
  | stopped
  /-- It went too deep. -/
  | tooDeep
  deriving DecidableEq, Inhabited

/-- A visitor: given a child, which may be null, and its parent, it changes a state. -/
abbrev CursorVisitor (σ : Type) := Option NativeCursor → NativeCursor → σ → σ × VisitAnswer

section Visiting

variable {σ : Type}

/-- Visits the children of a parent in order. -/
def visitEach
    (below : NativeCursor → σ → σ × VisitEnd)
    (visitor : CursorVisitor σ)
    (parent : NativeCursor) :
    List (Option NativeCursor) → σ → σ × VisitEnd
  | [], state => (state, .complete)
  | child :: rest, state =>
      match visitor child parent state with
      | (state, .stop) => (state, .stopped)
      | (state, .proceed) => visitEach below visitor parent rest state
      | (state, .descend) =>
          match child with
          | none => visitEach below visitor parent rest state
          | some cursor =>
              match below cursor state with
              | (state, .complete) => visitEach below visitor parent rest state
              | ended => ended

/-- Visits what is below a cursor, with a bound on the depth. -/
def visitBelow
    (children : NativeCursor → List (Option NativeCursor))
    (visitor : CursorVisitor σ) :
    Nat → NativeCursor → σ → σ × VisitEnd
  | 0, _, state => (state, .tooDeep)
  | depth + 1, parent, state =>
      visitEach (visitBelow children visitor depth) visitor parent (children parent) state

end Visiting

namespace State

/-- The cursor with a given number in a unit. -/
def nativeCursor (state : State) (unit : Handle) (index : Nat) : NativeCursor :=
  ⟨signedWord ((((state.unitModel unit).cursors[index]?).map CursorModel.kind).getD 1), unit,
    index⟩

/-- The model of a cursor. -/
def cursorModel (state : State) (cursor : NativeCursor) : CursorModel :=
  ((state.unitModel cursor.unit).cursors[cursor.index]?).getD default

/-- Whether the model of its unit has a cursor. -/
def hasCursor (state : State) (cursor : NativeCursor) : Bool :=
  cursor.index < (state.unitModel cursor.unit).cursors.length

/-- The children of a cursor. -/
def childCursors (state : State) (cursor : NativeCursor) : List (Option NativeCursor) :=
  (state.cursorModel cursor).children.map fun child =>
    child.map (state.nativeCursor cursor.unit)

/-- How deep a visit may go.  No chain of cursors without repetition is longer than a unit has
cursors, so that only a cursor below itself is too deep. -/
def depthBound (state : State) (unit : Handle) : Nat :=
  (state.unitModel unit).cursors.length + 950

/-- The model of a token. -/
def tokenModel (state : State) (token : NativeToken) : TokenModel :=
  ((state.unitModel token.unit).tokens[token.index]?).getD default

/-- Whether the model of its unit has a token. -/
def hasToken (state : State) (token : NativeToken) : Bool :=
  token.index < (state.unitModel token.unit).tokens.length

/-- The tokens of a unit that start inside a range. -/
def tokensIn (state : State) (unit : Handle) (range : NativeRange) : List NativeToken :=
  (state.unitModel unit).tokens.zipIdx.filterMap fun (token, index) =>
    let start := (state.delimit unit token.extent).first
    if range.first ≤ start && start < range.last then some ⟨unsignedWord token.kind, unit, index⟩
    else none

end State

namespace Call

/-- The root cursor of a unit. -/
def rootCursor (unit : Handle) : Call (Option NativeCursor) := do
  use unit
  let state ← get
  return (state.unitModel unit).root.map (state.nativeCursor unit)

/-- The model of a cursor. -/
def cursorModel (cursor : NativeCursor) : Call CursorModel := do
  use cursor.unit
  return (← get).cursorModel cursor

/-- What a cursor spans. -/
def cursorExtent (cursor : NativeCursor) : Call NativeRange := do
  let model ← cursorModel cursor
  return (← get).delimit cursor.unit model.extent

/-- Where a cursor is. -/
def cursorLocation (cursor : NativeCursor) : Call NativeLocation := do
  let model ← cursorModel cursor
  return (← get).locate cursor.unit model.spot

/-- A cursor that another one points to. -/
def relatedCursor (cursor : NativeCursor) (relation : CursorModel → Option Nat) :
    Call (Option NativeCursor) := do
  let model ← cursorModel cursor
  let state ← get
  return (relation model).map (state.nativeCursor cursor.unit)

/-- Visits what is below a cursor; below the null cursor there is nothing. -/
def visitChildren {σ : Type} (cursor : Option NativeCursor) (visitor : CursorVisitor σ)
    (start : σ) : Call (σ × VisitEnd) := do
  match cursor with
  | none => return (start, .complete)
  | some cursor =>
      use cursor.unit
      let state ← get
      return visitBelow state.childCursors visitor (state.depthBound cursor.unit) cursor start

/-- The tokens in a range; without any there is no buffer, unless the script wants one. -/
def tokenize (unit : Handle) (range : NativeRange) : Call (Option TokenBuffer) := do
  use unit
  let state ← get
  let tokens := state.tokensIn unit range
  if tokens.isEmpty && !(state.unitModel unit).emptyTokenBuffer then return none
  set { state with buffers := state.buffers ++ [tokens.length] }
  return some ⟨state.buffers.length, tokens⟩

/-- Takes a token buffer back. -/
def disposeTokens (unit : Handle) (buffer : TokenBuffer) : Call Unit := do
  use unit
  note (.disposeTokens unit buffer.tokens.length)
  modify fun state => { state with released := state.released ++ [buffer.number] }

/-- The text of a token. -/
def tokenSpelling (unit : Handle) (token : NativeToken) : Call Lent := do
  use unit
  lend ((← get).tokenModel token).spelling

/-- What a token spans. -/
def tokenExtent (unit : Handle) (token : NativeToken) : Call NativeRange := do
  use unit
  let state ← get
  return state.delimit token.unit (state.tokenModel token).extent

/-- Where a token starts. -/
def tokenLocation (unit : Handle) (token : NativeToken) : Call NativeLocation := do
  return (← tokenExtent unit token).start

/-- Calls a visitor on every inclusion of a unit: its file and the locations that led to it. -/
def visitInclusions {σ : Type} (unit : Handle)
    (visitor : FileHandle → List NativeLocation → σ → σ) (start : σ) : Call σ := do
  use unit
  let state ← get
  return (state.unitModel unit).inclusions.foldl (fun visited inclusion =>
    visitor ⟨unit, state.modelNumber unit, inclusion.file⟩
      (inclusion.stack.map (state.locate unit)) visited) start

end Call
end Library
end Custody

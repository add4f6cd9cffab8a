import Custody.Yaml.Layout
import Custody.Yaml.Tag

/-!
# Nodes

The tokens of a document form one node: a scalar, a sequence of nodes or a mapping
from nodes to nodes.  Nodes are numbered, so that an alias can refer to the node of
an anchor, even to one that is not complete yet.  Collections nest only so deep.
-/

namespace Custody
namespace Yaml

/-- What a node consists of. -/
inductive Body where
  /-- A text. -/
  | scalar (text : Text)
  /-- The numbers of the items. -/
  | sequence (items : List Nat)
  /-- The numbers of keys and values. -/
  | mapping (entries : List (Nat × Nat))
  deriving DecidableEq, Inhabited

/-- A node. -/
structure Node where
  /-- What it means. -/
  tag : Tag
  /-- What it consists of. -/
  body : Body
  deriving DecidableEq, Inhabited

/-- How much the stack of an interpreter holds, which depends on where reading is called. -/
structure Stack where
  /-- The most collections that can be inside each other. -/
  collections : Nat
  /-- The most mappings that can be followed from default value to default value. -/
  defaults : Nat
  /-- The most mappings that can be merged into each other at once. -/
  merged : Nat
  deriving Inhabited

/-- The state of reading nodes. -/
structure Grammar where
  /-- The tokens that follow. -/
  tokens : List Token
  /-- Why there are no more tokens. -/
  fault : Option Fault
  /-- The nodes so far. -/
  nodes : Array Node
  /-- The nodes of the anchors. -/
  anchors : List (String × Nat)
  /-- The short forms of tags. -/
  handles : List (String × String)
  /-- How many collections are open. -/
  depth : Nat
  /-- How many may be open at once. -/
  deepest : Nat
  deriving Inhabited

namespace Grammar

/-- An action on the tokens. -/
abbrev Action := StateT Grammar (Except Fault)

/-- Refuses the document. -/
def refuse {α : Type} : Action α := throw .malformed

/-- The next token. -/
def peek : Action Token := do
  let grammar ← get
  match grammar.tokens with
  | token :: _ => return token
  | [] => throw (grammar.fault.getD .malformed)

/-- Steps over the next token. -/
def advance : Action Unit := modify fun grammar => { grammar with tokens := grammar.tokens.tail }

/-- Steps over the next token, which must be a given one. -/
def expect (token : Token) : Action Unit := do
  if (← peek) = token then advance else refuse

/-- Steps over the next token if it is a given one. -/
def accept (token : Token) : Action Bool := do
  if (← peek) = token then
    advance
    return true
  else return false

/-- Adds a node and gives its number. -/
def add (node : Node) : Action Nat := do
  let grammar ← get
  set { grammar with nodes := grammar.nodes.push node }
  return grammar.nodes.size

/-- Completes a node. -/
def complete (number : Nat) (body : Body) : Action Unit :=
  modify fun grammar =>
    { grammar with nodes := grammar.nodes.modify number fun node => { node with body := body } }

/-- A scalar without text. -/
def emptyScalar : Action Nat := add ⟨.null, .scalar .empty⟩

/-- Reads the inside of a collection. -/
def inside {α : Type} (action : Action α) : Action α := do
  let grammar ← get
  if grammar.deepest ≤ grammar.depth then throw (.refused .tooDeep)
  modify fun grammar => { grammar with depth := grammar.depth + 1 }
  let result ← action
  modify fun grammar => { grammar with depth := grammar.depth - 1 }
  return result

/-- The properties of a node: its anchor and the full name of its tag. -/
structure Properties where
  /-- The anchor. -/
  anchor : Option String
  /-- The tag. -/
  tag : Option String
  deriving Inhabited

/-- The full name of a tag. -/
def tagName (short : Option String) (suffix : String) : Action String := do
  match short with
  | none => return suffix
  | some short =>
      match (← get).handles.lookup short with
      | some long => return long ++ suffix
      | none => refuse

/-- The anchor and the tag before a node, in either order. -/
def properties : Action Properties := do
  match ← peek with
  | .anchor anchor =>
      advance
      match ← peek with
      | .tag short suffix =>
          advance
          return ⟨some anchor, some (← tagName short suffix)⟩
      | _ => return ⟨some anchor, none⟩
  | .tag short suffix =>
      advance
      match ← peek with
      | .anchor anchor =>
          advance
          return ⟨some anchor, some (← tagName short suffix)⟩
      | _ => return ⟨none, some (← tagName short suffix)⟩
  | _ => return ⟨none, none⟩

/-- The tag of a collection. -/
def Properties.collectionTag (properties : Properties) (default : Tag) : Tag :=
  match properties.tag with
  | none => default
  | some name => if name = "!" then default else Tag.ofName name

/-- The tag of a scalar: plain scalars, and those with the tag `!`, go by their spelling. -/
def Properties.scalarTag (properties : Properties) (plain : Bool) (text : Text) : Tag :=
  let spelled := (text.characters?.map Implicit.tag).getD .str
  match properties.tag with
  | none => if plain then spelled else .str
  | some name => if name = "!" then spelled else Tag.ofName name

/-- Adds a node with properties; an anchor may not be given twice. -/
def place (properties : Properties) (node : Node) : Action Nat := do
  match properties.anchor with
  | none => add node
  | some anchor =>
      if (← get).anchors.any fun (name, _) => name = anchor then refuse
      let number ← add node
      modify fun grammar => { grammar with anchors := (anchor, number) :: grammar.anchors }
      return number

/-- The positions in which a node may stand. -/
inductive Position where
  /-- In an indented collection. -/
  | block
  /-- The key or value of an indented mapping, where a sequence need not be indented. -/
  | mapped
  /-- Between brackets. -/
  | flow
  deriving DecidableEq, Inhabited

mutual

/-- A node. -/
def node : Nat → Position → Action Nat
  | 0, _ => refuse
  | bound + 1, position => do
      match ← peek with
      | .alias name =>
          advance
          match (← get).anchors.lookup name with
          | some number => return number
          | none => refuse
      | _ =>
          let properties ← properties
          match ← peek with
          | .scalar text plain =>
              advance
              place properties ⟨properties.scalarTag plain text, .scalar text⟩
          | .flowSequenceStart =>
              let number ← place properties ⟨properties.collectionTag .seq, .sequence []⟩
              advance
              complete number (.sequence (← inside (flowItems bound true)))
              return number
          | .flowMappingStart =>
              let number ← place properties ⟨properties.collectionTag .map, .mapping []⟩
              advance
              complete number (.mapping (← inside (flowEntries bound true)))
              return number
          | .blockEntry =>
              if position = .mapped then
                let number ← place properties ⟨properties.collectionTag .seq, .sequence []⟩
                complete number (.sequence (← inside (looseItems bound)))
                return number
              else absent properties
          | .blockSequenceStart =>
              if position = .flow then absent properties
              else
                let number ← place properties ⟨properties.collectionTag .seq, .sequence []⟩
                advance
                complete number (.sequence (← inside (blockItems bound)))
                return number
          | .blockMappingStart =>
              if position = .flow then absent properties
              else
                let number ← place properties ⟨properties.collectionTag .map, .mapping []⟩
                advance
                complete number (.mapping (← inside (blockEntries bound)))
                return number
          | _ => absent properties

/-- A node without contents, which must have properties. -/
def absent (properties : Grammar.Properties) : Action Nat :=
  if properties.anchor.isSome || properties.tag.isSome then
    place properties ⟨properties.scalarTag true .empty, .scalar .empty⟩
  else refuse

/-- A node, or an empty scalar before certain tokens. -/
def nodeUnless : Nat → Position → List Token → Action Nat
  | 0, _, _ => refuse
  | bound + 1, position, stops => do
      if stops.contains (← peek) then emptyScalar else node bound position

/-- The items of an indented sequence. -/
def blockItems : Nat → Action (List Nat)
  | 0 => refuse
  | bound + 1 => do
      if ← accept .blockEntry then
        let item ← nodeUnless bound .block [.blockEntry, .blockEnd]
        return item :: (← blockItems bound)
      else
        expect .blockEnd
        return []

/-- The items of a sequence at the indentation of its mapping. -/
def looseItems : Nat → Action (List Nat)
  | 0 => refuse
  | bound + 1 => do
      if ← accept .blockEntry then
        let item ← nodeUnless bound .block [.blockEntry, .key, .value, .blockEnd]
        return item :: (← looseItems bound)
      else return []

/-- The entries of an indented mapping. -/
def blockEntries : Nat → Action (List (Nat × Nat))
  | 0 => refuse
  | bound + 1 => do
      if ← accept .key then
        let key ← nodeUnless bound .mapped [.key, .value, .blockEnd]
        let value ← blockValue bound
        return (key, value) :: (← blockEntries bound)
      else
        expect .blockEnd
        return []

/-- The value after a key of an indented mapping. -/
def blockValue : Nat → Action Nat
  | 0 => refuse
  | bound + 1 => do
      if ← accept .value then nodeUnless bound .mapped [.key, .value, .blockEnd]
      else emptyScalar

/-- The items of a bracketed sequence; a key makes a mapping of one entry. -/
def flowItems : Nat → Bool → Action (List Nat)
  | 0, _ => refuse
  | bound + 1, first => do
      if ← accept .flowSequenceEnd then return []
      else
        if !first then expect .flowEntry
        if ← accept .key then
          let number ← add ⟨.map, .mapping []⟩
          let entry ← inside do
            let key ← nodeUnless bound .flow [.value, .flowEntry, .flowSequenceEnd]
            return (key, ← flowValue bound .flowSequenceEnd)
          complete number (.mapping [entry])
          return number :: (← flowItems bound false)
        else if ← accept .flowSequenceEnd then return []
        else
          let item ← node bound .flow
          return item :: (← flowItems bound false)

/-- The value after a key between brackets. -/
def flowValue : Nat → Token → Action Nat
  | 0, _ => refuse
  | bound + 1, closing => do
      if ← accept .value then nodeUnless bound .flow [.flowEntry, closing]
      else emptyScalar

/-- The entries of a bracketed mapping. -/
def flowEntries : Nat → Bool → Action (List (Nat × Nat))
  | 0, _ => refuse
  | bound + 1, first => do
      if ← accept .flowMappingEnd then return []
      else
        if !first then expect .flowEntry
        if ← accept .key then
          let key ← nodeUnless bound .flow [.value, .flowEntry, .flowMappingEnd]
          let value ← flowValue bound .flowMappingEnd
          return (key, value) :: (← flowEntries bound false)
        else if ← accept .flowMappingEnd then return []
        else
          let key ← node bound .flow
          let value ← emptyScalar
          return (key, value) :: (← flowEntries bound false)

end

/-- The short forms that every document has. -/
def standardHandles : List (String × String) := [("!", "!"), ("!!", Tag.standard)]

/-- The directives before a document; a version or a short form may not be given twice. -/
def directives : Nat → Bool → List (String × String) → Action Unit
  | 0, _, _ => refuse
  | bound + 1, versioned, handles => do
      match ← peek with
      | .directive directive =>
          advance
          match directive with
          | .version major _ =>
              if versioned || major ≠ 1 then refuse else directives bound true handles
          | .handle short long =>
              if handles.any fun (name, _) => name = short then refuse
              else directives bound versioned ((short, long) :: handles)
          | .other => directives bound versioned handles
      | _ => modify fun grammar => { grammar with handles := handles ++ standardHandles }

/-- Steps over ends of documents. -/
def skipEnds : Nat → Action Unit
  | 0 => return
  | bound + 1 => do
      if ← accept .documentEnd then skipEnds bound

/-- The end of everything; a second document is refused once its directives have been read. -/
def finish (bound : Nat) : Action Unit := do
  skipEnds bound
  if !(← accept .streamEnd) then
    directives bound false []
    refuse

/-- The only document, if there is one. -/
def document (bound : Nat) : Action (Option Nat) := do
  let contents ←
    match ← peek with
    | .streamEnd => return none
    | .documentStart =>
        directives bound false []
        expect .documentStart
        documentContents
    | .directive _ =>
        directives bound false []
        expect .documentStart
        documentContents
    | _ =>
        modify fun grammar => { grammar with handles := standardHandles }
        node bound .block
  finish bound
  return some contents
where
  /-- What follows the beginning of a document. -/
  documentContents : Action Nat := do
    match ← peek with
    | .directive _ => emptyScalar
    | .documentStart => emptyScalar
    | .documentEnd => emptyScalar
    | .streamEnd => emptyScalar
    | _ => node bound .block

end Grammar

/-- The nodes of a document and the number of the topmost one, if there is one. -/
def nodes (stack : Stack) (lexed : Lexed) : Except Fault (Array Node × Option Nat) := do
  let start : Grammar := ⟨lexed.tokens, lexed.fault, #[], [], [], 0, stack.collections⟩
  let (top, grammar) ← (Grammar.document (4 * lexed.tokens.length + 8)).run start
  return (grammar.nodes, top)

end Yaml
end Custody

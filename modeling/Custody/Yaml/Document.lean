import Custody.Yaml.Literal
import Custody.Yaml.Node

/-!
# Documents

The value of a document is a graph of cells, since an alias may lead to a collection
from several places and even from inside it.  Scalars have their values at once;
collections are made empty and filled later, one generation after the other.  Before
a mapping is filled the mappings under its merge keys are put in front of its own
entries, and of equal keys the last value counts.
-/

namespace Custody
namespace Yaml

/-- A value of a document, with its parts given by number. -/
inductive Cell where
  /-- A value without parts. -/
  | scalar (value : Datum)
  /-- A list of nodes. -/
  | list (items : List Nat)
  /-- A list of pairs of nodes. -/
  | pairs (items : List (Nat × Nat))
  /-- A set. -/
  | set (items : List Datum)
  /-- A mapping from keys to nodes. -/
  | map (entries : List (Datum × Nat))
  deriving Inhabited

/-- The values of a document. -/
structure Document where
  /-- The values by number. -/
  cells : Array Cell
  /-- The number of the topmost value, if there is one. -/
  top : Option Nat
  deriving Inhabited

/-- The state of making values. -/
structure Builder where
  /-- The stack. -/
  stack : Stack
  /-- The nodes. -/
  nodes : Array Node
  /-- What the nodes have been made into. -/
  built : Array (Option Cell)
  /-- The collections of the next generation. -/
  waiting : Array Nat
  /-- The nodes that spell the undefined number by its own word. -/
  undefinedWords : List Nat
  deriving Inhabited

namespace Builder

/-- An action on the nodes. -/
abbrev Action := StateT Builder (Except Fault)

/-- Refuses the document. -/
def refuse {α : Type} : Action α := throw .malformed

/-- The node with a number. -/
def node (number : Nat) : Action Node := return (← get).nodes.getD number default

/-- What a node has been made into. -/
def built? (number : Nat) : Action (Option Cell) :=
  return ((← get).built[number]?).join

/-- Records what a node has been made into. -/
def record (number : Nat) (value : Cell) : Action Unit :=
  modify fun builder =>
    { builder with built := builder.built.setIfInBounds number (some value) }

/-- Puts a collection aside, to be filled in the next generation. -/
def postpone (number : Nat) (value : Cell) : Action Unit := do
  record number value
  modify fun builder => { builder with waiting := builder.waiting.push number }

/-- The text of a scalar, or of the default value of a mapping; mappings nest only so deep. -/
def scalarText : Nat → Nat → Action Text
  | 0, _ => throw (.refused .tooDeep)
  | bound + 1, number => do
      match (← node number).body with
      | .scalar text => return text
      | .sequence _ => refuse
      | .mapping entries =>
          match ← entries.findM? fun (key, _) => return (← node key).tag = .value with
          | some (_, value) => scalarText bound value
          | none => refuse

/-- Makes a node into the number that a text denotes, and takes note of the word for the
undefined number. -/
def makeFloat (number : Nat) (text : Text) : Action Unit := do
  record number (.scalar (← Literal.float text))
  if Literal.isUndefinedWord text then
    modify fun builder => { builder with undefinedWords := number :: builder.undefinedWords }

/-- Makes a node into a value or an empty collection, unless that was done before. -/
def make (number : Nat) : Action Unit := do
  if (← built? number).isSome then return
  let text : Action Text := do scalarText (← get).stack.defaults number
  let literal (read : Text → Except Fault Datum) : Action Unit := do
    record number (.scalar (← read (← text)))
  match (← node number).tag with
  | .null => literal fun _ => .ok .null
  | .bool => literal Literal.bool
  | .int => literal Literal.int
  | .float => makeFloat number (← text)
  | .binary => literal Literal.binary
  | .timestamp =>
      match (← node number).body with
      | .scalar text => record number (.scalar (← Literal.timestamp text))
      | _ =>
          let _ ← text
          throw (.refused .wrongKind)
  | .str => literal fun text => .ok (.text text)
  | .omap => postpone number (.pairs [])
  | .pairs => postpone number (.pairs [])
  | .set => postpone number (.set [])
  | .seq => postpone number (.list [])
  | .map => postpone number (.map [])
  | .merge => refuse
  | .value => refuse
  | .other => refuse

/-- The entries of a node that must be a mapping. -/
def entries (number : Nat) : Action (List (Nat × Nat)) := do
  match (← node number).body with
  | .mapping entries => return entries
  | _ => refuse

/-- Replaces the entries of a mapping. -/
def setEntries (number : Nat) (entries : List (Nat × Nat)) : Action Unit :=
  modify fun builder =>
    { builder with
      nodes := builder.nodes.modify number fun node => { node with body := .mapping entries } }

mutual

/-- Puts the mappings under merge keys in front of the other entries.  The first number bounds
the steps, the second the mappings that are being merged into each other. -/
def flatten : Nat → Nat → Nat → Action Unit
  | 0, _, _ => refuse
  | _ + 1, 0, _ => throw (.refused .tooDeep)
  | bound + 1, depth + 1, number => do
      let merged ← mergeFrom bound depth number 0
      if !merged.isEmpty then setEntries number (merged ++ (← entries number))

/-- Takes out the merge keys from a position on and gives what they add. -/
def mergeFrom : Nat → Nat → Nat → Nat → Action (List (Nat × Nat))
  | 0, _, _, _ => refuse
  | bound + 1, depth, number, position => do
      let present ← entries number
      match present[position]? with
      | none => return []
      | some (key, value) =>
          match (← node key).tag with
          | .merge =>
              setEntries number (present.eraseIdx position)
              let added ←
                match (← node value).body with
                | .mapping _ =>
                    flatten bound depth value
                    entries value
                | .sequence items => mergeItems bound depth items
                | .scalar _ => refuse
              return added ++ (← mergeFrom bound depth number position)
          | .value =>
              modify fun builder =>
                { builder with
                  nodes := builder.nodes.modify key fun node => { node with tag := .str } }
              mergeFrom bound depth number (position + 1)
          | _ => mergeFrom bound depth number (position + 1)

/-- What the mappings of a list add: the entries of later ones come first. -/
def mergeItems : Nat → Nat → List Nat → Action (List (Nat × Nat))
  | 0, _, _ => refuse
  | _ + 1, _, [] => return []
  | bound + 1, depth, item :: items => do
      match (← node item).body with
      | .mapping _ =>
          flatten bound depth item
          let added ← entries item
          return (← mergeItems bound depth items) ++ added
      | _ => refuse

end

/-- A key of a mapping that is being filled. -/
structure Key where
  /-- The value. -/
  value : Datum
  /-- The node that it comes from; none for the word for the undefined number, which denotes one
  and the same number wherever it stands. -/
  origin : Option Nat

/-- Two keys are one when they agree.  An undefined number agrees with none, but it is one key
with itself. -/
def Key.isSame (left right : Key) : Bool :=
  match left.value, right.value with
  | .float first, .float second =>
      if first.isUndefined && second.isUndefined then left.origin = right.origin
      else first.agrees second
  | first, second => first.sameKey second

/-- The key that a node has been made into; a collection cannot be a key. -/
def key (number : Nat) : Action Key := do
  match ← built? number with
  | some (.scalar value) =>
      return ⟨value, if (← get).undefinedWords.contains number then none else some number⟩
  | _ => refuse

/-- Sets the value of a key; a key that is there keeps its place and spelling. -/
def insert (entries : List (Key × Nat)) (key : Key) (value : Nat) : List (Key × Nat) :=
  if entries.any fun entry => entry.1.isSame key then
    entries.map fun entry => if entry.1.isSame key then (entry.1, value) else entry
  else entries ++ [(key, value)]

/-- Makes keys and values in turn. -/
def fillEntries : List (Nat × Nat) → List (Key × Nat) → Action (List (Key × Nat))
  | [], filled => return filled
  | (name, value) :: rest, filled => do
      make name
      let key ← key name
      make value
      fillEntries rest (insert filled key value)

/-- A bound on the steps of merging: every step takes out a merge key or goes on to the next
entry. -/
def mergeBound : Action Nat := do
  let sizes := (← get).nodes.map fun node =>
    match node.body with
    | .mapping entries => entries.length + 1
    | .sequence items => items.length + 1
    | .scalar _ => 1
  let total := sizes.foldl (· + ·) 2
  return total * total

/-- Fills a mapping or a set. -/
def mapping (number : Nat) : Action (List (Datum × Nat)) := do
  match (← node number).body with
  | .mapping _ =>
      flatten (← mergeBound) (← get).stack.merged number
      return (← fillEntries (← entries number) []).map fun (key, value) => (key.value, value)
  | _ => refuse

/-- The pairs of a list of mappings with one entry each. -/
def fillPairs : List Nat → Action (List (Nat × Nat))
  | [] => return []
  | item :: items => do
      match (← node item).body with
      | .mapping [(key, value)] =>
          make key
          make value
          return (key, value) :: (← fillPairs items)
      | _ => refuse

/-- The items of a node that must be a sequence. -/
def items (number : Nat) : Action (List Nat) := do
  match (← node number).body with
  | .sequence items => return items
  | _ => refuse

/-- Fills a collection. -/
def fill (number : Nat) : Action Unit := do
  match ← built? number with
  | some (.list _) =>
      let children ← items number
      children.forM make
      record number (.list children)
  | some (.pairs _) => record number (.pairs (← fillPairs (← items number)))
  | some (.set _) => record number (.set ((← mapping number).map Prod.fst))
  | some (.map _) => record number (.map (← mapping number))
  | _ => return

/-- Fills the waiting collections, generation by generation; there are no more generations than
nodes. -/
def fillAll : Nat → Action Unit
  | 0 => return
  | bound + 1 => do
      let generation := (← get).waiting
      if generation.isEmpty then return
      modify fun builder => { builder with waiting := #[] }
      generation.forM fill
      fillAll bound

end Builder

/-- The values of the nodes below the topmost one. -/
def construct (stack : Stack) (nodes : Array Node) (top : Nat) : Except Fault Document := do
  let start : Builder := ⟨stack, nodes, Array.replicate nodes.size none, #[], []⟩
  let action : Builder.Action Unit := do
    Builder.make top
    Builder.fillAll (nodes.size + 1)
  let (_, builder) ← action.run start
  return ⟨builder.built.map fun cell => cell.getD (.scalar .null), some top⟩

/-- The values of a document. -/
def load (stack : Stack) (document : List Char) : Except Fault Document := do
  require (document.all isAllowed)
  let (nodes, top) ← nodes stack (lex document)
  match top with
  | none => return ⟨#[], none⟩
  | some top => construct stack nodes top

end Yaml
end Custody

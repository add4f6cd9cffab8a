import Custody.Library.Handle
import Custody.Library.Script
import Custody.Unsaved

/-!
# The state of the library

The library remembers what it allocated and what was given back: handles, strings
and token buffers.  It lists the calls that matter as effects, and every use of a
handle that was no longer good as a stray.
-/

namespace Custody
namespace Library

/-- What stands behind an owned handle. -/
inductive Content where
  /-- An index with its options. -/
  | index (options : Nat)
  /-- A unit made from a model. -/
  | unit (model : Nat)
  /-- A diagnostic of a unit. -/
  | diagnostic (model : DiagnosticModel)
  /-- A set made from a model. -/
  | set (model : Nat)
  /-- A database made from a model. -/
  | database (model : Nat)
  /-- An indexing session. -/
  | action
  /-- A list of compile commands. -/
  | commands (items : List (Option CommandModel))
  deriving Inhabited

/-- A record of an allocation. -/
structure Resource where
  /-- The handle. -/
  handle : Handle
  /-- The handle it was made from. -/
  parent : Option Handle
  /-- What stands behind it. -/
  content : Content
  /-- Whether it was not yet disposed of. -/
  live : Bool
  /-- Whether no failure has left it unusable. -/
  sound : Bool
  deriving Inhabited

/-- A call that matters, with what was passed. -/
inductive Effect where
  /-- An index is made. -/
  | createIndex (excludeDeclarations displayDiagnostics : Bool)
  /-- Options are set. -/
  | setGlobalOptions (index : Handle) (options : Nat)
  /-- A file is parsed, or with a full argument vector whatever that names. -/
  | parse (full : Bool) (index : Handle) (filename : Option Bytes) (arguments : List Bytes)
      (unsaved : List Slot) (options : Nat)
  /-- A stored unit is loaded. -/
  | loadUnit (index : Handle) (path : Bytes)
  /-- A unit is parsed again. -/
  | reparse (unit : Handle) (unsaved : List Slot) (options : Nat)
  /-- A unit is saved. -/
  | save (unit : Handle) (path : Bytes) (options : Nat)
  /-- A token buffer is given back. -/
  | disposeTokens (unit : Handle) (count : Nat)
  /-- Stored diagnostics are loaded. -/
  | loadDiagnostics (path : Bytes)
  /-- A database is opened. -/
  | openDatabase (path : Bytes)
  /-- All commands are asked for. -/
  | allCommands (database : Handle)
  /-- The commands of a file are asked for. -/
  | commandsFor (database : Handle) (filename : Bytes)
  /-- An indexing session is made. -/
  | createAction (index : Handle)
  /-- A unit is indexed. -/
  | index (action unit : Handle) (options : Nat) (installed : List Station)
  /-- A handle is disposed of, with the number of live handles made from it. -/
  | dispose (handle : Handle) (dependants : Nat)
  deriving DecidableEq, Inhabited

/-- A string that was handed out, with its number. -/
structure Lent where
  /-- The number under which it is given back. -/
  number : Nat
  /-- The string. -/
  loan : Loan
  deriving DecidableEq, Inhabited

/-- A token buffer that was handed out. -/
structure TokenBuffer where
  /-- The number under which it is given back. -/
  number : Nat
  /-- The tokens. -/
  tokens : List NativeToken
  deriving DecidableEq, Inhabited

/-- The state of the library. -/
structure State where
  /-- What it can produce. -/
  script : Script
  /-- How it answers at present. -/
  reply : Reply
  /-- What it allocated, in order. -/
  resources : List Resource
  /-- The strings it handed out, in order. -/
  lent : List Loan
  /-- The numbers of the strings that were given back, in order. -/
  returned : List Nat
  /-- The sizes of the token buffers it handed out, in order. -/
  buffers : List Nat
  /-- The numbers of the token buffers that were given back, in order. -/
  released : List Nat
  /-- The calls that matter, in order. -/
  effects : List Effect
  /-- The stations with a callback in the last indexing call. -/
  installed : List Station
  /-- The handles that were used although they were no longer good, in order. -/
  strays : List Handle
  deriving Inhabited

/-- A call of the library. -/
abbrev Call := StateM State

namespace State

/-- The library before the first call. -/
def start (script : Script) : State :=
  ⟨script, {}, [], [], [], [], [], [], [], []⟩

/-- The record of an owned handle. -/
def resource? (state : State) (handle : Handle) : Option Resource :=
  state.resources.find? fun resource => resource.handle = handle

/-- How many handles of a kind were allocated. -/
def allocated (state : State) (kind : HandleKind) : Nat :=
  state.resources.countP fun resource =>
    match resource.handle with
    | .owned other _ => other = kind
    | _ => false

/-- How many live handles were made from a handle. -/
def dependants (state : State) (handle : Handle) : Nat :=
  state.resources.countP fun resource => resource.live && resource.parent = some handle

/-- The handles that are live. -/
def live (state : State) : List Handle :=
  (state.resources.filter Resource.live).map Resource.handle

/-- A handle is good while it is live and sound, and so is the owned handle behind what it was
made from. -/
def isGood (state : State) : Handle → Bool
  | .note set _ => state.isGood set
  | .notes diagnostic => state.isGood diagnostic
  | .owned kind number =>
      let good (handle : Handle) : Bool :=
        (state.resource? handle).any fun resource => resource.live && resource.sound
      good (.owned kind number) &&
        ((state.resource? (.owned kind number)).bind Resource.parent).all fun parent =>
          good parent.root

/-- Changes the record of an owned handle. -/
def modifyResource (state : State) (handle : Handle) (change : Resource → Resource) : State :=
  { state with
    resources := state.resources.map fun resource =>
      if resource.handle = handle then change resource else resource }

/-- The number of the model behind a unit or set. -/
def modelNumber (state : State) (handle : Handle) : Nat :=
  match (state.resource? handle).map Resource.content with
  | some (.unit model) => model
  | some (.set model) => model
  | some (.database model) => model
  | _ => 0

/-- The model behind a unit. -/
def unitModel (state : State) (handle : Handle) : UnitModel :=
  (state.script.units[state.modelNumber handle]?).getD default

/-- The strings that were handed out with data and not given back. -/
def outstanding (state : State) : List Nat :=
  (List.range state.lent.length).filter fun number =>
    (state.lent[number]?).any Loan.isDue && !state.returned.contains number

end State

namespace Call

/-- Lists a call that matters. -/
def note (effect : Effect) : Call Unit :=
  modify fun state => { state with effects := state.effects ++ [effect] }

/-- Uses a handle; one that is not good is listed as a stray. -/
def use (handle : Handle) : Call Unit :=
  modify fun state =>
    if state.isGood handle then state else { state with strays := state.strays ++ [handle] }

/-- Allocates a handle. -/
def allocate (kind : HandleKind) (parent : Option Handle) (content : Content) : Call Handle := do
  let handle := Handle.owned kind ((← get).allocated kind + 1)
  modify fun state =>
    { state with resources := state.resources ++ [⟨handle, parent, content, true, true⟩] }
  return handle

/-- Disposes of a handle. -/
def dispose (handle : Handle) : Call Unit := do
  note (.dispose handle ((← get).dependants handle))
  modify fun state => state.modifyResource handle fun resource => { resource with live := false }

/-- Hands out a string, whose bytes the library shows unless the reply says otherwise. -/
def lend (data : Option Bytes) : Call Lent := do
  let state ← get
  let loan : Loan := ⟨data, !state.reply.hidden.contains state.lent.length⟩
  modify fun state => { state with lent := state.lent ++ [loan] }
  return ⟨state.lent.length, loan⟩

/-- Takes a string back. -/
def giveBack (lent : Lent) : Call Unit :=
  modify fun state => { state with returned := state.returned ++ [lent.number] }

/-- Reads a string and gives it back if it has data; the text is absent if it is empty. -/
def settle? (lent : Lent) : Call (Option String) := do
  if lent.loan.isDue then giveBack lent
  return lent.loan.read?

/-- Reads a string and gives it back if it has data. -/
def settle (lent : Lent) : Call String := do return (← settle? lent).getD ""

end Call
end Library
end Custody

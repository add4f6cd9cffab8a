import Custody.Text.Basic

/-!
# Handles and native values

The library hands out handles for what it allocates.  An owned handle has a kind
and a number, counted from one for every kind.  Other handles are borrowed: a note
inside a set of diagnostics, or the set of notes below a diagnostic.  Files,
locations, ranges, cursors and tokens are plain values that mention the handle of
the unit or set they belong to.
-/

namespace Custody

/-- What the library allocates. -/
inductive HandleKind where
  /-- An index. -/
  | index
  /-- A compilation unit. -/
  | unit
  /-- A diagnostic of a unit. -/
  | diagnostic
  /-- A loaded set of diagnostics. -/
  | set
  /-- A compilation database. -/
  | database
  /-- An indexing session. -/
  | action
  /-- A list of compile commands. -/
  | commands
  deriving DecidableEq, Inhabited

namespace HandleKind

/-- The word that begins the label of a handle. -/
def word : HandleKind → String
  | .index => "index"
  | .unit => "tu"
  | .diagnostic => "diag"
  | .set => "set"
  | .database => "db"
  | .action => "action"
  | .commands => "cmds"

/-- The number above which the handles of a kind are counted. -/
def base : HandleKind → Nat
  | .index => 0x10000
  | .unit => 0x20000
  | .diagnostic => 0x30000
  | .set => 0x40000
  | .database => 0x50000
  | .action => 0x60000
  | .commands => 0x70000

end HandleKind

/-- A handle of the library. -/
inductive Handle where
  /-- A handle that whoever received it has to give back. -/
  | owned (kind : HandleKind) (number : Nat)
  /-- The diagnostic at a position of a set. -/
  | note (set : Handle) (position : Nat)
  /-- The set of notes below a diagnostic. -/
  | notes (diagnostic : Handle)
  deriving DecidableEq, Inhabited

namespace Handle

/-- The owned handle that a handle is borrowed from, or the handle itself. -/
def root : Handle → Handle
  | .owned kind number => .owned kind number
  | .note set _ => set.root
  | .notes diagnostic => diagnostic.root

@[simp] theorem root_owned (kind : HandleKind) (number : Nat) :
    root (.owned kind number) = .owned kind number := rfl

@[simp] theorem root_note (set : Handle) (position : Nat) :
    root (.note set position) = set.root := rfl

@[simp] theorem root_notes (diagnostic : Handle) : root (.notes diagnostic) = diagnostic.root := rfl

/-- The label of a handle; a borrowed one has none. -/
def label : Handle → String
  | .owned kind number => kind.word ++ String.ofList (Nat.toDigits 10 number)
  | _ => ""

/-- The value of a handle as a number; a borrowed one shares that of its root. -/
def value : Handle → Nat
  | .owned kind number => kind.base + number
  | .note set _ => set.value
  | .notes diagnostic => diagnostic.value

end Handle

/-- A file of a unit or a set, as the library knows it. -/
structure FileHandle where
  /-- The unit or set that opened the file. -/
  origin : Handle
  /-- The model that lists the file. -/
  model : Nat
  /-- The position of the file in the model. -/
  index : Nat
  deriving DecidableEq, Inhabited

/-- A location of the library: a position in the space of a unit or set. -/
structure NativeLocation where
  /-- The unit or set, absent in the null location. -/
  space : Option Handle
  /-- The position in that space. -/
  position : Nat
  deriving DecidableEq, Inhabited

/-- The location of nothing. -/
def NativeLocation.null : NativeLocation := ⟨none, 0⟩

/-- A range of the library: two positions in one space. -/
structure NativeRange where
  /-- The unit or set, absent in the null range. -/
  space : Option Handle
  /-- Where the range begins. -/
  first : Nat
  /-- Where the range ends. -/
  last : Nat
  deriving DecidableEq, Inhabited

namespace NativeRange

/-- The range of nothing. -/
def null : NativeRange := ⟨none, 0, 0⟩

/-- The range between two locations; locations that share no space have none. -/
def between (start finish : NativeLocation) : NativeRange :=
  if start.space.isSome && start.space = finish.space then
    ⟨start.space, start.position, finish.position⟩
  else null

/-- The location where a range begins. -/
def start (range : NativeRange) : NativeLocation := ⟨range.space, range.first⟩

/-- The location where a range ends. -/
def finish (range : NativeRange) : NativeLocation := ⟨range.space, range.last⟩

@[simp] theorem start_null : null.start = .null := rfl

@[simp] theorem finish_null : null.finish = .null := rfl

theorem start_between
    {start finish : NativeLocation}
    (present : start.space.isSome)
    (shared : start.space = finish.space) :
    (between start finish).start = start := by
  simp [between, NativeRange.start, present, ← shared]

theorem finish_between
    {start finish : NativeLocation}
    (present : start.space.isSome)
    (shared : start.space = finish.space) :
    (between start finish).finish = finish := by
  have presentToo : finish.space.isSome := shared ▸ present
  simp [between, NativeRange.finish, shared, presentToo]

end NativeRange

/-- A cursor of the library. -/
structure NativeCursor where
  /-- Its kind at the time it was handed out. -/
  kind : Int
  /-- Its unit. -/
  unit : Handle
  /-- Its number in the unit. -/
  index : Nat
  deriving DecidableEq, Inhabited

/-- The hash of a cursor: its number, counted on from the handle of its unit. -/
def NativeCursor.hash (cursor : NativeCursor) : Nat := cursor.unit.value * 1000 + cursor.index

/-- A token of the library. -/
structure NativeToken where
  /-- Its kind at the time it was handed out. -/
  kind : Int
  /-- Its unit. -/
  unit : Handle
  /-- Its number in the unit. -/
  index : Nat
  deriving DecidableEq, Inhabited

end Custody
